import Guidebook.Proofs.Interview.Records

namespace Guidebook

namespace Text

/-- A line that is told as it is: there is something in it, and there are no blanks around it. -/
def Tidy (t : Text) : Prop := t ≠ [] ∧ trim t = t ∧ '\n' ∉ t

/-- A text that can be told line by line: none of its lines ends the text before it is over, and
none loses its end. -/
structure Tellable (t : Text) : Prop where
  first (h : t ≠ []) : ∀ l ∈ (rows t).head?, allBlank l = false
  inner : ∀ l ∈ rows t, l ≠ ['.'] ∧ l.getLast? ≠ some '\r'

instance (t : Text) : Decidable t.Tidy := inferInstanceAs (Decidable (_ ∧ _ ∧ _))

theorem Tidy.clean {t : Text} (h : t.Tidy) : Clean t := by
  obtain ⟨-, ht, hn⟩ := h
  refine ⟨hn, fun hr => ?_⟩
  obtain ⟨u, rfl⟩ := List.getLast?_eq_some_iff.mp hr
  have hlast := List.rdropWhile_eq_self_iff.mp (trimEnd_of_trim ht) (by simp)
  simp [isBlank] at hlast

end Text

structure Suggestion.Tellable (s : Suggestion) : Prop where
  note : ∀ n ∈ s.note, n.Tidy
  body : s.body.Tellable

structure StepDraft.Tellable (d : StepDraft) : Prop where
  title : d.title.Tidy
  description : d.description.Tellable
  suggestions : ∀ s ∈ d.suggestions, s.Tellable

namespace Interview

/-- The lines that tell a text: an empty one if there is none, or its own lines and a dot. -/
def textLines (t : Text) : List Text := if t = [] then [[]] else Text.rows t ++ [['.']]

def kindLine : Kind → Text
  | .cmd => ['c']
  | .snippet => ['s']

def suggestionLines (s : Suggestion) : List Text :=
  kindLine s.kind :: s.note.getD [] :: textLines s.body

def keepLine (kept : Bool) : Text := if kept then ['y'] else ['n']

/-- The lines that tell a step, in the order of the questions. -/
def stepLines (d : StepDraft) (kept : Bool) : List Text :=
  d.title :: (textLines d.description ++
    (d.suggestions.flatMap suggestionLines ++ [[]] ++ [keepLine kept]))

/-- The lines that tell some steps, of which some are kept and some are not. An empty title is the
end. -/
def script (ds : List (StepDraft × Bool)) : List Text :=
  ds.flatMap (fun p => stepLines p.1 p.2) ++ [[]]

section Clean

open Text (Clean)

theorem clean_nil : Clean [] := ⟨by simp, by simp⟩

theorem clean_textLines {t : Text} (h : t.Tellable) : ∀ l ∈ textLines t, Clean l := by
  intro l hl
  rw [textLines] at hl
  split at hl
  · obtain rfl := List.mem_singleton.mp hl
    exact clean_nil
  · rcases List.mem_append.mp hl with hl | hl
    · exact ⟨Text.newline_notMem_rows t l hl, (h.inner l hl).2⟩
    · obtain rfl := List.mem_singleton.mp hl
      exact ⟨by decide, by decide⟩

theorem clean_suggestionLines {s : Suggestion} (h : s.Tellable) :
    ∀ l ∈ suggestionLines s, Clean l := by
  rw [suggestionLines, List.forall_mem_cons, List.forall_mem_cons]
  refine ⟨?_, ?_, clean_textLines h.body⟩
  · cases s.kind <;> exact ⟨by decide, by decide⟩
  · cases hn : s.note with
    | none => exact clean_nil
    | some n => exact (h.note n hn).clean

theorem clean_stepLines {d : StepDraft} (h : d.Tellable) (kept : Bool) :
    ∀ l ∈ stepLines d kept, Clean l := by
  have hkeep : Clean (keepLine kept) := by cases kept <;> exact ⟨by decide, by decide⟩
  have hsuggestions : ∀ l ∈ d.suggestions.flatMap suggestionLines, Clean l := by
    intro l hl
    obtain ⟨s, hs, hl⟩ := List.mem_flatMap.mp hl
    exact clean_suggestionLines (h.suggestions s hs) l hl
  rw [stepLines, List.forall_mem_cons, List.forall_mem_append, List.forall_mem_append,
    List.forall_mem_append]
  refine ⟨h.title.clean, clean_textLines h.description, ⟨hsuggestions, ?_⟩, ?_⟩
  · simpa using clean_nil
  · simpa using hkeep

theorem clean_script {ds : List (StepDraft × Bool)} (h : ∀ p ∈ ds, p.1.Tellable) :
    ∀ l ∈ script ds, Clean l := by
  rw [script, List.forall_mem_append]
  refine ⟨fun l hl => ?_, by simpa using clean_nil⟩
  obtain ⟨p, hp, hl⟩ := List.mem_flatMap.mp hl
  exact clean_stepLines (h p hp) p.2 l hl

end Clean

theorem endsText_eq_false {ls : List Text} {l : Text} (hd : l ≠ ['.'])
    (hb : ls = [] → Text.allBlank l = false) : endsText ls l = false := by
  cases ls with
  | nil => simp [endsText, hd, hb rfl]
  | cons m ms => simp [endsText, hd]

/-- Lines that do not end a text are part of it, up to the dot. -/
theorem typedText_dot {ls ms : List Text} (hd : ∀ l ∈ ms, l ≠ ['.'])
    (hb : ls = [] → ∀ l ∈ ms.head?, Text.allBlank l = false) :
    TypedText ls ((ms ++ [['.']]).map some) (ls ++ ms) := by
  induction ms generalizing ls with
  | nil =>
    rw [List.append_nil]
    exact .ended rfl
  | cons m ms ih =>
    obtain ⟨hm, hms⟩ := List.forall_mem_cons.mp hd
    have hrest : TypedText (ls ++ [m]) ((ms ++ [['.']]).map some) (ls ++ [m] ++ ms) :=
      ih hms (by simp)
    rw [List.append_assoc, List.singleton_append] at hrest
    exact .line (endsText_eq_false hm fun h => hb h m rfl) hrest

theorem typedText_textLines {t : Text} (h : t.Tellable) :
    ∃ body, TypedText [] ((textLines t).map some) body ∧ Text.joinLines body = t := by
  by_cases ht : t = []
  · subst ht
    exact ⟨[], .ended rfl, rfl⟩
  · refine ⟨Text.rows t, ?_, Text.joinLines_rows t⟩
    rw [textLines, if_neg ht]
    exact typedText_dot (fun l hl => (h.inner l hl).1) fun _ => h.first ht

theorem noteOf_note {s : Suggestion} (h : s.Tellable) : noteOf (some (s.note.getD [])) = s.note := by
  cases hn : s.note with
  | none => rfl
  | some n =>
    obtain ⟨hne, ht, -⟩ := h.note n hn
    simp [noteOf, ht, hne]

theorem typedSuggestions_lines {xs : List Suggestion} (h : ∀ s ∈ xs, s.Tellable) :
    TypedSuggestions ((xs.flatMap suggestionLines ++ [[]]).map some) xs := by
  induction xs with
  | nil => exact .stop fun l hl => by rw [← Option.some.inj hl]; rfl
  | cons s xs ih =>
    obtain ⟨hs, hxs⟩ := List.forall_mem_cons.mp h
    obtain ⟨body, hb, hjoin⟩ := typedText_textLines hs.body
    have hk : kindOf? (Text.lower (Text.trim (kindLine s.kind))) = some s.kind := by
      cases s.kind <;> rfl
    have hx : TypedSuggestions
        (some (kindLine s.kind) :: some (s.note.getD []) :: ((textLines s.body).map some ++ _))
        (⟨s.kind, noteOf (some (s.note.getD [])), Text.joinLines body⟩ :: xs) :=
      .suggestion hk hb (ih hxs)
    rw [noteOf_note hs, hjoin] at hx
    simpa [suggestionLines] using hx

/-- The script of some steps is a way to type these steps. -/
theorem typed_script {ds : List (StepDraft × Bool)} (h : ∀ p ∈ ds, p.1.Tellable) :
    Typed ((script ds).map some) ds := by
  induction ds with
  | nil => exact .done fun l hl => by rw [← Option.some.inj hl]; rfl
  | cons p ds ih =>
    obtain ⟨d, kept⟩ := p
    obtain ⟨hd, hds⟩ := List.forall_mem_cons.mp h
    obtain ⟨hne, ht, -⟩ := hd.title
    obtain ⟨body, hb, hjoin⟩ := typedText_textLines hd.description
    have hc := typedSuggestions_lines hd.suggestions
    have hk : keeps (some (keepLine kept)) = kept := by cases kept <;> decide
    have hs := Typed.step (l := d.title) (a := some (keepLine kept)) (by rwa [ht]) hb hc (ih hds)
    rw [ht, hjoin, hk] at hs
    simpa [script, stepLines] using hs

/-- An interview over lines that lead to its end hears all of them and nothing else. -/
theorem run_of_ends {r : Result} {i : Interview} {ls : List Text} {cs : List Bytes}
    (hc : cs.map Plain.hear = ls.map .line) (h : Ends r i (ls.map some)) :
    (dialogue.run Plain.source cs i).2 = (r, []) := by
  induction ls generalizing i cs with
  | nil => cases h
  | cons l ls ih =>
    obtain ⟨c, cs, rfl, hl, hcs⟩ := List.map_eq_cons_iff.mp hc
    have hn : (dialogue.exchange Plain.source (c :: cs) i).next = (i.answer (some l)).2 :=
      congrArg (fun x => (Interview.hear x i).2) hl
    cases ha : (i.answer (some l)).2 with
    | inr q =>
      obtain ⟨rfl, hnil⟩ := (ends_last ha).mp h
      obtain rfl : cs = [] := by
        rw [List.map_eq_nil_iff.mp hnil] at hcs
        exact List.map_eq_nil_iff.mp hcs
      rw [Dialogue.run_last dialogue (hn.trans ha), Dialogue.rest_plain]
      rfl
    | inl j =>
      have hj := (ends_next ha).mp h
      rw [Dialogue.run_more dialogue (hn.trans ha), Dialogue.rest_plain]
      exact ih hcs hj

/-- The bytes of the script of some steps. -/
def told (ds : List (StepDraft × Bool)) : Bytes := Utf8.encode (Text.unlines (script ds))

/-- Whatever steps there are, an interview over their script gives the records of those that are
kept, every text as it is, and leaves nothing of the script. -/
theorem conduct_script (ds : List (StepDraft × Bool)) (hd : ∀ p ∈ ds, p.1.Tellable)
    (hk : keptSteps ds ≠ []) :
    (conduct Plain.source (Plain.chunks (told ds))).2 =
      (.ok (((keptSteps ds).map StepDraft.toSection).flatMap Section.records), []) := by
  have hends : Ends (outcome [] 0 ds) start ((script ds).map some) :=
    ends_title.mpr ⟨ds, typed_script hd, rfl⟩
  have hrun := run_of_ends (Plain.hear_unlines (clean_script hd)) hends
  have hrecords : ((keptSteps ds).map StepDraft.toSection).flatMap Section.records =
      (keptSteps ds).flatMap StepDraft.records := by
    rw [List.flatMap_map]
    exact congrArg (List.flatMap · _) (funext fun d => (d.records_eq).symm)
  have hout : outcome [] 0 ds = .ok ((keptSteps ds).flatMap StepDraft.records) := by
    simp [outcome, finish, hk]
  rw [hrecords, ← hout]
  exact hrun

/-- A step that is not kept. -/
def hasty : StepDraft := ⟨"y".toList, "n\n\ns".toList, []⟩

/-- A step whose texts look like answers to other questions. -/
def tricky : StepDraft := ⟨"c d".toList, " a\n\n. \n".toList,
  [⟨.cmd, some "n".toList, "..\n".toList⟩, ⟨.snippet, none, []⟩]⟩

theorem hasty_tellable : hasty.Tellable := ⟨by decide, ⟨by decide, by decide⟩, by simp [hasty]⟩

theorem tricky_tellable : tricky.Tellable := by
  refine ⟨by decide, ⟨by decide, by decide⟩, ?_⟩
  rw [tricky, List.forall_mem_cons, List.forall_mem_singleton]
  exact ⟨⟨by decide, ⟨by decide, by decide⟩⟩, ⟨by simp, ⟨by simp, by decide⟩⟩⟩

theorem conduct_script_tricky :
    (∀ p ∈ [(hasty, false), (tricky, true)], p.1.Tellable) ∧
    keptSteps [(hasty, false), (tricky, true)] ≠ [] ∧
    (conduct Plain.source (Plain.chunks (told [(hasty, false), (tricky, true)]))).2 =
      (.ok [.step "c d".toList, .suggestion ⟨.cmd, some "n".toList, "..\n".toList⟩,
        .suggestion ⟨.snippet, none, []⟩, .description " a\n\n. \n".toList, .endOfStep], []) := by
  have hd : ∀ p ∈ [(hasty, false), (tricky, true)], p.1.Tellable := by
    simp [hasty_tellable, tricky_tellable]
  have hk : keptSteps [(hasty, false), (tricky, true)] ≠ [] := by simp [keptSteps]
  exact ⟨hd, hk, conduct_script _ hd hk⟩

end Interview

end Guidebook
