import Guidebook.Buffer
import Guidebook.Proofs.Buffer.Header
import Guidebook.Proofs.Guide.Authored
import Guidebook.Proofs.Path.Names
import Mathlib.Data.List.TakeWhile

namespace Guidebook

namespace Text

variable {t : Text}

theorem unlines_rows (t : Text) : unlines (rows t) = t ++ ['\n'] := by
  induction t with
  | nil => rfl
  | cons c cs ih =>
    by_cases hc : c = '\n'
    · subst c
      rw [rows_cons_newline, unlines, List.flatMap_cons, ← unlines, ih]
      rfl
    · obtain ⟨l, ls, hl⟩ := List.exists_cons_of_ne_nil (rows_ne_nil cs)
      rw [hl] at ih
      rw [rows_cons hc, hl]
      exact congrArg (c :: ·) ih

theorem lines_newline (h : '\r' ∉ t) : lines (t ++ ['\n']) = rows t := by
  rw [← unlines_rows]
  refine lines_unlines fun l hl => ⟨newline_notMem_rows t l hl, fun hr => ?_⟩
  exact h (of_mem_pieces hl '\r' (List.mem_of_mem_getLast? hr)).1

theorem mem_lines_of_mem_rows (h : '\r' ∉ t) {l : Text} (hl : l ∈ rows t) (hne : l ≠ []) :
    l ∈ lines t := by
  obtain ⟨a, k, rfl, ha, hk⟩ := exists_last_line t
  have hclean : Clean k := by
    refine ⟨hk, fun hr => h ?_⟩
    exact List.mem_append_right a (List.mem_of_mem_getLast? hr)
  rw [← lines_newline h, List.append_assoc, lines_append ha, lines_line hclean] at hl
  rw [lines_append ha]
  rcases List.mem_append.mp hl with hl | hl
  · exact List.mem_append_left _ hl
  · obtain rfl : l = k := List.mem_singleton.mp hl
    rw [lines_single hne hk]
    exact List.mem_append_right _ hl

end Text

namespace Buffer

section Marked

variable {t c : Text} {ls body : List Text}

/-- In a text there is a line with the start marker and, after the first such line, one with the end
marker, and `c` is what stands between it and the first of those. -/
def Marked (t c : Text) : Prop :=
  ∃ before first body last after,
    Text.lines t = before ++ first :: body ++ last :: after ∧
    (∀ l ∈ before, Text.trimEnd l ≠ startMarker) ∧ Text.trimEnd first = startMarker ∧
    (∀ l ∈ body, Text.trimEnd l ≠ endMarker) ∧ Text.trimEnd last = endMarker ∧
    c = Text.joinLines body

theorem untilEnd?_eq_some : untilEnd? ls = some body ↔
    ∃ last after, ls = body ++ last :: after ∧ (∀ l ∈ body, Text.trimEnd l ≠ endMarker) ∧
      Text.trimEnd last = endMarker := by
  induction ls generalizing body with
  | nil => simp [untilEnd?]
  | cons l ls ih =>
    rw [untilEnd?]
    split
    · next hl =>
      constructor
      · rintro ⟨⟩
        exact ⟨l, ls, rfl, by simp, hl⟩
      · rintro ⟨last, after, hls, hbody, -⟩
        cases body with
        | nil => rfl
        | cons b body =>
          obtain ⟨rfl, -⟩ := List.cons.inj hls
          exact absurd hl (hbody l List.mem_cons_self)
    · next hl =>
      rw [Option.map_eq_some_iff]
      constructor
      · rintro ⟨rest, hrest, rfl⟩
        obtain ⟨last, after, rfl, hbody, hlast⟩ := ih.mp hrest
        exact ⟨last, after, rfl, by simpa using ⟨hl, hbody⟩, hlast⟩
      · rintro ⟨last, after, hls, hbody, hlast⟩
        cases body with
        | nil =>
          obtain ⟨rfl, -⟩ := List.cons.inj hls
          exact absurd hlast hl
        | cons b body =>
          obtain ⟨rfl, rfl⟩ := List.cons.inj hls
          exact ⟨body, ih.mpr ⟨last, after, rfl, fun m hm => hbody m (.tail _ hm), hlast⟩, rfl⟩

theorem dropWhile_eq_cons {α : Type} {p : α → Bool} {xs ys : List α} {y : α} :
    xs.dropWhile p = y :: ys ↔ ∃ before, xs = before ++ y :: ys ∧ (∀ x ∈ before, p x) ∧ ¬ p y := by
  constructor
  · intro h
    have hy := List.head?_dropWhile_not p xs
    rw [h] at hy
    refine ⟨xs.takeWhile p, ?_, fun x hx => List.mem_takeWhile_imp hx, by simpa using hy⟩
    rw [← h, List.takeWhile_append_dropWhile]
  · rintro ⟨before, rfl, hb, hy⟩
    rw [List.dropWhile_append_of_pos hb, List.dropWhile_cons_of_neg hy]

theorem snippet?_eq_some : snippet? t = some c ↔ Marked t c := by
  rw [snippet?]
  constructor
  · intro h
    split at h
    · cases h
    · next first ls hd =>
      obtain ⟨before, he, hb, hf⟩ := dropWhile_eq_cons.mp hd
      obtain ⟨body, hbody, rfl⟩ := Option.map_eq_some_iff.mp h
      obtain ⟨last, after, rfl, hin, hlast⟩ := untilEnd?_eq_some.mp hbody
      exact ⟨before, first, body, last, after, by rw [he, List.append_assoc, List.cons_append],
        by simpa using hb, by simpa using hf, hin, hlast, rfl⟩
  · rintro ⟨before, first, body, last, after, he, hb, hf, hin, hlast, rfl⟩
    have hd : (Text.lines t).dropWhile (fun l => Text.trimEnd l ≠ startMarker) =
        first :: (body ++ last :: after) :=
      dropWhile_eq_cons.mpr ⟨before, by rw [he, List.append_assoc, List.cons_append],
        by simpa using hb, by simpa using hf⟩
    rw [hd]
    exact Option.map_eq_some_iff.mpr ⟨body, untilEnd?_eq_some.mpr ⟨last, after, rfl, hin, hlast⟩, rfl⟩

end Marked

variable {number : Nat} {step : Step} {x : Suggestion} {l : Text} {ls : List Text}

/-- Behind the mark of a comment, the line reads like the one above the snippet. -/
def Opens (l : Text) : Prop := Text.trimEnd (marked l) = startMarker

/-- Behind the mark of a comment, the line reads like the one below the snippet. -/
def Closes (l : Text) : Prop := Text.trimEnd (marked l) = endMarker

instance : DecidablePred Opens := fun _ => inferInstanceAs (Decidable (Text.trimEnd _ = _))

instance : DecidablePred Closes := fun _ => inferInstanceAs (Decidable (Text.trimEnd _ = _))

def bodyLines (b : Text) : List Text := if b = [] then [] else Text.rows b

theorem joinLines_bodyLines (b : Text) : Text.joinLines (bodyLines b) = b := by
  rw [bodyLines]
  split
  · next h => rw [h]; rfl
  · exact Text.joinLines_rows b

theorem joinLines_startMarker (b : Text) : Text.joinLines (startMarker :: bodyLines b) =
    startMarker ++ if b.isEmpty then [] else '\n' :: b := by
  by_cases hb : b = []
  · rw [hb]
    rfl
  · have hrows : Text.joinLines (Text.rows b) = b := Text.joinLines_rows b
    have hne : b.isEmpty = false := by simpa using hb
    rw [bodyLines, if_neg hb, Text.joinLines_cons _ (Text.rows_ne_nil b), hrows, hne]
    rfl

theorem lines_ofSnippet (h : '\r' ∉ x.body) :
    Text.lines (ofSnippet number step x) =
      Text.lines (header number step x) ++ startMarker :: (bodyLines x.body ++ [endMarker]) := by
  have hstart : Text.Clean startMarker := ⟨by decide, by decide⟩
  have hend : Text.lines (endMarker ++ ['\n']) = [endMarker] := by decide
  let b := if x.body.isEmpty then [] else x.body ++ ['\n']
  have hbody : Text.lines (b ++ (endMarker ++ ['\n'])) = bodyLines x.body ++ [endMarker] := by
    by_cases hb : x.body = []
    · simp only [b, bodyLines, hb, List.isEmpty_nil, if_true, List.nil_append, hend]
    · have hlast : Text.Ended (x.body ++ ['\n']) := .inr List.getLast?_concat
      have hne : x.body.isEmpty = false := by simpa using hb
      simp only [b, bodyLines, hb, hne, Bool.false_eq_true, if_false, Text.lines_append hlast,
        Text.lines_newline h, hend]
  have hsnippet : ofSnippet number step x =
      header number step x ++ (startMarker ++ '\n' :: (b ++ (endMarker ++ ['\n']))) := by
    simp only [ofSnippet, b, List.append_assoc, List.cons_append]
  rw [hsnippet, Text.lines_append (ended_header number step x), Text.lines_line hstart, hbody]

theorem closes_bodyLines {b : Text} (hr : '\r' ∉ b)
    (he : ∀ l ∈ Text.lines b, Text.trimEnd l ≠ endMarker) :
    ∀ l ∈ bodyLines b, Text.trimEnd l ≠ endMarker := by
  intro l hl
  rw [bodyLines] at hl
  split at hl
  · cases hl
  · rcases eq_or_ne l [] with rfl | hne
    · decide
    · exact he l (Text.mem_lines_of_mem_rows hr hl hne)

def aboveTexts (step : Step) (x : Suggestion) : List Text :=
  (step.description.map Text.lines).getD [] ++ (x.note.map Text.lines).getD []

theorem not_opens_step (t : Text) : ¬Opens ("Step ".toList ++ t) := by
  intro h
  have hp : startMarker <+: marked ("Step ".toList ++ t) := h ▸ Text.trimEnd_prefix _
  obtain ⟨u, hu⟩ := hp
  cases hu

/-- Of the lines of a header, only those of the description and of the note can be taken for the
marker. -/
theorem mem_aboveTexts (hl : l ∈ headerTexts number step x) (ho : Opens l) :
    l ∈ aboveTexts step x := by
  rw [headerTexts, List.mem_cons, List.mem_append] at hl
  rw [aboveTexts, List.mem_append]
  rcases hl with rfl | hl | hl
  · rw [List.append_assoc, List.append_assoc] at ho
    exact absurd ho (not_opens_step _)
  · exact .inl hl
  · cases hn : x.note with
    | none =>
      rw [hn] at hl
      cases hl
    | some n =>
      rw [hn] at hl
      rcases List.mem_cons.mp hl with rfl | hl
      · exact absurd ho (by decide)
      · exact .inr hl

theorem forall_trimEnd_ne {ks : List Text} {c : Text}
    (h : ls.map Text.trimEnd = ks.map fun k => Text.trimEnd (marked k)) :
    (∀ l ∈ ls, Text.trimEnd l ≠ c) ↔ ∀ k ∈ ks, Text.trimEnd (marked k) ≠ c := by
  rw [← List.forall_mem_map (P := (· ≠ c)), h, List.forall_mem_map]

theorem exists_header_split {a b : List Text} (htitle : '\n' ∉ step.title)
    (h : headerTexts number step x = a ++ l :: b) :
    ∃ before m behind, Text.lines (header number step x) = before ++ m :: behind ∧
      (before.map Text.trimEnd = a.map fun k => Text.trimEnd (marked k)) ∧
      Text.trimEnd m = Text.trimEnd (marked l) ∧
      behind.map Text.trimEnd = b.map fun k => Text.trimEnd (marked k) := by
  have hlines : (Text.lines (header number step x)).map Text.trimEnd = _ := lines_header htitle
  rw [h, List.map_append, List.map_cons, List.map_eq_append_iff] at hlines
  obtain ⟨before, rest, hheader, hbefore, hrest⟩ := hlines
  obtain ⟨m, behind, rfl, hm, hbehind⟩ := List.map_eq_cons_iff.mp hrest
  exact ⟨before, m, behind, hheader, hbefore, hm, hbehind⟩

section

variable (htitle : '\n' ∉ step.title)

include htitle

theorem snippet?_of_not_opens (hr : '\r' ∉ x.body)
    (he : ∀ l ∈ Text.lines x.body, Text.trimEnd l ≠ endMarker)
    (h : ∀ l ∈ aboveTexts step x, ¬Opens l) :
    snippet? (ofSnippet number step x) = some x.body := by
  have hheader : ∀ l ∈ Text.lines (header number step x), Text.trimEnd l ≠ startMarker :=
    (forall_trimEnd_ne (lines_header htitle)).mpr fun l hl ho => h l (mem_aboveTexts hl ho) ho
  rw [snippet?_eq_some]
  refine ⟨Text.lines (header number step x), startMarker, bodyLines x.body, endMarker, [], ?_,
    hheader, by decide, closes_bodyLines hr he, by decide, (joinLines_bodyLines _).symm⟩
  rw [lines_ofSnippet hr, List.append_assoc, List.cons_append]

/-- A line above that is taken for the marker brings in the rest of the header, and the marker. -/
theorem snippet?_of_opens {a b : List Text} (hr : '\r' ∉ x.body)
    (he : ∀ l ∈ Text.lines x.body, Text.trimEnd l ≠ endMarker)
    (h : headerTexts number step x = a ++ l :: b) (ha : ∀ k ∈ a, ¬Opens k) (hl : Opens l)
    (hb : ∀ k ∈ b, ¬Closes k) :
    ∃ u, snippet? (ofSnippet number step x) =
      some (u ++ startMarker ++ if x.body.isEmpty then [] else '\n' :: x.body) := by
  obtain ⟨before, m, behind, hheader, hbefore, hm, hbehind⟩ := exists_header_split htitle h
  obtain ⟨u, hu, -⟩ := Text.joinLines_append behind
  refine ⟨u, snippet?_eq_some.mpr ⟨before, m, behind ++ startMarker :: bodyLines x.body, endMarker, [],
    ?_, (forall_trimEnd_ne hbefore).mpr ha, hm.trans hl, ?_, by decide, ?_⟩⟩
  · rw [lines_ofSnippet hr, hheader]
    simp only [List.append_assoc, List.cons_append]
  · rw [List.forall_mem_append, List.forall_mem_cons]
    exact ⟨(forall_trimEnd_ne hbehind).mpr hb, by decide, closes_bodyLines hr he⟩
  · rw [hu _ (by simp), joinLines_startMarker, List.append_assoc]

/-- If another one is taken for the marker below, the body does not count at all. -/
theorem snippet?_of_closes {a b : List Text} (h : headerTexts number step x = a ++ l :: b)
    (ha : ∀ k ∈ a, ¬Opens k) (hl : Opens l) (hb : ∃ k ∈ b, Closes k) :
    ∃ c, ∀ body, snippet? (ofSnippet number step { x with body := body }) = some c := by
  obtain ⟨before, m, behind, hheader, hbefore, hm, hbehind⟩ := exists_header_split htitle h
  have hclose : ¬∀ l ∈ behind, Text.trimEnd l ≠ endMarker := by
    rw [forall_trimEnd_ne hbehind]
    exact fun hall => hb.elim fun k hk => hall k hk.1 hk.2
  have hdrop : behind.dropWhile (fun l => Text.trimEnd l ≠ endMarker) ≠ [] := fun hnil =>
    hclose (by simpa using List.dropWhile_eq_nil_iff.mp hnil)
  obtain ⟨last, after, hd⟩ := List.exists_cons_of_ne_nil hdrop
  obtain ⟨kept, rfl, hkept, hlast⟩ := dropWhile_eq_cons.mp hd
  -- Both markers are in the header, so whatever follows it is not looked at.
  refine ⟨Text.joinLines kept, fun body => snippet?_eq_some.mpr ?_⟩
  let rest := startMarker ++ '\n' :: ((if body.isEmpty then [] else body ++ ['\n']) ++
    (endMarker ++ ['\n']))
  have hsnippet : ofSnippet number step { x with body := body } = header number step x ++ rest := by
    simp only [ofSnippet, header, rest, List.append_assoc, List.cons_append]
  refine ⟨before, m, kept, last, after ++ Text.lines rest, ?_, (forall_trimEnd_ne hbefore).mpr ha,
    hm.trans hl, by simpa using hkept, by simpa using hlast, rfl⟩
  rw [hsnippet, Text.lines_append (ended_header number step x), hheader]
  simp only [List.append_assoc, List.cons_append]

end

/-- A snippet that is saved as it was when somebody began to edit it is its body, unless a line of
the description or of the note reads like the marker above it. Then the first such line counts as the
marker. With it the rest of the header gets into what is kept, down to the true marker and the body,
or down to a line that reads like the marker below, whatever the body is. -/
theorem ofSnippet_kept {g : Guide} (hg : g.Authored) {i : Nat} (hs : g.step? i = some step)
    (hr : '\r' ∉ x.body) (he : ∀ l ∈ Text.lines x.body, Text.trimEnd l ≠ endMarker) :
    ((∀ l ∈ aboveTexts step x, ¬Opens l) → snippet? (ofSnippet i step x) = some x.body) ∧
    ∀ a l b, headerTexts i step x = a ++ l :: b → (∀ k ∈ a, ¬Opens k) → Opens l →
      ((∀ k ∈ b, ¬Closes k) → ∃ u, snippet? (ofSnippet i step x) =
        some (u ++ startMarker ++ if x.body.isEmpty then [] else '\n' :: x.body)) ∧
      ((∃ k ∈ b, Closes k) →
        ∃ c, ∀ body, snippet? (ofSnippet i step { x with body := body }) = some c) := by
  have htitle : '\n' ∉ step.title := hg.newline_notMem_title hs
  exact ⟨snippet?_of_not_opens htitle hr he, fun a l b h ha hl =>
    ⟨snippet?_of_opens htitle hr he h ha hl, snippet?_of_closes htitle h ha hl⟩⟩

def quoting : Text :=
  "step: A\ndesc: # ----- snippet start (edit below) -----\nsuggestions:\n  - kind: snippet\n".toList ++
    "    note: ----- snippet end -----\n    content: |+\n".toList ++
    "     # ----- snippet start (edit below) -----\n      #\n\n".toList

def quotingStep : Step := ⟨"A".toList, some ("# ".toList ++ startMarker.drop 2), .todo, 0, 1⟩

def quotingSnippet : Suggestion :=
  ⟨.snippet, some (endMarker.drop 2), startMarker ++ "\n #\n".toList⟩

theorem ofSnippet_kept_quoting :
    Document.compile quoting = .ok ⟨[quotingStep], [quotingSnippet]⟩ ∧
    snippet? (ofSnippet 1 quotingStep quotingSnippet) = some quotingSnippet.body := by
  have hcompile : Document.compile quoting = .ok ⟨[quotingStep], [quotingSnippet]⟩ := by
    decide +kernel
  refine ⟨hcompile, (ofSnippet_kept (.compiled hcompile) (i := 1) rfl ?_ ?_).1 ?_⟩ <;> decide

def mimicking : Text :=
  "step: A\ndesc: ----- snippet start (edit below) -----\nsuggestions:\n  - kind: snippet\n".toList ++
    "    content: X\n".toList

/-- The description is kept with the snippet. -/
theorem ofSnippet_mimicked :
    let step : Step := ⟨"A".toList, some (startMarker.drop 2), .todo, 0, 1⟩
    let x : Suggestion := ⟨.snippet, none, "X".toList⟩
    Document.compile mimicking = .ok ⟨[step], [x]⟩ ∧
    '\r' ∉ x.body ∧ (∀ l ∈ Text.lines x.body, Text.trimEnd l ≠ endMarker) ∧
    snippet? (ofSnippet 1 step x) = some (startMarker ++ "\nX".toList) ∧
    snippet? (ofSnippet 1 step x) ≠ some x.body := by
  intro step x
  refine ⟨?_, ?_, ?_, ?_, ?_⟩ <;> decide +kernel

end Buffer

end Guidebook
