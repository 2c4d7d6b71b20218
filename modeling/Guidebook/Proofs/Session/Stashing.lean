import Guidebook.Proofs.Buffer.Snippet
import Guidebook.Proofs.Session.Picking
import Guidebook.Proofs.Session.Recovery
import Guidebook.Proofs.Stash.Contents

namespace Guidebook

namespace FileTree

/-- A path that ends with a name leads to something of this name. -/
theorem exists_leads_join {t : FileTree} {q n : Text} {a : Address} (hs : Path.Single n) (hn : n ≠ [])
    (h : t.Leads (Path.join q n) a) : ∃ f, a = f ++ [n] := by
  obtain ⟨f, k, hl, -, rfl⟩ := h
  obtain ⟨-, -, -, -, front, hnames, -⟩ := locate_eq_ok.mp hl
  rw [Path.names_join q hs hn] at hnames
  obtain ⟨-, hk⟩ := List.append_inj' hnames rfl
  exact ⟨f, by rw [hk]⟩

end FileTree

namespace Session

open FileTree

variable {x : Setting} {s : Session} {h : Heard} {number : Nat} {step : Step} {y : Suggestion}
  {d : Desk} {c : Text}

/-- What is left of having the text of a snippet edited. -/
abbrev edited (x : Setting) (number : Nat) (step : Step) (y : Suggestion) (d : Desk) :
    Worked (Option Text) :=
  Work.editText x.runner ".txt".toList (Buffer.ofSnippet number step y) d

theorem pick_snippet (hk : y.kind = .snippet) :
    pick x number step y =
      Work.editText x.runner ".txt".toList (Buffer.ofSnippet number step y) >>= use x number y := by
  rw [pick_eq, suffix, buffer, hk]

/-- A snippet that has been saved between its markers replaces the stash. -/
theorem tree_pick_saved {t : Text} (hk : y.kind = .snippet)
    (ht : (edited x number step y d).result = .ok (some t)) (hc : Buffer.snippet? t = some c) :
    (pick x number step y d).desk.tree =
      (d.stash.replace c (edited x number step y d).desk.tree).1 := by
  have hstash : (edited x number step y d).desk.stash = d.stash :=
    Work.stash_editText x.runner (by decide) _ d
  rw [pick_snippet hk, Work.desk_bind, ht]
  simp only [use, hk, hc, Work.desk_bind, Work.onStash, Work.change, hstash]
  split <;> rfl

/-- Whatever else comes of the editing, the stash is not touched. -/
theorem tree_pick_unsaved (hk : y.kind = .snippet)
    (hn : ∀ t, (edited x number step y d).result = .ok (some t) → Buffer.snippet? t = none) :
    (pick x number step y d).desk.tree = (edited x number step y d).desk.tree := by
  rw [pick_snippet hk, Work.desk_bind]
  split
  · next o ho =>
    cases o with
    | none =>
      simp only [use, hk]
      rfl
    | some t =>
      simp only [use, hk, hn t ho]
      rfl
  · rfl

/-- Somebody has a snippet edited and brings it to an end: the editor ends well, what is saved is a
text in which `c` stands between the markers, and then the stash can be written. -/
def Stashes (x : Setting) (number : Nat) (step : Step) (y : Suggestion) (d : Desk) (c : Text) : Prop :=
  ∃ t, Work.Saved x.runner ".txt".toList (Buffer.ofSnippet number step y) d t ∧ Buffer.Marked t c ∧
    d.stash.Writable (edited x number step y d).desk.tree

/-- The stash holds a snippet that was brought to an end. Where none was, nothing is different from
how it was once the editing was over. -/
theorem bytes?_pick_snippet (x : Setting) (number : Nat) (step : Step) (d : Desk)
    (hk : y.kind = .snippet) :
    let u := (pick x number step y d).desk.tree
    let e := (edited x number step y d).desk.tree
    u.here = e.here ∧
    (∀ c, Stashes x number step y d c →
      ∃ a, u.Leads d.stash.path a ∧
        u.bytes? = Function.update e.bytes? a (some (Utf8.encode c))) ∧
    ((∀ c, ¬ Stashes x number step y d c) → u.bytes? = e.bytes?) := by
  intro u e
  by_cases hs : ∃ t c, (edited x number step y d).result = .ok (some t) ∧ Buffer.snippet? t = some c
  · obtain ⟨t, c, ht, hc⟩ := hs
    have hu : u = (d.stash.replace c e).1 := tree_pick_saved hk ht hc
    have hsaved := (Work.editText_eq_some ..).mp ht
    have hmarked := Buffer.snippet?_eq_some.mp hc
    rw [hu]
    refine ⟨Stash.here_replace _ _ _, ?_, fun hn => ?_⟩
    · rintro c' ⟨t', hsaved', hmarked', hw⟩
      rw [(Work.editText_eq_some ..).mpr hsaved', Except.ok.injEq, Option.some.injEq] at ht
      rw [ht, ← Buffer.snippet?_eq_some, hc, Option.some.injEq] at hmarked'
      obtain ⟨a, hl, -, hb⟩ := Stash.replace_of_writable hw c
      exact ⟨a, hl, by rw [hb, hmarked']⟩
    · exact (Stash.replace_of_not_writable (fun hw => hn c ⟨t, hsaved, hmarked, hw⟩) c).2
  · have hnone : ∀ t, (edited x number step y d).result = .ok (some t) → Buffer.snippet? t = none :=
      fun t ht => Option.eq_none_iff_forall_ne_some.mpr fun c hc => hs ⟨t, c, ht, hc⟩
    have hu : u = e := tree_pick_unsaved hk hnone
    rw [hu]
    refine ⟨rfl, ?_, fun _ => rfl⟩
    rintro c ⟨t, hsaved, hmarked, -⟩
    have ht := (Work.editText_eq_some ..).mpr hsaved
    rw [← Buffer.snippet?_eq_some, hnone t ht] at hmarked
    cases hmarked

theorem stashFile_ne (k : Nat) (suffix : Text) :
    Desk.stashFile ≠ Work.scratchName ++ Text.ofNat k ++ suffix := by
  have hstash : Desk.stashFile = 's' :: "nippet.txt".toList := by decide
  have hscratch : Work.scratchName = 'w' :: "alkbook-".toList := by decide
  rw [hstash, hscratch]
  intro h
  exact absurd (List.cons.inj h).1 (by decide)

section Pick

variable {state : Text} (hk : y.kind = .snippet)
  (hstash : d.stash = ⟨Path.join state Desk.stashFile⟩)
  (hedit : ∀ path, (Work.scratchFile ".txt".toList (Buffer.ofSnippet number step y) d).result =
      .ok path →
    let d' := (Work.scratchFile ".txt".toList (Buffer.ofSnippet number step y) d).desk
    Work.EditsOnly path d'.tree (Work.editorReply x.runner path d').tree)

include hedit

theorem bytes?_edited : (edited x number step y d).desk.tree.bytes? = d.tree.bytes? := by
  rcases hr : (Work.scratchFile ".txt".toList (Buffer.ofSnippet number step y) d).result with t | path
  · rw [edited, Work.editText_of_error hr]
    exact Work.bytes?_scratchFile_error hr
  · exact (Work.editText_leaves (by decide) hr (hedit path hr)).1

include hk hstash

/-- The file that the snippet was edited in is no more. -/
theorem not_read_scratch {path : Text}
    (hp : (Work.scratchFile ".txt".toList (Buffer.ofSnippet number step y) d).result = .ok path)
    (b : Bytes) : (pick x number step y d).desk.tree.read path ≠ .ok b := by
  obtain ⟨hhere, hstashed, hkept⟩ := bytes?_pick_snippet x number step d hk
  obtain ⟨hbytes, hhere', -⟩ := Work.editText_leaves (by decide) hp (hedit path hp)
  obtain ⟨a, hmade⟩ := Work.scratched (by decide) hp
  intro hread
  obtain ⟨a', v, hl, hn⟩ := read_eq_ok.mp hread
  have hsame : a = a' := hmade.leads.unique ((hhere.trans hhere').trans hmade.here.symm) hl
  have hb := bytes?_eq_some.mpr ⟨v, hn⟩
  rw [← hsame] at hb
  -- A stash that was replaced has another name, so nothing is found where the new file was made.
  by_cases hs : ∃ c, Stashes x number step y d c
  · obtain ⟨c, hs⟩ := hs
    obtain ⟨k, hleads, hk⟩ := hstashed c hs
    rw [hstash] at hleads
    obtain ⟨f, rfl⟩ := exists_leads_join (n := Desk.stashFile) (by decide) (by decide) hleads
    obtain ⟨g, n, rfl⟩ := hmade.name
    rw [hk, Function.update_of_ne, hbytes, hmade.fresh] at hb
    · cases hb
    · intro he
      have hname := List.append_inj_right' he rfl
      exact stashFile_ne _ _ (List.singleton_inj.mp hname).symm
  · rw [hkept fun c hc => hs ⟨c, hc⟩, hbytes, hmade.fresh] at hb
    cases hb

end Pick

/-- Somebody picks a snippet in a session. -/
structure PicksSnippet (x : Setting) (s : Session) (h : Heard) (step : Step) (y : Suggestion) :
    Prop where
  command : ∃ i, s.command? x h = some (.pick (i + 1)) ∧ s.here[i]? = some y
  step : s.guide.step? s.step = some step
  kind : y.kind = .snippet

theorem desk_picksSnippet (hp : PicksSnippet x s h step y) :
    (left (hear x h s).2).desk = (pick x s.step step y s.desk).desk := by
  obtain ⟨⟨i, hc, hy⟩, hs, -⟩ := hp
  obtain ⟨hp, l, rfl, ho⟩ := command?_eq_some hc
  rw [hear_command hp ho, obey_pick hs hy, work_staying]
  rfl

section Paste

variable {file : Text} {mode : PasteMode}

/-- What comes of pasting: a file changes only if there is something to paste and this succeeds, and
then it is the file that the stash is pasted into. -/
structure Pasted (d : Desk) (file : Text) (mode : PasteMode) (r : Worked Unit) : Prop where
  nothing (hn : ∀ c, ¬ d.stash.Holds d.tree c) : r.result ≠ .ok () ∧ r.desk.tree = d.tree
  failed (hr : r.result ≠ .ok ()) : r.desk.tree = d.tree
  done (hr : r.result = .ok ()) : ∃ c, d.stash.Holds d.tree c ∧
    r.desk.tree.read file = .ok (Stash.pasted mode (d.tree.read file).toOption c) ∧
    (∀ a, ¬ d.tree.Leads file a → r.desk.tree.bytes? a = d.tree.bytes? a) ∧
    ((∀ a, d.tree.Leads d.stash.path a → ¬ d.tree.Leads file a) →
      r.desk.tree.read d.stash.path = d.tree.read d.stash.path)

theorem paste_cases (file : Text) (mode : PasteMode) (d : Desk) :
    (∃ u, d.stash.pasteInto file mode d.tree = .ok u ∧ (Work.paste file mode d).result = .ok () ∧
      (Work.paste file mode d).desk = { d with tree := u }) ∨
    ∃ t, (Work.paste file mode d).result = .error t ∧ (Work.paste file mode d).desk = d := by
  have hpaste : Work.paste file mode d = Work.next (Work.paste.pasteStash file mode) (fun _ =>
      Work.say (.notice ("Snippet pasted into ".toList ++ file ++ " (".toList ++ mode.label ++
        ").".toList))) d := rfl
  simp only [hpaste, Work.next, Work.paste.pasteStash, Work.whole]
  cases d.stash.pasteInto file mode d.tree with
  | ok u => exact .inl ⟨u, rfl, rfl, rfl⟩
  | error t => exact .inr ⟨t, rfl, rfl⟩

theorem pasted (d : Desk) (file : Text) (mode : PasteMode) :
    Pasted d file mode (Work.paste file mode d) := by
  rcases paste_cases file mode d with ⟨u, hu, hr, hd⟩ | ⟨t, hr, hd⟩
  · obtain ⟨c, a, hholds, hl, hk, hb⟩ := Stash.pasteInto_eq_ok hu
    refine ⟨fun hn => absurd hholds (hn c), fun hn => absurd hr hn, fun _ => ⟨c, hholds, ?_⟩⟩
    rw [hd]
    refine ⟨?_, fun b hb' => ?_, fun hother => ?_⟩
    · rw [read_iff_of_leads (hl.keep (hk.mono fun _ _ => trivial)), hb, Function.update_self,
        toOption_read hl]
    · rw [hb, Function.update_of_ne]
      rintro rfl
      exact hb' hl
    · obtain ⟨b, hread⟩ := hholds.read
      obtain ⟨a', v, hl', -⟩ := read_eq_ok.mp hread
      rw [hread]
      refine read_keep hk hread hl' ?_
      rintro rfl
      exact hother _ hl' hl
  · refine ⟨fun _ => ⟨by simp [hr], by rw [hd]⟩, fun _ => by rw [hd], fun hok => ?_⟩
    rw [hr] at hok
    cases hok

/-- Somebody has the stash pasted into a file, at the prompt of a step or where it is asked how the
stash gets into the file. -/
inductive Pastes (x : Setting) (s : Session) (h : Heard) (file : Text) : PasteMode → Prop where
  | command (mode : PasteMode) (hc : s.command? x h = some (.stash (.paste file mode))) :
    Pastes x s h file mode
  | append (l : Text) (hl : h = .line l) (hp : s.place = .placing file)
    (ha : Text.lower (Text.trim l) ∈ ["a".toList, "append".toList]) : Pastes x s h file .append
  | overwrite (l : Text) (hl : h = .line l) (hp : s.place = .placing file)
    (ha : Text.lower (Text.trim l) ∈ ["o".toList, "overwrite".toList]) : Pastes x s h file .overwrite

/-- The files are as pasting leaves them, and where it was an answer and has succeeded, the file is
edited then. -/
def Leaves (x : Setting) (s : Session) (h : Heard) (file : Text) (r : Worked Unit) : Prop :=
  (left (hear x h s).2).desk.tree = r.desk.tree ∨
    s.place = .placing file ∧ r.result = .ok () ∧
      (left (hear x h s).2).desk.tree = (Work.editorReply x.runner file r.desk).tree

theorem tree_editFile (x : Setting) (file : Text) (d : Desk) :
    (staying (editFile x file) d).desk.tree = (Work.editorReply x.runner file d).tree := by
  rw [desk_staying, editFile, Work.desk_bind]
  split <;> exact Work.tree_edit ..

theorem leaves_placing {l : Text} (hp : s.place = .placing file)
    (hw : placeWork x file l = Work.paste file mode >>= fun _ => staying (editFile x file)) :
    Leaves x s (.line l) file (Work.paste file mode s.desk) := by
  rw [Leaves, hear_placing hp, desk_work, hw, Work.desk_bind]
  cases hr : (Work.paste file mode s.desk).result with
  | error t => exact .inl rfl
  | ok u => exact .inr ⟨hp, rfl, tree_editFile ..⟩

theorem leaves_of_pastes (hp : Pastes x s h file mode) :
    Leaves x s h file (Work.paste file mode s.desk) := by
  cases hp with
  | command mode hc =>
    obtain ⟨hp, l, rfl, ho⟩ := command?_eq_some hc
    have hobey : s.obey x (.stash (.paste file mode)) = s.work (staying (Work.paste file mode)) := rfl
    refine .inl ?_
    rw [hear_command hp ho, hobey, work_staying]
    rfl
  | append l hl hplace ha =>
    subst hl
    refine leaves_placing hplace ?_
    rw [placeWork]
    dsimp only
    rw [if_pos (by simpa using ha)]
    rfl
  | overwrite l hl hplace ha =>
    subst hl
    have hne : ¬ (Text.lower (Text.trim l) = "a".toList ∨ Text.lower (Text.trim l) = "append".toList) := by
      rcases List.mem_cons.mp ha with ha | ha
      · rw [ha]
        decide
      · rw [List.mem_singleton.mp ha]
        decide
    refine leaves_placing hplace ?_
    rw [placeWork]
    dsimp only
    rw [if_neg hne, if_pos (by simpa using ha)]
    rfl

end Paste

/-- What comes of a snippet that is picked: the stash holds it if it was brought to an end, and
nothing else changes. -/
structure Outcome (x : Setting) (s : Session) (h : Heard) (step : Step) (y : Suggestion) : Prop where
  stashed (c : Text) (hc : Stashes x s.step step y s.desk c) :
    let u := (left (hear x h s).2).desk.tree
    u.read s.desk.stash.path = .ok (Utf8.encode c) ∧
      ∀ a, ¬ u.Leads s.desk.stash.path a → u.bytes? a = s.desk.tree.bytes? a
  kept (hn : ∀ c, ¬ Stashes x s.step step y s.desk c) :
    (left (hear x h s).2).desk.tree.bytes? = s.desk.tree.bytes?
  removed (path : Text) (b : Bytes)
    (hp : (Work.scratchFile ".txt".toList (Buffer.ofSnippet s.step step y) s.desk).result =
      .ok path) :
    (left (hear x h s).2).desk.tree.read path ≠ .ok b

section Saver

/-- A step with a snippet, and a session at it whose editor saves another one. -/
def envStep : Step := ⟨"Env".toList, none, .todo, 0, 1⟩

def envSnippet : Suggestion := ⟨.snippet, none, ['A']⟩

def saver : Setting where
  look := ⟨false, Pager.ofSize 14⟩
  runner := .ofScripts [] [{ Script.idle with
    write := some (Utf8.encode (Buffer.startMarker ++ "\nB\n".toList ++ Buffer.endMarker)) }]
  home := none
  now := 0

def atEnv (t : FileTree) : Session :=
  ⟨⟨[envStep], [envSnippet]⟩, 1, 1, .command, Desk.openAt "/state".toList "/tmp".toList 100 t⟩

theorem editsOnly_write {t u : FileTree} {p : Text} {b : Bytes} (h : t.write p b = .ok u) :
    Work.EditsOnly p t u := by
  obtain ⟨a, ha, -, rfl⟩ := write_eq_ok.mp h
  obtain ⟨v, hv⟩ := setContent_eq_put t a b
  rw [hv]
  refine ⟨rfl, fun e he => ?_⟩
  rw [node?_put ha.ne_nil, if_neg]
  rintro rfl
  exact he ha

theorem editsOnly_saver (path : Text) (i : Bytes) (t : FileTree) :
    Work.EditsOnly path t (saver.runner.editor 0 path i t).tree := by
  let b := Utf8.encode (Buffer.startMarker ++ "\nB\n".toList ++ Buffer.endMarker)
  show Work.EditsOnly path t (Script.edit { Script.idle with write := some b } path t).tree
  simp only [Script.edit, Script.editFile, Script.idle, Option.toList, List.map_cons, List.map_nil,
    List.append_nil, Bool.false_eq_true, if_false, Script.inTurn]
  cases hw : t.write path b with
  | ok u => exact editsOnly_write hw
  | error e => exact ⟨rfl, fun _ _ => rfl⟩

end Saver

end Session

end Guidebook
