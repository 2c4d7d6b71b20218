import Guidebook.Proofs.FileTree.Temporary
import Guidebook.Proofs.Work.Events

namespace Guidebook

/-- The file that is edited, with what it holds before, if the event is that. -/
def Event.edit? {μ : Type} : Event μ → Option (Text × Option Bytes)
  | .edit path before => some (path, before)
  | _ => none

theorem spoken_edit? : Spoken fun e => e.edit? = none :=
  ⟨fun _ => rfl, fun _ => rfl, fun _ => rfl⟩

namespace Work

open FileTree

variable {suffix content path : Text} {d : Desk} {t : Trouble}

/-- The files once there is a directory for what is edited. -/
def prepared (d : Desk) : FileTree := (d.tree.makePath d.scratch).1

theorem bytes?_prepared (d : Desk) : (prepared d).bytes? = d.tree.bytes? := bytes?_makePath _ _

theorem keeps_prepared (P : Address → Prop) (d : Desk) : Keeps P d.tree (prepared d) :=
  keeps_makePath _ _

/-- Where a new file is made. -/
def scratchPlace (d : Desk) : Text := if d.scratch.isEmpty then ['.'] else d.scratch

theorem scratchFile_cases (suffix content : Text) (d : Desk) :
    (∃ u path,
      (prepared d).makeTemp (scratchPlace d) scratchName suffix false (Utf8.encode content) =
        .ok (u, path) ∧
      scratchFile suffix content d = ⟨[], { d with tree := u }, .ok path⟩) ∨
    ∃ t, scratchFile suffix content d = ⟨[], { d with tree := prepared d }, .error t⟩ := by
  rw [scratchFile]
  simp only [bind, next, scratchFile.scratchDir, change, whole, prepared, scratchPlace]
  rcases d.tree.makePath d.scratch with ⟨u, e | ⟨⟨⟩⟩⟩
  · exact .inr ⟨_, rfl⟩
  · simp only [mapError_ok]
    rcases u.makeTemp (if d.scratch.isEmpty then ['.'] else d.scratch) scratchName suffix false
      (Utf8.encode content) with e | ⟨v, path⟩
    · exact .inr ⟨_, rfl⟩
    · exact .inl ⟨v, path, rfl, rfl⟩

/-- A new file at an address, and nothing else that is new but directories. -/
structure Scratched (d u : Desk) (suffix content path : Text) (a : Address) : Prop where
  desk : u = { d with tree := u.tree }
  here : u.tree.here = d.tree.here
  leads : u.tree.Leads path a
  node : u.tree.node? a = some (.file false (Utf8.encode content))
  bytes : u.tree.bytes? = Function.update d.tree.bytes? a (some (Utf8.encode content))
  fresh : d.tree.bytes? a = none
  name : ∃ f k, a = f ++ [scratchName ++ Text.ofNat k ++ suffix]

theorem scratched (hs : Path.Single suffix) (h : (scratchFile suffix content d).result = .ok path) :
    ∃ a, Scratched d (scratchFile suffix content d).desk suffix content path a := by
  rcases scratchFile_cases suffix content d with ⟨u, p, hm, he⟩ | ⟨t, he⟩
  · rw [he] at h ⊢
    cases h
    obtain ⟨f, k, hl, hn, rfl⟩ := makeTemp_eq_ok (by decide) hs (by decide) hm
    set a := f ++ [scratchName ++ Text.ofNat k ++ suffix] with ha
    have hput : Keeps (· = a) (prepared d) ((prepared d).put a (.file false (Utf8.encode content))) :=
      .put hl.ne_nil (by simp [hn])
    refine ⟨a, rfl, (keeps_prepared (fun _ => True) d).here,
      hl.keep (hput.mono fun _ _ => trivial), ?_, ?_, ?_, f, k, rfl⟩
    · rw [node?_put hl.ne_nil, if_pos rfl]
    · rw [bytes?_put_file hl.ne_nil, bytes?_prepared]
    · rw [← bytes?_prepared, bytes?_of_none hn]
  · rw [he] at h
    cases h

/-- Where no new file can be made, all files stay as they are. -/
theorem bytes?_scratchFile_error (h : (scratchFile suffix content d).result = .error t) :
    (scratchFile suffix content d).desk.tree.bytes? = d.tree.bytes? := by
  rcases scratchFile_cases suffix content d with ⟨u, p, -, he⟩ | ⟨t, he⟩
  · rw [he] at h
    cases h
  · rw [he]
    exact bytes?_prepared d

theorem events_scratchFile (suffix content : Text) (d : Desk) :
    (scratchFile suffix content d).events = [] := by
  rcases scratchFile_cases suffix content d with ⟨u, p, -, he⟩ | ⟨t, he⟩ <;> rw [he]

theorem editText_of_error {r : Runner} (h : (scratchFile suffix content d).result = .error t) :
    editText r suffix content d = ⟨[], (scratchFile suffix content d).desk, .error t⟩ := by
  rcases scratchFile_cases suffix content d with ⟨u, p, -, he⟩ | ⟨e, he⟩
  · rw [he] at h
    cases h
  · rw [he] at h
    cases h
    show next _ _ d = _
    simp only [next, he]

/-- What is edited is a new file with the text. -/
theorem editText_events {P : Said → Prop} (hP : Spoken P) (r : Runner) (hs : Path.Single suffix)
    (h : (scratchFile suffix content d).result = .ok path) :
    ∃ es, (editText r suffix content d).events = .edit path (some (Utf8.encode content)) :: es ∧
      ∀ e ∈ es, P e := by
  obtain ⟨a, hmade⟩ := scratched hs h
  have hread : ((scratchFile suffix content d).desk.tree.read path).toOption =
      some (Utf8.encode content) := by
    rw [toOption_read hmade.leads, hmade.bytes, Function.update_self]
  obtain ⟨es, he, hes⟩ := edit_events hP r path (scratchFile suffix content d).desk
  rw [hread] at he
  rw [editText, events_bind, events_scratchFile, h, List.nil_append]
  dsimp only [thenRemove]
  rw [events_bind, he]
  refine ⟨_, rfl, fun e hm => ?_⟩
  rcases List.mem_append.mp hm with hm | hm
  · exact hes e hm
  · split at hm
    · split at hm
      · rw [events_bind] at hm
        split at hm <;> cases hm
      · cases hm
    · cases hm

section Edited

variable {r : Runner}

/-- From one tree to the next, nothing becomes different but what a path leads to. -/
structure EditsOnly (path : Text) (t u : FileTree) : Prop where
  here : u.here = t.here
  others : ∀ a, ¬ t.Leads path a → u.node? a = t.node? a

theorem EditsOnly.keeps {t u : FileTree} {a : Address} {b : Bytes} {x : Bool}
    (h : EditsOnly path t u) (ha : t.Leads path a) (hn : t.node? a = some (.file x b)) :
    Keeps (· = a) t u := by
  refine ⟨h.here, fun c n hc hp => ?_⟩
  rw [h.others c, hc]
  intro hl
  obtain rfl := ha.unique rfl hl
  rcases hp with hp | rfl
  · exact hp rfl
  · rw [hn] at hc
    cases hc

theorem desk_editText (h : (scratchFile suffix content d).result = .ok path) :
    let d' := (scratchFile suffix content d).desk
    let t := (editorReply r path d').tree
    (editText r suffix content d).desk =
      { (edit r path d').desk with tree := (t.removeFile path).toOption.getD t } := by
  intro d' t
  have hused : ((edit r path >>= fun saved => if saved then look (·.readText path) >>=
      fun t => done (some t) else done none) d').desk = (edit r path d').desk := by
    rw [desk_bind]
    split
    · split
      · rw [desk_bind]
        split <;> rfl
      · rfl
    · rfl
  have htree : (edit r path d').desk.tree = t := tree_edit r path d'
  rw [editText, desk_bind, h]
  dsimp only [thenRemove]
  rw [hused, htree]

theorem stash_edit (r : Runner) (path : Text) (d : Desk) : (edit r path d).desk.stash = d.stash := by
  have he : (editor r path d).desk.stash = d.stash := rfl
  rw [edit, desk_bind]
  split
  · split
    · exact he
    · exact he
  · exact he

theorem stash_editText (r : Runner) (hs : Path.Single suffix) (content : Text) (d : Desk) :
    (editText r suffix content d).desk.stash = d.stash := by
  rcases hr : (scratchFile suffix content d).result with t | path
  · rcases scratchFile_cases suffix content d with ⟨u, p, -, he⟩ | ⟨t, he⟩
    · rw [editText_of_error hr, he]
    · rw [editText_of_error hr, he]
  · obtain ⟨a, hmade⟩ := scratched hs hr
    rw [desk_editText hr]
    dsimp only
    rw [stash_edit, hmade.desk]

/-- What is left of having a text edited is what was there before, if only the file was edited that
is made for it. -/
theorem editText_leaves (hs : Path.Single suffix)
    (h : (scratchFile suffix content d).result = .ok path)
    (he : EditsOnly path (scratchFile suffix content d).desk.tree
      (editorReply r path (scratchFile suffix content d).desk).tree) :
    (editText r suffix content d).desk.tree.bytes? = d.tree.bytes? ∧
      (editText r suffix content d).desk.tree.here = d.tree.here ∧
      ∃ a, (scratchFile suffix content d).desk.tree.Leads path a ∧ d.tree.bytes? a = none := by
  obtain ⟨a, hmade⟩ := scratched hs h
  set d' := (scratchFile suffix content d).desk with hd'
  have hkeep : Keeps (· = a) d'.tree (editorReply r path d').tree := he.keeps hmade.leads hmade.node
  have hleads := hmade.leads.keep (hkeep.mono fun _ _ => trivial)
  rw [desk_editText h]
  refine ⟨?_, ?_, a, hmade.leads, hmade.fresh⟩
  · dsimp only
    rw [bytes?_removeFile hleads]
    funext b
    by_cases hb : b = a
    · rw [hb, Function.update_self, hmade.fresh]
    · have hother : ¬ d'.tree.Leads path b := fun hl => hb (hmade.leads.unique rfl hl).symm
      rw [Function.update_of_ne hb, bytes?, he.others b hother, ← bytes?, hmade.bytes,
        Function.update_of_ne hb]
  · dsimp only
    rw [here_removeFile, he.here, hmade.here]

end Edited

end Work

end Guidebook
