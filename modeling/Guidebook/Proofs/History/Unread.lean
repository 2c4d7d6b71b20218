import Guidebook.Proofs.History.Deeds

namespace Guidebook.History

open FileTree

variable {s : Held} {ds : List Deed} {t u : FileTree} {path q : Text} {f a b : Address} {k : Text}
  {c : Bytes} {slash : Bool}

/-- A file without a log can be moved out of the way: no directory is where it would go, and the
longer name is not too long. -/
structure Movable (t : FileTree) (path : Text) : Prop where
  free : t.isDirAt (backup path) = false
  size : Utf8.size (backup path) ≤ pathLimit
  name : Utf8.size ((Path.fileName? path).getD [] ++ suffix) ≤ nameLimit

/-- One of the saves is done without a failure. -/
def Saved (s : Held) (ds : List Deed) : Prop :=
  ∃ as bs, ds = as ++ .save :: bs ∧ ((performAll s as).1.save (performAll s as).2).2 = .ok ()

theorem Saved.cons {d : Deed} (h : Saved (perform s d) ds) : Saved s (d :: ds) := by
  obtain ⟨as, bs, rfl, hs⟩ := h
  exact ⟨d :: as, bs, rfl, hs⟩

/-- Where there is a way to the backup in any tree, there is one, and it ends beside the file. -/
theorem leads_backup (ha : t.locate path = .ok ⟨f, some k, slash⟩) (hu : u.here = t.here)
    (hb : u.Leads (backup path) b) : t.Leads (backup path) b ∧ b = f ++ [k ++ suffix] := by
  obtain ⟨g, l, hl, hs, rfl⟩ := hb
  have hm := locate_backup ha (locate_eq_ok.mp hl).1.2
  obtain ⟨rfl, rfl⟩ := locate_unique hu hm hl
  exact ⟨⟨_, _, hm, hs, rfl⟩, rfl⟩

theorem movable_iff (ha : t.locate path = .ok ⟨f, some k, slash⟩) :
    Movable t path ↔
      t.Leads (backup path) (f ++ [k ++ suffix]) ∧ t.node? (f ++ [k ++ suffix]) ≠ some .dir := by
  have hk : Path.fileName? path = some k := by
    obtain ⟨-, -, h₁, h₂, before, hn, -⟩ := locate_eq_ok.mp ha
    exact Path.fileName?_eq hn h₁ h₂
  constructor
  · rintro ⟨hfree, hsize, hname⟩
    rw [hk, Option.getD_some] at hname
    have hb : t.Leads (backup path) (f ++ [k ++ suffix]) := ⟨f, _, locate_backup ha hsize, hname, rfl⟩
    refine ⟨hb, fun hd => ?_⟩
    rw [(isDirAt_of_leads hb).mpr hd] at hfree
    cases hfree
  · rintro ⟨hb, hd⟩
    refine ⟨Bool.eq_false_iff.mpr fun h => hd ((isDirAt_of_leads hb).mp h), ?_, ?_⟩
    · obtain ⟨g, l, hl, -, -⟩ := hb
      exact (locate_eq_ok.mp hl).1.2
    · obtain ⟨g, l, hl, hs, he⟩ := hb
      obtain ⟨-, he⟩ := List.append_inj' he rfl
      rw [hk, Option.getD_some, List.singleton_inj.mp he]
      exact hs

/-- All but files stays while a history is recorded and saved. -/
theorem keeps_performAll (hn : ∀ n, .reopen n ∉ ds) :
    Keeps (fun _ => True) s.2 (performAll s ds).2 := by
  induction ds generalizing s with
  | nil => exact .refl s.2
  | cons d ds ih =>
    refine Keeps.trans (u := (perform s d).2) ?_ (ih fun n h => hn n (List.mem_cons_of_mem d h))
    cases d with
    | reopen n => exact absurd List.mem_cons_self (hn n)
    | record e => exact .refl s.2
    | save =>
      rcases s.1.save_cases s.2 with ⟨-, hk⟩ | ⟨-, -, a, -, hk⟩
      · exact hk _
      · exact hk.mono fun _ _ => trivial

theorem read_performAll (hn : ∀ n, .reopen n ∉ ds) (ht : t.here = s.2.here)
    (ha : t.Leads s.1.path a) (hb : s.2.Leads q b) (hab : b ≠ a) (hr : s.2.read q = .ok c) :
    (performAll s ds).2.read q = .ok c := by
  induction ds generalizing s with
  | nil => exact hr
  | cons d ds ih =>
    have hds : ∀ n, .reopen n ∉ ds := fun n h => hn n (List.mem_cons_of_mem d h)
    cases d with
    | reopen n => exact absurd List.mem_cons_self (hn n)
    | record e => exact ih (s := perform s (.record e)) hds ht ha hb hr
    | save =>
      have hk : Keeps (· = a) s.2 (s.1.save s.2).1 := by
        rcases s.1.save_cases s.2 with ⟨-, hk⟩ | ⟨-, -, a', ha', hk⟩
        · exact hk _
        · exact hk.mono fun _ he => he.trans (ha.unique (hk.here.trans ht.symm) ha').symm
      exact ih (s := perform s .save) hds (ht.trans hk.here.symm) ha
        (hb.keep (hk.mono fun _ _ => trivial)) (read_keep hk hr hb hab)

theorem read_save_failed {h : History} (ho : (h.save t).2 ≠ .ok ()) (hr : t.read q = .ok c) :
    (h.save t).1.read q = .ok c := by
  rcases h.save_cases t with ⟨-, hk⟩ | ⟨hs, -⟩
  · obtain ⟨a, x, ha, -⟩ := read_eq_ok.mp hr
    exact read_keep (hk fun _ => False) hr ha id
  · exact absurd hs ho

/-- As long as no save is done, the file itself stays. -/
theorem read_of_not_saved (hn : ∀ n, .reopen n ∉ ds) (hs : ¬ Saved s ds)
    (hr : s.2.read q = .ok c) : (performAll s ds).2.read q = .ok c := by
  induction ds generalizing s with
  | nil => exact hr
  | cons d ds ih =>
    refine ih (s := perform s d) (fun n h => hn n (List.mem_cons_of_mem d h)) (mt Saved.cons hs) ?_
    cases d with
    | reopen n => exact absurd List.mem_cons_self (hn n)
    | record e => exact hr
    | save => exact read_save_failed (fun ho => hs ⟨[], ds, rfl, ho⟩) hr

/-- There is a log in the file of a history. -/
def HasLog (s : Held) : Prop := ∃ c l, s.2.read s.1.path = .ok c ∧ decode? c = some l

theorem hasLog_save (hl : s.1.log.Fits) (ho : (s.1.save s.2).2 = .ok ()) :
    HasLog (perform s .save) := ⟨_, _, read_save ho, decode?_encode hl⟩

theorem hasLog_performAll (hl : s.1.log.Fits) (hf : ∀ e ∈ recorded ds, e.Fits) (hs : HasLog s) :
    HasLog (performAll s ds) := by
  induction ds generalizing s with
  | nil => exact hs
  | cons d ds ih =>
    obtain ⟨hd, hds⟩ := fits_perform hl hf
    refine ih (s := perform s d) hd hds ?_
    cases d with
    | reopen n =>
      obtain ⟨c, l, hr, hc⟩ := hs
      have ho := openAt_of_load? ((load?_of_read hr).trans hc) n
      exact ⟨c, l, by rwa [perform, path_openAt, ho], hc⟩
    | record e => exact hs
    | save =>
      by_cases ho : (s.1.save s.2).2 = .ok ()
      · exact hasLog_save hl ho
      · obtain ⟨c, l, hr, hc⟩ := hs
        exact ⟨c, l, read_save_failed ho hr, hc⟩

theorem hasLog_of_saved (hl : s.1.log.Fits) (hf : ∀ e ∈ recorded ds, e.Fits) (hs : Saved s ds) :
    HasLog (performAll s ds) := by
  obtain ⟨as, bs, rfl, ho⟩ := hs
  have hf' : (∀ e ∈ recorded as, e.Fits) ∧ ∀ e ∈ recorded bs, e.Fits := by
    simpa [recorded, or_imp, forall_and, Deed.entry?] using hf
  have has := fits_performAll hl hf'.1
  rw [performAll_append, performAll_cons]
  exact hasLog_performAll (s := perform _ .save) has hf'.2 (hasLog_save has ho)

/-- A file without a log is moved out of the way if it can be. -/
theorem openAt_movable (ha : t.locate path = .ok ⟨f, some k, false⟩) (hc : t.read path = .ok c)
    (hl : load? t path = none) (hm : Movable t path) (max : Nat) :
    (openAt path max t).2 = t.move (f ++ [k]) (f ++ [k ++ suffix]) := by
  obtain ⟨hb, hd⟩ := (movable_iff ha).mp hm
  obtain ⟨_, x, hp, hn⟩ := read_eq_ok.mp hc
  rw [openAt_of_none hl, (rename_file hp hn).mpr ⟨_, hb, hd, rfl⟩]
  obtain ⟨g, l, ha', -, rfl⟩ := hp
  obtain ⟨rfl, rfl⟩ := locate_unique rfl ha ha'
  exact if_neg backup_ne.symm

theorem read_move (hr : t.Rooted t.here) (ha : t.locate path = .ok ⟨f, some k, false⟩)
    (hc : t.read path = .ok c) (hm : Movable t path) :
    (t.move (f ++ [k]) (f ++ [k ++ suffix])).read (backup path) = .ok c := by
  obtain ⟨hb, hd⟩ := (movable_iff ha).mp hm
  obtain ⟨_, x, ⟨g, l, ha', -, rfl⟩, hn⟩ := read_eq_ok.mp hc
  obtain ⟨rfl, rfl⟩ := locate_unique rfl ha ha'
  refine read_eq_ok.mpr ⟨_, x, hb.move hr (by simp [hn]) hd, ?_⟩
  rw [node?_move_new (by simp) (by simp) apart_backup, hn]

/-- One that cannot be moved stays where it is. -/
theorem openAt_stuck (hc : t.read path = .ok c) (hl : load? t path = none) (hm : ¬ Movable t path)
    (max : Nat) : (openAt path max t).2 = t := by
  obtain ⟨_, x, ⟨f, k, ha, hs, rfl⟩, hn⟩ := read_eq_ok.mp hc
  rw [openAt_of_none hl]
  cases hrename : t.rename path (backup path) with
  | error e => rfl
  | ok u =>
    obtain ⟨b, hb, hd, -⟩ := (rename_file ⟨f, k, ha, hs, rfl⟩ hn).mp hrename
    obtain ⟨hb', rfl⟩ := leads_backup ha rfl hb
    exact absurd ((movable_iff ha).mpr ⟨hb', hd⟩) hm

/-- If it cannot be moved, nothing can be read where it would have gone. -/
theorem read_backup_stuck (ha : t.locate path = .ok ⟨f, some k, slash⟩) (hm : ¬ Movable t path)
    (hk : Keeps (fun _ => True) t u) (c : Bytes) : u.read (backup path) ≠ .ok c := by
  intro hc
  obtain ⟨b, x, hb, hn⟩ := read_eq_ok.mp hc
  obtain ⟨hb', rfl⟩ := leads_backup ha hk.here hb
  have hd : t.node? (f ++ [k ++ suffix]) = some .dir := by
    by_contra hd
    exact hm ((movable_iff ha).mpr ⟨hb', hd⟩)
  rw [hk.dir _ hd] at hn
  cases hn

/-- Opening a history changes nothing unless its file holds something else. What it holds then stays
on disk, beside the file, whatever is recorded and saved. But if it could not be moved there, it
stays only as long as no save is done. -/
theorem openAt_unread (path : Text) (max : Nat) (t : FileTree) :
    (t.existsAt path = false ∨ (load? t path).isSome → (openAt path max t).2 = t) ∧
    ∀ c ds, t.Rooted t.here → t.read path = .ok c → load? t path = none →
      (∀ n, .reopen n ∉ ds) → (∀ e ∈ recorded ds, e.Fits) →
      let u := (performAll (openAt path max t) ds).2
      (Movable t path → u.read (backup path) = .ok c) ∧
      (¬ Movable t path →
        (u.read path = .ok c ∨ u.read (backup path) = .ok c ↔ ¬ Saved (openAt path max t) ds)) := by
  refine ⟨fun h => ?_, fun c ds hroot hc hl hn hf => ?_⟩
  · have hl : (load? t path).isSome := h.elim (fun he => by simp [load?, he]) id
    obtain ⟨l, hl⟩ := Option.isSome_iff_exists.mp hl
    rw [openAt_of_load? hl]
  · obtain ⟨_, x, ⟨f, k, ha, hs, rfl⟩, -⟩ := read_eq_ok.mp hc
    have hp : t.Leads (openAt path max t).1.path (f ++ [k]) := by
      rw [path_openAt]
      exact ⟨f, k, ha, hs, rfl⟩
    refine ⟨fun hm => ?_, fun hm => ?_⟩
    · -- No save comes to the backup: the path leads to another address, before the move and after.
      have ho := openAt_movable ha hc hl hm max
      have hread : (openAt path max t).2.read (backup path) = .ok c := ho ▸ read_move hroot ha hc hm
      have hhere : (openAt path max t).2.here = t.here := by rw [ho]; rfl
      obtain ⟨b, y, hb, -⟩ := read_eq_ok.mp hread
      obtain ⟨-, rfl⟩ := leads_backup ha hhere hb
      exact read_performAll hn hhere.symm hp hb backup_ne hread
    · -- The tree is as it was. The first save that is done puts a log where no log was.
      have ho := openAt_stuck hc hl hm max
      have hk := keeps_performAll (s := openAt path max t) hn
      rw [ho] at hk
      constructor
      · rintro (hr | hr) hsaved
        · obtain ⟨c', l, hr', hc'⟩ := hasLog_of_saved (fits_openAt path max t) hf hsaved
          rw [path_performAll, path_openAt, hr] at hr'
          cases hr'
          rw [load?_of_read hc, hc'] at hl
          cases hl
        · exact read_backup_stuck ha hm hk c hr
      · intro hsaved
        exact .inl (read_of_not_saved hn hsaved (ho.symm ▸ hc))

def notJson : Bytes := Utf8.encode "not json".toList

def kept : Text := "state/history.json".toList

/-- A tree with a history file that holds no log, and maybe more. -/
def spoiled (more : List (Address × Node)) : FileTree :=
  ⟨(["state".toList], .dir) :: (["state".toList, "history.json".toList], .file false notJson) :: more,
    [], []⟩

/-- With nothing in its way, what the file held is beside it after a command was recorded and saved. -/
theorem openAt_unread_moved :
    (performAll (openAt kept 10 (spoiled [])) [.record (ranAt 1 "ls"), .save]).2.read (backup kept) =
      .ok notJson := by
  have hf : ∀ e ∈ recorded [.record (ranAt 1 "ls"), .save], e.Fits :=
    List.forall_mem_singleton.mpr (fits_ranAt (by decide) "ls")
  have hk := (openAt_unread kept 10 (spoiled [])).2 notJson [.record (ranAt 1 "ls"), .save]
    Rooted.nil rfl rfl (by simp) hf
  exact hk.1 ⟨rfl, by decide +kernel, by decide +kernel⟩

/-- With a directory in its way, what the file held is nowhere after that. -/
theorem openAt_unread_lost :
    let t := spoiled [(["state".toList, "history.json.bak".toList], .dir)]
    let u := (performAll (openAt kept 10 t) [.record (ranAt 1 "ls"), .save]).2
    load? t kept = none ∧ t.read kept = .ok notJson ∧ u.read kept ≠ .ok notJson ∧
      u.read (backup kept) ≠ .ok notJson ∧ ∀ e ∈ u.nodes, ∀ x, e.2 ≠ .file x notJson := by
  refine ⟨rfl, rfl, ?_, ?_, ?_⟩
  · decide +kernel
  · decide +kernel
  · decide +kernel

end Guidebook.History
