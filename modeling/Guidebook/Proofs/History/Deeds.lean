import Guidebook.Proofs.History.Stored

namespace Guidebook.History

/-- What is done with the history in a file. -/
inductive Deed where
  | reopen (max : Nat)
  | record (e : HistoryEntry)
  | save
  deriving DecidableEq

/-- A history and the files that it is kept among. -/
abbrev Held := History × FileTree

variable {s : Held} {ds : List Deed} {xs : List HistoryEntry}

def perform (s : Held) : Deed → Held
  | .reopen max => openAt s.1.path max s.2
  | .record e => (s.1.record e, s.2)
  | .save => (s.1, (s.1.save s.2).1)

def performAll (s : Held) (ds : List Deed) : Held := ds.foldl perform s

def Deed.entry? : Deed → Option HistoryEntry
  | .record e => some e
  | _ => none

def recorded (ds : List Deed) : List HistoryEntry := ds.filterMap Deed.entry?

/-- Every save is done without a failure. -/
def Saves : Held → List Deed → Prop
  | _, [] => True
  | s, .save :: ds => (s.1.save s.2).2 = .ok () ∧ Saves (perform s .save) ds
  | s, d :: ds => Saves (perform s d) ds

theorem performAll_cons (s : Held) (d : Deed) (ds : List Deed) :
    performAll s (d :: ds) = performAll (perform s d) ds := rfl

theorem performAll_append (s : Held) (ds es : List Deed) :
    performAll s (ds ++ es) = performAll (performAll s ds) es := List.foldl_append

theorem path_openAt (path : Text) (max : Nat) (t : FileTree) : (openAt path max t).1.path = path := by
  cases h : load? t path with
  | none => rw [openAt_of_none h]
  | some l => rw [openAt_of_load? h]

theorem limit_openAt (path : Text) (max : Nat) (t : FileTree) :
    (openAt path max t).1.limit = Nat.max max 1 := by
  cases h : load? t path with
  | none => rw [openAt_of_none h]
  | some l => rw [openAt_of_load? h]

theorem path_perform (s : Held) (d : Deed) : (perform s d).1.path = s.1.path := by
  cases d with
  | reopen max => exact path_openAt ..
  | record e => rfl
  | save => rfl

theorem path_performAll (s : Held) (ds : List Deed) : (performAll s ds).1.path = s.1.path := by
  induction ds generalizing s with
  | nil => rfl
  | cons d ds ih => rw [performAll_cons, ih, path_perform]

/-- What is taken away from the front before is taken away after. -/
theorem rtake_append (xs ys : List HistoryEntry) (n : Nat) :
    (xs.rtake n ++ ys).rtake n = (xs ++ ys).rtake n := by
  have h : xs.rtake n ++ ys = (xs ++ ys).drop (xs.length - n) :=
    (List.drop_append_of_le_length (Nat.sub_le ..)).symm
  rw [h, List.rtake, List.rtake, List.drop_drop, List.length_drop, List.length_append]
  congr 1
  omega

/-- As long as a history is not opened again, it has the newest of the entries it was opened with
and those recorded since. -/
theorem entries_performAll (hn : ∀ n, .reopen n ∉ ds) (hx : s.1.entries = xs.rtake s.1.limit) :
    (performAll s ds).1.entries = (xs ++ recorded ds).rtake s.1.limit := by
  induction ds generalizing s xs with
  | nil => simpa [performAll, recorded] using hx
  | cons d ds ih =>
    have hds : ∀ n, .reopen n ∉ ds := fun n h => hn n (List.mem_cons_of_mem d h)
    cases d with
    | reopen n => exact absurd List.mem_cons_self (hn n)
    | record e =>
      have hr : (s.1.record e).entries = (xs ++ [e]).rtake s.1.limit := by
        have he : (s.1.record e).entries = (s.1.entries ++ [e]).rtake s.1.limit := rfl
        rw [he, hx, rtake_append]
      have hi := ih (s := perform s (.record e)) hds hr
      rw [performAll_cons, hi]
      simp [recorded, Deed.entry?, perform, record]
    | save => exact ih (s := perform s .save) hds hx

theorem performAll_records (s : Held) (ns : List HistoryEntry) :
    performAll s (ns.map .record) = (ns.foldl record s.1, s.2) := by
  induction ns generalizing s with
  | nil => rfl
  | cons n ns ih => exact ih (s.1.record n, s.2)

theorem recorded_records (ns : List HistoryEntry) : recorded (ns.map .record) = ns := by
  induction ns with
  | nil => rfl
  | cons n ns ih => exact congrArg (n :: ·) ih

/-- Without a save, the entries in the file stay the same. -/
theorem stored_performAll (hn : .save ∉ ds) :
    stored (performAll s ds).2 s.1.path = stored s.2 s.1.path := by
  induction ds generalizing s with
  | nil => rfl
  | cons d ds ih =>
    have hi := ih (s := perform s d) fun h => hn (List.mem_cons_of_mem d h)
    rw [path_perform] at hi
    rw [performAll_cons, hi]
    cases d with
    | reopen n => exact stored_openAt ..
    | record e => rfl
    | save => exact absurd List.mem_cons_self hn

theorem fits_openAt (path : Text) (max : Nat) (t : FileTree) : (openAt path max t).1.log.Fits := by
  cases h : load? t path with
  | none =>
    rw [openAt_of_none h]
    exact Log.fits_empty
  | some l =>
    rw [openAt_of_load? h]
    exact (fits_of_load? h).newest _

theorem fits_record {h : History} {e : HistoryEntry} (hl : h.log.Fits) (he : e.Fits) :
    (h.record e).log.Fits := by
  have hadd : Log.Fits { h.log with entries := h.log.entries ++ [e] } :=
    ⟨List.forall_mem_append.mpr ⟨hl.entries, List.forall_mem_singleton.mpr he⟩, hl.version⟩
  exact hadd.newest h.limit

theorem fits_perform {d : Deed} (hs : s.1.log.Fits) (hf : ∀ e ∈ recorded (d :: ds), e.Fits) :
    (perform s d).1.log.Fits ∧ ∀ e ∈ recorded ds, e.Fits := by
  refine ⟨?_, fun e he => hf e (((List.sublist_cons_self d ds).filterMap Deed.entry?).subset he)⟩
  cases d with
  | reopen n => exact fits_openAt ..
  | record e => exact fits_record hs (hf e (by simp [recorded, Deed.entry?]))
  | save => exact hs

theorem fits_performAll (hs : s.1.log.Fits) (hf : ∀ e ∈ recorded ds, e.Fits) :
    (performAll s ds).1.log.Fits := by
  induction ds generalizing s with
  | nil => exact hs
  | cons d ds ih =>
    obtain ⟨hd, hds⟩ := fits_perform hs hf
    exact ih (s := perform s d) hd hds

/-- Recording entries in a history that was opened gives the newest of all. -/
theorem entries_records (path : Text) (limit : Nat) (t : FileTree) (ns : List HistoryEntry) :
    (ns.foldl record (openAt path limit t).1).entries =
      (stored t path ++ ns).rtake (Nat.max limit 1) := by
  have hx := entries_openAt path limit t
  rw [← limit_openAt path limit t] at hx
  have hn : ∀ m, Deed.reopen m ∉ ns.map .record := by simp
  have he := entries_performAll hn hx
  rwa [performAll_records, recorded_records, limit_openAt] at he

theorem path_records (path : Text) (limit : Nat) (t : FileTree) (ns : List HistoryEntry) :
    (ns.foldl record (openAt path limit t).1).path = path := by
  have hp := path_performAll (openAt path limit t) (ns.map .record)
  rwa [performAll_records, path_openAt] at hp

theorem fits_records {ns : List HistoryEntry} (path : Text) (limit : Nat) (t : FileTree)
    (hn : ∀ n ∈ ns, n.Fits) : (ns.foldl record (openAt path limit t).1).log.Fits := by
  have hr : ∀ n ∈ recorded (ns.map .record), n.Fits := by rwa [recorded_records]
  have hf := fits_performAll (fits_openAt path limit t) hr
  rwa [performAll_records] at hf

theorem saves_append {as bs : List Deed} (h : Saves s (as ++ bs)) : Saves (performAll s as) bs := by
  induction as generalizing s with
  | nil => exact h
  | cons d as ih =>
    cases d with
    | save => exact ih h.2
    | reopen n | record e => exact ih h

/-- After a save, its file holds the entries of the history until the next one. -/
theorem stored_save {ms : List Deed} (hs : (s.1.save s.2).2 = .ok ()) (hf : s.1.log.Fits)
    (hn : .save ∉ ms) : stored (performAll s (.save :: ms)).2 s.1.path = s.1.entries := by
  have hm := stored_performAll (s := perform s .save) hn
  have hsave : stored (perform s .save).2 s.1.path = s.1.entries :=
    stored_of_load? (load?_save hs hf)
  rw [performAll_cons]
  exact hm.trans hsave

/-- A history that is opened again has the newest of the entries in its file and those recorded
since. -/
theorem entries_reopen {n : Nat} {cs : List Deed} (hn : ∀ m, .reopen m ∉ cs) :
    (performAll s (.reopen n :: cs)).1.entries =
      (stored s.2 s.1.path ++ recorded cs).rtake (Nat.max n 1) := by
  have hl : (perform s (.reopen n)).1.limit = Nat.max n 1 := limit_openAt ..
  have he : (perform s (.reopen n)).1.entries = (stored s.2 s.1.path).rtake (Nat.max n 1) :=
    entries_openAt ..
  rw [performAll_cons, entries_performAll hn (hl ▸ he), hl]

/-- The entries of a history are always the newest ones of those that were saved last before it was
opened, or that its file held in the beginning, and of those recorded since. -/
theorem entries_newest (path : Text) (max : Nat) (t : FileTree) (ds : List Deed)
    (hs : Saves (openAt path max t) ds) (hf : ∀ e ∈ recorded ds, e.Fits) :
    let held := fun as => (performAll (openAt path max t) as).1.entries
    ((∀ n, .reopen n ∉ ds) →
      held ds = (stored t path ++ recorded ds).rtake (Nat.max max 1)) ∧
    ∀ as n cs, ds = as ++ .reopen n :: cs → (∀ m, .reopen m ∉ cs) →
      (.save ∉ as → held ds = (stored t path ++ recorded cs).rtake (Nat.max n 1)) ∧
      ∀ bs ms, as = bs ++ .save :: ms → .save ∉ ms →
        held ds = (held bs ++ recorded cs).rtake (Nat.max n 1) ∧
        (ms = [] → cs = [] → (held bs).length ≤ n → held ds = held bs) := by
  intro held
  have hpath (as : List Deed) : (performAll (openAt path max t) as).1.path = path := by
    rw [path_performAll, path_openAt]
  refine ⟨fun hn => ?_, ?_⟩
  · have he := entries_openAt path max t
    rw [← limit_openAt path max t] at he ⊢
    exact entries_performAll hn he
  · rintro as n cs rfl hn
    have hreopen : held (as ++ .reopen n :: cs) =
        (stored (performAll (openAt path max t) as).2 path ++ recorded cs).rtake (Nat.max n 1) := by
      have hr := entries_reopen (s := performAll (openAt path max t) as) (n := n) hn
      rwa [hpath, ← performAll_append] at hr
    refine ⟨fun hsave => ?_, ?_⟩
    · have hkept := stored_performAll (s := openAt path max t) hsave
      rw [path_openAt, stored_openAt] at hkept
      rw [hreopen, hkept]
    · rintro bs ms rfl hms
      have hfits : (performAll (openAt path max t) bs).1.log.Fits :=
        fits_performAll (fits_openAt ..) fun e he => hf e (by simp [recorded] at he ⊢; simp [he])
      have hsaved : stored (performAll (openAt path max t) (bs ++ .save :: ms)).2 path = held bs := by
        rw [List.append_assoc] at hs
        have hk := stored_save (saves_append hs).1 hfits hms
        rwa [hpath, ← performAll_append] at hk
      rw [hreopen, hsaved]
      refine ⟨rfl, ?_⟩
      -- Right after the save nothing is recorded, and there is room for all that was saved.
      rintro rfl rfl hlength
      have hzero : (held bs).length - Nat.max n 1 = 0 :=
        Nat.sub_eq_zero_of_le (hlength.trans (Nat.le_max_left n 1))
      rw [recorded, List.filterMap_nil, List.append_nil, List.rtake, hzero, List.drop_zero]

def ranAt (k : Nat) (command : String) : HistoryEntry := ⟨command.toList, some k, k⟩

theorem fits_ranAt {k : Nat} (hk : k < 0x8000000000000000) (command : String) :
    (ranAt k command).Fits := by
  refine ⟨?_, ?_⟩
  · rintro n ⟨⟩
    exact Nat.lt_trans hk (by decide)
  · have hle : (-0x8000000000000000 : Int) ≤ k := by omega
    exact Bool.and_eq_true_iff.mpr ⟨decide_eq_true hle, decide_eq_true (Int.ofNat_lt.mpr hk)⟩

/-- Three commands are recorded and saved, a fourth is not saved, and a fifth is recorded after the
history has been opened with more room. -/
def fewDeeds : List Deed :=
  [.record (ranAt 1 "ls"), .record (ranAt 2 "cd"), .record (ranAt 3 "echo \"\n\""), .save,
    .record (ranAt 4 "rm x"), .reopen 2, .record (ranAt 5 "\\u0041")]

theorem entries_newest_reopened :
    (performAll (openAt "state/history.json".toList 0 ⟨[], [], []⟩) fewDeeds).1.entries =
      [ranAt 3 "echo \"\n\"", ranAt 5 "\\u0041"] := by
  have hs : Saves (openAt "state/history.json".toList 0 ⟨[], [], []⟩) fewDeeds := ⟨rfl, trivial⟩
  have hf : ∀ e ∈ recorded fewDeeds, e.Fits := by
    have hr : recorded fewDeeds =
        [(1, "ls"), (2, "cd"), (3, "echo \"\n\""), (4, "rm x"), (5, "\\u0041")].map
          fun p => ranAt p.1 p.2 := rfl
    rw [hr]
    exact List.forall_mem_map.mpr fun p hp => fits_ranAt (by revert p; decide) p.2
  have hn := (entries_newest "state/history.json".toList 0 ⟨[], [], []⟩ fewDeeds hs hf).2
    (fewDeeds.take 5) 2 (fewDeeds.drop 6) rfl (by simp [fewDeeds])
  have hr := (hn.2 (fewDeeds.take 3) [.record (ranAt 4 "rm x")] rfl (by simp)).1
  exact hr.trans (by decide +kernel)

end Guidebook.History
