import Guidebook.History
import Guidebook.Proofs.FileTree.Moving
import Guidebook.Proofs.Json.Printed
import Guidebook.Proofs.Text.Utf8

namespace Guidebook

open Json

namespace HistoryEntry

/-- An entry as it can be: its step is a number of eight bytes, and its second one of eight with a
sign. -/
structure Fits (e : HistoryEntry) : Prop where
  step : ∀ n ∈ e.step, n < Text.numberBound
  recordedAt : Text.isInt64 e.recordedAt

theorem stepOfJson?_stepJson {s : Option Nat} (h : ∀ n ∈ s, n < Text.numberBound) :
    stepOfJson? (stepJson s) = some s := by
  cases s with
  | none => rfl
  | some n =>
    have hn : stepOfJson? (nat n) = (natBelow? Text.numberBound (nat n)).map some := rfl
    rw [stepJson, hn, natBelow?_nat (h n rfl), Option.map_some]

theorem lt_of_stepOfJson? {v : Json} {s : Option Nat} (h : stepOfJson? v = some s) :
    ∀ n ∈ s, n < Text.numberBound := by
  rw [stepOfJson?.eq_def] at h
  split at h
  · cases h
    simp
  · obtain ⟨n, hn, rfl⟩ := Option.map_eq_some_iff.mp h
    rintro _ ⟨⟩
    exact lt_of_natBelow? hn

theorem ofJson?_toJson {e : HistoryEntry} (hf : e.Fits) : ofJson? e.toJson = some e := by
  have hs : e.toJson.slots fieldNames =
      some [.given (.str e.command), .given (stepJson e.step), .given (int e.recordedAt)] :=
    slots_obj (by decide) rfl
  rw [ofJson?, hs]
  simp [ofSlots?, Slot.required, Slot.orNone, str?, stepOfJson?_stepJson hf.step,
    int64?_int hf.recordedAt]

theorem sound_toJson (e : HistoryEntry) : Sound e.toJson := by
  refine .obj _ ?_
  cases e.step <;> simp [stepJson, Sound.str, Sound.null, sound_nat, sound_int]

/-- What is read is as it can be. -/
theorem fits_of_ofJson? {v : Json} {e : HistoryEntry} (h : ofJson? v = some e) : e.Fits := by
  obtain ⟨ss, -, h⟩ := Option.bind_eq_some_iff.mp h
  unfold ofSlots? at h
  split at h
  · next c s r =>
    simp only [Option.bind_eq_bind, Option.bind_eq_some_iff, Option.some.injEq] at h
    obtain ⟨c', -, s', hs, r', hr, rfl⟩ := h
    constructor
    · cases s with
      | given v => exact lt_of_stepOfJson? hs
      | absent =>
        cases hs
        simp
      | short => cases hs
    · cases r with
      | given v => exact isInt64_of_int64? hr
      | absent | short => cases hr
  · cases h

end HistoryEntry

namespace Log

/-- A log as it can be: its version is a number of four bytes. -/
structure Fits (l : Log) : Prop where
  entries : ∀ e ∈ l.entries, e.Fits
  version : l.version < versionBound

theorem fits_empty : empty.Fits := ⟨by simp [empty], by decide⟩

theorem Fits.newest {l : Log} (h : l.Fits) (n : Nat) : (l.newest n).Fits :=
  ⟨fun e he => h.entries e (List.mem_of_mem_drop he), h.version⟩

theorem ofJson?_toJson {l : Log} (hf : l.Fits) : ofJson? l.toJson = some l := by
  have hs : l.toJson.slots fieldNames =
      some [.given (.arr (l.entries.map HistoryEntry.toJson)), .given (nat l.version)] :=
    slots_obj (by decide) rfl
  have hentries : (l.entries.map HistoryEntry.toJson).mapM HistoryEntry.ofJson? = some l.entries :=
    mapM_map_eq_some fun e he => HistoryEntry.ofJson?_toJson (hf.entries e he)
  rw [ofJson?, hs]
  simp [ofSlots?, Slot.required, Slot.orElse, arr?, hentries, natBelow?_nat hf.version]

theorem sound_toJson (l : Log) : Sound l.toJson := by
  refine .obj _ ?_
  simp only [List.forall_mem_cons, List.not_mem_nil, false_imp_iff, implies_true, and_true]
  exact ⟨.arr _ (List.forall_mem_map.mpr fun e _ => e.sound_toJson), sound_nat _⟩

theorem fits_of_ofJson? {v : Json} {l : Log} (h : ofJson? v = some l) : l.Fits := by
  obtain ⟨ss, -, h⟩ := Option.bind_eq_some_iff.mp h
  unfold ofSlots? at h
  split at h
  · next e n =>
    simp only [Option.bind_eq_bind, Option.bind_eq_some_iff, Option.some.injEq] at h
    obtain ⟨es, he, k, hn, rfl⟩ := h
    constructor
    · cases e with
      | given v =>
        obtain ⟨vs, -, hm⟩ := Option.bind_eq_some_iff.mp he
        intro e he
        obtain ⟨w, -, hw⟩ := exists_of_mem_mapM hm he
        exact HistoryEntry.fits_of_ofJson? hw
      | absent | short => cases he
    · cases n with
      | given v => exact lt_of_natBelow? hn
      | absent | short =>
        cases hn
        exact Nat.two_pow_pos 32
  · cases h

end Log

namespace History

section Stored

variable {t u : FileTree} {path : Text} {c : Bytes} {l : Log} {h : History}

/-- The log that bytes stand for, if they do for one. -/
def decode? (c : Bytes) : Option Log := do Log.ofJson? (← Json.read (← Utf8.decode c))

theorem decode?_encode (hf : l.Fits) : decode? (Utf8.encode l.toJson.pretty) = some l := by
  rw [decode?, Utf8.decode_encode, Option.bind_eq_bind, Option.bind_some, read_pretty l.sound_toJson,
    Option.bind_eq_bind, Option.bind_some, Log.ofJson?_toJson hf]

theorem load?_of_read (hr : t.read path = .ok c) : load? t path = decode? c := by
  obtain ⟨a, x, ha, hn⟩ := FileTree.read_eq_ok.mp hr
  have he : t.existsAt path = true := by rw [FileTree.existsAt_of_leads ha, hn]; rfl
  simp only [load?, if_pos he, FileTree.readText, hr, decode?]
  cases Utf8.decode c <;> rfl

theorem fits_of_load? (hl : load? t path = some l) : l.Fits := by
  rw [load?] at hl
  split at hl
  · split at hl
    · cases hl
    · obtain ⟨v, -, hv⟩ := Option.bind_eq_some_iff.mp hl
      exact Log.fits_of_ofJson? hv
  · cases hl
    exact Log.fits_empty

/-- Makes the directory that a file is kept in. -/
def makeFolder (path : Text) (t : FileTree) : FileTree × Except IoFault Unit :=
  match Path.parent? path with
  | none => (t, .ok ())
  | some p => t.makePath p

theorem keeps_makeFolder (P : Address → Prop) (path : Text) (t : FileTree) :
    FileTree.Keeps P t (makeFolder path t).1 := by
  rw [makeFolder]
  split
  · exact .refl t
  · exact FileTree.keeps_makePath t _

theorem save_eq (h : History) (t : FileTree) :
    h.save t = match makeFolder h.path t with
      | (t, .error e) => (t, .error e)
      | (t, .ok ()) =>
        match t.write h.path (Utf8.encode h.log.toJson.pretty) with
        | .error e => (t, .error e)
        | .ok t => (t, .ok ()) := rfl

/-- A save that fails loses nothing. One that does not has the log written down, and loses nothing
but what was in its file before. -/
theorem save_cases (h : History) (t : FileTree) :
    ((h.save t).2 ≠ .ok () ∧ ∀ P, FileTree.Keeps P t (h.save t).1) ∨
      ((h.save t).2 = .ok () ∧ (h.save t).1.read h.path = .ok (Utf8.encode h.log.toJson.pretty) ∧
        ∃ a, (h.save t).1.Leads h.path a ∧ FileTree.Keeps (· = a) t (h.save t).1) := by
  have hmade (P) := keeps_makeFolder P h.path t
  rw [save_eq]
  split
  · next u e hu =>
    rw [hu] at hmade
    exact .inl ⟨nofun, hmade⟩
  · next u hu =>
    rw [hu] at hmade
    split
    · exact .inl ⟨nofun, hmade⟩
    · next v hv =>
      obtain ⟨hr, a, ha, hk⟩ := FileTree.read_write hv
      exact .inr ⟨rfl, hr, a, ha.keep (hk.mono fun _ _ => trivial), (hmade _).trans hk⟩

theorem read_save (hs : (h.save t).2 = .ok ()) :
    (h.save t).1.read h.path = .ok (Utf8.encode h.log.toJson.pretty) := by
  rcases h.save_cases t with ⟨hn, -⟩ | ⟨-, hr, -⟩
  · exact absurd hs hn
  · exact hr

/-- What was saved is what is loaded. -/
theorem load?_save (hs : (h.save t).2 = .ok ()) (hf : h.log.Fits) :
    load? (h.save t).1 h.path = some h.log := by
  rw [load?_of_read (read_save hs), decode?_encode hf]

end Stored

section Opening

open FileTree

variable {t u : FileTree} {path : Text} {f : Address} {k : Text} {slash : Bool}

def suffix : Text := ".bak".toList

/-- What is moved out of the way stays in its directory. -/
theorem locate_backup (h : t.locate path = .ok ⟨f, some k, slash⟩)
    (hs : Utf8.size (backup path) ≤ pathLimit) :
    t.locate (backup path) = .ok ⟨f, some (k ++ suffix), false⟩ := by
  obtain ⟨⟨hz, -⟩, -, h₁, h₂, before, hn, -⟩ := locate_eq_ok.mp h
  have hk : k ∈ Path.names path := by simp [hn]
  have hbackup : backup path = Path.withFileName path (k ++ suffix) := by
    rw [backup, Path.fileName?_eq hn h₁ h₂]
    rfl
  -- The longer name is neither empty nor made of dots because it has four more signs.
  have hlength : 3 < (k ++ suffix).length := by simp [suffix]
  have hsuffix : ∀ c ∈ suffix, (c == '/') = false ∧ c ≠ '\x00' := by simp [suffix]
  rw [hbackup] at hs ⊢
  refine locate_withFileName h ?_ ?_ ?_ ?_ ?_ hs
  · intro c hc
    rcases List.mem_append.mp hc with hc | hc
    · exact Path.single_of_mem_names hk c hc
    · exact (hsuffix c hc).1
  · intro hc
    rcases List.mem_append.mp hc with hc | hc
    · exact hz (Path.mem_of_mem_names hk hc)
    · exact (hsuffix _ hc).2 rfl
  all_goals
    intro he
    simp [he] at hlength

theorem backup_ne : f ++ [k ++ suffix] ≠ f ++ [k] := fun he => by
  simpa [suffix] using List.append_cancel_left he

theorem backup_apart : ¬ f ++ [k ++ suffix] <+: f ++ [k] :=
  fun hp => backup_ne (hp.eq_of_length (by simp))

theorem apart_backup : ¬ f ++ [k] <+: f ++ [k ++ suffix] :=
  fun hp => backup_ne (hp.eq_of_length (by simp)).symm

/-- The entries in a file, none if there is no log in it. -/
def stored (t : FileTree) (path : Text) : List HistoryEntry :=
  ((load? t path).map Log.entries).getD []

theorem stored_of_load? {l : Log} (h : load? t path = some l) : stored t path = l.entries := by
  rw [stored, h]
  rfl

theorem stored_eq_nil (h : ∀ c, t.read path ≠ .ok c) : stored t path = [] := by
  rw [stored, load?]
  split
  · rw [readText]
    cases hr : t.read path with
    | error e => rfl
    | ok c => exact absurd hr (h c)
  · rfl

theorem openAt_of_load? {l : Log} (h : load? t path = some l) (max : Nat) :
    openAt path max t = (⟨path, l.newest (Nat.max max 1), Nat.max max 1⟩, t) := by
  rw [openAt, h]

theorem openAt_of_none (h : load? t path = none) (max : Nat) :
    openAt path max t =
      (⟨path, .empty, Nat.max max 1⟩, (t.rename path (backup path)).toOption.getD t) := by
  rw [openAt, h]

theorem entries_openAt (path : Text) (max : Nat) (t : FileTree) :
    (openAt path max t).1.entries = (stored t path).rtake (Nat.max max 1) := by
  cases h : load? t path with
  | none =>
    rw [openAt_of_none h, stored, h]
    exact (List.rtake_nil _).symm
  | some l =>
    rw [openAt_of_load? h, stored_of_load? h]
    rfl

/-- What was moved out of the way is not read any more. -/
theorem read_rename_backup (h : t.rename path (backup path) = .ok u) (c : Bytes) :
    u.read path ≠ .ok c := by
  intro hc
  obtain ⟨s, r, hs, hr, hsn, hrn, hm⟩ := rename_eq_ok h
  obtain ⟨f, _ | k, y⟩ := s
  · cases hsn
  obtain ⟨g, _ | l, z⟩ := r
  · cases hrn
  -- Both names are in one directory, and the old one is not below the new one.
  obtain ⟨rfl, rfl⟩ : f = g ∧ k ++ suffix = l := by
    have hb := locate_backup hs (locate_eq_ok.mp hr).1.2
    exact locate_unique rfl hb hr
  rcases hm with hm | rfl
  · exact backup_ne hm.symm
  · obtain ⟨a, x, ⟨f', k', hl, -, rfl⟩, hn⟩ := read_eq_ok.mp hc
    obtain ⟨rfl, rfl⟩ := locate_unique (show (t.move _ _).here = t.here from rfl) hs hl
    have hold := node?_move_old (t := t) (a := f ++ [k]) (by simp) (backup_apart (f := f) (k := k))
    rw [Spot.address, Spot.address, hold] at hn
    cases hn

/-- Opening a history takes no entry out of its file. -/
theorem stored_openAt (path : Text) (max : Nat) (t : FileTree) :
    stored (openAt path max t).2 path = stored t path := by
  cases h : load? t path with
  | some l => rw [openAt_of_load? h]
  | none =>
    rw [openAt_of_none h]
    cases hr : t.rename path (backup path) with
    | error e => rfl
    | ok u =>
      have hu : stored u path = [] := stored_eq_nil (read_rename_backup hr)
      rw [show (Except.ok u : Except IoFault FileTree).toOption = some u from rfl, Option.getD_some, hu,
        stored, h]
      rfl

end Opening

end History

end Guidebook
