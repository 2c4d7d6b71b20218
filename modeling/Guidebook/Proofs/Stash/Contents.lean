import Guidebook.Proofs.FileTree.Files
import Guidebook.Proofs.Work.Events

namespace Guidebook.Stash

open FileTree

variable {s : Stash} {t u : FileTree} {c : Text} {target : Text} {mode : PasteMode}

theorem bytes?_makeParent (s : Stash) (t : FileTree) : (s.makeParent t).1.bytes? = t.bytes? := by
  rw [makeParent]
  split
  · rfl
  · split
    · rfl
    · exact bytes?_makePath t _

/-- There can be a directory for the file of the stash, and the file can be written in it. -/
def Writable (s : Stash) (t : FileTree) : Prop :=
  (s.makeParent t).2 = .ok () ∧ ∃ a, (s.makeParent t).1.fileSpot s.path = .ok a

theorem write_of_fileSpot {p : Text} {a : Address} (h : t.fileSpot p = .ok a) (c : Bytes) :
    t.write p c = .ok (t.setContent a fun _ => c) := by
  rw [write, h]
  rfl

/-- A stash that can be written holds its new content, and no other file changes. -/
theorem replace_of_writable (h : s.Writable t) (c : Text) :
    ∃ a, (s.replace c t).1.Leads s.path a ∧ (s.replace c t).2 = .ok () ∧
      (s.replace c t).1.bytes? = Function.update t.bytes? a (some (Utf8.encode c)) := by
  obtain ⟨hparent, a, ha⟩ := h
  have hbytes := bytes?_makeParent s t
  rw [replace, inParent]
  rcases hm : s.makeParent t with ⟨v, e | ⟨⟨⟩⟩⟩
  · simp [hm] at hparent
  rw [hm] at ha hbytes
  have hw := write_of_fileSpot ha (Utf8.encode c)
  obtain ⟨b, hl, hk, hb⟩ := bytes?_write hw
  simp only [hw]
  exact ⟨b, hl.keep (hk.mono fun _ _ => trivial), trivial, by rw [hb, hbytes]⟩

/-- A stash that cannot be written stays as it is, and so do all files. -/
theorem replace_of_not_writable (h : ¬ s.Writable t) (c : Text) :
    (∃ e, (s.replace c t).2 = .error e) ∧ (s.replace c t).1.bytes? = t.bytes? := by
  have hbytes := bytes?_makeParent s t
  rw [Writable] at h
  rw [replace, inParent]
  rcases hm : s.makeParent t with ⟨v, e | ⟨⟨⟩⟩⟩
  · rw [hm] at hbytes
    exact ⟨⟨e, rfl⟩, hbytes⟩
  rw [hm] at h hbytes
  cases hw : v.write s.path (Utf8.encode c) with
  | ok u =>
    obtain ⟨a, hl, hd, -⟩ := write_eq_ok.mp hw
    exact (h ⟨rfl, a, fileSpot_eq_ok.mpr ⟨hl, hd⟩⟩).elim
  | error e => exact ⟨⟨e, by simp only [hw]⟩, by simpa only [hw] using hbytes⟩

theorem here_replace (s : Stash) (c : Text) (t : FileTree) : (s.replace c t).1.here = t.here := by
  have hparent : (s.makeParent t).1.here = t.here := by
    rw [makeParent]
    split
    · rfl
    · split
      · rfl
      · exact (keeps_makePath (P := fun _ => True) t _).here
  rw [replace, inParent]
  rcases hm : s.makeParent t with ⟨v, e | ⟨⟨⟩⟩⟩
  · rwa [hm] at hparent
  rw [hm] at hparent
  cases hw : v.write s.path (Utf8.encode c) with
  | ok u =>
    obtain ⟨a, -, hk, -⟩ := bytes?_write hw
    simpa only [hw] using hk.here.trans hparent
  | error e => simpa only [hw] using hparent

section Paste

/-- What a file holds after the stash was pasted into it. -/
def pasted (mode : PasteMode) (old : Option Bytes) (c : Text) : Bytes :=
  match mode with
  | .overwrite => Utf8.encode c
  | .append => old.getD [] ++ Utf8.encode c

/-- There is something to paste. -/
def Holds (s : Stash) (t : FileTree) (c : Text) : Prop := s.read t = .ok c ∧ c ≠ []

/-- A stash that holds something has a file. -/
theorem Holds.read (h : s.Holds t c) : ∃ b, t.read s.path = .ok b := by
  obtain ⟨hread, hne⟩ := h
  cases hb : t.read s.path with
  | ok b => exact ⟨b, rfl⟩
  | error e =>
    rw [Stash.read, readText, hb] at hread
    split at hread
    · exact absurd (Except.ok.inj hread).symm hne
    · cases hread

theorem pasteInto_eq_ok (h : s.pasteInto target mode t = .ok u) :
    ∃ c a, s.Holds t c ∧ t.Leads target a ∧ Keeps (· = a) t u ∧
      u.bytes? = Function.update t.bytes? a (some (pasted mode (t.bytes? a) c)) := by
  rw [pasteInto] at h
  split at h
  · cases h
  · cases h
  next c hne hc =>
  have hholds : s.Holds t c := ⟨hc, hne⟩
  cases mode with
  | overwrite =>
    obtain ⟨a, ht, hk, hb⟩ := bytes?_write (Work.mapError_eq_ok.mp h)
    exact ⟨c, a, hholds, ht, hk, hb⟩
  | append =>
    obtain ⟨a, ht, hk, hb⟩ := bytes?_append (Work.mapError_eq_ok.mp h)
    exact ⟨c, a, hholds, ht, hk, hb⟩

end Paste

end Guidebook.Stash
