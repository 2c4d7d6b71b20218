import Guidebook.Proofs.FileTree.Keeping
import Mathlib.Logic.Function.Basic

namespace Guidebook.FileTree

variable {t u : FileTree} {p : Text} {a b : Address} {n : Node} {c : Bytes} {x : Bool}

/-- What the file at an address holds, if a file is there. -/
def bytes? (t : FileTree) (a : Address) : Option Bytes :=
  match t.node? a with
  | some (.file _ c) => some c
  | _ => none

theorem bytes?_eq_some : t.bytes? a = some c ↔ ∃ x, t.node? a = some (.file x c) := by
  rw [bytes?]
  cases t.node? a with
  | none => simp
  | some n => cases n <;> simp

theorem bytes?_of_none (h : t.node? a = none) : t.bytes? a = none := by rw [bytes?, h]

theorem bytes?_of_dir (h : t.node? a = some .dir) : t.bytes? a = none := by rw [bytes?, h]

theorem bytes?_put_file (ha : a ≠ []) :
    (t.put a (.file x c)).bytes? = Function.update t.bytes? a (some c) := by
  funext b
  by_cases hb : b = a
  · rw [bytes?, node?_put ha, if_pos hb, hb, Function.update_self]
  · rw [bytes?, node?_put ha, if_neg hb, Function.update_of_ne hb, bytes?]

theorem bytes?_put_dir (ha : a ≠ []) (h : t.bytes? a = none) : (t.put a .dir).bytes? = t.bytes? := by
  funext b
  by_cases hb : b = a
  · rw [bytes?, node?_put ha, if_pos hb, hb, h]
  · rw [bytes?, node?_put ha, if_neg hb, bytes?]

theorem node?_erase (ha : a ≠ []) (b : Address) :
    (t.erase a).node? b = if b = a then none else t.node? b := by
  by_cases hb : b = a
  · simp [node?, erase, hb, ha]
  · simp only [node?, erase, hb, if_false, List.find?_filter]
    split
    · rfl
    · congr 2
      funext e
      by_cases he : e.1 = b <;> simp [he, hb]

theorem bytes?_erase (ha : a ≠ []) : (t.erase a).bytes? = Function.update t.bytes? a none := by
  funext b
  by_cases hb : b = a
  · rw [bytes?, node?_erase ha, if_pos hb, hb, Function.update_self]
  · rw [bytes?, node?_erase ha, if_neg hb, Function.update_of_ne hb, bytes?]

theorem bytes?_setContent (ha : a ≠ []) (f : Bytes → Bytes) :
    (t.setContent a f).bytes? = Function.update t.bytes? a (some (f ((t.bytes? a).getD []))) := by
  rw [setContent]
  split
  · next y d hn => rw [bytes?_put_file ha, bytes?_eq_some.mpr ⟨y, hn⟩, Option.getD_some]
  · next hn =>
    have hb : t.bytes? a = none := by
      rw [Option.eq_none_iff_forall_ne_some]
      intro d hd
      obtain ⟨y, hy⟩ := bytes?_eq_some.mp hd
      exact hn y d hy
    rw [bytes?_put_file ha, hb, Option.getD_none]

theorem keeps_setContent (ha : a ≠ []) (hd : t.node? a ≠ some .dir) (f : Bytes → Bytes) :
    Keeps (· = a) t (t.setContent a f) := by
  rw [setContent]
  split
  · exact .put ha hd
  · exact .put ha hd

section Reading

theorem read_iff_of_leads (h : t.Leads p a) : t.read p = .ok c ↔ t.bytes? a = some c := by
  rw [read_eq_ok, bytes?_eq_some]
  constructor
  · rintro ⟨b, x, hb, hn⟩
    cases h.unique rfl hb
    exact ⟨x, hn⟩
  · rintro ⟨x, hn⟩
    exact ⟨a, x, h, hn⟩

theorem toOption_read (h : t.Leads p a) : (t.read p).toOption = t.bytes? a := by
  cases hr : t.read p with
  | ok c => exact ((read_iff_of_leads h).mp hr).symm
  | error e =>
    refine (Option.eq_none_iff_forall_ne_some.mpr fun c hc => ?_).symm
    rw [← read_iff_of_leads h, hr] at hc
    cases hc

end Reading

section Changing

/-- What is written to a path is the content of one file, and all other files stay. -/
theorem bytes?_write (h : t.write p c = .ok u) :
    ∃ a, t.Leads p a ∧ Keeps (· = a) t u ∧ u.bytes? = Function.update t.bytes? a (some c) := by
  obtain ⟨a, ha, hd, rfl⟩ := write_eq_ok.mp h
  exact ⟨a, ha, keeps_setContent ha.ne_nil hd _, bytes?_setContent ha.ne_nil _⟩

theorem append_eq_ok : t.append p c = .ok u ↔
    ∃ a, t.Leads p a ∧ t.node? a ≠ some .dir ∧ u = t.setContent a (· ++ c) := by
  rw [append, bind_eq_ok]
  refine exists_congr fun a => ?_
  rw [fileSpot_eq_ok, and_assoc, Except.ok.injEq, eq_comm]

theorem bytes?_append (h : t.append p c = .ok u) :
    ∃ a, t.Leads p a ∧ Keeps (· = a) t u ∧
      u.bytes? = Function.update t.bytes? a (some ((t.bytes? a).getD [] ++ c)) := by
  obtain ⟨a, ha, hd, rfl⟩ := append_eq_ok.mp h
  exact ⟨a, ha, keeps_setContent ha.ne_nil hd _, bytes?_setContent ha.ne_nil _⟩

theorem bytes?_makeDir (h : t.makeDir p = .ok u) : u.bytes? = t.bytes? := by
  obtain ⟨s, -, h⟩ := bind_eq_ok.mp h
  obtain ⟨o, ho, h⟩ := bind_eq_ok.mp h
  split at h
  · cases h
  obtain ⟨k, hk, -, hn⟩ := lookUp_eq_ok ho (by simp)
  rw [Spot.address, hk] at h
  cases h
  exact bytes?_put_dir (by simp) (bytes?_of_none hn.symm)

theorem bytes?_makeDirs (t : FileTree) (ps : List Text) : (t.makeDirs ps).1.bytes? = t.bytes? := by
  induction ps generalizing t with
  | nil => rfl
  | cons p up ih =>
    rw [makeDirs]
    split
    · rfl
    · split
      · next u hu => exact bytes?_makeDir hu
      · have hup := ih t
        split
        · next u e hu => simpa [hu] using hup
        · next u hu =>
          rw [hu] at hup
          split
          · next v hv => exact (bytes?_makeDir hv).trans hup
          · split <;> exact hup
      · split <;> rfl

/-- To make directories changes no file. -/
theorem bytes?_makePath (t : FileTree) (p : Text) : (t.makePath p).1.bytes? = t.bytes? :=
  bytes?_makeDirs t _

/-- A path that leads to a file, or to where one would be, can be used to take it away. -/
theorem bytes?_removeFile (h : t.Leads p a) :
    ((t.removeFile p).toOption.getD t).bytes? = Function.update t.bytes? a none := by
  have hnone (hb : t.bytes? a = none) : t.bytes? = Function.update t.bytes? a none := by
    rw [← hb, Function.update_eq_self]
  simp only [removeFile, find_of_leads h]
  cases hn : t.node? a with
  | none => exact hnone (bytes?_of_none hn)
  | some n =>
    cases n with
    | dir => exact hnone (bytes?_of_dir hn)
    | file x c => exact bytes?_erase h.ne_nil

theorem here_removeFile (t : FileTree) (p : Text) :
    ((t.removeFile p).toOption.getD t).here = t.here := by
  cases h : t.removeFile p with
  | error e => rfl
  | ok u =>
    obtain ⟨⟨a, n⟩, -, hu⟩ := bind_eq_ok.mp h
    cases n with
    | dir => cases hu
    | file x c =>
      cases hu
      rfl

end Changing

end Guidebook.FileTree
