import Guidebook.Proofs.FileTree.Temporary
import Guidebook.Proofs.Text.Bare

namespace Guidebook.FileTree

/-- There is no escape character in the files. -/
def Bare (t : FileTree) : Prop := ∀ a c, t.bytes? a = some c → c.Bare

namespace Bare

variable {t u : FileTree} {a : Address} {p dir before after : Text} {c : Bytes}

theorem of_eq (h : t.Bare) (hu : u.bytes? = t.bytes?) : u.Bare := by
  intro b e hb
  rw [hu] at hb
  exact h b e hb

theorem update {o : Option Bytes} (h : t.Bare) (hu : u.bytes? = Function.update t.bytes? a o)
    (hc : ∀ c ∈ o, c.Bare) : u.Bare := by
  intro b e hb
  rw [hu] at hb
  by_cases hba : b = a
  · rw [hba, Function.update_self] at hb
    exact hc e hb
  · rw [Function.update_of_ne hba] at hb
    exact h b e hb

theorem read (h : t.Bare) (hr : t.read p = .ok c) : c.Bare := by
  obtain ⟨a, x, -, hn⟩ := read_eq_ok.mp hr
  exact h a c (bytes?_eq_some.mpr ⟨x, hn⟩)

theorem readText (h : t.Bare) {s : Text} (hr : t.readText p = .ok s) : s.Bare := by
  rw [FileTree.readText] at hr
  split at hr
  · cases hr
  next c hc =>
  split at hr
  · cases hr
  next s' hs =>
  cases hr
  exact Utf8.bare_decode (h.read hc) hs

theorem write (h : t.Bare) (hw : t.write p c = .ok u) (hc : c.Bare) : u.Bare := by
  obtain ⟨a, -, -, hb⟩ := bytes?_write hw
  exact h.update hb (by simpa using hc)

theorem append (h : t.Bare) (hw : t.append p c = .ok u) (hc : c.Bare) : u.Bare := by
  obtain ⟨a, -, -, hb⟩ := bytes?_append hw
  have hold : Bytes.Bare ((t.bytes? a).getD []) := by
    cases ho : t.bytes? a with
    | none => exact List.not_mem_nil
    | some old => exact h a old ho
  exact h.update hb (by simpa using hold.append hc)

theorem makePath (h : t.Bare) (p : Text) : (t.makePath p).1.Bare := h.of_eq (bytes?_makePath t p)

theorem removeFile (h : t.Bare) (p : Text) : ((t.removeFile p).toOption.getD t).Bare := by
  cases hr : t.removeFile p with
  | error e => exact h
  | ok u =>
    obtain ⟨⟨a, n⟩, hf, hu⟩ := bind_eq_ok.mp hr
    cases n with
    | dir => cases hu
    | file x c =>
      cases hu
      exact h.update (bytes?_erase (leads_of_find hf).ne_nil) (by simp)

theorem makeTemp (h : t.Bare) (hd : dir.Bare) (hb : before.Bare) (ha : after.Bare) (hc : c.Bare)
    {x : Bool} (hm : t.makeTemp dir before after x c = .ok (u, p)) : u.Bare ∧ p.Bare := by
  obtain ⟨⟨a, n⟩, hfind, hm⟩ := bind_eq_ok.mp hm
  split at hm
  · cases hm
  next f heq =>
  cases heq
  obtain ⟨b, hspot, hm⟩ := bind_eq_ok.mp hm
  cases hm
  obtain ⟨⟨k, hk⟩, -⟩ := freshName_spec t a before after
  refine ⟨h.update (bytes?_put_file (fileSpot_eq_ok.mp hspot).1.ne_nil) (by simpa using hc), ?_⟩
  rw [hk]
  exact Path.bare_join hd ((hb.append (Text.bare_ofNat k)).append ha)

end Bare

end Guidebook.FileTree
