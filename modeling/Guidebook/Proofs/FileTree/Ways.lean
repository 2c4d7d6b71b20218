import Guidebook.Proofs.FileTree.Temporary

namespace Guidebook.FileTree

variable {t u v : FileTree} {p q : Text} {a b : Address} {n : Node} {P : Address → Prop}

/-- A path leads through a directory before its last name. -/
def Through (t : FileTree) (p : Text) (a : Address) : Prop :=
  ∃ front back, back ≠ [] ∧ Path.names p = front ++ back ∧ t.descend (t.start p) front = .ok a

theorem descend_mono {ns : List Text} (hd : ∀ a, t.node? a = some .dir → u.node? a = some .dir)
    (h : t.descend a ns = .ok b) : u.descend a ns = .ok b :=
  (descend_keep (P := fun _ => True) (fun _ _ => trivial) (fun _ _ _ _ => trivial) (fun a _ => hd a)
    trivial h).1

theorem Reaches.keep (hk : Keeps P t u) (h : t.Reaches p a) : u.Reaches p a := by
  rw [Reaches, start, hk.here]
  exact descend_mono hk.dir h

theorem Through.keep (hk : Keeps P t u) (h : t.Through p a) : u.Through p a := by
  obtain ⟨front, back, hne, hn, hd⟩ := h
  refine ⟨front, back, hne, hn, ?_⟩
  rw [start, hk.here]
  exact descend_mono hk.dir hd

theorem Reaches.through (h : t.Reaches q a) (hq : Path.Above q p) : t.Through p a := by
  obtain ⟨back, hne, hn⟩ := hq.names
  refine ⟨Path.names q, back, hne, hn, ?_⟩
  rwa [start, ← hq.absolute]

/-- What is new from one tree to the next are directories, each of them where one of these paths
leads. -/
def Lays (ps : List Text) (t u : FileTree) : Prop :=
  ∀ a n, u.node? a = some n → t.node? a = none → n = .dir ∧ ∃ q ∈ ps, u.Reaches q a

theorem Lays.refl (ps : List Text) (t : FileTree) : Lays ps t t := fun a n hn hnone => by
  rw [hn] at hnone
  cases hnone

theorem Lays.trans {ps : List Text} (htu : Lays ps t u) (huv : Lays ps u v) (hk : Keeps P u v) :
    Lays ps t v := by
  intro a n hn hnone
  cases hu : u.node? a with
  | none => exact huv a n hn hu
  | some m =>
    obtain ⟨rfl, q, hq, hr⟩ := htu a m hu hnone
    rw [hk.dir a hu, Option.some.injEq] at hn
    exact ⟨hn.symm, q, hq, hr.keep hk⟩

theorem Lays.mono {ps qs : List Text} (h : Lays ps t u) (hsub : ps ⊆ qs) : Lays qs t u :=
  fun a n hn hnone => (h a n hn hnone).imp_right fun ⟨q, hq, hr⟩ => ⟨q, hsub hq, hr⟩

/-- A directory that is made is where its path leads. -/
theorem makeDir_eq_ok (h : t.makeDir p = .ok u) :
    ∃ a, a ≠ [] ∧ t.node? a = none ∧ u = t.put a .dir ∧ u.Reaches p a ∧
      (t.Rooted t.here → t.Rooted a.dropLast) := by
  obtain ⟨s, hl, h⟩ := bind_eq_ok.mp h
  obtain ⟨o, ho, h⟩ := bind_eq_ok.mp h
  split at h
  · cases h
  obtain ⟨k, hk, hsize, hn⟩ := lookUp_eq_ok ho (by simp)
  obtain ⟨f, name, slash⟩ := s
  cases hk
  cases h
  obtain ⟨-, -, h₁, h₂, before, hnames, hd⟩ := locate_eq_ok.mp hl
  have hne : f ++ [k] ≠ [] := by simp
  have hkeep : Keeps (· = f ++ [k]) t (t.put (f ++ [k]) .dir) := .put hne (by simp [← hn])
  refine ⟨f ++ [k], hne, hn.symm, rfl, ?_, fun hr => ?_⟩
  · have hput : (t.put (f ++ [k]) .dir).node? (f ++ [k]) = some .dir := by
      rw [node?_put hne, if_pos rfl]
    have hfront : (t.put (f ++ [k]) .dir).descend (t.start p) before = .ok f :=
      descend_mono hkeep.dir hd
    show (t.put (f ++ [k]) .dir).descend (t.start p) (Path.names p) = _
    rw [hnames, descend_append, hfront]
    show descend _ f [k] = _
    rw [descend, if_neg h₁, if_neg h₂, if_neg (Nat.not_lt.mpr hsize), hput]
    rfl
  · rw [List.dropLast_concat]
    exact descend_rooted (hr.start p) hd

theorem lays_makeDir (h : t.makeDir p = .ok u) : Lays [p] t u := by
  obtain ⟨a, hne, -, rfl, hr, -⟩ := makeDir_eq_ok h
  intro b n hb hnone
  rw [node?_put hne] at hb
  split at hb
  · next hba => exact ⟨(Option.some.inj hb).symm, p, List.mem_singleton_self p, hba ▸ hr⟩
  · rw [hnone] at hb
    cases hb

theorem Sound.makeDir (hs : t.Sound) (h : t.makeDir p = .ok u) : u.Sound := by
  obtain ⟨a, hne, hnone, rfl, -, hr⟩ := makeDir_eq_ok h
  exact hs.put hne (by simp [hnone]) (hr hs.here)

theorem makeDirs_sound (hs : t.Sound) (ps : List Text) :
    (t.makeDirs ps).1.Sound ∧ Lays ps t (t.makeDirs ps).1 := by
  induction ps generalizing t with
  | nil => exact ⟨hs, .refl [] t⟩
  | cons p up ih =>
    have hhead : [p] ⊆ p :: up := by simp
    rw [makeDirs]
    split
    · exact ⟨hs, .refl _ t⟩
    · split
      · next u hu => exact ⟨hs.makeDir hu, (lays_makeDir hu).mono hhead⟩
      · obtain ⟨hup, hlays⟩ := ih hs
        have hlays := hlays.mono (List.subset_cons_self p up)
        split
        · next u e hu =>
          rw [hu] at hup hlays
          exact ⟨hup, hlays⟩
        · next u hu =>
          rw [hu] at hup hlays
          split
          · next v hv =>
            exact ⟨hup.makeDir hv,
              hlays.trans ((lays_makeDir hv).mono hhead) (keeps_makeDir (P := fun _ => False) hv)⟩
          · split <;> exact ⟨hup, hlays⟩
      · split <;> exact ⟨hs, .refl _ t⟩

/-- From one tree to the next, nothing is different but what is at some addresses, and nothing else
is new but directories that a path leads through. -/
structure Paves (P : Address → Prop) (p : Text) (t u : FileTree) : Prop extends Keeps P t u where
  added : ∀ a n, ¬P a → u.node? a = some n → t.node? a = none → n = .dir ∧ u.Through p a

namespace Paves

variable (h : Paves (fun _ => False) p t v)

include h

theorem same (hhere : u.here = v.here) (hnode : u.node? = v.node?) :
    Paves (fun _ => False) p t u := by
  have hk : Keeps (fun _ => False) v u := ⟨hhere, fun a n hn _ => by rwa [hnode]⟩
  refine ⟨h.toKeeps.trans hk, fun a n hp hn hnone => ?_⟩
  rw [hnode] at hn
  exact (h.added a n hp hn hnone).imp_right (Through.keep hk)

/-- A node that takes the place of no directory is what is different then. -/
theorem place (hhere : u.here = v.here) (hb : v.node? b ≠ some .dir)
    (hnode : ∀ d, u.node? d = if d = b then some n else v.node? d) :
    t.node? b ≠ some .dir ∧ Paves (· = b) p t u := by
  have hk : Keeps (· = b) v u := by
    refine ⟨hhere, fun d m hm hp => ?_⟩
    rw [hnode, if_neg, hm]
    rintro rfl
    rcases hp with hp | rfl
    · exact hp rfl
    · exact hb hm
  refine ⟨fun hd => hb (h.dir b hd), (h.toKeeps.mono fun _ => False.elim).trans hk, ?_⟩
  intro d m hd hm hnone
  rw [hnode, if_neg hd] at hm
  exact (h.added d m id hm hnone).imp_right (Through.keep hk)

end Paves

end Guidebook.FileTree
