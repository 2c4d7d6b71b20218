import Guidebook.FileTree.Basic

namespace Guidebook.FileTree

variable {t u v : FileTree} {p q : Text} {a b : Address} {n : Node} {c d : Bytes} {s : Spot}

/-- An operation of two parts is done if both parts are. -/
theorem bind_eq_ok {α β : Type} {e : Except IoFault α} {f : α → Except IoFault β} {y : β} :
    (e >>= f) = .ok y ↔ ∃ x, e = .ok x ∧ f x = .ok y := by
  cases e <;> simp [bind, Except.bind]

theorem node?_put (h : a ≠ []) (b : Address) :
    (t.put a n).node? b = if b = a then some n else t.node? b := by
  by_cases hb : b = a
  · simp [node?, put, hb, h]
  · simp only [node?, put, List.find?_cons, hb, Ne.symm hb, decide_false, if_false]
    split
    · rfl
    · rw [List.find?_filter]
      congr 2
      funext x
      by_cases hx : x.1 = b <;> simp [hx, hb]

/-- From one tree to the next, nothing is lost but files at some addresses. -/
structure Keeps (P : Address → Prop) (t u : FileTree) : Prop where
  here : u.here = t.here
  node? : ∀ a n, t.node? a = some n → ¬ P a ∨ n = .dir → u.node? a = some n

namespace Keeps

variable {P : Address → Prop}

theorem refl (t : FileTree) : Keeps P t t := ⟨rfl, fun _ _ h _ => h⟩

theorem trans (htu : Keeps P t u) (huv : Keeps P u v) : Keeps P t v :=
  ⟨huv.here.trans htu.here, fun a n h hp => huv.node? a n (htu.node? a n h hp) hp⟩

theorem mono {Q : Address → Prop} (h : Keeps P t u) (hpq : ∀ a, P a → Q a) : Keeps Q t u :=
  ⟨h.here, fun a n ha hq => h.node? a n ha (hq.imp_left (mt (hpq a)))⟩

theorem put (ha : a ≠ []) (hd : t.node? a ≠ some .dir) : Keeps (· = a) t (t.put a n) := by
  refine ⟨rfl, fun b m hb hp => ?_⟩
  rw [node?_put ha, if_neg, hb]
  rintro rfl
  rcases hp with hp | rfl
  · exact hp rfl
  · exact hd hb

theorem dir (h : Keeps P t u) : ∀ a, t.node? a = some .dir → u.node? a = some .dir :=
  fun a ha => h.node? a .dir ha (.inr rfl)

end Keeps

section Descend

variable {ns ms : List Text}

/-- What keeps the directories on the way keeps the way. -/
theorem descend_keep {P : Address → Prop} (hup : ∀ a, P a → P a.dropLast)
    (hdown : ∀ a k, P a → t.node? (a ++ [k]) = some .dir → P (a ++ [k]))
    (hk : ∀ a, P a → t.node? a = some .dir → u.node? a = some .dir) (ha : P a)
    (h : t.descend a ns = .ok b) : u.descend a ns = .ok b ∧ P b := by
  fun_induction descend t a ns with
  | case1 a =>
    cases h
    exact ⟨by rw [descend], ha⟩
  | case2 a ns ih => exact ih ha h
  | case3 a ns _ ih => exact ih (hup a ha) h
  | case4 => cases h
  | case5 => cases h
  | case6 => cases h
  | case7 a k ns h₁ h₂ hn hd ih =>
    have hp := hdown a k ha hd
    rw [descend, if_neg h₁, if_neg h₂, if_neg hn, hk _ hp hd]
    exact ih hp h

theorem descend_append (ms ns : List Text) :
    t.descend a (ms ++ ns) = (t.descend a ms).bind (t.descend · ns) := by
  fun_induction descend t a ms with
  | case1 => rfl
  | case2 a ms ih => rw [List.cons_append, descend, if_pos rfl, ih]
  | case3 a ms h ih => rw [List.cons_append, descend, if_neg h, if_pos rfl, ih]
  | case4 a k ms h₁ h₂ hn => rw [List.cons_append, descend, if_neg h₁, if_neg h₂, if_pos hn]; rfl
  | case5 a k ms h₁ h₂ hn hk =>
    rw [List.cons_append, descend, if_neg h₁, if_neg h₂, if_neg hn, hk]
    rfl
  | case6 a k ms h₁ h₂ hn x c hk =>
    rw [List.cons_append, descend, if_neg h₁, if_neg h₂, if_neg hn, hk]
    rfl
  | case7 a k ms h₁ h₂ hn hk ih =>
    rw [List.cons_append, descend, if_neg h₁, if_neg h₂, if_neg hn, hk]
    exact ih

theorem descend_dots (k : Nat) : t.descend a (List.replicate k ['.']) = .ok a := by
  induction k with
  | zero => rfl
  | succ k ih => rwa [List.replicate_succ, descend, if_pos rfl]

/-- Where names lead does not depend on the tree, if they lead anywhere. -/
theorem descend_unique {a₁ a₂ : Address} (h₁ : t.descend a ns = .ok a₁)
    (h₂ : u.descend a ns = .ok a₂) : a₁ = a₂ := by
  fun_induction descend t a ns with
  | case1 a =>
    cases h₁
    exact Except.ok.inj h₂
  | case2 a ns ih =>
    rw [descend, if_pos rfl] at h₂
    exact ih h₁ h₂
  | case3 a ns h ih =>
    rw [descend, if_neg h, if_pos rfl] at h₂
    exact ih h₁ h₂
  | case4 | case5 | case6 => cases h₁
  | case7 a k ns h h' hn hk ih =>
    rw [descend, if_neg h, if_neg h', if_neg hn] at h₂
    split at h₂
    · cases h₂
    · cases h₂
    · exact ih h₁ h₂

end Descend

/-- Where a path starts from. -/
def start (t : FileTree) (p : Text) : Address := if Path.isAbsolute p then [] else t.here

/-- A path that an operation takes. -/
def Passable (p : Text) : Prop := '\x00' ∉ p ∧ Utf8.size p ≤ pathLimit

/-- A path leads to a name in a directory if and only if the names before it lead there. -/
theorem locate_eq_ok {f : Address} {k : Text} {slash : Bool} :
    t.locate p = .ok ⟨f, some k, slash⟩ ↔
      Passable p ∧ slash = decide (p.getLast? = some '/') ∧ k ≠ ['.'] ∧ k ≠ ['.', '.'] ∧
        ∃ before, Path.names p = before ++ [k] ∧ t.descend (t.start p) before = .ok f := by
  have hnil (before : List Text) (h : Path.names p = before ++ [k]) : p.isEmpty = false := by
    cases p with
    | nil => simp [Path.names, Text.pieces] at h
    | cons => rfl
  constructor
  · intro h
    rw [locate] at h
    split at h
    · cases h
    next hz =>
    split at h
    · cases h
    split at h
    · cases h
    next hl =>
    dsimp only at h
    split at h
    · cases h
    next last before hr =>
    split at h
    · cases h
    next g hg =>
    split at h
    · cases h
    next h₁ =>
    split at h
    · cases h
    next h₂ =>
    cases h
    have hn : Path.names p = before.reverse ++ [k] := by
      rw [← List.reverse_cons, ← hr, List.reverse_reverse]
    exact ⟨⟨by simpa using hz, Nat.not_lt.mp hl⟩, rfl, h₁, h₂, _, hn, hg⟩
  · rintro ⟨⟨hz, hl⟩, rfl, h₁, h₂, before, hn, hg⟩
    have hr : (Path.names p).reverse = k :: before.reverse := by simp [hn]
    rw [locate, if_neg (by simpa using hz), hnil before hn, if_neg Bool.false_ne_true,
      if_neg (Nat.not_lt.mpr hl)]
    simp only [hr, List.reverse_reverse]
    rw [start] at hg
    simp [hg, h₁, h₂]

/-- Where a path leads does not depend on the tree, if it leads to a name. -/
theorem locate_unique {f g : Address} {k l : Text} {y z : Bool} (hu : u.here = t.here)
    (ht : t.locate p = .ok ⟨f, some k, y⟩) (hu' : u.locate p = .ok ⟨g, some l, z⟩) :
    f = g ∧ k = l := by
  obtain ⟨-, -, -, -, before, hn, hd⟩ := locate_eq_ok.mp ht
  obtain ⟨-, -, -, -, before', hn', hd'⟩ := locate_eq_ok.mp hu'
  have hstart : u.start p = t.start p := by rw [start, start, hu]
  obtain ⟨rfl, hkl⟩ := List.append_inj' (hn.symm.trans hn') rfl
  rw [hstart] at hd'
  exact ⟨descend_unique hd hd', List.singleton_inj.mp hkl⟩

/-- A path leads to the address of a file, or to where it would be. -/
def Leads (t : FileTree) (p : Text) (a : Address) : Prop :=
  ∃ f k, t.locate p = .ok ⟨f, some k, false⟩ ∧ Utf8.size k ≤ nameLimit ∧ a = f ++ [k]

namespace Leads

theorem ne_nil (h : t.Leads p a) : a ≠ [] := by
  obtain ⟨f, k, -, -, rfl⟩ := h
  simp

theorem keep (hk : Keeps (fun _ => True) t u) (h : t.Leads p a) : u.Leads p a := by
  obtain ⟨f, k, hl, hs, rfl⟩ := h
  obtain ⟨hp, hslash, h₁, h₂, before, hn, hd⟩ := locate_eq_ok.mp hl
  have hstart : u.start p = t.start p := by rw [start, start, hk.here]
  have hd' := (descend_keep (P := fun _ => True) (fun _ _ => trivial) (fun _ _ _ _ => trivial)
    (fun a _ => hk.dir a) trivial hd).1
  exact ⟨f, k, locate_eq_ok.mpr ⟨hp, hslash, h₁, h₂, before, hn, hstart ▸ hd'⟩, hs, rfl⟩

theorem unique (hu : u.here = t.here) (ht : t.Leads p a) (hu' : u.Leads p b) : a = b := by
  obtain ⟨f, k, hl, -, rfl⟩ := ht
  obtain ⟨g, l, hm, -, rfl⟩ := hu'
  obtain ⟨rfl, rfl⟩ := locate_unique hu hl hm
  rfl

end Leads

theorem lookUp_name {f : Address} {k : Text} {slash : Bool} (hk : Utf8.size k ≤ nameLimit) :
    t.lookUp ⟨f, some k, slash⟩ = .ok (t.node? (f ++ [k])) :=
  if_neg (Nat.not_lt.mpr hk)

/-- Whatever is looked up has a name, unless it is a directory. -/
theorem lookUp_eq_ok {o : Option Node} (h : t.lookUp s = .ok o) (hd : o ≠ some .dir) :
    ∃ k, s.name = some k ∧ Utf8.size k ≤ nameLimit ∧ o = t.node? (s.folder ++ [k]) := by
  obtain ⟨f, _ | k, slash⟩ := s
  · exact absurd (Except.ok.inj h).symm hd
  · rw [lookUp] at h
    dsimp only at h
    split at h
    · cases h
    · next hk => exact ⟨k, rfl, Nat.not_lt.mp hk, (Except.ok.inj h).symm⟩

theorem find_of_leads (h : t.Leads p a) :
    t.find p = match t.node? a with
      | none => .error .notFound
      | some n => .ok (a, n) := by
  obtain ⟨f, k, hl, hk, rfl⟩ := h
  simp only [find, hl, lookUp_name hk, bind, Except.bind, Spot.address]
  cases t.node? (f ++ [k]) with
  | none => rfl
  | some n => cases n <;> rfl

theorem leads_of_find {x : Bool} (h : t.find p = .ok (a, .file x c)) : t.Leads p a := by
  obtain ⟨s, hl, h⟩ := bind_eq_ok.mp h
  obtain ⟨o, ho, h⟩ := bind_eq_ok.mp h
  split at h
  · cases h
  · cases h
  next y d =>
  split at h
  · cases h
  next hslash =>
  obtain ⟨k, hn, hk, -⟩ := lookUp_eq_ok ho (by simp)
  obtain ⟨f, name, slash⟩ := s
  cases hn
  rw [Bool.not_eq_true] at hslash
  cases hslash
  cases h
  exact ⟨f, k, hl, hk, rfl⟩

theorem read_eq_ok : t.read p = .ok c ↔ ∃ a x, t.Leads p a ∧ t.node? a = some (.file x c) := by
  constructor
  · intro h
    rw [read] at h
    split at h
    · cases h
    · cases h
    · next a x d hf =>
      cases h
      have ha := leads_of_find hf
      rw [find_of_leads ha] at hf
      refine ⟨a, x, ha, ?_⟩
      cases hn : t.node? a with
      | none => simp [hn] at hf
      | some n => simpa [hn] using hf
  · rintro ⟨a, x, ha, hn⟩
    simp only [read, find_of_leads ha, hn]

theorem existsAt_of_leads (h : t.Leads p a) : t.existsAt p = (t.node? a).isSome := by
  rw [existsAt, find_of_leads h]
  cases t.node? a <;> rfl

theorem isDirAt_of_leads (h : t.Leads p a) : t.isDirAt p = true ↔ t.node? a = some .dir := by
  rw [isDirAt, find_of_leads h]
  cases t.node? a with
  | none => simp
  | some n => cases n <;> simp

theorem fileSpot_eq_ok : t.fileSpot p = .ok a ↔ t.Leads p a ∧ t.node? a ≠ some .dir := by
  constructor
  · intro h
    obtain ⟨s, hl, h⟩ := bind_eq_ok.mp h
    split at h
    · cases h
    next hslash =>
    obtain ⟨o, ho, h⟩ := bind_eq_ok.mp h
    split at h
    · cases h
    next hd =>
    obtain ⟨k, hn, hk, rfl⟩ := lookUp_eq_ok ho fun hs => hd hs
    obtain ⟨f, name, slash⟩ := s
    cases hn
    rw [Bool.not_eq_true] at hslash
    cases hslash
    cases h
    exact ⟨⟨f, k, hl, hk, rfl⟩, hd⟩
  · rintro ⟨⟨f, k, hl, hk, rfl⟩, hd⟩
    simp only [fileSpot, hl, lookUp_name hk, bind, Except.bind, Spot.address, Bool.false_eq_true,
      if_false]

theorem write_eq_ok : t.write p c = .ok u ↔
    ∃ a, t.Leads p a ∧ t.node? a ≠ some .dir ∧ u = t.setContent a fun _ => c := by
  rw [write, bind_eq_ok]
  refine exists_congr fun a => ?_
  rw [fileSpot_eq_ok, and_assoc, Except.ok.injEq, eq_comm]

theorem setContent_eq_put (t : FileTree) (a : Address) (c : Bytes) :
    ∃ x, t.setContent a (fun _ => c) = t.put a (.file x c) := by
  rw [setContent]
  split
  · exact ⟨_, rfl⟩
  · exact ⟨_, rfl⟩

/-- What is written to a path is what is read there, and other files stay as they are. -/
theorem read_write (h : t.write p c = .ok u) :
    u.read p = .ok c ∧ ∃ a, t.Leads p a ∧ Keeps (· = a) t u := by
  obtain ⟨a, ha, hd, rfl⟩ := write_eq_ok.mp h
  obtain ⟨x, hx⟩ := setContent_eq_put t a c
  have hk : Keeps (· = a) t (t.put a (.file x c)) := .put ha.ne_nil hd
  rw [hx]
  refine ⟨read_eq_ok.mpr ⟨a, x, ha.keep (hk.mono fun _ _ => trivial), ?_⟩, a, ha, hk⟩
  rw [node?_put ha.ne_nil, if_pos rfl]

theorem read_keep {P : Address → Prop} (hk : Keeps P t u) (h : t.read p = .ok c) (ha : t.Leads p a)
    (hp : ¬ P a) : u.read p = .ok c := by
  obtain ⟨b, x, hb, hn⟩ := read_eq_ok.mp h
  cases ha.unique rfl hb
  exact read_eq_ok.mpr ⟨a, x, ha.keep (hk.mono fun _ _ => trivial), hk.node? a _ hn (.inl hp)⟩

section MakePath

variable {P : Address → Prop}

theorem keeps_makeDir (h : t.makeDir p = .ok u) : Keeps P t u := by
  obtain ⟨s, hl, h⟩ := bind_eq_ok.mp h
  obtain ⟨o, ho, h⟩ := bind_eq_ok.mp h
  split at h
  · cases h
  obtain ⟨k, hk, -, hn⟩ := lookUp_eq_ok ho (by simp)
  rw [Spot.address, hk] at h
  cases h
  have hput : Keeps (· = s.folder ++ [k]) t (t.put (s.folder ++ [k]) .dir) :=
    .put (by simp) (by simp [← hn])
  refine ⟨rfl, fun b m hb _ => hput.node? b m hb (.inl ?_)⟩
  rintro rfl
  rw [← hn] at hb
  cases hb

theorem keeps_makeDirs (t : FileTree) (ps : List Text) : Keeps P t (t.makeDirs ps).1 := by
  induction ps generalizing t with
  | nil => exact .refl t
  | cons p up ih =>
    rw [makeDirs]
    split
    · exact .refl t
    · split
      · next u hu => exact keeps_makeDir hu
      · have hup := ih t
        split
        · next u e hu => simpa [hu] using hup
        · next u hu =>
          rw [hu] at hup
          split
          · next v hv => exact hup.trans (keeps_makeDir hv)
          · split <;> exact hup
      · split <;> exact .refl t

theorem keeps_makePath (t : FileTree) (p : Text) : Keeps P t (t.makePath p).1 :=
  keeps_makeDirs t _

end MakePath

end Guidebook.FileTree
