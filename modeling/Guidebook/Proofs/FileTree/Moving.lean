import Guidebook.Proofs.FileTree.Keeping
import Guidebook.Proofs.Path.Names
import Mathlib.Data.List.Infix

namespace Guidebook.FileTree

variable {t u : FileTree} {p q : Text} {a b d : Address} {c : Bytes} {x : Bool}

/-- Where a node goes when what is at one address is moved to another. -/
def moved (a b d : Address) : Address := if a.isPrefixOf d then b ++ d.drop a.length else d

theorem moved_below (h : a <+: d) : moved a b d = b ++ d.drop a.length :=
  if_pos (List.isPrefixOf_iff_prefix.mpr h)

theorem moved_apart (h : ¬ a <+: d) : moved a b d = d :=
  if_neg (mt List.isPrefixOf_iff_prefix.mp h)

theorem move_nodes (t : FileTree) (a b : Address) :
    (t.move a b).nodes = ((t.nodes.filter (·.1 ≠ b)).map fun e => (moved a b e.1, e.2)) := by
  rw [move, erase]
  refine List.map_congr_left fun ⟨d, n⟩ _ => ?_
  simp only [moved]
  split <;> rfl

theorem node?_move (hd : d ≠ []) : (t.move a b).node? d =
    (t.nodes.find? fun e => e.1 ≠ b ∧ moved a b e.1 = d).map (·.2) := by
  have hsnd : ((·.2) ∘ fun e : Address × Node => (moved a b e.1, e.2)) = (·.2) := rfl
  simp only [node?, if_neg hd, move_nodes, List.find?_map, Option.map_map, List.find?_filter, hsnd]
  congr 2
  funext e
  simp

theorem node?_move_apart (ha : ¬ a <+: d) (hb : ¬ b <+: d) : (t.move a b).node? d = t.node? d := by
  by_cases hd : d = []
  · simp [node?, hd]
  · rw [node?_move hd, node?, if_neg hd]
    congr 2
    funext e
    -- What was moved is below `b` now, and everything else is where it was.
    refine decide_eq_decide.mpr ⟨?_, ?_⟩
    · rintro ⟨-, he⟩
      by_cases hp : a <+: e.1
      · exact absurd (he ▸ moved_below hp ▸ List.prefix_append ..) hb
      · rwa [moved_apart hp] at he
    · rintro rfl
      exact ⟨fun he => hb (he ▸ List.prefix_rfl), moved_apart ha⟩

theorem node?_move_old (ha : a ≠ []) (hb : ¬ b <+: a) : (t.move a b).node? a = none := by
  rw [node?_move ha, Option.map_eq_none_iff, List.find?_eq_none]
  intro e _ he
  have he : moved a b e.1 = a := (of_decide_eq_true he).2
  by_cases hp : a <+: e.1
  · exact hb (he ▸ moved_below hp ▸ List.prefix_append ..)
  · rw [moved_apart hp] at he
    exact hp (he ▸ List.prefix_rfl)

theorem node?_move_new (ha : a ≠ []) (hb : b ≠ []) (hab : ¬ a <+: b) :
    (t.move a b).node? b = t.node? a := by
  rw [node?_move hb, node?, if_neg ha]
  congr 2
  funext e
  refine decide_eq_decide.mpr ⟨?_, ?_⟩
  · rintro ⟨hne, he⟩
    by_cases hp : a <+: e.1
    · rw [moved_below hp] at he
      have hdrop : e.1.drop a.length = [] := List.append_right_eq_self.mp he
      obtain ⟨r, hr⟩ := hp
      rw [← hr, List.drop_left] at hdrop
      rw [← hr, hdrop, List.append_nil]
    · rw [moved_apart hp] at he
      exact absurd he hne
  · rintro rfl
    refine ⟨fun he => hab (he ▸ List.prefix_rfl), ?_⟩
    rw [moved_below List.prefix_rfl, List.drop_length, List.append_nil]

/-- What is renamed has a name, and so has what it becomes. It is moved unless it is there already. -/
theorem rename_eq_ok (h : t.rename p q = .ok u) :
    ∃ s r, t.locate p = .ok s ∧ t.locate q = .ok r ∧ s.name.isSome ∧ r.name.isSome ∧
      (s.address = r.address ∨ u = t.move s.address r.address) := by
  obtain ⟨s, hs, h⟩ := bind_eq_ok.mp h
  obtain ⟨r, hr, h⟩ := bind_eq_ok.mp h
  split at h
  · cases h
  next hn =>
  simp only [Bool.or_eq_true, not_or, Bool.not_eq_true, Option.isNone_eq_false_iff] at hn
  refine ⟨s, r, hs, hr, hn.1, hn.2, or_iff_not_imp_left.mpr fun hab => ?_⟩
  obtain ⟨o, -, h⟩ := bind_eq_ok.mp h
  obtain ⟨o', -, h⟩ := bind_eq_ok.mp h
  simp only [hab, if_false] at h
  repeat' split at h
  all_goals first | cases h; rfl | cases h

/-- A file can take any name in a directory but that of a directory. -/
theorem rename_file (ha : t.Leads p a) (hf : t.node? a = some (.file x c)) :
    t.rename p q = .ok u ↔ ∃ b, t.Leads q b ∧ t.node? b ≠ some .dir ∧
      u = if a = b then t else t.move a b := by
  obtain ⟨f, k, hl, hk, rfl⟩ := ha
  constructor
  · intro h
    obtain ⟨s, hs, h⟩ := bind_eq_ok.mp h
    obtain ⟨⟨g, name, slash⟩, hr, h⟩ := bind_eq_ok.mp h
    cases hl.symm.trans hs
    split at h
    · cases h
    next hn =>
    obtain ⟨o, ho, h⟩ := bind_eq_ok.mp h
    cases ho.symm.trans ((lookUp_name hk).trans (congrArg _ hf))
    obtain ⟨o, ho, h⟩ := bind_eq_ok.mp h
    dsimp only at h
    split at h
    · cases h
    next hslash =>
    split at h
    · cases h
    next hd =>
    obtain ⟨l, hl, hl', rfl⟩ := lookUp_eq_ok ho hd
    cases hl
    rw [Bool.false_or, Bool.not_eq_true] at hslash
    cases hslash
    refine ⟨g ++ [l], ⟨g, l, hr, hl', rfl⟩, hd, ?_⟩
    simp only [Spot.address] at h
    by_cases hab : f ++ [k] = g ++ [l] <;> simpa [hab, eq_comm] using h
  · rintro ⟨b, ⟨g, l, hm, hl', rfl⟩, hd, rfl⟩
    simp only [rename, hl, bind, Except.bind, lookUp_name hk, hf, hm, lookUp_name hl', hd,
      Option.isNone_some, Bool.or_self, Bool.false_eq_true, if_false, Spot.address]
    by_cases hab : f ++ [k] = g ++ [l] <;> simp [hab]

/-- All that leads to an address is directories. -/
def Rooted (t : FileTree) (a : Address) : Prop := ∀ d, d <+: a → t.node? d = some .dir

namespace Rooted

theorem nil : t.Rooted [] := fun d hd => by simp [List.prefix_nil.mp hd, node?]

theorem dropLast (h : t.Rooted a) : t.Rooted a.dropLast :=
  fun d hd => h d (hd.trans a.dropLast_prefix)

theorem concat {k : Text} (h : t.Rooted a) (hk : t.node? (a ++ [k]) = some .dir) :
    t.Rooted (a ++ [k]) := by
  intro d hd
  rcases List.prefix_concat_iff.mp hd with rfl | hd
  · exact hk
  · exact h d hd

theorem start (h : t.Rooted t.here) (p : Text) : t.Rooted (t.start p) := by
  rw [FileTree.start]
  split
  · exact nil
  · exact h

theorem move (h : t.Rooted d) (ha : t.node? a ≠ some .dir) (hb : t.node? b ≠ some .dir) :
    (t.move a b).node? d = some .dir := by
  rw [node?_move_apart (fun hp => ha (h a hp)) fun hp => hb (h b hp)]
  exact h d List.prefix_rfl

end Rooted

/-- A path still leads where it led after a file was moved. -/
theorem Leads.move (hr : t.Rooted t.here) (ha : t.node? a ≠ some .dir)
    (hb : t.node? b ≠ some .dir) (h : t.Leads q d) : (t.move a b).Leads q d := by
  obtain ⟨f, k, hl, hs, rfl⟩ := h
  obtain ⟨hp, hslash, h₁, h₂, before, hn, hd⟩ := locate_eq_ok.mp hl
  have hd' := (descend_keep (P := t.Rooted) (fun _ => Rooted.dropLast) (fun _ _ => Rooted.concat)
    (fun d hd _ => hd.move ha hb) (hr.start q) hd).1
  exact ⟨f, k, locate_eq_ok.mpr ⟨hp, hslash, h₁, h₂, before, hn, hd'⟩, hs, rfl⟩

/-- A path with another last name leads to that name in the same directory. -/
theorem locate_withFileName {f : Address} {k m : Text} {slash : Bool}
    (h : t.locate p = .ok ⟨f, some k, slash⟩) (hm : Path.Single m) (hz : '\x00' ∉ m)
    (hm₀ : m ≠ []) (hm₁ : m ≠ ['.']) (hm₂ : m ≠ ['.', '.'])
    (hs : Utf8.size (Path.withFileName p m) ≤ pathLimit) :
    t.locate (Path.withFileName p m) = .ok ⟨f, some m, false⟩ := by
  obtain ⟨⟨hp, -⟩, -, h₁, h₂, before, hn, hd⟩ := locate_eq_ok.mp h
  obtain ⟨ns, j, hw, rfl, ha, hslash, hc⟩ := Path.exists_withFileName hn h₁ h₂ hm hm₀
  have hz' : '\x00' ∉ Path.withFileName p m := fun h => by
    rcases hc _ h with h | h | h
    · cases h
    · exact hp h
    · exact hz h
  have hstart : t.start (Path.withFileName p m) = t.start p := by rw [start, start, ha]
  refine locate_eq_ok.mpr ⟨⟨hz', hs⟩, by simpa using hslash, hm₁, hm₂, ns, hw, ?_⟩
  rw [descend_append] at hd
  rw [hstart]
  cases hns : t.descend (t.start p) ns with
  | error e => simp [hns, Except.bind] at hd
  | ok g =>
    simp only [hns, Except.bind, descend_dots] at hd
    exact hd

section Sound

variable {n : Node}

/-- A tree as it can be on a disk: all that leads to the place that relative paths start from, or to
a node, is directories. -/
structure Sound (t : FileTree) : Prop where
  here : t.Rooted t.here
  above : ∀ a n, t.node? a = some n → t.Rooted a.dropLast

section Decide

theorem rooted_iff : t.Rooted a ↔ ∀ d ∈ a.inits, t.node? d = some .dir := by
  simp only [Rooted, List.mem_inits]

instance : Decidable (t.Rooted a) := decidable_of_iff _ rooted_iff.symm

theorem mem_nodes (ha : a ≠ []) (h : t.node? a = some n) : (a, n) ∈ t.nodes := by
  rw [node?, if_neg ha, Option.map_eq_some_iff] at h
  obtain ⟨⟨d, m⟩, hf, rfl⟩ := h
  obtain rfl : d = a := by simpa using List.find?_some hf
  exact List.mem_of_find?_eq_some hf

theorem exists_node {e : Address × Node} (h : e ∈ t.nodes) : ∃ n, t.node? e.1 = some n := by
  by_cases he : e.1 = []
  · exact ⟨.dir, if_pos he⟩
  · rw [node?, if_neg he]
    have hsome : (t.nodes.find? (·.1 = e.1)).isSome := List.find?_isSome.mpr ⟨e, h, by simp⟩
    obtain ⟨f, hf⟩ := Option.isSome_iff_exists.mp hsome
    exact ⟨f.2, by rw [hf, Option.map_some]⟩

theorem sound_iff : t.Sound ↔ t.Rooted t.here ∧ ∀ e ∈ t.nodes, t.Rooted e.1.dropLast := by
  constructor
  · rintro ⟨hhere, habove⟩
    refine ⟨hhere, fun e he => ?_⟩
    obtain ⟨n, hn⟩ := exists_node he
    exact habove _ n hn
  · rintro ⟨hhere, hnodes⟩
    refine ⟨hhere, fun a n hn => ?_⟩
    by_cases ha : a = []
    · rw [ha]
      exact .nil
    · exact hnodes _ (mem_nodes ha hn)

instance : Decidable t.Sound := decidable_of_iff _ sound_iff.symm

end Decide

theorem descend_rooted {ns : List Text} (ha : t.Rooted a) (h : t.descend a ns = .ok b) :
    t.Rooted b :=
  (descend_keep (P := t.Rooted) (fun _ => Rooted.dropLast) (fun _ _ => Rooted.concat)
    (fun _ _ h => h) ha h).2

namespace Sound

theorem leads (hs : t.Sound) (h : t.Leads p a) : t.Rooted a.dropLast := by
  obtain ⟨f, k, hl, -, rfl⟩ := h
  obtain ⟨-, -, -, -, before, -, hd⟩ := locate_eq_ok.mp hl
  rw [List.dropLast_concat]
  exact descend_rooted (hs.here.start p) hd

/-- There is nothing below what is no directory. -/
theorem below (hs : t.Sound) (ha : t.node? a ≠ some .dir) (hd : a <+: d) (hne : d ≠ a) :
    t.node? d = none := by
  by_contra hn
  obtain ⟨n, hn⟩ := Option.ne_none_iff_exists'.mp hn
  rcases List.eq_nil_or_concat' d with rfl | ⟨f, k, rfl⟩
  · exact hne (List.prefix_nil.mp hd).symm
  · have hf := hs.above _ n hn
    rw [List.dropLast_concat] at hf
    rcases List.prefix_concat_iff.mp hd with rfl | hd
    · exact hne rfl
    · exact ha (hf a hd)

/-- A tree is sound as long as no directory is lost and what is new is put into directories. -/
theorem of_dirs (hs : t.Sound) (hhere : u.here = t.here)
    (hdirs : ∀ a, t.node? a = some .dir → u.node? a = some .dir)
    (hnew : ∀ a n, u.node? a = some n → t.node? a = none → t.Rooted a.dropLast) : u.Sound := by
  have hrooted {a} (h : t.Rooted a) : u.Rooted a := fun d hd => hdirs d (h d hd)
  refine ⟨hhere ▸ hrooted hs.here, fun a n hn => hrooted ?_⟩
  cases hold : t.node? a with
  | none => exact hnew a n hn hold
  | some m => exact hs.above a m hold

theorem same (hs : t.Sound) (hhere : u.here = t.here) (hnode : u.node? = t.node?) : u.Sound :=
  hs.of_dirs hhere (fun a ha => by rwa [hnode]) fun a n hn hnone => by
    rw [hnode, hnone] at hn
    cases hn

theorem put (hs : t.Sound) (ha : a ≠ []) (hd : t.node? a ≠ some .dir) (hr : t.Rooted a.dropLast) :
    (t.put a n).Sound := by
  refine hs.of_dirs rfl (Keeps.put ha hd).dir fun d m hm hn => ?_
  by_cases hda : d = a
  · exact hda ▸ hr
  · rw [node?_put ha, if_neg hda, hn] at hm
    cases hm

section Move

variable (hs : t.Sound) (ha : t.node? a = some (.file x c)) (hb : t.node? b ≠ some .dir)
  (hr : t.Rooted b.dropLast) (hab : a ≠ b)

include hs ha hb hr hab

/-- A file that is moved is what it was, at its new address, and nothing else is different. -/
theorem node?_move (d : Address) :
    (t.move a b).node? d = if d = b then t.node? a else if d = a then none else t.node? d := by
  have ha₀ : a ≠ [] := by
    rintro rfl
    cases ha
  have hb₀ : b ≠ [] := by
    rintro rfl
    exact hb rfl
  have had : t.node? a ≠ some .dir := by simp [ha]
  have hapart : ¬a <+: b := fun hp => by
    obtain ⟨f, k, rfl⟩ := (List.eq_nil_or_concat' b).resolve_left hb₀
    rw [List.dropLast_concat] at hr
    rcases List.prefix_concat_iff.mp hp with h | h
    · exact hab h
    · exact had (hr a h)
  have hbpart : ¬b <+: a := fun hp => by
    rw [hs.below hb hp hab] at ha
    cases ha
  by_cases hdb : d = b
  · rw [if_pos hdb, hdb, node?_move_new ha₀ hb₀ hapart]
  by_cases hda : d = a
  · rw [if_neg hdb, if_pos hda, hda, node?_move_old ha₀ hbpart]
  rw [if_neg hdb, if_neg hda]
  by_cases hbelow : a <+: d ∨ b <+: d
  · -- Nothing was below the two, and nothing has come there.
    have hd₀ : d ≠ [] := by
      rintro rfl
      rcases hbelow with h | h
      · exact ha₀ (List.prefix_nil.mp h)
      · exact hb₀ (List.prefix_nil.mp h)
    have hnone : t.node? d = none := by
      rcases hbelow with h | h
      · exact hs.below had h hda
      · exact hs.below hb h hdb
    rw [hnone, FileTree.node?_move hd₀, Option.map_eq_none_iff, List.find?_eq_none]
    intro e he hmoved
    obtain ⟨m, hm⟩ := exists_node he
    have hmoved : moved a b e.1 = d := (of_decide_eq_true hmoved).2
    by_cases hp : a <+: e.1
    · have hea : e.1 = a := by
        by_contra hne
        rw [hs.below had hp hne] at hm
        cases hm
      rw [moved_below hp, hea, List.drop_length, List.append_nil] at hmoved
      exact hdb hmoved.symm
    · rw [moved_apart hp] at hmoved
      rw [hmoved, hnone] at hm
      cases hm
  · rw [not_or] at hbelow
    exact node?_move_apart hbelow.1 hbelow.2

theorem move : (t.move a b).Sound := by
  have hnode := hs.node?_move ha hb hr hab
  refine hs.of_dirs rfl (fun d hd => ?_) fun d n hn hnone => ?_
  · have hdb : d ≠ b := fun h => hb (h ▸ hd)
    have hda : d ≠ a := by
      rintro rfl
      rw [ha] at hd
      cases hd
    rwa [hnode, if_neg hdb, if_neg hda]
  · by_cases hdb : d = b
    · exact hdb ▸ hr
    · rw [hnode, if_neg hdb, hnone] at hn
      split at hn <;> cases hn

end Move

end Sound

end Sound

end Guidebook.FileTree
