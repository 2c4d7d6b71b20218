import Guidebook.Proofs.FileTree.Files
import Guidebook.Proofs.FileTree.Moving
import Guidebook.Proofs.Text.Number
import Mathlib.Data.List.Nodup
import Mathlib.Data.List.Perm.Subperm

namespace Guidebook.FileTree

variable {t u : FileTree} {p dir before after : Text} {a b : Address} {c : Bytes} {x : Bool}

section Fresh

theorem mem_addresses (ha : a ≠ []) (h : t.node? a ≠ none) : a ∈ t.nodes.map (·.1) := by
  rw [node?, if_neg ha, Ne, Option.map_eq_none_iff, List.find?_eq_none] at h
  push Not at h
  obtain ⟨e, he, heq⟩ := h
  exact List.mem_map.mpr ⟨e, he, of_decide_eq_true heq⟩

theorem numbered_injective (a : Address) (before after : Text) :
    Function.Injective fun k => a ++ [before ++ Text.ofNat k ++ after] := by
  intro j k h
  have hname : before ++ Text.ofNat j ++ after = before ++ Text.ofNat k ++ after := by simpa using h
  exact Text.ofNat_injective (List.append_cancel_left (List.append_cancel_right hname))

/-- Of one number more than there are nodes, one is free. -/
theorem exists_free (t : FileTree) (a : Address) (before after : Text) :
    ∃ k ∈ List.range (t.nodes.length + 1), t.node? (a ++ [before ++ Text.ofNat k ++ after]) = none := by
  by_contra! htaken
  have hsub : (List.range (t.nodes.length + 1)).map
      (fun k => a ++ [before ++ Text.ofNat k ++ after]) ⊆ t.nodes.map (·.1) := by
    intro b hb
    obtain ⟨k, hk, rfl⟩ := List.mem_map.mp hb
    exact mem_addresses (by simp) (htaken k hk)
  have hnodup := (List.nodup_range (n := t.nodes.length + 1)).map (numbered_injective a before after)
  have hlength := (List.subperm_of_subset hnodup hsub).length_le
  rw [List.length_map, List.length_map, List.length_range] at hlength
  omega

theorem freshName_spec (t : FileTree) (a : Address) (before after : Text) :
    (∃ k, t.freshName a before after = before ++ Text.ofNat k ++ after) ∧
      t.node? (a ++ [t.freshName a before after]) = none := by
  obtain ⟨k, hk, hfree⟩ := exists_free t a before after
  rw [freshName]
  cases hf : (List.range (t.nodes.length + 1)).find? fun k =>
      (t.node? (a ++ [before ++ Text.ofNat k ++ after])).isNone with
  | none => exact absurd hfree (by simpa using List.find?_eq_none.mp hf k hk)
  | some j => exact ⟨⟨j, rfl⟩, by simpa using List.find?_some hf⟩

end Fresh

section Below

theorem isAbsolute_of_names_eq_nil (hp : p ≠ []) (h : Path.names p = []) :
    Path.isAbsolute p = true := by
  obtain ⟨m, ms, hm⟩ := List.exists_cons_of_ne_nil (Text.pieces_ne_nil (· == '/') p)
  rw [Path.isAbsolute_eq hm hp]
  rw [Path.names, hm, List.filter_eq_nil_iff] at h
  simpa using h m List.mem_cons_self

theorem descend_concat {ns : List Text} (h : t.descend a ns = .ok b) (n : Text) :
    t.descend a (ns ++ [n]) = t.descend b [n] := by
  rw [descend_append, h]
  rfl

/-- A path that leads to a directory leads there name by name. -/
theorem descend_of_locate {s : Spot} (h : t.locate p = .ok s) (hd : t.lookUp s = .ok (some .dir)) :
    t.descend (t.start p) (Path.names p) = .ok s.address := by
  rw [locate] at h
  split at h
  · cases h
  split at h
  · cases h
  next hp =>
  split at h
  · cases h
  dsimp only at h
  split at h
  · next hr =>
    have hn : Path.names p = [] := List.reverse_eq_nil_iff.mp hr
    cases h
    rw [hn, start, isAbsolute_of_names_eq_nil (by simpa using hp) hn]
    rfl
  next last before hr =>
  have hn : Path.names p = before.reverse ++ [last] := by
    rw [← List.reverse_cons, ← hr, List.reverse_reverse]
  split at h
  · cases h
  next f hf =>
  rw [← start] at hf
  rw [hn, descend_concat hf]
  split at h
  · next hdot =>
    cases h
    rw [hdot]
    rfl
  next hdot =>
  split at h
  · next hdots =>
    cases h
    rw [hdots]
    rfl
  next hdots =>
  cases h
  rw [lookUp] at hd
  dsimp only at hd
  split at hd
  · cases hd
  next hsize =>
  rw [descend, if_neg hdot, if_neg hdots, if_neg hsize, Except.ok.inj hd]
  rfl

theorem descend_of_find (h : t.find dir = .ok (a, .dir)) :
    t.descend (t.start dir) (Path.names dir) = .ok a := by
  obtain ⟨s, hs, h⟩ := bind_eq_ok.mp h
  obtain ⟨o, ho, h⟩ := bind_eq_ok.mp h
  split at h
  · cases h
  · cases h
    exact descend_of_locate hs ho
  · split at h <;> cases h

/-- A path leads, name by name, to a directory. -/
def Reaches (t : FileTree) (p : Text) (a : Address) : Prop :=
  t.descend (t.start p) (Path.names p) = .ok a

theorem Reaches.unique (ha : t.Reaches p a) (hb : t.Reaches p b) : a = b :=
  Except.ok.inj (ha.symm.trans hb)

theorem reaches_of_leads {n : Text} (hs : Path.Single n) (hn : n ≠ [])
    (h : t.Leads (Path.join p n) b) : ∃ d, t.Reaches p d ∧ b = d ++ [n] := by
  obtain ⟨f, k, hl, -, rfl⟩ := h
  obtain ⟨-, -, -, -, front, hnames, hf⟩ := locate_eq_ok.mp hl
  rw [Path.names_join p hs hn] at hnames
  obtain ⟨rfl, hk⟩ := List.append_inj' hnames rfl
  rw [start, Path.isAbsolute_join p hs, ← start] at hf
  exact ⟨f, hf, by rw [hk]⟩

/-- A name below a directory leads to the place of that name in the directory. -/
theorem leads_join {n : Text} (hd : t.find dir = .ok (a, .dir)) (hs : Path.Single n) (hn : n ≠ [])
    (h : t.Leads (Path.join dir n) b) : b = a ++ [n] := by
  obtain ⟨d, hreach, rfl⟩ := reaches_of_leads hs hn h
  rw [hreach.unique (descend_of_find hd)]

end Below

section Temp

/-- Where a new file is put, and its path. -/
def tempSpot (t : FileTree) (dir before after : Text) : Except IoFault (Address × Text) := do
  match ← t.find dir with
  | (_, .file ..) => .error .notDirectory
  | (a, .dir) =>
    let p := Path.join dir (t.freshName a before after)
    let b ← t.fileSpot p
    .ok (b, p)

theorem makeTemp_eq (t : FileTree) (dir before after : Text) (x : Bool) (c : Bytes) :
    t.makeTemp dir before after x c =
      (t.tempSpot dir before after).map fun r => (t.put r.1 (.file x c), r.2) := by
  rw [makeTemp, tempSpot]
  cases t.find dir with
  | error e => rfl
  | ok r =>
    obtain ⟨a, _ | ⟨y, d⟩⟩ := r
    · simp only [bind, Except.bind]
      cases t.fileSpot (Path.join dir (t.freshName a before after)) <;> rfl
    · rfl

variable (hb : Path.Single before) (ha : Path.Single after) (hne : before ≠ [])

include hb ha hne

/-- A new file is put where nothing is. -/
theorem tempSpot_eq_ok (h : t.tempSpot dir before after = .ok (b, p)) :
    ∃ a k, b = a ++ [before ++ Text.ofNat k ++ after] ∧ t.Leads p b ∧ t.node? b = none := by
  obtain ⟨⟨a, n⟩, hfind, h⟩ := bind_eq_ok.mp h
  split at h
  · cases h
  next f heq =>
  cases heq
  obtain ⟨b, hspot, h⟩ := bind_eq_ok.mp h
  cases h
  obtain ⟨⟨k, hk⟩, hfree⟩ := freshName_spec t a before after
  rw [hk] at hspot hfree ⊢
  have hleads := (fileSpot_eq_ok.mp hspot).1
  have hsingle : Path.Single (before ++ Text.ofNat k ++ after) := by
    intro d hd
    rw [List.mem_append, List.mem_append] at hd
    rcases hd with (hd | hd) | hd
    · exact hb d hd
    · have hdigit : d.isDigit := Text.isDigit_of_mem_ofNat hd
      rw [beq_eq_false_iff_ne]
      rintro rfl
      exact absurd hdigit (by decide)
    · exact ha d hd
  obtain rfl := leads_join hfind hsingle (by simp [hne]) hleads
  exact ⟨a, k, rfl, hleads, hfree⟩

theorem makeTemp_eq_ok (h : t.makeTemp dir before after x c = .ok (u, p)) :
    ∃ a k, t.Leads p (a ++ [before ++ Text.ofNat k ++ after]) ∧
      t.node? (a ++ [before ++ Text.ofNat k ++ after]) = none ∧
      u = t.put (a ++ [before ++ Text.ofNat k ++ after]) (.file x c) := by
  rw [makeTemp_eq] at h
  cases hspot : t.tempSpot dir before after with
  | error e => simp [hspot, Except.map] at h
  | ok r =>
    obtain ⟨b, q⟩ := r
    rw [hspot] at h
    cases h
    obtain ⟨a, k, rfl, hl, hn⟩ := tempSpot_eq_ok hb ha hne hspot
    exact ⟨a, k, hl, hn, rfl⟩

end Temp

section Draft

variable {n : Node}

theorem put_put (t : FileTree) (a : Address) (n m : Node) : (t.put a n).put a m = t.put a m := by
  have hnodes : ((a, n) :: t.nodes.filter (·.1 ≠ a)).filter (·.1 ≠ a) =
      t.nodes.filter (·.1 ≠ a) := by
    rw [List.filter_cons_of_neg (by simp), List.filter_filter]
    simp
  simp only [put, hnodes]

/-- Lets a file be executed. A directory has that right. -/
def permit (t : FileTree) (p : Text) : Except IoFault FileTree := do
  match ← t.find p with
  | (_, .dir) => .ok t
  | (a, .file _ c) => .ok (t.put a (.file true c))

/-- A path leads to a place for a file whether or not there is a file at some other place. -/
theorem fileSpot_put_file (ha : a ≠ []) (hd : t.node? a ≠ some .dir) :
    (t.put a (.file x c)).fileSpot p = .ok b ↔ t.fileSpot p = .ok b := by
  have hnode : ∀ d, (t.put a (.file x c)).node? d = some .dir ↔ t.node? d = some .dir := by
    intro d
    rw [node?_put ha]
    split
    · next hda => simp [hda, hd]
    · rfl
  have hback : Keeps (fun _ => True) (t.put a (.file x c)) t :=
    ⟨rfl, fun d m hm hp => by
      obtain rfl : m = .dir := hp.resolve_left (not_not.mpr trivial)
      exact (hnode d).mp hm⟩
  have hforth : Keeps (fun _ => True) t (t.put a (.file x c)) :=
    (Keeps.put ha hd).mono fun _ _ => trivial
  rw [fileSpot_eq_ok, fileSpot_eq_ok, Ne, hnode]
  exact and_congr_left fun _ => ⟨Leads.keep hback, Leads.keep hforth⟩

theorem node?_put_self (ha : a ≠ []) : (t.put a n).node? a = some n := by
  rw [node?_put ha, if_pos rfl]

section

variable (hl : t.Leads p a) (hn : t.node? a ≠ some .dir)

include hl hn

theorem leads_put_file : (t.put a (.file x c)).Leads p a :=
  hl.keep ((Keeps.put hl.ne_nil hn).mono fun _ _ => trivial)

theorem write_put_file (d : Bytes) :
    (t.put a (.file x c)).write p d = .ok (t.put a (.file x d)) := by
  have hself := node?_put_self (t := t) (n := .file x c) hl.ne_nil
  refine write_eq_ok.mpr ⟨a, leads_put_file hl hn, by simp [hself], ?_⟩
  rw [setContent, hself]
  exact (put_put t a _ _).symm

theorem permit_put_file : (t.put a (.file x c)).permit p = .ok (t.put a (.file true c)) := by
  rw [permit, find_of_leads (leads_put_file hl hn), node?_put_self hl.ne_nil]
  exact congrArg _ (put_put t a _ _)

end

/-- A new file that is taken away again leaves everything as it was. -/
theorem removeFile_put_file (hl : t.Leads p a) (hn : t.node? a = none) :
    ∃ u, (t.put a (.file x c)).removeFile p = .ok u ∧ u.here = t.here ∧ u.node? = t.node? := by
  have hd : t.node? a ≠ some .dir := by simp [hn]
  refine ⟨(t.put a (.file x c)).erase a, ?_, rfl, ?_⟩
  · rw [removeFile, find_of_leads (leads_put_file hl hd), node?_put_self hl.ne_nil]
    rfl
  · funext d
    rw [node?_erase hl.ne_nil]
    by_cases hda : d = a
    · rw [if_pos hda, hda, hn]
    · rw [if_neg hda, node?_put hl.ne_nil, if_neg hda]

/-- A new file that is given another name is at that name, and everything else is as it was. -/
theorem rename_put_file {q : Text} (hs : t.Sound) (hl : t.Leads p a) (hn : t.node? a = none)
    (h : (t.put a (.file x c)).rename p q = .ok u) :
    ∃ b, u.here = t.here ∧ u.Leads q b ∧ t.node? b ≠ some .dir ∧ u.Sound ∧
      ∀ d, u.node? d = if d = b then some (.file x c) else t.node? d := by
  have hd : t.node? a ≠ some .dir := by simp [hn]
  have hself := node?_put_self (t := t) (n := .file x c) hl.ne_nil
  have hsound : (t.put a (.file x c)).Sound := hs.put hl.ne_nil hd (hs.leads hl)
  obtain ⟨b, hb, hbd, rfl⟩ := (rename_file (leads_put_file hl hd) hself).mp h
  have hbt : t.node? b ≠ some .dir :=
    (fileSpot_eq_ok.mp ((fileSpot_put_file hl.ne_nil hd).mp (fileSpot_eq_ok.mpr ⟨hb, hbd⟩))).2
  by_cases hab : a = b
  · rw [if_pos hab]
    refine ⟨b, rfl, hb, hbt, hsound, fun d => ?_⟩
    rw [node?_put hl.ne_nil, hab]
  · rw [if_neg hab]
    have hrooted := hsound.leads hb
    refine ⟨b, rfl, hb.move hsound.here (by simp [hself]) hbd, hbt,
      hsound.move hself hbd hrooted hab, fun d => ?_⟩
    rw [hsound.node?_move hself hbd hrooted hab, hself]
    by_cases hdb : d = b
    · rw [if_pos hdb, if_pos hdb]
    · rw [if_neg hdb, if_neg hdb]
      by_cases hda : d = a
      · rw [if_pos hda, hda, hn]
      · rw [if_neg hda, node?_put hl.ne_nil, if_neg hda]

end Draft

end Guidebook.FileTree
