import Guidebook.Invocation
import Guidebook.Proofs.FileTree.Ways
import Guidebook.Proofs.History.Deeds

namespace Guidebook

namespace Path

variable {p q n s d ext : Text}

/-- The names that stand for no place in a directory, but for the directory itself and the one
above. -/
def dots : List Text := [['.'], ['.', '.']]

theorem ne_nil_of_mem_dots (h : d ∈ dots) : d ≠ [] := by
  rintro rfl
  exact absurd h (by decide)

theorem dot_of_mem_dots (h : d ∈ dots) : '.' ∈ d := by
  simp only [dots, List.mem_cons, List.not_mem_nil, or_false] at h
  rcases h with rfl | rfl <;> decide

theorem fileName?_spec (h : fileName? p = some n) : n ≠ [] ∧ Single n ∧ n ∉ dots := by
  rw [fileName?] at h
  split at h
  · next m hm =>
    split at h
    · cases h
    next hdots =>
    cases h
    obtain ⟨hmem, hdot⟩ := List.mem_filter.mp (List.mem_of_getLast? hm)
    refine ⟨?_, single_of_mem_names hmem, by simpa [dots, hdots] using hdot⟩
    rintro rfl
    simp [names] at hmem
  · cases h

section Stem

/-- A name without its extension. -/
def stem (n : Text) : Text :=
  match n.rdropWhile (· ≠ '.') with
  | [] => n
  | ['.'] => n
  | s => s.dropLast

theorem fileStem?_eq (p : Text) : fileStem? p = (fileName? p).map stem := rfl

theorem rdropWhile_dot (h : '.' ∉ ext) (s : Text) :
    (s ++ '.' :: ext).rdropWhile (· ≠ '.') = s ++ ['.'] := by
  have hext : ∀ c ∈ ext.reverse, decide (c ≠ '.') = true := fun c hc => by
    simpa using fun he : c = '.' => h (he ▸ List.mem_reverse.mp hc)
  rw [List.rdropWhile, List.reverse_append, List.reverse_cons, List.append_assoc,
    List.dropWhile_append_of_pos hext]
  simp

theorem stem_of_notMem (h : '.' ∉ n) : stem n = n := by
  have hdrop : n.rdropWhile (· ≠ '.') = [] :=
    List.rdropWhile_eq_nil_iff.mpr fun c hc => by simpa using fun he : c = '.' => h (he ▸ hc)
  rw [stem, hdrop]

/-- A dot at the start of a name starts no extension. -/
theorem stem_dot (h : '.' ∉ ext) : stem ('.' :: ext) = '.' :: ext := by
  have hdrop := rdropWhile_dot h []
  rw [List.nil_append, List.nil_append] at hdrop
  rw [stem, hdrop]
  rfl

theorem stem_append (h : '.' ∉ ext) (hs : s ≠ []) : stem (s ++ '.' :: ext) = s := by
  obtain ⟨c, cs, rfl⟩ := List.exists_cons_of_ne_nil hs
  rw [stem, rdropWhile_dot h]
  split
  · next he => simp at he
  · next he => simp at he
  · exact List.dropLast_concat

/-- The last dot of a name. -/
theorem exists_last_dot (h : '.' ∈ n) : ∃ s ext, '.' ∉ ext ∧ n = s ++ '.' :: ext := by
  obtain ⟨a, b, hn, ha⟩ := List.eq_append_cons_of_mem (List.mem_reverse.mpr h)
  refine ⟨b.reverse, a.reverse, by simpa using ha, ?_⟩
  rw [← List.reverse_reverse n, hn]
  simp

theorem stem_prefix (n : Text) : stem n <+: n := by
  by_cases hn : '.' ∈ n
  · obtain ⟨s, ext, hext, rfl⟩ := exists_last_dot hn
    by_cases hs : s = []
    · rw [hs, List.nil_append, stem_dot hext]
    · rw [stem_append hext hs]
      exact List.prefix_append ..
  · rw [stem_of_notMem hn]

theorem stem_ne_nil (hn : n ≠ []) : stem n ≠ [] := by
  by_cases hd : '.' ∈ n
  · obtain ⟨s, ext, hext, rfl⟩ := exists_last_dot hd
    by_cases hs : s = []
    · rw [hs, List.nil_append, stem_dot hext]
      exact List.cons_ne_nil '.' ext
    · rwa [stem_append hext hs]
  · rwa [stem_of_notMem hd]

/-- A stem is no proper name if and only if it is followed by an extension. -/
theorem stem_eq_iff (hn : n ∉ dots) (hd : d ∈ dots) :
    stem n = d ↔ ∃ ext, '.' ∉ ext ∧ n = d ++ '.' :: ext := by
  constructor
  · intro h
    by_cases hdot : '.' ∈ n
    · obtain ⟨s, ext, hext, rfl⟩ := exists_last_dot hdot
      by_cases hs : s = []
      · rw [hs, List.nil_append, stem_dot hext] at h
        exact absurd (by rwa [hs, List.nil_append, h]) hn
      · rw [stem_append hext hs] at h
        exact ⟨ext, hext, by rw [h]⟩
    · rw [stem_of_notMem hdot] at h
      exact absurd (h ▸ dot_of_mem_dots hd) hdot
  · rintro ⟨ext, hext, rfl⟩
    exact stem_append hext (ne_nil_of_mem_dots hd)

end Stem

end Path

namespace Payload

variable {path d : Text}

theorem identityOf_cases (path : Text) :
    (Path.fileName? path = none ∧ identityOf path = usualIdentity) ∨
      ∃ n, Path.fileName? path = some n ∧ identityOf path = Path.stem n := by
  rw [identityOf, Path.fileStem?_eq]
  cases h : Path.fileName? path with
  | none => exact .inl ⟨rfl, rfl⟩
  | some n =>
    have hn : Path.stem n ≠ [] := Path.stem_ne_nil (Path.fileName?_spec h).1
    exact .inr ⟨n, rfl, by simp [Option.filter, hn]⟩

theorem identityOf_ne_nil (path : Text) : identityOf path ≠ [] := by
  rcases identityOf_cases path with ⟨-, h⟩ | ⟨n, hn, h⟩ <;> rw [h]
  · decide
  · exact Path.stem_ne_nil (Path.fileName?_spec hn).1

theorem single_identityOf (path : Text) : Path.Single (identityOf path) := by
  rcases identityOf_cases path with ⟨-, h⟩ | ⟨n, hn, h⟩ <;> rw [h]
  · decide
  · exact fun c hc => (Path.fileName?_spec hn).2.1 c ((Path.stem_prefix n).subset hc)

theorem identityOf_eq_iff (hd : d ∈ Path.dots) :
    identityOf path = d ↔ ∃ ext, '.' ∉ ext ∧ Path.fileName? path = some (d ++ '.' :: ext) := by
  rcases identityOf_cases path with ⟨hn, h⟩ | ⟨n, hn, h⟩ <;> rw [h, hn]
  · simp only [reduceCtorEq, and_false, exists_false, iff_false]
    rintro rfl
    exact absurd hd (by decide)
  · rw [Path.stem_eq_iff (Path.fileName?_spec hn).2.2 hd]
    simp only [Option.some.injEq]

end Payload

namespace FileTree

variable {t : FileTree} {p n : Text} {a b : Address}

/-- Where a name leads from a directory. -/
def entered (a : Address) (n : Text) : Address :=
  if n = ['.'] then a else if n = ['.', '.'] then a.dropLast else a ++ [n]

theorem descend_single (h : t.descend a [n] = .ok b) : b = entered a n := by
  rw [entered]
  rw [descend] at h
  split at h
  · next hn => exact (if_pos hn).trans (Except.ok.inj h) |>.symm
  next hdot =>
  rw [if_neg hdot]
  split at h
  · next hn => exact ((if_pos hn).trans (Except.ok.inj h)).symm
  next hdots =>
  rw [if_neg hdots]
  split at h
  · cases h
  split at h
  · cases h
  · cases h
  · exact (Except.ok.inj h).symm

/-- A name that is joined to a path leads on from where that path leads. -/
theorem reaches_join (hs : Path.Single n) (hn : n ≠ []) (h : t.Reaches (Path.join p n) b) :
    ∃ a, t.Reaches p a ∧ b = entered a n := by
  rw [Reaches, Path.names_join p hs hn, start, Path.isAbsolute_join p hs, ← start,
    descend_append] at h
  cases hp : t.descend (t.start p) (Path.names p) with
  | error e =>
    rw [hp] at h
    cases h
  | ok a =>
    rw [hp] at h
    exact ⟨a, hp, descend_single h⟩

theorem entered_cases (a : Address) (n : Text) :
    (n = ['.'] ∧ entered a n = a) ∨ (n = ['.', '.'] ∧ entered a n = a.dropLast) ∨
      n ∉ Path.dots ∧ entered a n = a ++ [n] := by
  rw [entered]
  by_cases hdot : n = ['.']
  · exact .inl ⟨hdot, if_pos hdot⟩
  by_cases hdots : n = ['.', '.']
  · exact .inr (.inl ⟨hdots, by rw [if_neg hdot, if_pos hdots]⟩)
  · exact .inr (.inr ⟨by simp [Path.dots, hdot, hdots], by rw [if_neg hdot, if_neg hdots]⟩)

theorem entered_proper (h : n ∉ Path.dots) : entered a n = a ++ [n] := by
  rcases entered_cases a n with ⟨rfl, -⟩ | ⟨rfl, -⟩ | ⟨-, hn⟩
  · exact absurd h (by decide)
  · exact absurd h (by decide)
  · exact hn

theorem dropLast_eq_self (h : a.dropLast = a) : a = [] := by
  by_contra hne
  have hlength := congrArg List.length h
  have hpos := List.length_pos_iff.mpr hne
  rw [List.length_dropLast] at hlength
  omega

theorem append_ne_up (a : Address) (n : Text) : a ++ [n] ≠ a ∧ a ++ [n] ≠ a.dropLast := by
  constructor <;> intro h <;> have hlength := congrArg List.length h <;>
    rw [List.length_append, List.length_singleton] at hlength
  · omega
  · rw [List.length_dropLast] at hlength
    omega

/-- Two names lead to the same directory only if they are one, or if both are dots and there is
nothing above. -/
theorem entered_inj {m : Text} (h : entered a m = entered a n) :
    m = n ∨ (m ∈ Path.dots ∧ n ∈ Path.dots) ∧ a = [] := by
  rcases entered_cases a m with ⟨rfl, hm⟩ | ⟨rfl, hm⟩ | ⟨-, hm⟩ <;>
    rcases entered_cases a n with ⟨rfl, hn⟩ | ⟨rfl, hn⟩ | ⟨-, hn⟩
  · exact .inl rfl
  · exact .inr ⟨by decide, dropLast_eq_self (hn.symm.trans (h.symm.trans hm))⟩
  · exact absurd (hn.symm.trans (h.symm.trans hm)) (append_ne_up a n).1
  · exact .inr ⟨by decide, dropLast_eq_self (hm.symm.trans (h.trans hn))⟩
  · exact .inl rfl
  · exact absurd (hn.symm.trans (h.symm.trans hm)) (append_ne_up a n).2
  · exact absurd (hm.symm.trans (h.trans hn)) (append_ne_up a m).1
  · exact absurd (hm.symm.trans (h.trans hn)) (append_ne_up a m).2
  · exact .inl (by simpa using hm.symm.trans (h.trans hn))

end FileTree

section State

open FileTree

variable {v : Invocation} {c : Settings} {i j p q : Text} {t : FileTree} {b : Address}

/-- The files in which a walkthrough keeps its state. -/
def Desk.stateFiles (d : Desk) : List Text := [d.history.path, d.stash.path]

theorem exists_of_mem_stateFiles (h : p ∈ (v.desk c i).stateFiles) :
    ∃ f, (Path.Single f ∧ f ≠ []) ∧ p = Path.join (c.stateDirFor v.environment i) f := by
  have hpath : (v.desk c i).history.path = Path.join (c.stateDirFor v.environment i)
      Desk.historyFile := History.path_openAt ..
  have hstash : (v.desk c i).stash.path = Path.join (c.stateDirFor v.environment i)
      Desk.stashFile := rfl
  rw [Desk.stateFiles, hpath, hstash, List.mem_pair] at h
  rcases h with rfl | rfl
  · exact ⟨Desk.historyFile, by decide, rfl⟩
  · exact ⟨Desk.stashFile, by decide, rfl⟩

variable (hi : Path.Single i) (hi₀ : i ≠ []) (hp : p ∈ (v.desk c i).stateFiles)

include hi hi₀ hp

theorem names_stateFiles :
    ∃ f, Path.names p = Path.names (c.stateRoot v.environment) ++ [i] ++ [f] := by
  obtain ⟨f, ⟨hf, hf₀⟩, rfl⟩ := exists_of_mem_stateFiles hp
  exact ⟨f, by rw [Path.names_join _ hf hf₀, Settings.stateDirFor, Path.names_join _ hi hi₀]⟩

theorem leads_stateFiles (hb : t.Leads p b) :
    ∃ a f, t.Reaches (c.stateRoot v.environment) a ∧ b = entered a i ++ [f] := by
  obtain ⟨f, ⟨hf, hf₀⟩, rfl⟩ := exists_of_mem_stateFiles hp
  obtain ⟨d, hd, rfl⟩ := reaches_of_leads hf hf₀ hb
  obtain ⟨a, ha, rfl⟩ := reaches_join hi hi₀ hd
  exact ⟨a, f, ha, rfl⟩

variable (hj : Path.Single j) (hj₀ : j ≠ []) (hq : q ∈ (v.desk c j).stateFiles)

include hj hj₀ hq

theorem eq_of_names_stateFiles (h : Path.names p = Path.names q) : i = j := by
  obtain ⟨f, hf⟩ := names_stateFiles hi hi₀ hp
  obtain ⟨g, hg⟩ := names_stateFiles hj hj₀ hq
  rw [hf, hg] at h
  simpa using (List.append_inj' h rfl).1

/-- Files of two walkthroughs are at one place only if it is one walkthrough. -/
theorem stateFiles_apart (hpb : t.Leads p b) (hqb : t.Leads q b) :
    i = j ∨ (i ∈ Path.dots ∧ j ∈ Path.dots) ∧ t.Reaches (c.stateRoot v.environment) [] := by
  obtain ⟨a, f, ha, rfl⟩ := leads_stateFiles hi hi₀ hp hpb
  obtain ⟨a', g, ha', hplace⟩ := leads_stateFiles hj hj₀ hq hqb
  obtain rfl := ha.unique ha'
  have hentered := (List.append_inj' hplace rfl).1
  exact (entered_inj hentered).imp_right fun ⟨hdots, h⟩ => ⟨hdots, h ▸ ha⟩

end State

namespace Payload

/-- The identity of a path is a name, and no proper one only if what stands before the last dot of
the file's name is one or two dots. The directory of its state has that name behind those of the
directory for all state, and is the place of that name in there, unless it is no proper name.
Different identities have different files, at different places unless both are no proper names and
nothing is above the directory for all state. -/
theorem identityOf_names (v : Invocation) (c : Settings) (path : Text) :
    let i := identityOf path
    let root := c.stateRoot v.environment
    let own := c.stateDirFor v.environment i
    (i ≠ [] ∧ '/' ∉ i) ∧
    (∀ d ∈ Path.dots, i = d ↔ ∃ ext, '.' ∉ ext ∧ Path.fileName? path = some (d ++ '.' :: ext)) ∧
    Path.names own = Path.names root ++ [i] ∧
    (∀ (t : FileTree) (b : Address), t.Reaches own b → ∃ a, t.Reaches root a ∧
      (i ∉ Path.dots → b = a ++ [i]) ∧ (i = ['.'] → b = a) ∧ (i = ['.', '.'] → b = a.dropLast)) ∧
    ∀ path', identityOf path' ≠ i → ∀ p ∈ (v.desk c i).stateFiles,
      ∀ q ∈ (v.desk c (identityOf path')).stateFiles, Path.names p ≠ Path.names q ∧
        ∀ t : FileTree, (i ∈ Path.dots → identityOf path' ∈ Path.dots → ¬t.Reaches root []) →
          ∀ b, t.Leads p b → ¬t.Leads q b := by
  intro i root own
  have hi := identityOf_ne_nil path
  have hs := single_identityOf path
  refine ⟨⟨hi, fun hc => by simpa using hs _ hc⟩, fun d hd => identityOf_eq_iff hd,
    Path.names_join root hs hi, fun t b hb => ?_, fun path' hne p hp q hq => ?_⟩
  · obtain ⟨a, ha, rfl⟩ := FileTree.reaches_join hs hi hb
    exact ⟨a, ha, FileTree.entered_proper, fun hdot => congrArg (FileTree.entered a) hdot,
      fun hdots => congrArg (FileTree.entered a) hdots⟩
  · have hj := identityOf_ne_nil path'
    have hs' := single_identityOf path'
    refine ⟨fun h => hne (eq_of_names_stateFiles hs hi hp hs' hj hq h).symm,
      fun t hroot b hpb hqb => ?_⟩
    rcases stateFiles_apart hs hi hp hs' hj hq hpb hqb with h | ⟨⟨hdots, hdots'⟩, h⟩
    · exact hne h.symm
    · exact hroot hdots hdots' h

/-- A start in a tree that holds the state of two walkthroughs, and where that is. -/
def atHome : Invocation × Settings :=
  let state := ["srv".toList, "state".toList]
  let dirs := [["srv".toList], state, state ++ ["deploy".toList], state ++ ["tool".toList]]
  (⟨[], [], [], .pipe [], ⟨dirs.map (·, .dir), [], []⟩, 0⟩,
    { Settings.defaults with stateDir := some "/srv/state".toList })

theorem identityOf_names_apart :
    let v := atHome.1
    let c := atHome.2
    let home := ["srv".toList, "state".toList, "deploy".toList]
    let history := (v.desk c (identityOf "out/deploy.sh".toList)).history.path
    let history' := (v.desk c (identityOf "tool".toList)).history.path
    (∃ a, v.tree.Reaches (c.stateRoot v.environment) a ∧ home = a ++ ["deploy".toList]) ∧
    v.tree.Leads history (home ++ ["history.json".toList]) ∧
    ¬v.tree.Leads history' (home ++ ["history.json".toList]) := by
  intro v c home history history'
  obtain ⟨-, -, -, hplace, hfiles⟩ := identityOf_names v c "out/deploy.sh".toList
  have hname : identityOf "out/deploy.sh".toList = "deploy".toList := by decide +kernel
  have hproper : identityOf "out/deploy.sh".toList ∉ Path.dots := by decide +kernel
  have hreach : v.tree.descend [] (Path.names (c.stateDirFor v.environment
      (identityOf "out/deploy.sh".toList))) = .ok home := by decide +kernel
  obtain ⟨a, ha, hhome, -⟩ := hplace v.tree home hreach
  have hspot : v.tree.fileSpot history = .ok (home ++ ["history.json".toList]) := by decide +kernel
  have hlead : v.tree.Leads history (home ++ ["history.json".toList]) :=
    (FileTree.fileSpot_eq_ok.mp hspot).1
  have hother : identityOf "tool".toList ≠ identityOf "out/deploy.sh".toList := by decide +kernel
  obtain ⟨-, hapart⟩ := hfiles "tool".toList hother history (by simp [Desk.stateFiles, history])
    history' (by simp [Desk.stateFiles, history'])
  exact ⟨⟨a, ha, hname ▸ hhome hproper⟩, hlead,
    hapart v.tree (fun hdots => absurd hdots hproper) _ hlead⟩

/-- Before the last dot of `...` stand two dots, so this program keeps its history outside of the
directory for all state, and before that of `..sh` stands one. -/
theorem identityOf_names_dots :
    let v := atHome.1
    let c := atHome.2
    identityOf "...".toList = "..".toList ∧ identityOf "out/..sh".toList = ".".toList ∧
    c.stateRoot v.environment = "/srv/state".toList ∧
    v.tree.fileSpot (v.desk c (identityOf "...".toList)).history.path =
      .ok ["srv".toList, "history.json".toList] ∧
    v.tree.fileSpot (v.desk c (identityOf "out/..sh".toList)).history.path =
      .ok ["srv".toList, "state".toList, "history.json".toList] := by
  decide +kernel

end Payload

end Guidebook
