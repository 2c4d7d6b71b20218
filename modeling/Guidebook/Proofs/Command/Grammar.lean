import Guidebook.Command
import Guidebook.Proofs.Text.Number
import Guidebook.Proofs.Text.Words

namespace Guidebook

namespace Command

theorem mem_of_lookup {α β : Type} [BEq α] [LawfulBEq α] {l : List (α × β)} {a : α} {b : β}
    (h : l.lookup a = some b) : (a, b) ∈ l := by
  obtain ⟨l₁, l₂, rfl, -⟩ := List.lookup_eq_some_iff.mp h
  simp

/-- All that a command without arguments can be called. -/
def names : Command → List Text
  | home => ["home".toList, "h".toList, "?".toList]
  | suggestions => ["show_suggestions".toList, "suggestions".toList, "s".toList]
  | flow => ["flow".toList, "f".toList]
  | help => ["help".toList]
  | nextStep => ["next_step".toList, "next".toList, "ns".toList]
  | nextPage => ["next_page".toList, "np".toList, "more".toList]
  | prevPage => ["prev_page".toList, "pp".toList]
  | finish => ["finish".toList]
  | quit => ["quit".toList, "q".toList, ":q".toList, ":quit".toList]
  | leave => ["exit".toList, "x".toList]
  | _ => []

theorem lookup_aliases_eq_some {t : Text} {c : Command} :
    aliases.lookup t = some c ↔ t ∈ names c := by
  constructor
  · intro h
    have hnames : ∀ p ∈ aliases, p.1 ∈ names p.2 := by decide
    exact hnames _ (mem_of_lookup h)
  · intro h
    have hlookup : ∀ p ∈ aliases, ∀ t ∈ names p.2, aliases.lookup t = some p.2 := by decide
    have hc : c ∈ aliases.map Prod.snd := by
      cases c <;> first | decide | exact absurd h List.not_mem_nil
    obtain ⟨p, hp, rfl⟩ := List.mem_map.mp hc
    exact hlookup p hp t h

/-- The words that take a number, with what they make of it. -/
inductive Verb : Text → (Nat → Command) → Prop
  | pick : Verb "pick".toList pick
  | gotoStep : Verb "goto_step".toList goto
  | goto : Verb "goto".toList goto
  | g : Verb "g".toList goto
  | page : Verb "page".toList page

variable {w : Text} {make : Nat → Command}

theorem lookup_verbs_eq_some : verbs.lookup w = some make ↔ Verb w make := by
  constructor
  · intro h
    have hm := mem_of_lookup h
    simp only [verbs, List.mem_cons, Prod.mk.injEq, List.not_mem_nil, or_false] at hm
    rcases hm with ⟨rfl, rfl⟩ | ⟨rfl, rfl⟩ | ⟨rfl, rfl⟩ | ⟨rfl, rfl⟩ | ⟨rfl, rfl⟩
    · exact .pick
    · exact .gotoStep
    · exact .goto
    · exact .g
    · exact .page
  · intro h
    cases h <;> rfl

end Command

open Text

variable {home : Option Text}

namespace StashCommand

def modes : List Text := ["append".toList, "a".toList, "overwrite".toList, "o".toList]

/-- The words spell the command. -/
inductive Spells (home : Option Text) : List Text → StashCommand → Prop
  | view : Spells home ["show".toList] view
  | edit : Spells home ["edit".toList] edit
  | clear : Spells home ["clear".toList] clear
  | paste (file : Text) : Spells home ["paste".toList, file] (paste (Path.expand home file) .append)
  | append (file : Text) {m : Text} (hm : m = "append".toList ∨ m = "a".toList) :
      Spells home ["paste".toList, file, m] (paste (Path.expand home file) .append)
  | overwrite (file : Text) {m : Text} (hm : m = "overwrite".toList ∨ m = "o".toList) :
      Spells home ["paste".toList, file, m] (paste (Path.expand home file) .overwrite)
  | place (file : Text) : Spells home ["open".toList, file] (place (Path.expand home file))

/-- The words spell no command, and this is said of it. -/
inductive Misspelt : List Text → StashUsage → Prop
  | nothing : Misspelt [] .all
  | verb {w : Text} (ws : List Text)
      (hw : w ∉ ["show".toList, "edit".toList, "clear".toList, "paste".toList, "open".toList]) :
      Misspelt (w :: ws) .all
  | noFile : Misspelt ["paste".toList] .paste
  | mode (file : Text) {m : Text} (ws : List Text) (hm : m ∉ modes) :
      Misspelt ("paste".toList :: file :: m :: ws) .paste
  | noPlace : Misspelt ["open".toList] .place
  | excess {w v : Text} (ws : List Text)
      (hw : w = "show".toList ∨ w = "edit".toList ∨ w = "clear".toList) :
      Misspelt (w :: v :: ws) .all
  | pasteExcess (file : Text) {m v : Text} (ws : List Text) (hm : m ∈ modes) :
      Misspelt ("paste".toList :: file :: m :: v :: ws) .all
  | placeExcess (file v : Text) (ws : List Text) : Misspelt ("open".toList :: file :: v :: ws) .all

variable {ws : List Text} {k : StashCommand} {u : StashUsage}

theorem Spells.ofWords_eq (h : Spells home ws k) : ofWords home ws = .ok k := by
  cases h with
  | append file hm => rcases hm with rfl | rfl <;> rfl
  | overwrite file hm => rcases hm with rfl | rfl <;> rfl
  | _ => rfl

theorem Misspelt.ofWords_eq (h : Misspelt ws u) : ofWords home ws = .error (.stashUsage u) := by
  cases h with
  | verb ws hw =>
    simp only [List.mem_cons, List.not_mem_nil, or_false, not_or] at hw
    simp only [ofWords, hw, if_false]
  | mode file ws hm =>
    simp only [modes, List.mem_cons, List.not_mem_nil, or_false, not_or] at hm
    simp only [ofWords, hm]
    rfl
  | excess ws hw => rcases hw with rfl | rfl | rfl <;> rfl
  | pasteExcess file ws hm =>
    simp only [modes, List.mem_cons, List.not_mem_nil, or_false] at hm
    rcases hm with rfl | rfl | rfl | rfl <;> rfl
  | _ => rfl

theorem spells_or_excess {w : Text} (hw : w = "show".toList ∨ w = "edit".toList ∨ w = "clear".toList)
    (ws : List Text) : (∃ k, Spells home (w :: ws) k) ∨ ∃ u, Misspelt (w :: ws) u := by
  cases ws with
  | nil =>
    rcases hw with rfl | rfl | rfl
    · exact .inl ⟨_, .view⟩
    · exact .inl ⟨_, .edit⟩
    · exact .inl ⟨_, .clear⟩
  | cons v ws => exact .inr ⟨_, .excess ws hw⟩

theorem spells_or_misspelt_paste (ws : List Text) :
    (∃ k, Spells home ("paste".toList :: ws) k) ∨ ∃ u, Misspelt ("paste".toList :: ws) u := by
  match ws with
  | [] => exact .inr ⟨_, .noFile⟩
  | [file] => exact .inl ⟨_, .paste file⟩
  | file :: m :: ws =>
    by_cases hm : m ∈ modes
    · cases ws with
      | cons v ws => exact .inr ⟨_, .pasteExcess file ws hm⟩
      | nil =>
        simp only [modes, List.mem_cons, List.not_mem_nil, or_false] at hm
        rcases hm with hm | hm | hm | hm
        · exact .inl ⟨_, .append file (.inl hm)⟩
        · exact .inl ⟨_, .append file (.inr hm)⟩
        · exact .inl ⟨_, .overwrite file (.inl hm)⟩
        · exact .inl ⟨_, .overwrite file (.inr hm)⟩
    · exact .inr ⟨_, .mode file ws hm⟩

theorem spells_or_misspelt_place (ws : List Text) :
    (∃ k, Spells home ("open".toList :: ws) k) ∨ ∃ u, Misspelt ("open".toList :: ws) u := by
  match ws with
  | [] => exact .inr ⟨_, .noPlace⟩
  | [file] => exact .inl ⟨_, .place file⟩
  | file :: v :: ws => exact .inr ⟨_, .placeExcess file v ws⟩

theorem spells_or_misspelt (home : Option Text) (ws : List Text) :
    (∃ k, Spells home ws k) ∨ ∃ u, Misspelt ws u := by
  cases ws with
  | nil => exact .inr ⟨_, .nothing⟩
  | cons w ws =>
    by_cases hw : w ∈ ["show".toList, "edit".toList, "clear".toList, "paste".toList, "open".toList]
    · simp only [List.mem_cons, List.not_mem_nil, or_false] at hw
      rcases hw with hw | hw | hw | rfl | rfl
      · exact spells_or_excess (.inl hw) ws
      · exact spells_or_excess (.inr (.inl hw)) ws
      · exact spells_or_excess (.inr (.inr hw)) ws
      · exact spells_or_misspelt_paste ws
      · exact spells_or_misspelt_place ws
    · exact .inr ⟨_, .verb ws hw⟩

end StashCommand

namespace Command

/-- The text is made of decimal digits, of whatever script. -/
structure Decimal (t : Text) : Prop where
  nonempty : t ≠ []
  decimal : ∀ c ∈ t, isDecimal c = true

/-- A first word that keeps a line from being one for the shell. -/
def Reserved (w : Text) : Prop := (∃ make, Verb w make) ∨ w = stashWord

/-- What a line without blanks at its ends means. -/
inductive Means (home : Option Text) : Text → Except Mistake Command → Prop
  | nothing : Means home [] (.ok nothing)
  | name {t : Text} {c : Command} (h : t ∈ names c) : Means home t (.ok c)
  | choice {t : Text} {n : Nat} (hd : Decimal t) (h : Numeral t n) : Means home t (.ok (pick n))
  | noChoice {t : Text} (hd : Decimal t) (h : ∀ n, ¬Numeral t n) :
      Means home t (.error (.notNumber t))
  | verb {w : Text} {make : Nat → Command} (hw : Verb w make) :
      Means home w (.error (.missingNumber w))
  | number {w gap t : Text} {make : Nat → Command} {n : Nat} (hw : Verb w make) (hg : Gap gap)
      (h : Numeral t n) : Means home (w ++ gap ++ t) (.ok (make n))
  | noNumber {w gap t : Text} {make : Nat → Command} (hw : Verb w make) (hg : Gap gap)
      (hne : t ≠ []) (ht : trim t = t) (h : ∀ n, ¬Numeral t n) :
      Means home (w ++ gap ++ t) (.error (.notNumber t))
  | stash {t : Text} {ws : List Text} {k : StashCommand} (ht : Spaced ws t)
      (h : StashCommand.Spells home ws k) : Means home (stashWord ++ t) (.ok (stash k))
  | noStash {t : Text} {ws : List Text} {u : StashUsage} (ht : Spaced ws t)
      (h : StashCommand.Misspelt ws u) : Means home (stashWord ++ t) (.error (.stashUsage u))
  | shell {t : Text} (hne : t ≠ []) (hn : ∀ c, t ∉ names c) (hd : ¬Decimal t)
      (hw : ∀ w, Reserved w → ¬Begins w t) : Means home t (.ok (shell t))

variable {t u w gap : Text} {n : Nat} {make : Nat → Command} {r : Except Mistake Command}

theorem Verb.word (h : Verb w make) : Word w := by
  cases h <;> exact word_of_all (by decide) (by decide)

theorem word_stashWord : Word stashWord := word_of_all (by decide) (by decide)

theorem Reserved.word (h : Reserved w) : Word w := by
  rcases h with ⟨make, h⟩ | rfl
  · exact h.word
  · exact word_stashWord

theorem reserved_iff : Reserved w ↔ w ∈ stashWord :: verbs.map Prod.fst := by
  rw [List.mem_cons, List.mem_map]
  constructor
  · rintro (⟨make, h⟩ | h)
    · exact .inr ⟨_, mem_of_lookup (lookup_verbs_eq_some.mpr h), rfl⟩
    · exact .inl h
  · rintro (h | ⟨p, hp, rfl⟩)
    · exact .inr h
    · have hlookup : ∀ p ∈ verbs, (verbs.lookup p.1).isSome = true := by decide
      obtain ⟨make, h⟩ := Option.isSome_iff_exists.mp (hlookup p hp)
      exact .inl ⟨make, lookup_verbs_eq_some.mp h⟩

/-- No line that begins with a reserved word is all digits. -/
theorem Reserved.all_append (h : Reserved w) (t : Text) : (w ++ t).all isDecimal = false := by
  have hall : ∀ v ∈ stashWord :: verbs.map Prod.fst, v.all isDecimal = false := by decide
  rw [List.all_append, hall w (reserved_iff.mp h), Bool.false_and]

/-- No name of a command begins with a reserved word. -/
theorem Reserved.lookup_append (h : Reserved w) (t : Text) : aliases.lookup (w ++ t) = none := by
  have hnames : ∀ p ∈ aliases, ∀ v ∈ stashWord :: verbs.map Prod.fst, v.isPrefixOf p.1 = false := by
    decide
  cases hl : aliases.lookup (w ++ t) with
  | none => rfl
  | some c =>
    have hw := hnames _ (mem_of_lookup hl) w (reserved_iff.mp h)
    rw [List.isPrefixOf_iff_prefix.mpr (List.prefix_append w t)] at hw
    cases hw

theorem split_append (hw : Word w) (hb : ∀ c ∈ t.head?, isBlank c = true) :
    split (w ++ t) = (w, trimStart t) := by
  obtain ⟨htake, hdrop⟩ := takeWhile_append hw.notBlank hb
  rw [split, htake, hdrop]

theorem number_of_numeral (h : Numeral t n) : number t = .ok n := by
  rw [number, natural?_eq_some.mpr h]

theorem number_of_not (h : ∀ n, ¬Numeral t n) : number t = .error (.notNumber t) := by
  rw [number]
  cases hn : natural? t with
  | none => rfl
  | some n => exact absurd (natural?_eq_some.mp hn) (h n)

theorem isBlank_of_isDigit {c : Char} (h : c.isDigit = true) : isBlank c = false := by
  have hc := toNat_of_isDigit h
  simp only [isBlank, Bool.or_eq_false_iff, Bool.and_eq_false_iff, decide_eq_false_iff_not,
    beq_eq_false_iff_ne]
  omega

theorem trim_of_numeral (h : Numeral t n) : t ≠ [] ∧ trim t = t := by
  cases h with
  | @intro sign ds hs hne hd _ =>
    refine ⟨List.append_ne_nil_of_right_ne_nil sign hne, trim_of_notBlank fun c hc => ?_⟩
    rcases List.mem_append.mp hc with hc | hc
    · have hsign : ∀ c ∈ sign, isBlank c = false := by
        rcases hs with rfl | rfl
        · exact List.forall_mem_nil _
        · exact List.forall_mem_singleton.mpr rfl
      exact hsign c hc
    · exact isBlank_of_isDigit (hd c hc)

section Line

variable (home)

theorem ofInput_trim (l : Text) : ofInput home (trim l) = ofInput home l := by
  rw [ofInput, ofInput, trim_trim]

theorem ofInput_of_lookup (ht : trim t = t) (hne : t ≠ []) (hl : aliases.lookup t = none) :
    ofInput home t = ofLine home t := by
  have hempty : t.isEmpty = false := by simpa using hne
  simp only [ofInput, ht, hempty, hl, Bool.false_eq_true, if_false]

theorem ofInput_of_decimal (ht : trim t = t) (hd : Decimal t) :
    ofInput home t = (number t).map pick := by
  have hall : t.all isDecimal = true := List.all_eq_true.mpr hd.decimal
  have hnames : ∀ p ∈ aliases, p.1.all isDecimal = false := by decide
  have hl : aliases.lookup t = none := by
    cases hl : aliases.lookup t with
    | none => rfl
    | some c =>
      rw [hnames _ (mem_of_lookup hl)] at hall
      cases hall
  rw [ofInput_of_lookup home ht hd.nonempty hl, ofLine, if_pos hall]

theorem ofInput_append (ht : trim (w ++ t) = w ++ t) (hw : Reserved w)
    (hb : ∀ c ∈ t.head?, isBlank c = true) (hn : '\n' ∉ w ++ t) :
    ofInput home (w ++ t) = match verbs.lookup w with
      | some make =>
        if (trimStart t).isEmpty then .error (.missingNumber w) else (number (trim t)).map make
      | none =>
        if w = stashWord then (StashCommand.ofWords home (words t)).map stash
        else .ok (shell (w ++ t)) := by
  have hne : w ++ t ≠ [] := List.append_ne_nil_of_left_ne_nil hw.word.nonempty t
  have hfeed : (trimStart t).contains '\n' = false := by
    have hmem : '\n' ∉ trimStart t := fun h =>
      hn (List.mem_append_right w ((trimStart_suffix t).subset h))
    simpa using hmem
  rw [ofInput_of_lookup home ht hne (hw.lookup_append t), ofLine, hw.all_append,
    split_append hw.word hb]
  cases hv : verbs.lookup w <;>
    simp only [hv, hfeed, trim_trimStart, words_trimStart, Bool.false_eq_true, if_false]

theorem ofInput_verb (ht : trim (w ++ t) = w ++ t) (hw : Verb w make)
    (hb : ∀ c ∈ t.head?, isBlank c = true) (hn : '\n' ∉ w ++ t) :
    ofInput home (w ++ t) =
      if (trimStart t).isEmpty then .error (.missingNumber w) else (number (trim t)).map make := by
  rw [ofInput_append home ht (.inl ⟨make, hw⟩) hb hn, lookup_verbs_eq_some.mpr hw]

theorem ofInput_argument (hline : trim (w ++ gap ++ t) = w ++ gap ++ t) (hw : Verb w make)
    (hg : Gap gap) (hne : t ≠ []) (ht : trim t = t) (hn : '\n' ∉ w ++ gap ++ t) :
    ofInput home (w ++ gap ++ t) = (number t).map make := by
  rw [List.append_assoc] at hline hn ⊢
  have hstart : trimStart (gap ++ t) = t := by
    rw [trimStart_append_of_blank hg.blank, trimStart_of_trim ht]
  have htrim : trim (gap ++ t) = t := by rw [← trim_trimStart, hstart, ht]
  have hempty : t.isEmpty = false := by simpa using hne
  rw [ofInput_verb home hline hw (hg.head? t) hn, hstart, htrim, hempty]
  rfl

theorem ofInput_stash (ht : trim (stashWord ++ t) = stashWord ++ t)
    (hb : ∀ c ∈ t.head?, isBlank c = true) (hn : '\n' ∉ stashWord ++ t) :
    ofInput home (stashWord ++ t) = (StashCommand.ofWords home (words t)).map stash := by
  have hl : verbs.lookup stashWord = none := by decide
  rw [ofInput_append home ht (.inr rfl) hb hn, hl]
  exact if_pos rfl

theorem ofInput_shell_of (ht : trim t = t) (hne : t ≠ []) (hn : ∀ c, t ∉ names c)
    (hd : ¬Decimal t) (hw : ∀ w, Reserved w → ¬Begins w t) : ofInput home t = .ok (shell t) := by
  have hl : aliases.lookup t = none := by
    cases hl : aliases.lookup t with
    | none => rfl
    | some c => exact absurd (lookup_aliases_eq_some.mp hl) (hn c)
  have hall : ¬t.all isDecimal = true := fun h => hd ⟨hne, List.all_eq_true.mp h⟩
  have hnot : ∀ c ∈ (split t).1, isBlank c = false := fun c hc => by
    simpa using List.mem_takeWhile_imp hc
  have hreserved : ¬Reserved (split t).1 := fun h => hw _ h ((begins_iff hnot).mpr rfl)
  have hverb : verbs.lookup (split t).1 = none := by
    cases hv : verbs.lookup (split t).1 with
    | none => rfl
    | some make => exact absurd (.inl ⟨make, lookup_verbs_eq_some.mp hv⟩) hreserved
  have hstash : (split t).1 ≠ stashWord := fun h => hreserved (.inr h)
  rw [ofInput_of_lookup home ht hne hl, ofLine, if_neg hall]
  simp only [hverb, hstash, if_false, ite_self]

end Line

theorem Means.ofInput_eq (h : Means home t r) (ht : trim t = t) (hn : '\n' ∉ t) :
    ofInput home t = r := by
  cases h with
  | nothing => rfl
  | name h =>
    have hne : t ≠ [] := by
      rintro rfl
      cases lookup_aliases_eq_some.mpr h
    have hempty : t.isEmpty = false := by simpa using hne
    simp only [ofInput, ht, hempty, lookup_aliases_eq_some.mpr h, Bool.false_eq_true, if_false]
  | choice hd h => rw [ofInput_of_decimal home ht hd, number_of_numeral h]; rfl
  | noChoice hd h => rw [ofInput_of_decimal home ht hd, number_of_not h]; rfl
  | verb hw => cases hw <;> rfl
  | number hw hg h =>
    obtain ⟨hne, htrim⟩ := trim_of_numeral h
    rw [ofInput_argument home ht hw hg hne htrim hn, number_of_numeral h]
    rfl
  | noNumber hw hg hne htrim h =>
    rw [ofInput_argument home ht hw hg hne htrim hn, number_of_not h]
    rfl
  | stash hs h =>
    rw [ofInput_stash home ht hs.head? hn, hs.words_eq, h.ofWords_eq]
    rfl
  | noStash hs h =>
    rw [ofInput_stash home ht hs.head? hn, hs.words_eq, h.ofWords_eq]
    rfl
  | shell hne hnames hd hw => exact ofInput_shell_of home ht hne hnames hd hw

theorem exists_means_verb (hw : Verb w make) (hb : ∀ c ∈ t.head?, isBlank c = true)
    (ht : trimEnd t = t) : ∃ r, Means home (w ++ t) r := by
  rcases eq_or_ne t [] with rfl | hne
  · rw [List.append_nil]
    exact ⟨_, .verb hw⟩
  · obtain ⟨gap, u, hg, hu, htrim, rfl⟩ := exists_gap hne hb ht
    rw [← List.append_assoc]
    by_cases hn : ∃ n, Numeral u n
    · obtain ⟨n, hn⟩ := hn
      exact ⟨_, .number hw hg hn⟩
    · exact ⟨_, .noNumber hw hg hu htrim (not_exists.mp hn)⟩

theorem exists_means_stash (hb : ∀ c ∈ t.head?, isBlank c = true) (ht : trimEnd t = t) :
    ∃ r, Means home (stashWord ++ t) r := by
  have hs : Spaced (words t) t := spaced_words hb ht
  rcases StashCommand.spells_or_misspelt home (words t) with ⟨k, h⟩ | ⟨u, h⟩
  · exact ⟨_, .stash hs h⟩
  · exact ⟨_, .noStash hs h⟩

theorem exists_means (home : Option Text) (ht : trim t = t) : ∃ r, Means home t r := by
  rcases eq_or_ne t [] with rfl | hne
  · exact ⟨_, .nothing⟩
  by_cases hn : ∃ c, t ∈ names c
  · obtain ⟨c, hc⟩ := hn
    exact ⟨_, .name hc⟩
  by_cases hd : Decimal t
  · by_cases hn : ∃ n, Numeral t n
    · obtain ⟨n, hn⟩ := hn
      exact ⟨_, .choice hd hn⟩
    · exact ⟨_, .noChoice hd (not_exists.mp hn)⟩
  by_cases hw : ∃ w, Reserved w ∧ Begins w t
  · obtain ⟨w, hr, u, rfl, hb⟩ := hw
    have hu : trimEnd u = u := trimEnd_of_append (trimEnd_of_trim ht)
    rcases hr with ⟨make, hr⟩ | rfl
    · exact exists_means_verb hr hb hu
    · exact exists_means_stash hb hu
  · exact ⟨_, .shell hne (not_exists.mp hn) hd fun w hr hb => hw ⟨w, hr, hb⟩⟩

theorem means_iff (ht : trim t = t) (hn : '\n' ∉ t) : ofInput home t = r ↔ Means home t r := by
  constructor
  · rintro rfl
    obtain ⟨r, h⟩ := exists_means home ht
    exact h.ofInput_eq ht hn ▸ h
  · intro h
    exact h.ofInput_eq ht hn

theorem Verb.names_eq (h : Verb w make) (n : Nat) : names (make n) = [] := by
  cases h <;> rfl

theorem Means.mem_names {c : Command} (h : Means home t (.ok c)) (hc : names c ≠ []) :
    t ∈ names c := by
  cases h with
  | name h => exact h
  | number hw _ _ => exact absurd (hw.names_eq _) hc
  | _ => exact absurd rfl hc

theorem Means.eq_nil (h : Means home t (.ok .nothing)) : t = [] := by
  -- As it is, the meaning keeps `cases` from solving for `make`.
  generalize hr : (Except.ok .nothing : Except Mistake Command) = r at h
  cases h with
  | nothing => rfl
  | name h => cases hr; cases h
  | number hw _ _ => cases hw <;> cases hr
  | _ => cases hr

theorem Means.lt {c : Command} (h : Means home t (.ok c))
    (hc : c = .pick n ∨ c = .goto n ∨ c = .page n) : n < 2 ^ 64 := by
  have hnames : names c = [] := by rcases hc with rfl | rfl | rfl <;> rfl
  cases h with
  | name h => exact absurd (hnames ▸ h) List.not_mem_nil
  | @choice _ m _ h =>
    have hm : m = n := by simpa using hc
    exact hm ▸ h.lt
  | @number _ _ _ _ m hw _ h =>
    have hm : m = n := by cases hw <;> simpa using hc
    exact hm ▸ h.lt
  | _ => simp at hc

/-- A word that is reserved is nothing but a part of the first word of a line for the shell. -/
theorem ofInput_of_prefix (ht : trim t = t) (hw : Reserved w) (hp : w <+: t)
    (hf : ¬Reserved (t.takeWhile (!isBlank ·))) : ofInput home t = .ok (.shell t) := by
  obtain ⟨u, rfl⟩ := hp
  refine ofInput_shell_of home ht (List.append_ne_nil_of_left_ne_nil hw.word.nonempty u)
    (fun c hc => ?_) (fun hd => ?_) fun v hv hb => ?_
  · cases (hw.lookup_append u).symm.trans (lookup_aliases_eq_some.mpr hc)
  · cases (hw.all_append u).symm.trans (List.all_eq_true.mpr hd.decimal)
  · exact hf ((begins_iff hv.word.notBlank).mp hb ▸ hv)

/-- What is typed at the prompt means what the grammar says and nothing else. It is nothing, or a
command under one of its names, just if it reads so; a reserved word with more in the same breath is
for the shell; and every number is below 2 ^ 64. -/
theorem ofInput_iff {input : Text} (hn : '\n' ∉ input) :
    (∀ r, ofInput home input = r ↔ Means home (trim input) r) ∧
    (ofInput home input = .ok .nothing ↔ trim input = []) ∧
    (∀ c, names c ≠ [] → (ofInput home input = .ok c ↔ trim input ∈ names c)) ∧
    (∀ w, Reserved w → w <+: trim input → ¬Reserved ((trim input).takeWhile (!isBlank ·)) →
      ofInput home input = .ok (.shell (trim input))) ∧
    ∀ c n, c = .pick n ∨ c = .goto n ∨ c = .page n → ofInput home input = .ok c → n < 2 ^ 64 := by
  have ht : trim (trim input) = trim input := trim_trim input
  have hn : '\n' ∉ trim input := fun h => hn (mem_of_mem_trim h)
  rw [← ofInput_trim]
  refine ⟨fun r => means_iff ht hn, ⟨fun h => ((means_iff ht hn).mp h).eq_nil, fun h => ?_⟩,
    fun c hc => ⟨fun h => ((means_iff ht hn).mp h).mem_names hc, fun h => ?_⟩,
    fun w hw hp hf => ofInput_of_prefix ht hw hp hf,
    fun c n hc h => ((means_iff ht hn).mp h).lt hc⟩
  · rw [h]; rfl
  · exact (means_iff ht hn).mpr (.name h)

theorem ofInput_tricky :
    ofInput none "\u3000goto_step \t+7 ".toList = .ok (.goto 7) ∧
    ofInput none "goto_stepx 3".toList = .ok (.shell "goto_stepx 3".toList) ∧
    ofInput (some "/h".toList) ":snippet\u00a0paste  ~/a o".toList =
      .ok (.stash (.paste "/h/a".toList .overwrite)) := by
  have hnumber : Means none (trim "\u3000goto_step \t+7 ".toList) (.ok (.goto 7)) := by
    have hg : Gap " \t".toList := ⟨by decide, List.all_eq_true.mp (by decide)⟩
    have h : Numeral "+7".toList 7 := natural?_eq_some.mp (by decide)
    have ht : trim "\u3000goto_step \t+7 ".toList =
        "goto_step".toList ++ " \t".toList ++ "+7".toList := by decide
    exact ht ▸ .number .gotoStep hg h
  have hstash : Means (some "/h".toList) (trim ":snippet\u00a0paste  ~/a o".toList)
      (.ok (.stash (.paste "/h/a".toList .overwrite))) := by
    have hwords : words "\u00a0paste  ~/a o".toList = ["paste".toList, "~/a".toList, "o".toList] := by
      decide
    have hb : ∀ c ∈ "\u00a0paste  ~/a o".toList.head?, isBlank c = true := fun c hc => by
      obtain rfl : '\u00a0' = c := by simpa using hc
      decide
    have hs : Spaced ["paste".toList, "~/a".toList, "o".toList] "\u00a0paste  ~/a o".toList :=
      hwords ▸ spaced_words hb (by decide)
    have ht : trim ":snippet\u00a0paste  ~/a o".toList =
        stashWord ++ "\u00a0paste  ~/a o".toList := by decide
    exact ht ▸ .stash hs (.overwrite "~/a".toList (.inr rfl))
  refine ⟨((ofInput_iff (by decide)).1 _).mpr hnumber, ?_,
    ((ofInput_iff (by decide)).1 _).mpr hstash⟩
  refine (ofInput_iff (by decide)).2.2.2.1 "goto".toList (.inl ⟨_, .goto⟩) (by decide) ?_
  rw [reserved_iff]
  decide

end Command

end Guidebook
