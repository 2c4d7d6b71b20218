import Guidebook.Proofs.Document.Column
import Guidebook.Proofs.Document.Join

namespace Guidebook.Document

/-- The line that a list stands under, with its key at column 0. -/
def StartsList (l : Text) : Prop :=
  indent l = 0 ∧ ∃ f, Field.ofText? (Text.trimStart l) = some f ∧ f.key = "suggestions".toList

/-- An entry of a list: a dash, and a command beside its key. -/
def entryLine (before value : Text) : Text := marked before " ".toList ("cmd: ".toList ++ value)

/-- The lines of a list of commands that stand beside their keys. -/
inductive ListLine : Text → Prop where
  | entry {before value : Text} (hne : before ≠ []) (hb : ∀ c ∈ before, Text.isBlank c = true)
    (hv : Chomp.ofValue? (Text.trim value) = none) : ListLine (entryLine before value)
  | blank {l : Text} (h : Text.allBlank l = true) : ListLine l
  | comment {l : Text} (h : isComment l = true) (hi : 0 < indent l) : ListLine l

theorem ofText?_cmd (value : Text) :
    Field.ofText? ("cmd: ".toList ++ value) = some ⟨"cmd".toList, Text.trim value⟩ := rfl

theorem ofText?_dash (value : Text) : Field.ofText? ("- cmd: ".toList ++ value) = none := rfl

theorem lineStep_comment {l : Text} (h : isComment l = true) (step : Option Text) (c : Cursor) :
    lineStep step l c = (([], step), c) := by
  simp [lineStep, h]

theorem entryStep_comment {l : Text} (h : isComment l = true) (open? : Option Draft) (c : Cursor) :
    entryStep open? l c = ((id, open?), c) := by
  simp [entryStep, h]

namespace ListLine

variable {l : Text}

theorem under (h : ListLine l) : under 0 l = true := by
  cases h with
  | entry hne hb hv =>
    refine under_of_lt ?_
    rw [entryLine, indent_marked hb]
    exact List.length_pos_iff.mpr hne
  | blank h => exact under_of_blank h
  | comment h hi => exact under_of_lt hi

/-- The line takes no other line along. -/
theorem entryStep_eq (h : ListLine l) (open? : Option Draft) :
    ∃ g next, ∀ c, entryStep open? l c = ((g, next), c) := by
  cases h with
  | @entry before value hne hb hv =>
    have hblank : ∀ c ∈ " ".toList, Text.isBlank c = true := List.all_eq_true.mp (by decide)
    refine ⟨(open?.toList.map Draft.suggestion ++ ·),
      some (Draft.empty.set "cmd".toList (unquote (Text.trim value))), fun c => ?_⟩
    rw [entryLine, entryStep_marked hb hblank (by decide) (ofText?_cmd value),
      readField_scalar (ofText?_cmd value) hv]
  | blank h => exact ⟨id, open?, fun c => by simp [entryStep, h]⟩
  | comment h hi => exact ⟨id, open?, entryStep_comment h open?⟩

/-- Where there is no list, the line means nothing. -/
theorem lineStep_eq (h : ListLine l) (step : Option Text) (c : Cursor) :
    lineStep step l c = (([], step), c) := by
  cases h with
  | @entry before value hne hb hv =>
    have htrim : Text.trimStart (entryLine before value) = "- cmd: ".toList ++ value :=
      trimStart_marked hb
    have hseparator : isSeparator (entryLine before value) = false := by
      rw [isSeparator, beq_eq_false_iff_ne, Text.trim, htrim]
      intro hs
      have hp := Text.trimEnd_prefix ("- cmd: ".toList ++ value)
      rw [hs] at hp
      obtain ⟨r, hr⟩ := hp
      cases hr
    have hblank : Text.allBlank (entryLine before value) = false := allBlank_marked
    have hcomment : isComment (entryLine before value) = false := isComment_marked hb
    simp only [lineStep, hblank, hcomment, hseparator, htrim, ofText?_dash, Bool.or_self,
      Bool.false_eq_true, if_false]
  | blank h => simp [lineStep, h]
  | comment h hi => exact lineStep_comment h step c

end ListLine

theorem lineStep_list {l : Text} (h : StartsList l) (step : Option Text) (c : Cursor) :
    lineStep step l c = ((within step (readEntries 0 none c).1, step), (readEntries 0 none c).2) := by
  obtain ⟨hi, f, hf, hk⟩ := h
  obtain ⟨hb, hc, hs⟩ := visible_of_field hf
  have hkey : Keyword.ofKey? f.key = some .list := by
    rw [hk]
    rfl
  simp [lineStep, hb, hc, hs, hf, hkey, hi]

theorem StartsList.stops {l : Text} (h : StartsList l) (ls : List Text) : Stops 0 (l :: ls) := by
  obtain ⟨hi, f, hf, -⟩ := h
  exact stops_field hi hf ls

theorem stops_comment {x : Text} (hx : isComment x = true) (hi : indent x = 0) (ls : List Text) :
    Stops 0 (x :: ls) := by
  intro m hm
  obtain rfl : x = m := Option.some.inj hm
  have ht : Text.trimStart x = x := trimStart_of_indent hi
  cases x with
  | nil => cases hx
  | cons c cs =>
    rw [isComment, ht, List.head?_cons, beq_iff_eq] at hx
    obtain rfl := Option.some.inj hx
    rfl

variable {c d : Cursor} {rows rest : List Text} {x : Text}

/-- A comment under the key of a list is passed over, whatever follows it. -/
theorem readEntries_insert (hrows : ∀ l ∈ rows, ListLine l) (hx : isComment x = true)
    (hi : 0 < indent x) (open? : Option Draft) (hc : c.upcoming = rows ++ rest)
    (hd : d.upcoming = rows ++ x :: rest) :
    (readEntries 0 open? d).1 = (readEntries 0 open? c).1 ∧
      (readEntries 0 open? d).2.upcoming = (readEntries 0 open? c).2.upcoming := by
  induction rows generalizing open? c d with
  | nil =>
    obtain ⟨d', ht, hd'⟩ := Cursor.exists_take? hd
    rw [readEntries_take? open? ht (under_of_lt hi), entryStep_comment hx]
    exact (readEntries_local 0 open?).congr (hd'.trans hc.symm)
  | cons l rows ih =>
    obtain ⟨hl, hrows⟩ := List.forall_mem_cons.mp hrows
    obtain ⟨c', htc, hc'⟩ := Cursor.exists_take? hc
    obtain ⟨d', htd, hd'⟩ := Cursor.exists_take? hd
    obtain ⟨g, next, hstep⟩ := hl.entryStep_eq open?
    obtain ⟨hanswer, hrest⟩ := ih hrows next hc' hd'
    rw [readEntries_take? open? htc hl.under, readEntries_take? open? htd hl.under, hstep, hstep]
    exact ⟨congrArg g hanswer, hrest⟩

/-- The lines of a list that has been ended mean nothing. -/
theorem recordsFrom_left (hrows : ∀ l ∈ rows, ListLine l) (step : Option Text)
    (hc : c.upcoming = rows ++ rest) : recordsFrom step c = recordsFrom step (.ofLines rest) := by
  induction rows generalizing c with
  | nil => exact recordsFrom_congr step hc
  | cons l rows ih =>
    obtain ⟨hl, hrows⟩ := List.forall_mem_cons.mp hrows
    obtain ⟨c', ht, hc'⟩ := Cursor.exists_take? hc
    rw [recordsFrom_take? step ht, hl.lineStep_eq, List.nil_append]
    exact ih hrows hc'

theorem recordsFrom_list {head : Text} (h : StartsList head) (step : Option Text)
    (hc : c.upcoming = head :: rest) :
    recordsFrom step c = within step (readEntries 0 none (.ofLines rest)).1 ++
      recordsFrom step (readEntries 0 none (.ofLines rest)).2 := by
  obtain ⟨d, ht, hd⟩ := Cursor.exists_take? hc
  obtain ⟨hanswer, hrest⟩ :=
    (readEntries_local 0 none).congr (hd.trans (Cursor.upcoming_ofLines _).symm)
  rw [recordsFrom_take? step ht, lineStep_list h, hanswer, recordsFrom_congr step hrest]

/-- A comment under the key of a list makes no difference between any lines of the list, and
neither does one behind the list. A comment at column 0 ends the list: what the list has behind it
is not there. -/
theorem read_comment {before es fs after : List Text} {head x : Text} {t u : Text}
    (hhead : StartsList head) (hrows : ∀ l ∈ es ++ fs, ListLine l) (hafter : Stops 0 after)
    (hx : isComment x = true) (ht : Text.lines t = before ++ head :: (es ++ (fs ++ after)))
    (hu : Text.lines u = before ++ head :: (es ++ x :: (fs ++ after))) :
    (0 < indent x ∨ fs = [] → read u = read t) ∧
    (indent x = 0 → ∀ s, Text.lines s = before ++ head :: (es ++ after) → read u = read s) := by
  obtain ⟨hes, hfs⟩ := List.forall_mem_append.mp hrows
  -- What comes before the list is read alike, and leaves the same step open.
  obtain ⟨rs, next, -, htail⟩ := recordsFrom_split none (.ofLines before)
  have hlist {v : Text} {ls : List Text} (hv : Text.lines v = before ++ head :: ls) :
      recordsOf v = rs ++ (within next (readEntries 0 none (.ofLines ls)).1 ++
        recordsFrom next (readEntries 0 none (.ofLines ls)).2) := by
    obtain ⟨e, he, h⟩ := htail (head :: ls) (.ofText v) (hhead.stops ls) hv
    rw [recordsOf, h, recordsFrom_list hhead next he]
  have hread {v w : Text} (h : recordsOf v = recordsOf w) : read v = read w := by
    rw [read_eq, read_eq, h]
  have hunder : 0 < indent x → recordsOf u = recordsOf t := by
    intro hi
    obtain ⟨hanswer, hrest⟩ := readEntries_insert (c := .ofLines (es ++ (fs ++ after)))
      (d := .ofLines (es ++ x :: (fs ++ after))) hes hx hi none rfl rfl
    rw [hlist hu, hlist ht, hanswer, recordsFrom_congr next hrest]
  have hcut : indent x = 0 → ∀ s, Text.lines s = before ++ head :: (es ++ after) →
      recordsOf u = recordsOf s := by
    intro hi s hs
    have hloc := readEntries_local 0 none
    obtain ⟨hinu, houtu⟩ := Cursor.inside_of_append (c := .ofLines (es ++ x :: (fs ++ after)))
      (fun l hl => (hes l hl).under) (stops_comment hx hi _) rfl
    obtain ⟨hins, houts⟩ := Cursor.inside_of_append (c := .ofLines (es ++ after))
      (fun l hl => (hes l hl).under) hafter rfl
    have hanswer := hloc.answer _ _ (hinu.trans hins.symm)
    have hleft : recordsFrom next (readEntries 0 none (.ofLines (es ++ x :: (fs ++ after)))).2 =
        recordsFrom next (readEntries 0 none (.ofLines (es ++ after))).2 := by
      obtain ⟨d, htake, hd⟩ := Cursor.exists_take? ((hloc.rest _).trans houtu)
      rw [recordsFrom_take? next htake, lineStep_comment hx, List.nil_append,
        recordsFrom_left hfs next hd]
      exact recordsFrom_congr next ((hloc.rest _).trans houts).symm
    rw [hlist hu, hlist hs, hanswer, hleft]
  refine ⟨fun h => ?_, fun hi s hs => hread (hcut hi s hs)⟩
  rcases Nat.eq_zero_or_pos (indent x) with hi | hi
  · obtain rfl : fs = [] := h.resolve_left (by omega)
    exact hread (hcut hi t (by rw [ht, List.nil_append]))
  · exact hread (hunder hi)

def twoEntries : Text := "step: A\nsuggestions:\n  - cmd: one\n  - cmd: two\n".toList

def oneEntry : Text := "step: A\nsuggestions:\n  - cmd: one\n".toList

/-- Two entries with a line between them. -/
def divided (x : Text) : Text :=
  "step: A\nsuggestions:\n  - cmd: one\n".toList ++ x ++ "\n  - cmd: two\n".toList

theorem listLine_entry (before value : Text) (hne : before ≠ [])
    (hb : before.all Text.isBlank = true) (hv : Chomp.ofValue? (Text.trim value) = none) :
    ListLine (entryLine before value) := .entry hne (List.all_eq_true.mp hb) hv

theorem read_comment_between :
    read (divided "\t# x".toList) = read twoEntries ∧ read (divided "# x".toList) = read oneEntry := by
  have hhead : StartsList "suggestions:".toList :=
    ⟨rfl, ⟨"suggestions".toList, []⟩, rfl, rfl⟩
  have hrows : ∀ l ∈ ["  - cmd: one".toList] ++ ["  - cmd: two".toList], ListLine l := by
    rw [List.forall_mem_append, List.forall_mem_singleton, List.forall_mem_singleton]
    exact ⟨listLine_entry "  ".toList "one".toList (by simp) rfl rfl,
      listLine_entry "  ".toList "two".toList (by simp) rfl rfl⟩
  have hafter : Stops 0 [] := by simp [Stops]
  have ht : Text.lines twoEntries = ["step: A".toList] ++ "suggestions:".toList ::
      (["  - cmd: one".toList] ++ (["  - cmd: two".toList] ++ [])) := by decide +kernel
  have hdeep : Text.lines (divided "\t# x".toList) = ["step: A".toList] ++ "suggestions:".toList ::
      (["  - cmd: one".toList] ++ "\t# x".toList :: (["  - cmd: two".toList] ++ [])) := by
    decide +kernel
  have hflat : Text.lines (divided "# x".toList) = ["step: A".toList] ++ "suggestions:".toList ::
      (["  - cmd: one".toList] ++ "# x".toList :: (["  - cmd: two".toList] ++ [])) := by
    decide +kernel
  have hunder := read_comment hhead hrows hafter rfl ht hdeep
  have hcut := read_comment hhead hrows hafter rfl ht hflat
  exact ⟨hunder.1 (.inl (by decide)), hcut.2 rfl oneEntry (by decide +kernel)⟩

/-- A comment at column 0 between two entries takes the second one away. -/
theorem read_comment_lost : Text.lines (divided "# x".toList) =
      ["step: A".toList, "suggestions:".toList, "  - cmd: one".toList, "# x".toList,
        "  - cmd: two".toList] ∧
    read (divided "# x".toList) ≠ read twoEntries := by
  refine ⟨?_, ?_⟩ <;> decide +kernel

end Guidebook.Document
