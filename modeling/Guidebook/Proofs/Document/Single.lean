import Guidebook.Proofs.Document.Comment

namespace Guidebook.Document

/-- A line that says nothing: there is nothing on it, or a comment. -/
def isIdle (l : Text) : Bool := Text.allBlank l || isComment l

/-- A line with the dash that starts an entry of a list. -/
def startsEntry (l : Text) : Bool := (afterDash? (Text.trimStart l)).isSome

/-- The first of the lines that says anything starts an entry, and no other line does. -/
def OneEntry (ls : List Text) : Prop :=
  ∃ idle l more, ls = idle ++ l :: more ∧ (∀ m ∈ idle, isIdle m = true) ∧ startsEntry l = true ∧
    ∀ m ∈ more, startsEntry m = false

section Steps

variable {l : Text}

theorem isIdle_of_startsEntry (h : startsEntry l = true) : isIdle l = false := by
  rw [isIdle, Bool.or_eq_false_iff]
  constructor
  · by_contra hb
    have hall : l.all Text.isBlank = true := by simpa [Text.allBlank] using hb
    have ht : Text.trimStart l = [] := List.dropWhile_eq_nil_iff.mpr (List.all_eq_true.mp hall)
    rw [startsEntry, ht] at h
    cases h
  · by_contra hc
    have hhead : (Text.trimStart l).head? = some '#' := by simpa [isComment] using hc
    obtain ⟨cs, hcs⟩ := List.head?_eq_some_iff.mp hhead
    rw [startsEntry, hcs] at h
    cases h

theorem entryStep_idle (h : isIdle l = true) (open? : Option Draft) (c : Cursor) :
    entryStep open? l c = ((id, open?), c) := by
  rw [isIdle] at h
  simp only [entryStep, h, if_true]

theorem onlyStep_idle (h : isIdle l = true) (s : Draft × Bool) (c : Cursor) :
    onlyStep s l c = ((id, s), c) := by
  rw [isIdle] at h
  simp only [onlyStep, h, if_true]

/-- Once a line says something, it makes no difference whether one has done so before. -/
theorem onlyStep_seen (h : isIdle l = false) (draft : Draft) (seen : Bool) (c : Cursor) :
    onlyStep (draft, seen) l c = onlyStep (draft, true) l c := by
  rw [isIdle] at h
  simp only [onlyStep, h, Bool.false_eq_true, if_false]

/-- The fields behind a dash are those of a new entry of a list, and of the only suggestion. -/
theorem steps_of_startsEntry (h : startsEntry l = true) (c : Cursor) :
    ∃ e : Draft × Cursor, entryStep none l c = ((id, some e.1), e.2) ∧
      (∀ seen, onlyStep (.empty, seen) l c = ((id, e.1, true), e.2)) ∧
      e.2.upcoming <:+ c.upcoming := by
  have hi : (Text.allBlank l || isComment l) = false := isIdle_of_startsEntry h
  obtain ⟨rest, ha⟩ := Option.isSome_iff_exists.mp h
  let e := readField .empty (keyColumn (indent l) (Text.trimStart l) (Text.trimStart rest))
    (Text.trimStart rest) c
  have hstart : startEntry (indent l) (Text.trimStart l) rest c = e := by
    rw [startEntry]
    split
    · next hn =>
      have hnil : Text.trimStart rest = [] := List.isEmpty_iff.mp hn
      simp only [e, hnil]
      rfl
    · rfl
  refine ⟨e, ?_, fun seen => ?_, readField_suffix ..⟩
  · simp only [entryStep, hi, ha, hstart, Bool.false_eq_true, if_false]
    rfl
  · simp only [onlyStep, hi, ha, Bool.false_eq_true, if_false, e]

theorem steps_of_open (h : startsEntry l = false) (draft : Draft) (c : Cursor) :
    ∃ e : Draft × Cursor, entryStep (some draft) l c = ((id, some e.1), e.2) ∧
      onlyStep (draft, true) l c = ((id, e.1, true), e.2) ∧ e.2.upcoming <:+ c.upcoming := by
  by_cases hi : isIdle l = true
  · exact ⟨(draft, c), entryStep_idle hi _ c, onlyStep_idle hi _ c, List.suffix_rfl⟩
  · have hi : (Text.allBlank l || isComment l) = false := by simpa [isIdle] using hi
    have ha : afterDash? (Text.trimStart l) = none := by simpa [startsEntry] using h
    refine ⟨readField draft (indent l) (Text.trimStart l) c, ?_, ?_, readField_suffix ..⟩
    · simp only [entryStep, hi, ha, Bool.false_eq_true, if_false]
    · simp only [onlyStep, hi, ha, Bool.false_eq_true, if_false]

end Steps

variable {key : Nat} {c : Cursor} {ls : List Text}

theorem exists_past_idle {idle rest : List Text} (hu : ∀ l ∈ idle, under key l = true)
    (hi : ∀ l ∈ idle, isIdle l = true) (hc : c.upcoming = idle ++ rest) :
    ∃ d : Cursor, d.upcoming = rest ∧ (∀ open?, readEntries key open? c = readEntries key open? d) ∧
      ∀ draft seen, readOnly key draft seen c = readOnly key draft seen d := by
  induction idle generalizing c with
  | nil => exact ⟨c, hc, fun _ => rfl, fun _ _ => rfl⟩
  | cons l idle ih =>
    rw [List.forall_mem_cons] at hu hi
    obtain ⟨c', ht, hc'⟩ := Cursor.exists_take? hc
    obtain ⟨d, hd, hentries, honly⟩ := ih hu.2 hi.2 hc'
    refine ⟨d, hd, fun open? => ?_, fun draft seen => ?_⟩
    · rw [readEntries_take? open? ht hu.1, entryStep_idle hi.1]
      exact hentries open?
    · rw [readOnly_take? (draft, seen) ht hu.1, onlyStep_idle hi.1]
      exact honly draft seen

/-- An open entry that no other one follows gets what the only suggestion gets. -/
theorem readEntries_open (hn : ∀ l ∈ c.upcoming, startsEntry l = false) (draft : Draft) :
    (readEntries key (some draft) c).1 =
      (readOnly key draft true c).1.toList.map Draft.suggestion := by
  -- On the lines to come and not on a list: a field takes any number of them.
  induction hlen : c.upcoming.length using Nat.strongRecOn generalizing draft c with
  | ind n ih =>
    cases hc : c.inside key with
    | nil =>
      have hstop : (readOnly key draft true c).1 = some draft :=
        ((readOnly_loops key).stop (draft, true) c hc).1
      rw [(readEntries_stop (some draft) hc).1, hstop]
    | cons l ls =>
      obtain ⟨d, ht, hl, -⟩ := Cursor.take?_of_inside hc
      have hup := Cursor.upcoming_take? ht
      rw [hup, List.forall_mem_cons] at hn
      obtain ⟨e, hentry, honly, hsuffix⟩ := steps_of_open hn.1 draft d
      have hlt : e.2.upcoming.length < n := by
        have hle := hsuffix.length_le
        rw [hup, List.length_cons] at hlen
        omega
      rw [readEntries_take? (some draft) ht hl, readOnly_take? (draft, true) ht hl, hentry, honly]
      exact ih _ hlt (fun m hm => hn.2 m (hsuffix.subset hm)) e.1 rfl

theorem readEntries_only (hc : c.upcoming = ls) (hu : ∀ l ∈ ls, under key l = true)
    (h : OneEntry ls) :
    (readEntries key none c).1 =
      (readOnly key .empty false c).1.toList.map Draft.suggestion := by
  obtain ⟨idle, l, more, rfl, hidle, hl, hmore⟩ := h
  obtain ⟨huidle, hu⟩ := List.forall_mem_append.mp hu
  obtain ⟨d, hd, hentries, honly⟩ := exists_past_idle huidle hidle hc
  obtain ⟨d', ht, hd'⟩ := Cursor.exists_take? hd
  obtain ⟨e, hentry, hstep, hsuffix⟩ := steps_of_startsEntry hl d'
  have hl := hu l List.mem_cons_self
  rw [hentries, honly, readEntries_take? none ht hl, readOnly_take? (.empty, false) ht hl, hentry,
    hstep]
  exact readEntries_open (fun m hm => hmore m (hd' ▸ hsuffix.subset hm)) e.1

theorem readOnly_seen (hc : c.upcoming = ls) (hu : ∀ l ∈ ls, under key l = true)
    (h : ∃ l ∈ ls, isIdle l = false) (draft : Draft) :
    readOnly key draft false c = readOnly key draft true c := by
  induction ls generalizing c with
  | nil => simp at h
  | cons l ls ih =>
    rw [List.forall_mem_cons] at hu
    obtain ⟨d, ht, hd⟩ := Cursor.exists_take? hc
    rw [readOnly_take? (draft, false) ht hu.1, readOnly_take? (draft, true) ht hu.1]
    cases hi : isIdle l with
    | true =>
      have hrest : ∃ m ∈ ls, isIdle m = false := by simpa [hi] using h
      rw [onlyStep_idle hi, onlyStep_idle hi]
      exact ih hd hu.2 hrest
    | false => rw [onlyStep_seen hi]

theorem readOnly_isSome (key : Nat) (draft : Draft) {seen : Bool} (hs : seen = true) (c : Cursor) :
    (readOnly key draft seen c).1.isSome = true := by
  fun_induction readOnly key draft seen c with
  | case1 | case3 => simp [hs]
  | case2 _ _ _ _ _ _ _ ih | case4 _ _ _ _ _ _ _ _ _ ih => exact ih hs
  | case5 _ _ _ _ _ _ _ _ _ _ _ ih => exact ih rfl

theorem readOnly_eq_none (hc : c.upcoming = ls) (hu : ∀ l ∈ ls, under key l = true) :
    (readOnly key .empty false c).1 = none ↔ ∀ l ∈ ls, isIdle l = true := by
  constructor
  · intro h
    by_contra hn
    have hseen : ∃ l ∈ ls, isIdle l = false := by simpa using hn
    have hsome := readOnly_isSome key .empty rfl c
    rw [← readOnly_seen hc hu hseen, h] at hsome
    cases hsome
  · intro hi
    obtain ⟨d, hd, -, honly⟩ := exists_past_idle hu hi (hc.trans (List.append_nil ls).symm)
    have hinside : d.inside key = [] := by rw [Cursor.inside, hd, List.takeWhile_nil]
    rw [honly]
    exact ((readOnly_loops key).stop (.empty, false) d hinside).1

/-- What a reader gets from lines under its key does not depend on what follows them. -/
theorem Local.ofLines {α : Type} {f : Cursor → α × Cursor} (h : Local 0 f) {after : List Text}
    (hu : ∀ l ∈ ls, under 0 l = true) (hs : Stops 0 after) :
    (f (.ofLines (ls ++ after))).1 = (f (.ofLines ls)).1 ∧
      (f (.ofLines (ls ++ after))).2.upcoming = after := by
  obtain ⟨hin, hout⟩ := Cursor.inside_of_append (c := .ofLines (ls ++ after)) hu hs rfl
  have hnil : Stops 0 [] := by simp [Stops]
  obtain ⟨hin', -⟩ := Cursor.inside_of_append (c := .ofLines ls) hu hnil (List.append_nil _).symm
  exact ⟨h.answer _ _ (hin.trans hin'.symm), (h.rest _).trans hout⟩

def onlyHead (r : Text) : Text := "suggestion:".toList ++ r

def listHead (r : Text) : Text := "suggestions:".toList ++ r

section Heads

variable {r : Text} (hr : startsBlank r = true)

include hr

theorem ofText?_onlyHead :
    Field.ofText? (Text.trimStart (onlyHead r)) = some ⟨"suggestion".toList, Text.trim r⟩ := by
  have hcut : Text.cut? ':' (Text.trimStart (onlyHead r)) = some ("suggestion".toList, r) := rfl
  have hkey : Field.isKey (Text.trimEnd "suggestion".toList) = true := by decide
  simp only [Field.ofText?, hcut, hkey, hr, Bool.and_self, if_true]
  rfl

theorem startsList_listHead : StartsList (listHead r) := by
  have hcut : Text.cut? ':' (Text.trimStart (listHead r)) = some ("suggestions".toList, r) := rfl
  have hkey : Field.isKey (Text.trimEnd "suggestions".toList) = true := by decide
  refine ⟨rfl, ⟨"suggestions".toList, Text.trim r⟩, ?_, rfl⟩
  simp only [Field.ofText?, hcut, hkey, hr, Bool.and_self, if_true]
  rfl

variable {fs after : List Text} (step : Option Text) (hfs : ∀ l ∈ fs, under 0 l = true)
  (hafter : Stops 0 after)

include hfs hafter

theorem recordsFrom_onlyHead (hc : c.upcoming = onlyHead r :: (fs ++ after)) :
    recordsFrom step c =
      within step ((readOnly 0 .empty false (.ofLines fs)).1.toList.map Draft.suggestion) ++
        recordsFrom step (.ofLines after) := by
  obtain ⟨d, ht, hd⟩ := Cursor.exists_take? hc
  have hf := ofText?_onlyHead hr
  obtain ⟨hb, hcomment, hs⟩ := visible_of_field hf
  have hkey : Keyword.ofKey? "suggestion".toList = some .single := by decide
  have hi : indent (onlyHead r) = 0 := rfl
  have hl : lineStep step (onlyHead r) d =
      ((within step ((readOnly 0 .empty false d).1.toList.map Draft.suggestion), step),
        (readOnly 0 .empty false d).2) := by
    simp only [lineStep, hb, hcomment, hs, hf, hkey, hi, Bool.or_self, Bool.false_eq_true, if_false]
  have hsame := (readOnly_local 0 .empty false).congr (hd.trans (Cursor.upcoming_ofLines _).symm)
  obtain ⟨hanswer, hrest⟩ := (readOnly_local 0 .empty false).ofLines hfs hafter
  rw [recordsFrom_take? step ht, hl, hsame.1, hanswer,
    recordsFrom_congr step ((hsame.2.trans hrest).trans (Cursor.upcoming_ofLines _).symm)]

theorem recordsFrom_listHead (hc : c.upcoming = listHead r :: (fs ++ after)) :
    recordsFrom step c =
      within step (readEntries 0 none (.ofLines fs)).1 ++ recordsFrom step (.ofLines after) := by
  obtain ⟨hanswer, hrest⟩ := (readEntries_local 0 none).ofLines hfs hafter
  rw [recordsFrom_list (startsList_listHead hr) step hc, hanswer,
    recordsFrom_congr step (hrest.trans (Cursor.upcoming_ofLines _).symm)]

end Heads

theorem under_marked {blanks rest : Text} (hne : blanks ≠ []) (hb : Text.allBlank blanks = true) :
    under 0 (marked blanks rest []) = true := by
  refine under_of_lt ?_
  rw [indent_marked (List.all_eq_true.mp hb)]
  exact List.length_pos_iff.mpr hne

theorem entryStep_dash {blanks rest : Text} (hb : Text.allBlank blanks = true)
    (hr : Text.allBlank rest = true) (c : Cursor) :
    entryStep none (marked blanks rest []) c = ((id, some .empty), c) := by
  have hblanks : ∀ x ∈ blanks, Text.isBlank x = true := List.all_eq_true.mp hb
  have htrim : Text.trimStart rest = [] := List.dropWhile_eq_nil_iff.mpr (List.all_eq_true.mp hr)
  have hstart : startsBlank rest = true := by
    cases rest with
    | nil => rfl
    | cons x xs => exact List.all_eq_true.mp hr x List.mem_cons_self
  simp only [entryStep, allBlank_marked, isComment_marked hblanks, trimStart_marked hblanks,
    List.append_nil, afterDash?, hstart, startEntry, htrim, Bool.or_self, Bool.false_eq_true,
    if_false, if_true]
  rfl

/-- A dash on a line of its own starts the entry that the lines below it are read into. -/
theorem readEntries_dash {blanks rest : Text} (hne : blanks ≠ []) (hb : Text.allBlank blanks = true)
    (hr : Text.allBlank rest = true) (hu : ∀ l ∈ ls, under 0 l = true)
    (h : ∃ l ∈ ls, isIdle l = false) (hn : ∀ l ∈ ls, startsEntry l = false) :
    (readEntries 0 none (.ofLines (marked blanks rest [] :: ls))).1 =
      (readOnly 0 .empty false (.ofLines ls)).1.toList.map Draft.suggestion := by
  have hdash : under 0 (marked blanks rest []) = true := under_marked hne hb
  obtain ⟨d, ht, hd⟩ := Cursor.exists_take? (Cursor.upcoming_ofLines (marked blanks rest [] :: ls))
  have hsame := (readOnly_local 0 .empty true).congr (hd.trans (Cursor.upcoming_ofLines _).symm)
  rw [readEntries_take? none ht hdash, entryStep_dash hb hr,
    readOnly_seen (Cursor.upcoming_ofLines ls) hu h, ← hsame.1]
  exact readEntries_open (hd ▸ hn) .empty

/-- A single suggestion is what a list with one entry gives: the entry that the first dash starts,
or, where there is no dash, the one that a line with nothing but a dash would start. Whatever stands
under its key, it is at most one, of the step that is open, and it is there as soon as any line says
something; for everything else the key and the lines under it might as well be left out. -/
theorem read_only {before fs after : List Text} {r t : Text} (hr : startsBlank r = true)
    (hfs : ∀ l ∈ fs, under 0 l = true) (hafter : Stops 0 after)
    (ht : Text.lines t = before ++ onlyHead r :: (fs ++ after)) :
    (∀ u, Text.lines u = before ++ listHead r :: (fs ++ after) → OneEntry fs → read u = read t) ∧
    (∀ u blanks rest, blanks ≠ [] → Text.allBlank blanks = true → Text.allBlank rest = true →
      Text.lines u = before ++ listHead r :: marked blanks rest [] :: (fs ++ after) →
      (∃ l ∈ fs, isIdle l = false) → (∀ l ∈ fs, startsEntry l = false) → read u = read t) ∧
    ∃ rs step ts y, recordsFrom none (.ofLines before) = rs ++ closing step ∧
      recordsFrom none (.ofLines (before ++ after)) = rs ++ ts ∧
      recordsOf t = rs ++ within step y.toList ++ ts ∧ (y = none ↔ ∀ l ∈ fs, isIdle l = true) := by
  obtain ⟨rs, next, hbefore, htail⟩ := recordsFrom_split none (.ofLines before)
  let y := (readOnly 0 .empty false (.ofLines fs)).1.map Draft.suggestion
  have honly : recordsOf t = rs ++ within next y.toList ++ recordsFrom next (.ofLines after) := by
    have hstops : Stops 0 (onlyHead r :: (fs ++ after)) := stops_field rfl (ofText?_onlyHead hr) _
    obtain ⟨e, he, h⟩ := htail _ (.ofText t) hstops ht
    rw [recordsOf, h, recordsFrom_onlyHead hr next hfs hafter he, Option.toList_map,
      List.append_assoc]
  -- A list that gives the same suggestions makes the same document.
  have hlist {u : Text} (ls : List Text) (hls : ∀ l ∈ ls, under 0 l = true)
      (hu : Text.lines u = before ++ listHead r :: (ls ++ after))
      (h : (readEntries 0 none (.ofLines ls)).1 =
        (readOnly 0 .empty false (.ofLines fs)).1.toList.map Draft.suggestion) :
      read u = read t := by
    obtain ⟨e, he, hrecords⟩ := htail _ (.ofText u) ((startsList_listHead hr).stops (ls ++ after)) hu
    have hsame : recordsOf u = recordsOf t := by
      rw [recordsOf, hrecords, recordsFrom_listHead hr next hls hafter he, h, honly,
        Option.toList_map, List.append_assoc]
    rw [read_eq, read_eq, hsame]
  refine ⟨fun u hu h => ?_, fun u blanks rest hne hb hrest hu hseen hn => ?_,
    rs, next, recordsFrom next (.ofLines after), y, hbefore, ?_, honly, ?_⟩
  · exact hlist fs hfs hu (readEntries_only (Cursor.upcoming_ofLines fs) hfs h)
  · exact hlist (marked blanks rest [] :: fs) (List.forall_mem_cons.mpr ⟨under_marked hne hb, hfs⟩) hu
      (readEntries_dash hne hb hrest hfs hseen hn)
  · obtain ⟨e, he, h⟩ := htail after (.ofLines (before ++ after)) hafter rfl
    rw [h, recordsFrom_congr next (he.trans (Cursor.upcoming_ofLines _).symm)]
  · rw [Option.map_eq_none_iff]
    exact readOnly_eq_none (Cursor.upcoming_ofLines fs) hfs

def dashed : List Text :=
  [[], "\t# - how".toList, "  - note: |".toList, "       -a".toList, "    cmd: ls".toList,
    "  what: ?".toList, "  kind: snippet".toList]

def dashless : List Text :=
  ["  # - x".toList, "  content: |+".toList, "     #y".toList, [], " kind: snippet".toList]

def dashedDocument (head : Text) : Text :=
  "step: A\n".toList ++ head ++
    "\n\n\t# - how\n  - note: |\n       -a\n    cmd: ls\n  what: ?\n  kind: snippet\nstep: B".toList

def dashlessDocument (head : Text) : Text :=
  "step: A\n".toList ++ head ++ "\n  # - x\n  content: |+\n     #y\n\n kind: snippet\nstep: B".toList

theorem read_only_alike :
    read (dashedDocument "suggestions:".toList) = read (dashedDocument "suggestion:".toList) ∧
    read (dashlessDocument "suggestions:\n -".toList) = read (dashlessDocument "suggestion:".toList) ∧
    read (dashlessDocument "suggestion:".toList) =
      .ok [.step "A".toList, .suggestion ⟨.snippet, none, "  #y\n".toList⟩, .endOfStep,
        .step "B".toList, .endOfStep] := by
  have hafter : Stops 0 ["step: B".toList] := fun l hl => by
    obtain rfl : "step: B".toList = l := by simpa using hl
    decide
  have hdashed := @read_only ["step: A".toList] dashed ["step: B".toList] []
    (dashedDocument "suggestion:".toList) rfl (by decide) hafter (by decide +kernel)
  have hdashless := @read_only ["step: A".toList] dashless ["step: B".toList] []
    (dashlessDocument "suggestion:".toList) rfl (by decide) hafter (by decide +kernel)
  refine ⟨hdashed.1 _ (by decide +kernel) ?_, ?_, by decide +kernel⟩
  · exact ⟨[[], "\t# - how".toList], "  - note: |".toList, dashed.drop 3, rfl, by decide, by decide,
      by decide⟩
  · exact hdashless.2.1 _ " ".toList [] (by decide) (by decide) (by decide) (by decide +kernel)
      (by decide) (by decide)

end Guidebook.Document
