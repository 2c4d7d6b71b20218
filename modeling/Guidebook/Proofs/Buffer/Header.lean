import Guidebook.Buffer
import Guidebook.Proofs.Text.Lines
import Guidebook.Proofs.Text.Number
import Guidebook.Proofs.Text.Trim

namespace Guidebook

namespace Text

variable {l : Text}

theorem exists_last_line (t : Text) : ∃ a l, t = a ++ l ∧ Ended a ∧ '\n' ∉ l := by
  by_cases h : '\n' ∈ t
  · obtain ⟨l, a, ht, hl⟩ := List.eq_append_cons_of_mem (List.mem_reverse.mpr h)
    refine ⟨a.reverse ++ ['\n'], l.reverse, ?_, .inr (by simp), by simpa using hl⟩
    rw [← t.reverse_reverse, ht]
    simp
  · exact ⟨[], t, rfl, .inl rfl, h⟩

/-- A line feed behind a line may take a carriage return away, but nothing else. -/
theorem exists_lines_newline (h : '\n' ∉ l) :
    ∃ m, lines (l ++ ['\n']) = [m] ∧ trimEnd m = trimEnd l := by
  by_cases hr : l.getLast? = some '\r'
  · obtain ⟨k, rfl⟩ := List.getLast?_eq_some_iff.mp hr
    have hk : '\n' ∉ k := fun hk => h (List.mem_append_left _ hk)
    have hreturn : ∀ c ∈ ['\r'], isBlank c = true := List.all_eq_true.mp (by decide)
    refine ⟨k, ?_, (trimEnd_append_of_blank hreturn k).symm⟩
    rw [List.append_assoc]
    exact lines_return_newline hk
  · exact ⟨l, lines_line ⟨h, hr⟩ [], rfl⟩

/-- What other lines are put behind is, but for blanks at the end, what the first ones make. -/
theorem joinLines_append (ls : List Text) :
    ∃ t, (∀ ms ≠ [], joinLines (ls ++ ms) = t ++ joinLines ms) ∧
      trimEnd t = trimEnd (joinLines ls) := by
  induction ls with
  | nil => exact ⟨[], fun ms _ => rfl, rfl⟩
  | cons k ls ih =>
    obtain ⟨t, ht, he⟩ := ih
    refine ⟨k ++ '\n' :: t, fun ms hms => ?_, ?_⟩
    · have hne : ls ++ ms ≠ [] := List.append_ne_nil_of_right_ne_nil ls hms
      rw [List.cons_append, joinLines_cons k hne, ht ms hms, List.append_assoc, List.cons_append]
    · rcases eq_or_ne ls [] with rfl | hne
      · have hnewline : trimEnd ('\n' :: t) = trimEnd [] := trimEnd_congr he ['\n']
        rw [trimEnd_congr hnewline k, List.append_nil, joinLines, List.intercalate_singleton]
      · rw [joinLines_cons k hne]
        exact trimEnd_congr (trimEnd_congr he ['\n']) k

theorem Ended.append {t u : Text} (ht : Ended t) (hu : Ended u) : Ended (t ++ u) := by
  obtain rfl | hu := hu
  · rwa [List.append_nil]
  · exact .inr (by rw [List.getLast?_append, hu]; rfl)

end Text

namespace Buffer

variable {number : Nat} {step : Step} {x : Suggestion} {l : Text} {ls : List Text}

def marked (l : Text) : Text := '#' :: ' ' :: l

/-- What stands in comments above a suggestion, line by line. -/
def headerTexts (number : Nat) (step : Step) (x : Suggestion) : List Text :=
  ("Step ".toList ++ Text.ofNat number ++ ": ".toList ++ step.title) ::
    ((step.description.map Text.lines).getD [] ++
      (x.note.map fun n => [] :: Text.lines n).getD [])

theorem header_eq (number : Nat) (step : Step) (x : Suggestion) :
    header number step x = ((headerTexts number step x).map comment).flatten := by
  rw [header, headerTexts, List.map_cons, List.flatten_cons, List.map_append, List.flatten_append]
  cases step.description <;> cases x.note <;> simp [comments]

theorem ended_comment (l : Text) : Text.Ended (comment l) := by
  rw [comment]
  split
  · exact .inr rfl
  · exact .inr (List.getLast?_concat (l := marked l))

theorem lines_comment (h : '\n' ∉ l) :
    ∃ m, Text.lines (comment l) = [m] ∧ Text.trimEnd m = Text.trimEnd (marked l) := by
  cases l with
  | nil => exact ⟨['#'], rfl, by decide⟩
  | cons c cs => exact Text.exists_lines_newline (l := marked (c :: cs)) (by simpa [marked] using h)

theorem ended_comments (ls : List Text) : Text.Ended (ls.map comment).flatten := by
  induction ls with
  | nil => exact .inl rfl
  | cons l ls ih => exact (ended_comment l).append ih

theorem lines_comments (h : ∀ l ∈ ls, '\n' ∉ l) :
    (Text.lines (ls.map comment).flatten).map Text.trimEnd =
      ls.map fun l => Text.trimEnd (marked l) := by
  induction ls with
  | nil => rfl
  | cons l ls ih =>
    rw [List.forall_mem_cons] at h
    obtain ⟨m, hm, ht⟩ := lines_comment h.1
    rw [List.map_cons, List.flatten_cons, Text.lines_append (ended_comment l), hm, List.map_append,
      ih h.2, List.map_singleton, ht, List.singleton_append, List.map_cons]

theorem newline_notMem_headerTexts (h : '\n' ∉ step.title) :
    ∀ l ∈ headerTexts number step x, '\n' ∉ l := by
  rw [headerTexts, List.forall_mem_cons, List.forall_mem_append]
  refine ⟨?_, ?_, ?_⟩
  · have hn : '\n' ∉ Text.ofNat number := fun hm => by
      have := Text.isDigit_of_mem_ofNat hm
      exact absurd this (by decide)
    simp [h, hn]
  · cases step.description with
    | none => simp
    | some d => exact Text.newline_notMem_lines d
  · cases x.note with
    | none => simp
    | some n => exact List.forall_mem_cons.mpr ⟨List.not_mem_nil, Text.newline_notMem_lines n⟩

theorem ended_header (number : Nat) (step : Step) (x : Suggestion) :
    Text.Ended (header number step x) := by
  rw [header_eq]
  exact ended_comments _

/-- The lines of the header are its texts behind the marks of comments, but for what stands at their
ends. -/
theorem lines_header (h : '\n' ∉ step.title) :
    (Text.lines (header number step x)).map Text.trimEnd =
      (headerTexts number step x).map fun l => Text.trimEnd (marked l) := by
  rw [header_eq]
  exact lines_comments (newline_notMem_headerTexts h)

theorem isComment_append_of_blank {w : Text} (h : ∀ c ∈ w, Text.isBlank c = true) (l : Text) :
    isComment (l ++ w) = isComment l := by
  by_cases hl : ∀ c ∈ l, Text.isBlank c = true
  · have hall : ∀ c ∈ l ++ w, Text.isBlank c = true := List.forall_mem_append.mpr ⟨hl, h⟩
    rw [isComment, isComment, Text.trimStart, Text.trimStart, List.dropWhile_eq_nil_iff.mpr hl,
      List.dropWhile_eq_nil_iff.mpr hall]
  · have hne : Text.trimStart l ≠ [] := fun hn => hl (List.dropWhile_eq_nil_iff.mp hn)
    rw [isComment, Text.trimStart_append hl, List.head?_append_of_ne_nil _ hne, isComment]

theorem isComment_trimEnd (l : Text) : isComment (Text.trimEnd l) = isComment l := by
  obtain ⟨w, hl, hw⟩ := Text.exists_blanks l
  calc isComment (Text.trimEnd l) = isComment (Text.trimEnd l ++ w) :=
        (isComment_append_of_blank hw _).symm
    _ = isComment l := by rw [← hl]

theorem isComment_header (h : '\n' ∉ step.title) :
    ∀ l ∈ Text.lines (header number step x), isComment l = true := by
  intro l hl
  have ht : Text.trimEnd l ∈ (headerTexts number step x).map fun l => Text.trimEnd (marked l) :=
    lines_header h ▸ List.mem_map_of_mem hl
  obtain ⟨m, -, hm⟩ := List.mem_map.mp ht
  rw [← isComment_trimEnd, ← hm, isComment_trimEnd]
  rfl

theorem stripComments_append {t u : Text} (ht : Text.Ended t)
    (h : ∀ l ∈ Text.lines t, isComment l = true) : stripComments (t ++ u) = stripComments u := by
  have hnone : (Text.lines t).filter (fun l => !isComment l) = [] :=
    List.filter_eq_nil_iff.mpr fun l hl => by simp [h l hl]
  rw [stripComments, Text.lines_append ht, List.filter_append, hnone, List.nil_append, stripComments]

theorem trim_visible {m : Text} (ls : List Text) (hl : '\n' ∉ l)
    (ht : Text.trimEnd m = Text.trimEnd l) :
    Text.trim (Text.joinLines (ls ++ [m].filter fun l => !isComment l)) =
      Text.trim (Text.joinLines (ls ++ (Text.lines l).filter fun l => !isComment l)) := by
  have hcomment : isComment m = isComment l := by
    rw [← isComment_trimEnd, ht, isComment_trimEnd]
  obtain ⟨t, happend, he⟩ := Text.joinLines_append ls
  have hconcat (k : Text) : Text.joinLines (ls ++ [k]) = t ++ k := by
    rw [happend [k] (by simp), Text.joinLines, List.intercalate_singleton]
  -- Nothing at the end of a text is no line, but before a line feed it is.
  rcases eq_or_ne l [] with rfl | hne
  · have hm : isComment m = false := hcomment
    refine Text.trim_congr ?_
    calc Text.trimEnd (Text.joinLines (ls ++ [m].filter fun l => !isComment l))
        = Text.trimEnd (t ++ m) := by rw [List.filter_singleton, hm, ← hconcat m]; rfl
      _ = Text.trimEnd (Text.joinLines ls) := by
        rw [Text.trimEnd_congr ht t, List.append_nil, he]
      _ = Text.trimEnd (Text.joinLines (ls ++ [])) := by rw [List.append_nil]
  · rw [Text.lines_single hne hl, List.filter_singleton, List.filter_singleton, hcomment]
    cases isComment l with
    | true => rfl
    | false =>
      refine Text.trim_congr ?_
      simp only [Bool.not_false, cond_true, hconcat]
      exact Text.trimEnd_congr ht t

theorem stripComments_newline (t : Text) : stripComments (t ++ ['\n']) = stripComments t := by
  obtain ⟨a, l, rfl, ha, hl⟩ := Text.exists_last_line t
  obtain ⟨m, hm, ht⟩ := Text.exists_lines_newline hl
  rw [stripComments, stripComments, List.append_assoc, Text.lines_append ha, Text.lines_append ha, hm,
    List.filter_append, List.filter_append]
  exact trim_visible _ hl ht

/-- What is left of a command that is edited and saved as it is, is what is left of the body. -/
theorem stripComments_ofCommand (h : '\n' ∉ step.title) :
    stripComments (ofCommand number step x) = stripComments x.body := by
  let hint := "# Lines starting with '#' are ignored. Save and quit to run.\n".toList
  have hcommand : ofCommand number step x = header number step x ++ (hint ++ (x.body ++ ['\n'])) := by
    simp [ofCommand, hint]
  have hhint : ∀ l ∈ Text.lines hint, isComment l = true := by decide
  rw [hcommand, stripComments_append (ended_header number step x) (isComment_header h),
    stripComments_append (.inr (by decide)) hhint, stripComments_newline]

end Buffer

end Guidebook
