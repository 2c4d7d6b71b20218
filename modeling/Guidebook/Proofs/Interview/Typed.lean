import Guidebook.Interview

namespace Guidebook.Interview

/-- What a question hears: a line, or none where the input has come to its end. -/
abbrev Answer := Option Text

/-- There is nothing in the answer. -/
def Blank (a : Answer) : Prop := ∀ l ∈ a, Text.trim l = []

/-- The note that an answer gives, if there is anything in it. -/
def noteOf (a : Answer) : Option Text := (a.map Text.trim).filter (!·.isEmpty)

/-- The answer keeps a step: there is nothing in it, or it means yes. -/
def keeps (a : Answer) : Bool :=
  ((a.map Text.trim).getD []).isEmpty || Text.isYes ((a.map Text.trim).getD [])

/-- Somebody types a text that begins with some lines: further lines, and then one that ends the
text, unless the input does. -/
inductive TypedText : List Text → List Answer → List Text → Prop where
  | closed (ls : List Text) : TypedText ls [none] ls
  | ended {ls : List Text} {l : Text} (hl : endsText ls l = true) : TypedText ls [some l] ls
  | line {ls : List Text} {l : Text} {as : List Answer} {body : List Text}
    (hl : endsText ls l = false) (h : TypedText (ls ++ [l]) as body) :
    TypedText ls (some l :: as) body

/-- Somebody types suggestions, each with its kind, its note and its body. What is no kind is asked
for again. -/
inductive TypedSuggestions : List Answer → List Suggestion → Prop where
  | stop {a : Answer} (ha : Blank a) : TypedSuggestions [a] []
  | unknown {l : Text} {as : List Answer} {xs : List Suggestion} (hl : Text.trim l ≠ [])
    (hk : kindOf? (Text.lower (Text.trim l)) = none) (h : TypedSuggestions as xs) :
    TypedSuggestions (some l :: as) xs
  | suggestion {l : Text} {k : Kind} {note : Answer} {bs as : List Answer} {body : List Text}
    {xs : List Suggestion} (hk : kindOf? (Text.lower (Text.trim l)) = some k)
    (hb : TypedText [] bs body) (h : TypedSuggestions as xs) :
    TypedSuggestions (some l :: note :: (bs ++ as)) (⟨k, noteOf note, Text.joinLines body⟩ :: xs)

/-- Somebody types steps, each with its title, its description and its suggestions, and whether the
step is kept. A title with nothing in it is the end. -/
inductive Typed : List Answer → List (StepDraft × Bool) → Prop where
  | done {a : Answer} (ha : Blank a) : Typed [a] []
  | step {l : Text} {bs cs as : List Answer} {a : Answer} {body : List Text} {xs : List Suggestion}
    {ds : List (StepDraft × Bool)} (hl : Text.trim l ≠ []) (hb : TypedText [] bs body)
    (hc : TypedSuggestions cs xs) (h : Typed as ds) :
    Typed (some l :: (bs ++ (cs ++ a :: as))) ((⟨Text.trim l, Text.joinLines body, xs⟩, keeps a) :: ds)

/-- The steps that are kept. -/
def keptSteps (ds : List (StepDraft × Bool)) : List StepDraft := (ds.filter (·.2)).map (·.1)

/-- The interview comes to this result with the last of the answers. -/
def Ends (r : Result) : Interview → List Answer → Prop
  | _, [] => False
  | i, a :: as =>
    match (i.answer a).2 with
    | .inr q => q = r ∧ as = []
    | .inl j => Ends r j as

section Ends

variable {r q : Result} {i j : Interview} {a : Answer} {as : List Answer} {l : Text}
  {rs : List Record} {n : Nat}

theorem ends_next (h : (i.answer a).2 = .inl j) : Ends r i (a :: as) ↔ Ends r j as := by
  rw [Ends, h]

theorem ends_last (h : (i.answer a).2 = .inr q) : Ends r i (a :: as) ↔ q = r ∧ as = [] := by
  rw [Ends, h]

/-- The answers decide the result. -/
theorem Ends.unique (hr : Ends r i as) (hq : Ends q i as) : r = q := by
  induction as generalizing i with
  | nil => cases hr
  | cons a as ih =>
    cases h : (i.answer a).2 with
    | inr p =>
      rw [ends_last h] at hr hq
      exact hr.1.symm.trans hq.1
    | inl j =>
      rw [ends_next h] at hr hq
      exact ih hr hq

section Text

variable (ask ended : List Text → Interview)
  (hclosed : ∀ ls, ((ask ls).answer none).2 = .inl (ended ls))
  (hended : ∀ ls l, endsText ls l = true → ((ask ls).answer (some l)).2 = .inl (ended ls))
  (hline : ∀ ls l, endsText ls l = false → ((ask ls).answer (some l)).2 = .inl (ask (ls ++ [l])))

include hclosed hended hline

theorem ends_text {ls : List Text} : Ends r (ask ls) as ↔
    ∃ bs body cs, as = bs ++ cs ∧ TypedText ls bs body ∧ Ends r (ended body) cs := by
  constructor
  · intro h
    induction as generalizing ls with
    | nil => cases h
    | cons a as ih =>
      cases a with
      | none => exact ⟨[none], ls, as, rfl, .closed ls, (ends_next (hclosed ls)).mp h⟩
      | some l =>
        cases hl : endsText ls l with
        | true => exact ⟨[some l], ls, as, rfl, .ended hl, (ends_next (hended ls l hl)).mp h⟩
        | false =>
          obtain ⟨bs, body, cs, rfl, hb, hc⟩ := ih ((ends_next (hline ls l hl)).mp h)
          exact ⟨some l :: bs, body, cs, rfl, .line hl hb, hc⟩
  · rintro ⟨bs, body, cs, rfl, hb, hc⟩
    induction hb with
    | closed ls => exact (ends_next (hclosed ls)).mpr hc
    | ended hl => exact (ends_next (hended _ _ hl)).mpr hc
    | line hl hb ih => exact (ends_next (hline _ _ hl)).mpr (ih hc)

end Text

section Answers

variable {d : StepDraft} {k : Kind} {note : Option Text}

theorem blank_or_exists (a : Answer) : Blank a ∨ ∃ l, a = some l ∧ Text.trim l ≠ [] := by
  cases a with
  | none => exact .inl fun l hl => nomatch hl
  | some l =>
    by_cases hl : Text.trim l = []
    · refine .inl fun m hm => ?_
      rwa [← Option.some.inj hm]
    · exact .inr ⟨l, rfl, hl⟩

theorem lower_eq_nil {t : Text} : Text.lower t = [] ↔ t = [] := List.map_eq_nil_iff

theorem answer_title_blank (ha : Blank a) :
    (answer ⟨rs, n, .title⟩ a).2 = .inr (finish ⟨rs, n, .title⟩) := by
  cases a with
  | none => rfl
  | some l => simp only [answer, Option.map_some, ha l rfl]

theorem answer_title (hl : Text.trim l ≠ []) :
    (answer ⟨rs, n, .title⟩ (some l)).2 = .inl ⟨rs, n, .description (Text.trim l) []⟩ := by
  obtain ⟨c, cs, hc⟩ := List.exists_cons_of_ne_nil hl
  simp only [answer, Option.map_some, hc]
  rfl

theorem answer_kind_blank (ha : Blank a) :
    (answer ⟨rs, n, .kind d⟩ a).2 = .inl ⟨rs, n, .keep d⟩ := by
  cases a with
  | none => rfl
  | some l =>
    simp only [answer, Option.map_some, ha l rfl]
    rfl

theorem answer_kind_unknown (hl : Text.trim l ≠ [])
    (hk : kindOf? (Text.lower (Text.trim l)) = none) :
    (answer ⟨rs, n, .kind d⟩ (some l)).2 = .inl ⟨rs, n, .kind d⟩ := by
  obtain ⟨c, cs, hc⟩ := List.exists_cons_of_ne_nil (mt lower_eq_nil.mp hl)
  rw [hc] at hk
  simp only [answer, Option.map_some, hc, hk]

theorem trim_ne_nil_of_kindOf? (hk : kindOf? (Text.lower (Text.trim l)) = some k) :
    Text.trim l ≠ [] := by
  intro hl
  rw [hl] at hk
  cases hk

theorem answer_kind (hk : kindOf? (Text.lower (Text.trim l)) = some k) :
    (answer ⟨rs, n, .kind d⟩ (some l)).2 = .inl ⟨rs, n, .note d k⟩ := by
  obtain ⟨c, cs, hc⟩ := List.exists_cons_of_ne_nil (mt lower_eq_nil.mp (trim_ne_nil_of_kindOf? hk))
  rw [hc] at hk
  simp only [answer, Option.map_some, hc, hk]
  rfl

theorem answer_note (a : Answer) :
    (answer ⟨rs, n, .note d k⟩ a).2 = .inl ⟨rs, n, .body d k (noteOf a) []⟩ := rfl

theorem answer_keep (a : Answer) : (answer ⟨rs, n, .keep d⟩ a).2 =
    .inl (if keeps a then ⟨rs ++ d.records, n + 1, .title⟩ else ⟨rs, n, .title⟩) := by
  cases hk : keeps a with
  | true =>
    rw [keeps] at hk
    simp only [answer, hk, if_true]
  | false =>
    rw [keeps] at hk
    simp only [answer, hk, Bool.false_eq_true, if_false]
    rfl

end Answers

section Questions

variable {d : StepDraft} {k : Kind} {note : Option Text} {title : Text} {ls : List Text}

theorem ends_description : Ends r ⟨rs, n, .description title ls⟩ as ↔
    ∃ bs body cs, as = bs ++ cs ∧ TypedText ls bs body ∧
      Ends r ⟨rs, n, .kind ⟨title, Text.joinLines body, []⟩⟩ cs :=
  ends_text (fun ls => ⟨rs, n, .description title ls⟩)
    (fun ls => ⟨rs, n, .kind ⟨title, Text.joinLines ls, []⟩⟩) (fun _ => rfl)
    (fun _ _ hl => by simp only [answer, hl, if_true]; rfl)
    (fun _ _ hl => by simp only [answer, hl, Bool.false_eq_true, if_false]; rfl)

theorem ends_body : Ends r ⟨rs, n, .body d k note ls⟩ as ↔
    ∃ bs body cs, as = bs ++ cs ∧ TypedText ls bs body ∧
      Ends r ⟨rs, n, .kind (addSuggestion d k note body)⟩ cs :=
  ends_text (fun ls => ⟨rs, n, .body d k note ls⟩)
    (fun ls => ⟨rs, n, .kind (addSuggestion d k note ls)⟩) (fun _ => rfl)
    (fun _ _ hl => by simp only [answer, hl, if_true]; rfl)
    (fun _ _ hl => by simp only [answer, hl, Bool.false_eq_true, if_false]; rfl)

/-- A step with more suggestions. -/
def extend (d : StepDraft) (xs : List Suggestion) : StepDraft :=
  { d with suggestions := d.suggestions ++ xs }

theorem extend_addSuggestion (d : StepDraft) (k : Kind) (note : Option Text) (body : List Text)
    (xs : List Suggestion) : extend (addSuggestion d k note body) xs =
      extend d (⟨k, note, Text.joinLines body⟩ :: xs) := by
  simp [extend, addSuggestion]

theorem ends_of_typedSuggestions {bs cs : List Answer} {xs : List Suggestion}
    (h : TypedSuggestions bs xs) (hc : Ends r ⟨rs, n, .keep (extend d xs)⟩ cs) :
    Ends r ⟨rs, n, .kind d⟩ (bs ++ cs) := by
  induction h generalizing d with
  | stop ha =>
    rw [List.singleton_append, ends_next (answer_kind_blank ha)]
    simpa [extend] using hc
  | unknown hl hk h ih =>
    exact (ends_next (answer_kind_unknown hl hk)).mpr (ih hc)
  | @suggestion l k note bs as body xs hk hb h ih =>
    rw [List.cons_append, ends_next (answer_kind hk), List.cons_append, ends_next (answer_note note)]
    refine ends_body.mpr ⟨bs, body, as ++ cs, List.append_assoc .., hb, ih ?_⟩
    rwa [extend_addSuggestion]

theorem typedSuggestions_of_ends (h : Ends r ⟨rs, n, .kind d⟩ as) :
    ∃ bs xs cs, as = bs ++ cs ∧ TypedSuggestions bs xs ∧
      Ends r ⟨rs, n, .keep (extend d xs)⟩ cs := by
  -- A body takes any number of answers, so the next suggestion is further on than the next answer.
  induction hm : as.length using Nat.strongRecOn generalizing as d with
  | ind m ih =>
    subst hm
    cases as with
    | nil => cases h
    | cons a as =>
      rcases blank_or_exists a with ha | ⟨l, rfl, hl⟩
      · rw [ends_next (answer_kind_blank ha)] at h
        exact ⟨[a], [], as, rfl, .stop ha, by simpa [extend] using h⟩
      · cases hk : kindOf? (Text.lower (Text.trim l)) with
        | none =>
          have hrest := (ends_next (answer_kind_unknown hl hk)).mp h
          obtain ⟨bs, xs, cs, rfl, hb, hc⟩ := ih _ (Nat.lt_succ_self _) hrest rfl
          exact ⟨some l :: bs, xs, cs, rfl, .unknown hl hk hb, hc⟩
        | some k =>
          rw [ends_next (answer_kind hk)] at h
          cases as with
          | nil => cases h
          | cons note as =>
            rw [ends_next (answer_note note)] at h
            obtain ⟨bs, body, as', rfl, hb, h⟩ := ends_body.mp h
            obtain ⟨cs, xs, es, rfl, hx, hc⟩ := ih _ (by simp; omega) h rfl
            refine ⟨some l :: note :: (bs ++ cs), _, es, by simp, .suggestion hk hb hx, ?_⟩
            rwa [← extend_addSuggestion]

end Questions

/-- What comes of an interview in which some steps have been kept when these steps are typed. -/
def outcome (rs : List Record) (n : Nat) (ds : List (StepDraft × Bool)) : Result :=
  finish ⟨rs ++ (keptSteps ds).flatMap StepDraft.records, n + (keptSteps ds).length, .title⟩

theorem outcome_cons (d : StepDraft) (a : Answer) (ds : List (StepDraft × Bool)) :
    outcome rs n ((d, keeps a) :: ds) =
      if keeps a then outcome (rs ++ d.records) (n + 1) ds else outcome rs n ds := by
  cases hk : keeps a <;> simp [outcome, keptSteps, Nat.add_assoc, Nat.add_comm 1]

/-- The answers to an interview lead to its end if and only if somebody types steps with them. -/
theorem ends_title : Ends r ⟨rs, n, .title⟩ as ↔ ∃ ds, Typed as ds ∧ r = outcome rs n ds := by
  constructor
  · intro h
    induction hm : as.length using Nat.strongRecOn generalizing as rs n with
    | ind m ih =>
      subst hm
      cases as with
      | nil => cases h
      | cons a as =>
        rcases blank_or_exists a with ha | ⟨l, rfl, hl⟩
        · obtain ⟨rfl, rfl⟩ := (ends_last (answer_title_blank ha)).mp h
          exact ⟨[], .done ha, by simp [outcome, keptSteps]⟩
        · rw [ends_next (answer_title hl)] at h
          obtain ⟨bs, body, as, rfl, hb, h⟩ := ends_description.mp h
          obtain ⟨cs, xs, as, rfl, hc, h⟩ := typedSuggestions_of_ends h
          cases as with
          | nil => cases h
          | cons a as =>
            rw [ends_next (answer_keep a)] at h
            have hlt : as.length < (some l :: (bs ++ (cs ++ a :: as))).length := by simp; omega
            have hrest : ∃ ds, Typed as ds ∧
                r = outcome rs n ((⟨Text.trim l, Text.joinLines body, xs⟩, keeps a) :: ds) := by
              split at h
              · next hk =>
                obtain ⟨ds, hds, rfl⟩ := ih _ hlt h rfl
                exact ⟨ds, hds, by rw [outcome_cons, if_pos hk]; rfl⟩
              · next hk =>
                obtain ⟨ds, hds, rfl⟩ := ih _ hlt h rfl
                exact ⟨ds, hds, by rw [outcome_cons, if_neg hk]⟩
            obtain ⟨ds, hds, hr⟩ := hrest
            exact ⟨_, .step hl hb hc hds, hr⟩
  · rintro ⟨ds, h, rfl⟩
    induction h generalizing rs n with
    | done ha => exact (ends_last (answer_title_blank ha)).mpr ⟨by simp [outcome, keptSteps], rfl⟩
    | @step l bs cs as a body xs ds hl hb hc h ih =>
      rw [ends_next (answer_title hl), ends_description]
      refine ⟨bs, body, _, rfl, hb, ends_of_typedSuggestions hc ?_⟩
      rw [ends_next (answer_keep a), outcome_cons]
      cases hk : keeps a with
      | true => exact ih
      | false => exact ih

end Ends

end Guidebook.Interview
