import Guidebook.Proofs.Json.Quoted
import Guidebook.Proofs.Text.Utf8

namespace Guidebook.Json

/-- A member of an object as it stands there: its key behind some blanks, and the text of its
value. -/
structure Member where
  blanks : Text
  key : Text
  value : Json
  text : Text

namespace Member

def pair (m : Member) : Text × Json := (m.key, m.value)

def shown (m : Member) : Text := m.blanks ++ quote m.key ++ ':' :: m.text

end Member

/-- The texts that write a value down, with blanks around it and around what it holds. -/
inductive Written : Json → Text → Prop where
  | word (v : Json) (t : Text) (ht : ∀ c ∈ t, isWordChar c) (hv : word? t = some v) : Written v t
  | str (t : Text) : Written (.str t) (quote t)
  | arr (ps : List (Json × Text)) (hp : ∀ p ∈ ps, Written p.1 p.2) :
    Written (.arr (ps.map (·.1))) ('[' :: [','].intercalate (ps.map (·.2)) ++ [']'])
  | obj (ms : List Member) (hb : ∀ m ∈ ms, ∀ c ∈ m.blanks, isSpace c)
    (hm : ∀ m ∈ ms, Written m.value m.text) :
    Written (.obj (ms.map Member.pair))
      ('\x7b' :: [','].intercalate (ms.map Member.shown) ++ ['\x7d'])
  | before (c : Char) (v : Json) (t : Text) (hc : isSpace c) (ht : Written v t) : Written v (c :: t)
  | after (c : Char) (v : Json) (t : Text) (hc : isSpace c) (ht : Written v t) :
    Written v (t ++ [c])

/-- A value may stand here. -/
inductive Opens : Place → Prop where
  | value : Opens .value
  | valueOrClose : Opens .valueOrClose

/-- A key may stand here. -/
inductive OpensKey : Place → Prop where
  | key : OpensKey .key
  | keyOrClose : OpensKey .keyOrClose

/-- What is open takes a value: it is no object that waits for a key. -/
def Takes (stack : List Frame) : Prop := ∀ done s, stack ≠ .members done :: s

/-- A reader that has come to the end of a value. If that is a word, it may still go on. -/
inductive Ended (v : Json) (stack : List Frame) : Reader → Prop where
  | put (r : Reader) (hr : Reader.put v stack = some r) : Ended v stack r
  | word (seen : Text) (hv : word? seen.reverse = some v) : Ended v stack ⟨.word seen, stack⟩

/-- The text is read as the value wherever a value may stand. -/
def Reads (v : Json) (t : Text) : Prop :=
  ∀ p stack, Opens p → Takes stack → ∃ r, (Reader.mk p stack).feed t = some r ∧ Ended v stack r

open Reader

variable {v : Json} {stack : List Frame} {r : Reader} {c : Char} {t : Text} {p : Place}

theorem not_isWordChar_of_isSpace (h : isSpace c) : isWordChar c = false := by
  simp only [isSpace, Bool.or_eq_true, decide_eq_true_eq] at h
  rcases h with ((rfl | rfl) | rfl) | rfl <;> rfl

theorem mark_space (r : Reader) (h : isSpace c) : r.mark c = some r := by rw [mark, if_pos h]

section Openings

theorem step_space (hp : Opens p) (h : isSpace c) :
    (Reader.mk p stack).step c = some ⟨p, stack⟩ := by
  cases hp <;> exact mark_space _ h

theorem step_open (hp : Opens p) (h : isSpace c = false) (hc : c ≠ ']') :
    (Reader.mk p stack).step c = openValue c stack := by
  cases hp <;> simp [step, mark, h, hc]

theorem step_space_key (hp : OpensKey p) (h : isSpace c) :
    (Reader.mk p stack).step c = some ⟨p, stack⟩ := by
  cases hp <;> exact mark_space _ h

theorem feed_blanks_key (hp : OpensKey p) {b : Text} (hb : ∀ c ∈ b, isSpace c) :
    (Reader.mk p stack).feed b = some ⟨p, stack⟩ := by
  induction b with
  | nil => rfl
  | cons c b ih =>
    rw [List.forall_mem_cons] at hb
    rw [feed_cons (step_space_key hp hb.1), ih hb.2]

theorem step_quote_key (hp : OpensKey p) :
    (Reader.mk p stack).step '"' = some ⟨.string true [], stack⟩ := by
  cases hp <;> rfl

theorem step_quote (hp : Opens p) :
    (Reader.mk p stack).step '"' = some ⟨.string false [], stack⟩ := by
  cases hp <;> rfl

theorem isWordChar_ne {d : Char} (h : isWordChar c) (hd : isWordChar d = false) : c ≠ d := by
  rintro rfl
  simp [hd] at h

theorem step_word (hp : Opens p) (h : isWordChar c) :
    (Reader.mk p stack).step c = some ⟨.word [c], stack⟩ := by
  have hs : isSpace c = false := by
    rw [Bool.eq_false_iff]
    intro hs
    simp [not_isWordChar_of_isSpace hs] at h
  rw [step_open hp hs (isWordChar_ne h rfl), openValue, if_neg (isWordChar_ne h rfl),
    if_neg (isWordChar_ne h rfl), if_neg (isWordChar_ne h rfl), if_pos h]

end Openings

section Endings

theorem exists_put (hs : Takes stack) (v : Json) : ∃ r, put v stack = some r := by
  cases stack with
  | nil => exact ⟨_, rfl⟩
  | cons f s =>
    cases f with
    | items done => exact ⟨_, rfl⟩
    | member done k => exact ⟨_, rfl⟩
    | members done => exact absurd rfl (hs done s)

theorem step_of_put (h : put v stack = some r) (c : Char) : r.step c = r.mark c := by
  cases stack with
  | nil => cases h; rfl
  | cons f s =>
    cases f with
    | members done => cases h
    | items done | member done k => cases h; rfl

/-- A character that is no part of a word comes after the end of a value. -/
theorem Ended.step (hr : Ended v stack r) (hc : isWordChar c = false) :
    r.step c = (Reader.put v stack).bind (·.mark c) := by
  cases hr with
  | put r hr => rw [step_of_put hr, hr, Option.bind_some]
  | word seen hv => simp [Reader.step, hc, hv]

theorem Ended.space (hr : Ended v stack r) (hs : Takes stack) (hc : isSpace c) :
    ∃ r', r.step c = some r' ∧ Ended v stack r' := by
  obtain ⟨r', hr'⟩ := exists_put hs v
  refine ⟨r', ?_, .put r' hr'⟩
  rw [hr.step (not_isWordChar_of_isSpace hc), hr', Option.bind_some, mark_space r' hc]

theorem Ended.finish (hr : Ended v [] r) : r.finish = some v := by
  cases hr with
  | put r hr => cases hr; rfl
  | word seen hv => exact hv

end Endings

theorem feed_word (t seen : Text) (ht : ∀ c ∈ t, isWordChar c) :
    (Reader.mk (.word seen) stack).feed t = some ⟨.word (t.reverse ++ seen), stack⟩ := by
  induction t generalizing seen with
  | nil => rfl
  | cons c t ih =>
    rw [List.forall_mem_cons] at ht
    have hc : (Reader.mk (.word seen) stack).step c = some ⟨.word (c :: seen), stack⟩ := by
      simp [step, ht.1]
    rw [feed_cons hc, ih _ ht.2]
    simp

theorem reads_word (ht : ∀ c ∈ t, isWordChar c) (hv : word? t = some v) : Reads v t := by
  intro p stack hp hs
  cases t with
  | nil => cases hv
  | cons c t =>
    rw [List.forall_mem_cons] at ht
    refine ⟨_, (feed_cons (step_word hp ht.1)).trans (feed_word t [c] ht.2), .word _ ?_⟩
    simpa using hv

theorem reads_str (t : Text) : Reads (.str t) (quote t) := by
  intro p stack hp hs
  obtain ⟨r, hr⟩ := exists_put hs (.str t)
  refine ⟨r, ?_, .put r hr⟩
  rw [quote, List.cons_append, feed_cons (step_quote hp), feed_quoted, putString_value, hr]

/-- The items of a list up to the bracket that closes it. -/
theorem feed_items {ps : List (Json × Text)} (hps : ∀ p ∈ ps, Reads p.1 p.2) (hne : ps ≠ [])
    (done : List Json) (hp : Opens p) :
    (Reader.mk p (.items done :: stack)).feed ([','].intercalate (ps.map (·.2)) ++ [']']) =
      put (.arr (done.reverse ++ ps.map (·.1))) stack := by
  induction ps generalizing done p with
  | nil => exact absurd rfl hne
  | cons q qs ih =>
    rw [List.forall_mem_cons] at hps
    obtain ⟨r, hr, he⟩ := hps.1 p (.items done :: stack) hp (by simp [Takes])
    cases qs with
    | nil =>
      rw [List.map_singleton, List.intercalate_singleton, feed_append hr, feed_singleton,
        he.step rfl]
      simp [put, mark, isSpace, afterValue, close]
    | cons q' qs =>
      have hcomma : r.step ',' = some ⟨.value, .items (q.1 :: done) :: stack⟩ := he.step rfl
      rw [List.map_cons, List.map_cons, List.intercalate_cons_cons, List.append_assoc,
        List.append_assoc, feed_append hr, List.singleton_append, feed_cons hcomma,
        ← List.map_cons (f := fun p : Json × Text => p.2), ih hps.2 (by simp) _ .value]
      simp

/-- A member up to the end of its value. -/
theorem feed_member {m : Member} (hb : ∀ c ∈ m.blanks, isSpace c) (hm : Reads m.value m.text)
    (done : List (Option Text × Json)) (stack : List Frame) (hp : OpensKey p) :
    ∃ r, (Reader.mk p (.members done :: stack)).feed m.shown = some r ∧
      Ended m.value (.member done (some m.key) :: stack) r := by
  obtain ⟨r, hr, he⟩ := hm .value (.member done (some m.key) :: stack) .value (by simp [Takes])
  refine ⟨r, ?_, he⟩
  have hcolon : (Reader.mk .colon (.member done (some m.key) :: stack)).step ':' =
      some ⟨.value, .member done (some m.key) :: stack⟩ := rfl
  have hquote : (Reader.mk p (.members done :: stack)).feed (quote m.key) =
      some ⟨.colon, .member done (some m.key) :: stack⟩ := by
    rw [quote, List.cons_append, feed_cons (step_quote_key hp), feed_quoted, putString_key]
  rw [Member.shown, List.append_assoc, feed_append (feed_blanks_key hp hb), feed_append hquote,
    feed_cons hcolon, hr]

theorem ofMembers_some (ms : List (Text × Json)) :
    ofMembers (ms.map fun m => (some m.1, m.2)) = .obj ms := by
  have hm (f : Option Text × Json → Option (Text × Json)) (hf : ∀ m, f (some m.1, m.2) = some m) :
      (ms.map fun m => (some m.1, m.2)).mapM f = some ms := by
    induction ms with
    | nil => rfl
    | cons m ms ih =>
      rw [List.map_cons, List.mapM_cons, hf, ih]
      rfl
  rw [ofMembers, hm _ fun _ => rfl]

/-- The members of an object up to the brace that closes it. -/
theorem feed_members {ms : List Member} (hb : ∀ m ∈ ms, ∀ c ∈ m.blanks, isSpace c)
    (hms : ∀ m ∈ ms, Reads m.value m.text) (hne : ms ≠ []) (done : List (Text × Json))
    (hp : OpensKey p) :
    (Reader.mk p (.members (done.map fun m => (some m.1, m.2)) :: stack)).feed
        ([','].intercalate (ms.map Member.shown) ++ ['\x7d']) =
      put (.obj (done.reverse ++ ms.map Member.pair)) stack := by
  induction ms generalizing done p with
  | nil => exact absurd rfl hne
  | cons m ms ih =>
    rw [List.forall_mem_cons] at hb hms
    obtain ⟨r, hr, he⟩ := feed_member hb.1 hms.1
      (done.map fun m => (some m.1, m.2)) stack hp
    cases ms with
    | nil =>
      have hclose : r.step '\x7d' = put (ofMembers ((some m.key, m.value) ::
          done.map fun m => (some m.1, m.2)).reverse) stack := he.step rfl
      have hd : ((some m.key, m.value) :: done.map fun m => (some m.1, m.2)).reverse =
          (done.reverse ++ [m.pair]).map fun m => (some m.1, m.2) := by
        simp [Member.pair]
      rw [List.map_singleton, List.intercalate_singleton, feed_append hr, feed_singleton, hclose,
        hd, ofMembers_some, List.map_singleton]
    | cons m' ms =>
      have hcomma : r.step ',' = some ⟨.key,
          .members ((m.pair :: done).map fun m => (some m.1, m.2)) :: stack⟩ := he.step rfl
      rw [List.map_cons, List.map_cons, List.intercalate_cons_cons, List.append_assoc,
        List.append_assoc, feed_append hr, List.singleton_append, feed_cons hcomma,
        ← List.map_cons (f := Member.shown), ih hb.2 hms.2 (by simp) _ .key]
      simp

/-- Every text that writes a value down is read as that value. -/
theorem Written.reads (h : Written v t) : Reads v t := by
  induction h with
  | word v t ht hv => exact reads_word ht hv
  | str t => exact reads_str t
  | arr ps hp ih =>
    intro p stack ho hs
    obtain ⟨r, hr⟩ := exists_put hs (.arr (ps.map (·.1)))
    refine ⟨r, ?_, .put r hr⟩
    have hopen : (Reader.mk p stack).step '[' = some ⟨.valueOrClose, .items [] :: stack⟩ :=
      step_open ho rfl (by decide)
    rw [List.cons_append, feed_cons hopen, ← hr]
    by_cases hne : ps = []
    · subst hne
      exact feed_singleton _ ']'
    · rw [feed_items ih hne [] .valueOrClose, List.reverse_nil, List.nil_append]
  | obj ms hb hm ih =>
    intro p stack ho hs
    obtain ⟨r, hr⟩ := exists_put hs (.obj (ms.map Member.pair))
    refine ⟨r, ?_, .put r hr⟩
    have hopen : (Reader.mk p stack).step '\x7b' = some ⟨.keyOrClose, .members [] :: stack⟩ :=
      step_open ho rfl (by decide)
    rw [List.cons_append, feed_cons hopen, ← hr]
    by_cases hne : ms = []
    · subst hne
      exact feed_singleton _ '\x7d'
    · exact feed_members hb ih hne [] .keyOrClose
  | before c v t hc ht ih =>
    intro p stack ho hs
    rw [feed_cons (step_space ho hc)]
    exact ih p stack ho hs
  | after c v t hc ht ih =>
    intro p stack ho hs
    obtain ⟨r, hr, he⟩ := ih p stack ho hs
    obtain ⟨r', hr', he'⟩ := he.space hs hc
    exact ⟨r', by rw [feed_append hr, feed_singleton, hr'], he'⟩

theorem readSigns_written (h : Written v t) : readSigns (t.map some) = some v := by
  obtain ⟨r, hr, he⟩ := h.reads .value [] .value (by simp [Takes])
  have hf : (t.map some).foldlM Reader.take Reader.start = some r := by
    rw [List.foldlM_map]
    exact hr
  rw [readSigns, hf]
  exact he.finish

theorem read_written (h : Written v t) : read t = some v := readSigns_written h

theorem readBytes_written (h : Written v t) : readBytes (Utf8.encode t) = some v := by
  rw [readBytes, Utf8.signs_encode, readSigns_written h]

end Guidebook.Json
