import Guidebook.Invocation
import Guidebook.Proofs.Text.Bare

namespace Guidebook

section Unstyled

/-- A digit, or the semicolon between two numbers. -/
def isParameter (b : UInt8) : Bool := (0x30 ≤ b.toNat && b.toNat ≤ 0x39) || b == 0x3b

/-- What follows the numbers of a style and the `m` behind them. -/
def behindStyle? : Bytes → Option Bytes
  | [] => none
  | b :: bs => if b = 0x6d then some bs else if isParameter b then behindStyle? bs else none

theorem length_behindStyle? {bs r : Bytes} (h : behindStyle? bs = some r) :
    r.length < bs.length := by
  induction bs with
  | nil => cases h
  | cons b bs ih =>
    rw [behindStyle?] at h
    split at h
    · cases h
      exact Nat.lt_succ_self _
    · split at h
      · exact Nat.lt_succ_of_lt (ih h)
      · cases h

/-- The bytes without the sequences that begin with an escape character and a bracket, go on with
numbers, and end with an `m`. -/
def unstyled (bs : Bytes) : Bytes :=
  match bs with
  | [] => []
  | 0x1b :: 0x5b :: r =>
    match _ : behindStyle? r with
    | some r' => unstyled r'
    | none => 0x1b :: unstyled (0x5b :: r)
  | b :: r => b :: unstyled r
termination_by bs.length
decreasing_by
  · have := length_behindStyle? ‹_›
    simp
    omega
  · simp
  · simp

variable {ps a b c d : Bytes}

theorem unstyled_cons {e : UInt8} (h : e ≠ 0x1b) (r : Bytes) :
    unstyled (e :: r) = e :: unstyled r := by
  rw [unstyled]
  rintro _ rfl
  exact absurd rfl h

theorem behindStyle?_append (h : ∀ e ∈ ps, isParameter e) (r : Bytes) :
    behindStyle? (ps ++ r) = behindStyle? r := by
  induction ps with
  | nil => rfl
  | cons e ps ih =>
    rw [List.forall_mem_cons] at h
    have he : e ≠ 0x6d := by
      rintro rfl
      exact absurd h.1 (by decide)
    rw [List.cons_append, behindStyle?, if_neg he, if_pos h.1, ih h.2]

/-- Wherever the bytes stand, what is left of them without their styles are those others. -/
def Bytes.Fades (a b : Bytes) : Prop := ∀ r, unstyled (a ++ r) = b ++ unstyled r

theorem Bytes.Fades.append (h : Fades a b) (h' : Fades c d) : Fades (a ++ c) (b ++ d) := by
  intro r
  rw [List.append_assoc, h, h', List.append_assoc]

theorem Bytes.Bare.fades (h : a.Bare) : a.Fades a := by
  induction a with
  | nil => exact fun _ => rfl
  | cons e a ih =>
    intro r
    have he : e ≠ 0x1b := fun he => h (by simp [he])
    rw [List.cons_append, unstyled_cons he, ih (fun hm => h (List.mem_cons_of_mem _ hm)) r]
    rfl

/-- A style fades. -/
theorem fades_style (h : ∀ e ∈ ps, isParameter e) : Bytes.Fades (0x1b :: 0x5b :: ps ++ [0x6d]) [] := by
  intro r
  have hb : behindStyle? (ps ++ 0x6d :: r) = some r := behindStyle?_append h _
  rw [List.append_assoc, List.cons_append, List.cons_append, List.singleton_append, unstyled]
  split
  · next r' hr =>
    rw [hb] at hr
    cases hr
    rfl
  · next hr =>
    rw [hb] at hr
    cases hr

/-- A sequence that is none of a style stays. -/
theorem fades_other {e : UInt8} (h : ∀ e ∈ ps, isParameter e) (hp : isParameter e = false)
    (hm : e ≠ 0x6d) (he : e ≠ 0x1b) :
    Bytes.Fades (0x1b :: 0x5b :: ps ++ [e]) (0x1b :: 0x5b :: ps ++ [e]) := by
  intro r
  have hb : behindStyle? (ps ++ e :: r) = none := by
    rw [behindStyle?_append h, behindStyle?, if_neg hm, if_neg (by simp [hp])]
  have hrest : Bytes.Bare (0x5b :: ps ++ [e]) := by
    intro hx
    rcases List.mem_append.mp hx with hx | hx
    · rcases List.mem_cons.mp hx with hx | hx
      · exact absurd hx (by decide)
      · exact absurd (h _ hx) (by decide)
    · exact he (List.mem_singleton.mp hx).symm
  have hstays := hrest.fades r
  rw [List.append_assoc, List.cons_append, List.singleton_append] at hstays
  rw [List.append_assoc, List.cons_append, List.cons_append, List.singleton_append, unstyled]
  split
  · next r' hr =>
    rw [hb] at hr
    cases hr
  · rw [hstays]
    rfl

theorem Bytes.Fades.unstyled (h : a.Fades b) : unstyled a = b := by
  simpa [Guidebook.unstyled] using h []

end Unstyled

/-- What is left of the one text without its styles is the other. -/
def Text.Fades (t u : Text) : Prop := Bytes.Fades (Utf8.encode t) (Utf8.encode u)

namespace Text

variable {t u v w : Text}

theorem Bare.fades (h : Bare t) : Fades t t := (Utf8.bare_encode h).fades

theorem Fades.append (h : Fades t u) (h' : Fades v w) : Fades (t ++ v) (u ++ w) := by
  rw [Fades, Utf8.encode_append, Utf8.encode_append]
  exact Bytes.Fades.append h h'

theorem Fades.cons (h : Fades t u) {c : Char} (hc : c ≠ '\x1b') : Fades (c :: t) (c :: u) :=
  (Bare.fades (t := [c]) (by simpa [Bare] using hc.symm)).append h

theorem Fades.line (h : Fades t u) : Fades (Look.line t) (Look.line u) :=
  h.append (Bare.fades (by decide))

theorem Fades.flatten {α : Type} {f g : α → Text} {xs : List α} (h : ∀ x ∈ xs, Fades (f x) (g x)) :
    Fades (xs.map f).flatten (xs.map g).flatten := by
  induction xs with
  | nil => exact Bare.fades List.not_mem_nil
  | cons x xs ih =>
    rw [List.forall_mem_cons] at h
    exact h.1.append (ih h.2)

/-- The numbers of a style. -/
def Numbers (t : Text) : Prop := ∀ c ∈ t, c.isDigit ∨ c = ';'

instance : DecidablePred Numbers := List.decidableBAll fun c : Char => c.isDigit = true ∨ c = ';'

theorem isParameter_of_mem_encode (h : Numbers t) : ∀ b ∈ Utf8.encode t, isParameter b := by
  intro b hb
  obtain ⟨c, hc, hb⟩ := List.mem_flatMap.mp hb
  rcases h c hc with hd | rfl
  · have hn : 48 ≤ c.toNat ∧ c.toNat ≤ 57 := by
      simpa [Char.isDigit, UInt32.le_iff_toNat_le] using hd
    have he : b = c.toNat.toUInt8 := by
      simpa [Utf8.encodeChar, show c.toNat < 0x80 by omega] using hb
    have hb : b.toNat = c.toNat := by rw [he, Utf8.toNat_toUInt8 (by omega)]
    simp only [isParameter, hb, Bool.or_eq_true, Bool.and_eq_true, decide_eq_true_eq]
    omega
  · obtain rfl : b = 0x3b := by simpa [Utf8.encodeChar] using hb
    rfl

theorem fades_esc (h : Numbers t) : Fades (Style.esc t) [] := by
  have he : Utf8.encode (Style.esc t) = 0x1b :: 0x5b :: Utf8.encode t ++ [0x6d] := by
    simp [Style.esc, Utf8.encode, Utf8.encodeChar]
  rw [Fades, he]
  exact fades_style (isParameter_of_mem_encode h)

theorem fades_letter {c : Char} (h : Numbers t) (hc : c = 'G' ∨ c = 'K') :
    Fades ("\x1b[".toList ++ t ++ [c]) ("\x1b[".toList ++ t ++ [c]) := by
  have he : Utf8.encode ("\x1b[".toList ++ t ++ [c]) =
      0x1b :: 0x5b :: Utf8.encode t ++ Utf8.encodeChar c := by
    simp [Utf8.encode, Utf8.encodeChar]
  rw [Fades, he]
  rcases hc with rfl | rfl
  · exact fades_other (e := 0x47) (isParameter_of_mem_encode h) (by decide) (by decide) (by decide)
  · exact fades_other (e := 0x4b) (isParameter_of_mem_encode h) (by decide) (by decide) (by decide)

theorem fades_wrap (s : Style) (h : Bare t) : Fades (s.wrap t) t := by
  have hcolor (n : Nat) : Numbers ("38;5;".toList ++ ofNat n) := by
    have hfixed : Numbers "38;5;".toList := by decide
    intro c hc
    exact (List.mem_append.mp hc).elim (hfixed c) fun hc => .inl (isDigit_of_mem_ofNat hc)
  have hbold : Fades (if s.bold then Style.esc ['1'] else []) [] := by
    split
    · exact fades_esc (by decide)
    · exact Bare.fades (by decide)
  have hoff : Fades (Style.esc (if s.bold then ['0'] else "39".toList)) [] := by
    split
    · exact fades_esc (by decide)
    · exact fades_esc (by decide)
  have hrest := (hbold.append h.fades).append hoff
  rw [List.nil_append, List.append_nil] at hrest
  rw [Style.wrap]
  cases s.color with
  | none => simpa using hrest
  | some c => simpa using (fades_esc (hcolor c)).append hrest

end Text

/-- There is no escape character in what the suggestion shows. -/
def Suggestion.Bare (x : Suggestion) : Prop := x.body.Bare ∧ ∀ n ∈ x.note, n.Bare

def Step.Bare (s : Step) : Prop := s.title.Bare ∧ ∀ d ∈ s.description, d.Bare

instance : DecidablePred Suggestion.Bare := fun x =>
  inferInstanceAs (Decidable (x.body.Bare ∧ ∀ n ∈ x.note, n.Bare))

instance : DecidablePred Step.Bare := fun s =>
  inferInstanceAs (Decidable (s.title.Bare ∧ ∀ d ∈ s.description, d.Bare))

/-- There is no escape character in what the message tells. -/
def Message.Bare : Message → Prop
  | .header _ _ step => step.Bare
  | .flow steps _ => ∀ s ∈ steps, s.Bare
  | .suggestions xs _ => ∀ x ∈ xs, x.Bare
  | .error t | .warning t | .notice t => t.Bare
  | .blank | .help | .hint | .outcome _ => True

namespace Message

variable {t : Text} (p : Pager)

theorem fades_paint (s : Style) (h : t.Bare) :
    (Look.paint ⟨true, p⟩ s t).Fades (Look.paint ⟨false, p⟩ s t) := Text.fades_wrap s h

theorem fades_header (number total : Nat) {step : Step} (h : step.Bare) :
    (headerText ⟨true, p⟩ number total step).Fades (headerText ⟨false, p⟩ number total step) := by
  have hplace : Text.Bare (Text.ofNat number ++ '/' :: Text.ofNat total ++ ": ".toList) :=
    ((Text.bare_ofNat _).append ((Text.bare_ofNat _).cons (by decide))).append (by decide)
  have htitle : Text.Bare ("== Step ".toList ++ Text.ofNat number ++ '/' :: Text.ofNat total ++
      ": ".toList ++ step.title ++ " ==".toList) := by
    have hstart : Text.Bare "== Step ".toList := by decide
    simpa using (hstart.append (hplace.append h.1)).append (u := " ==".toList) (by decide)
  refine .append (.cons (fades_paint p _ htitle).line (by decide)) (Text.Bare.fades ?_)
  split
  · next d hd => exact (h.2 d hd).append (by decide)
  · exact List.not_mem_nil

/-- One of two texts on both sides, as the case may be. -/
theorem fades_ite {c : Prop} [Decidable c] {t u v w : Text} (h : t.Fades u) (h' : v.Fades w) :
    Text.Fades (if c then t else v) (if c then u else w) := by
  split
  · exact h
  · exact h'

theorem fades_flow {steps : List Step} (current : Nat) (h : ∀ s ∈ steps, s.Bare) :
    (flowText ⟨true, p⟩ steps current).Fades (flowText ⟨false, p⟩ steps current) := by
  refine (fades_paint p _ (by decide)).line.append (.flatten fun e he => Text.Fades.line ?_)
  obtain ⟨step, i⟩ := e
  have htitle : step.title.Bare := (h step (List.fst_mem_of_mem_zipIdx he)).1
  have hrest : Text.Bare (' ' :: Text.ofNat (i + 1) ++ ". ".toList ++ step.title) :=
    (((Text.bare_ofNat _).cons (by decide)).append (by decide)).append htitle
  have hmarker : Text.Fades
      (if step.isDone then Look.plain ⟨true, p⟩ Style.green "[x]".toList else "[ ]".toList)
      (if step.isDone then Look.plain ⟨false, p⟩ Style.green "[x]".toList else "[ ]".toList) :=
    fades_ite (fades_paint p _ (by decide)) (Text.Bare.fades (by decide))
  have hpointer : Text.Fades
      (if i + 1 = current then Look.strong ⟨true, p⟩ Style.yellow ['>'] else [' '])
      (if i + 1 = current then Look.strong ⟨false, p⟩ Style.yellow ['>'] else [' ']) :=
    fades_ite (fades_paint p _ (by decide)) (Text.Bare.fades (by decide))
  simpa using hpointer.append (.cons (c := ' ') (hmarker.append hrest.fades) (by decide))

theorem fades_suggestion (number : Nat) {x : Suggestion} (h : x.Bare) :
    (suggestionText ⟨true, p⟩ number x).Fades (suggestionText ⟨false, p⟩ number x) := by
  have hnumber : Text.Bare ('[' :: Text.ofNat number ++ [']']) :=
    ((Text.bare_ofNat _).cons (by decide)).append (by decide)
  refine .append (.line (.append (.append ?_ (.cons ?_ (by decide))) (Text.Bare.fades ?_))) ?_
  · exact (Text.Bare.fades (by decide)).append (fades_paint p _ hnumber)
  · cases x.kind with
    | cmd => exact Text.Bare.fades (t := "(cmd)".toList) (by decide)
    | snippet => exact fades_paint p _ (by decide)
  · split
    · next n hn => exact (h.2 n hn).cons (by decide)
    · exact List.not_mem_nil
  · refine .flatten fun l hl => .line ((Text.Bare.fades (by decide)).append (fades_paint p _ ?_))
    exact h.1.of_mem_lines hl

theorem mem_of_mem_slice {α : Type} {first last : Nat} {xs : List α} {e : α × Nat}
    (h : e ∈ slice first last xs) : e.1 ∈ xs := by
  have he : e ∈ xs.zipIdx 1 := List.mem_of_mem_drop (List.mem_of_mem_take h)
  exact List.fst_mem_of_mem_zipIdx he

theorem fades_suggestions {xs : List Suggestion} (page : Nat) (h : ∀ x ∈ xs, x.Bare) :
    (suggestionsText ⟨true, p⟩ xs page).Fades (suggestionsText ⟨false, p⟩ xs page) := by
  refine fades_ite (Text.Bare.fades (by decide)) (.append (.line ?_) ?_)
  · have htitle := fades_paint p ⟨none, true⟩ (t := "Suggestions".toList) (by decide)
    have hpage := (Text.bare_ofNat (p.clamp page xs.length)).fades
    have hlast := ((Text.bare_ofNat (p.lastPage xs.length)).cons (c := '/') (by decide)).fades
    exact (((htitle.append (Text.Bare.fades (by decide))).append hpage).append hlast).append
      (Text.Bare.fades (by decide))
  · exact .flatten fun e he => fades_suggestion p e.2 (h e.1 (mem_of_mem_slice he))

theorem fades_help : (helpText ⟨true, p⟩).Fades (helpText ⟨false, p⟩) := by
  refine (fades_paint p _ (by decide)).line.append (.flatten fun c hc => Text.Bare.fades ?_)
  have hcommands : ∀ c ∈ commands, Text.Bare c.1.toList ∧ Text.Bare c.2.toList := by
    simp only [commands, List.forall_mem_cons]
    and_intros
    all_goals first | exact Text.bare_ofList (by decide) | exact List.forall_mem_nil _
  obtain ⟨hname, hmeaning⟩ := hcommands c hc
  have hpad (n : Nat) : Text.Bare (padTo n c.1.toList) :=
    hname.append fun h => absurd (List.eq_of_mem_replicate h) (by decide)
  have hstart : Text.Bare "  ".toList := by decide
  exact (((hstart.append (hpad _)).append (by decide)).append hmeaning).append (by decide)

theorem fades_outcome (code : Int) :
    (outcomeText ⟨true, p⟩ code).Fades (outcomeText ⟨false, p⟩ code) := by
  have hcode : Text.Bare ("exit code ".toList ++ Text.ofInt code) :=
    Text.Bare.append (by decide) (Text.bare_ofInt _)
  have hlabel : Text.Bare (Outcome.ofCode code).label := by
    cases Outcome.ofCode code <;> decide
  exact (fades_paint p _ (((hcode.append (by decide)).append hlabel).append (by decide))).line

theorem fades_text {m : Message} (h : m.Bare) : (m.text ⟨true, p⟩).Fades (m.text ⟨false, p⟩) := by
  cases m with
  | header number total step => exact fades_header p number total h
  | blank => exact Text.Bare.fades (t := ['\n']) (by decide)
  | flow steps current => exact fades_flow p current h
  | suggestions xs page => exact fades_suggestions p page h
  | help => exact fades_help p
  | hint => exact (fades_paint p _ (Text.bare_ofList (by decide))).line
  | outcome code => exact fades_outcome p code
  | error t | warning t =>
    exact ((fades_paint p _ (by decide)).append (Text.Bare.fades (Text.Bare.cons h (by decide)))).line
  | notice t => exact (Text.Bare.fades h).line

end Message

/-- There is no escape character in what is said and remembered, and what appears while a line is
read does not fade. Anything may be printed. -/
def Event.Bare : Said → Prop
  | .say m => m.Bare
  | .read _ _ shown => shown.Fades shown
  | .remember l => l.Bare
  | .run _ | .edit _ _ | .printed _ | .used _ => True

/-- Whether the conversation itself does it, and not a program that it runs. -/
def Event.isOwn {μ : Type} : Event μ → Bool
  | .printed _ => false
  | _ => true

namespace Invocation

variable (p : Pager) {es : List Said}

/-- All that is seen of a session in colours fades to what is seen of it without. -/
theorem fades_transcript (h : ∀ e ∈ es, e.Bare) (hp : ∀ b, .printed b ∈ es → b.Bare) :
    (transcript (Message.text ⟨true, p⟩) es).Fades (transcript (Message.text ⟨false, p⟩) es) := by
  induction es with
  | nil => exact fun _ => rfl
  | cons e es ih =>
    rw [List.forall_mem_cons] at h
    refine Bytes.Fades.append ?_ (ih h.2 fun b hb => hp b (List.mem_cons_of_mem _ hb))
    cases e with
    | say m => exact Message.fades_text p h.1
    | read prompt heard shown => exact h.1
    | printed b => exact Bytes.Bare.fades (hp b List.mem_cons_self)
    | remember l | run c | edit path before | used n => exact fun _ => rfl

theorem fades_own (h : ∀ e ∈ es, e.Bare) :
    (transcript (Message.text ⟨true, p⟩) (es.filter Event.isOwn)).Fades
      (transcript (Message.text ⟨false, p⟩) (es.filter Event.isOwn)) := by
  refine fades_transcript p (fun e he => h e (List.mem_filter.mp he).1) fun b hb => ?_
  exact absurd (List.mem_filter.mp hb).2 (by simp [Event.isOwn])

end Invocation

end Guidebook
