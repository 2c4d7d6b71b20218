import Guidebook.Program.Payload
import Guidebook.Proofs.Json.Printed
import Guidebook.Proofs.Program.Trailer

namespace Guidebook

open Json

theorem Kind.ofJson?_toJson (k : Kind) : Kind.ofJson? k.toJson = some k := by
  cases k <;> rfl

theorem Status.ofJson?_toJson (s : Status) : Status.ofJson? s.toJson = some s := by
  cases s <;> rfl

namespace Suggestion

theorem ofJson?_toJson (s : Suggestion) : ofJson? s.toJson = some s := by
  have hs : s.toJson.slots fieldNames =
      some [.given s.kind.toJson, .given (opt s.note), .given (.str s.body)] :=
    slots_obj (by decide) rfl
  rw [ofJson?, hs]
  simp [ofSlots?, Slot.required, Slot.orNone, Kind.ofJson?_toJson, optStr?_opt, str?]

theorem sound_toJson (s : Suggestion) : Sound s.toJson := by
  refine .obj _ ?_
  simp [members, Kind.toJson, Sound.str, sound_opt]

end Suggestion

namespace Step

/-- The slice of a step is told in numbers that can be read. -/
structure Numbered (s : Step) : Prop where
  start : s.start < Text.numberBound
  len : s.len < Text.numberBound

theorem ofJson?_toJson {s : Step} (hn : s.Numbered) : ofJson? s.toJson = some s := by
  have hs : s.toJson.slots fieldNames =
      some [.given (.str s.title), .given (opt s.description), .given s.status.toJson,
        .given (nat s.start), .given (nat s.len)] :=
    slots_obj (by decide) rfl
  rw [ofJson?, hs]
  simp [ofSlots?, Slot.required, Slot.orNone, Slot.orElse, Status.ofJson?_toJson, optStr?_opt, str?,
    natBelow?_nat hn.start, natBelow?_nat hn.len]

theorem sound_toJson (s : Step) : Sound s.toJson := by
  refine .obj _ ?_
  simp [Status.toJson, Sound.str, sound_opt, sound_nat]

end Step

namespace Guide

theorem ofJson?_toJson {g : Guide} (hn : ∀ s ∈ g.steps, s.Numbered) :
    ofJson? g.toJson = some g := by
  have hs : g.toJson.slots fieldNames =
      some [.given (.arr (g.steps.map Step.toJson)),
        .given (.arr (g.suggestions.map Suggestion.toJson))] :=
    slots_obj (by decide) rfl
  have hsteps : (g.steps.map Step.toJson).mapM Step.ofJson? = some g.steps :=
    mapM_map_eq_some fun s h => Step.ofJson?_toJson (hn s h)
  have hsuggestions : (g.suggestions.map Suggestion.toJson).mapM Suggestion.ofJson? =
      some g.suggestions :=
    mapM_map_eq_some fun s _ => Suggestion.ofJson?_toJson s
  rw [ofJson?, hs]
  simp [ofSlots?, Slot.required, arr?, hsteps, hsuggestions]

theorem sound_toJson (g : Guide) : Sound g.toJson := by
  refine .obj _ ?_
  simp only [List.forall_mem_cons, List.not_mem_nil, false_imp_iff, implies_true, and_true]
  exact ⟨.arr _ (List.forall_mem_map.mpr fun s _ => s.sound_toJson),
    .arr _ (List.forall_mem_map.mpr fun s _ => s.sound_toJson)⟩

end Guide

namespace Payload

/-- A payload as it can be: its format is a number of four bytes, the slices of its steps are told in
numbers of eight, and it takes no more bytes than eight can count. -/
structure Fits (p : Payload) : Prop where
  format : p.format < formatBound
  numbered : ∀ s ∈ p.guide.steps, s.Numbered
  size : p.encode.length < Text.numberBound

theorem ofJson?_toJson {p : Payload} (hf : p.format < formatBound)
    (hn : ∀ s ∈ p.guide.steps, s.Numbered) : ofJson? p.toJson = some p := by
  have hs : p.toJson.slots fieldNames =
      some [.given (nat p.format), .given (.str p.identity), .given (.str p.generator),
        .given p.guide.toJson] :=
    slots_obj (by decide) rfl
  rw [ofJson?, hs]
  simp [ofSlots?, Slot.required, str?, natBelow?_nat hf, Guide.ofJson?_toJson hn]

theorem sound_toJson (p : Payload) : Sound p.toJson := by
  refine .obj _ ?_
  simp [Sound.str, sound_nat, Guide.sound_toJson]

/-- What a payload is written as is read as that payload, unless it has another format. -/
theorem decode_encode {p : Payload} (hf : p.format < formatBound)
    (hn : ∀ s ∈ p.guide.steps, s.Numbered) :
    decode p.encode = if p.format = formatRead then .ok p else .error (.format p.format) := by
  rw [decode, encode, readBytes_render p.sound_toJson, Option.bind_some, ofJson?_toJson hf hn]

/-- A payload whose texts look like the signs of what it is written as, with slices as far off as
numbers reach. -/
def tricky : Payload where
  format := formatRead
  identity := "\",\"format\":2".toList
  generator := []
  guide :=
    { steps := [⟨"\\\"]\x7d".toList, some "\n\t\x00\x1f\u2028é".toList, .done,
        0xffffffffffffffff, 0xffffffffffffffff⟩, ⟨"null".toList, none, .todo, 0, 1⟩]
      suggestions := [⟨.snippet, none, "\\u0041\x7f😀".toList⟩, ⟨.cmd, some [], [' ']⟩] }

theorem tricky_fits : tricky.Fits := by
  refine ⟨by decide, ?_, by decide +kernel⟩
  simp only [tricky, List.forall_mem_cons, List.not_mem_nil, false_imp_iff, implies_true, and_true]
  exact ⟨⟨by decide, by decide⟩, ⟨by decide, by decide⟩⟩

end Payload

namespace Program

theorem carries_embed (bs : Bytes) {p : Payload} (hp : p.encode.length < Text.numberBound) :
    Carries (embed bs p) (strip bs) p.encode :=
  ⟨rfl, hp⟩

/-- What is put into a program is found in it again, whatever the program ends in, unless no program
reads its format. -/
theorem extract_embed (bs : Bytes) {p : Payload} (hp : p.Fits) :
    extract (embed bs p) =
      if p.format = Payload.formatRead then .ok (some p) else .error (.format p.format) := by
  rw [(carries_embed bs hp.size).extract_eq, Payload.decode_encode hp.format hp.numbered]
  split <;> rfl

theorem extract_embed_tricky :
    Payload.tricky.Fits ∧
    extract (embed (embed mark Payload.tricky) Payload.tricky) = .ok (some Payload.tricky) :=
  ⟨Payload.tricky_fits, extract_embed (embed mark Payload.tricky) Payload.tricky_fits⟩

/-- A payload takes the place of the one that is there, so that there is never more than one, and
without it the program is what it was. What is taken away is a payload with its trailer or nothing,
and a program that can be held is searched for them without a number or a part that does not fit,
whatever it ends in. -/
theorem embed_replaces (bs : Bytes) (p q : Payload) (hp : p.encode.length < Text.numberBound) :
    embed (embed bs p) q = embed bs q ∧
    strip (embed bs p) = strip bs ∧
    (strip bs = bs ∨ ∃ content, content.length < Text.numberBound ∧
      bs = strip bs ++ content ++ (littleEndian lengthSize content.length ++ mark)) ∧
    (∀ base n, n < Text.numberBound → bs = base ++ (littleEndian lengthSize n ++ mark) →
      strip bs = if n ≤ base.length then base.take (base.length - n) else bs) ∧
    (bs.length < Text.numberBound →
      locate? bs = some (locate bs) ∧ strip? bs = some (strip bs) ∧
        extract? bs = some (extract bs)) := by
  have hs : strip (embed bs p) = strip bs := (carries_embed bs hp).strip_eq
  refine ⟨by rw [embed, hs, embed], hs, ?_, ?_, ?_⟩
  · rcases strip_cases bs with h | ⟨content, h⟩
    · exact .inl h
    · exact .inr ⟨content, h.size, h.eq⟩
  · rintro base n hn rfl
    exact strip_append_trailer base hn
  · exact fun hb => ⟨locate?_eq hb, strip?_eq hb, extract?_eq hb⟩

theorem embed_replaces_tricky :
    Payload.tricky.encode.length < Text.numberBound ∧
    strip (embed (mark ++ trailer 9) Payload.tricky) = mark ++ trailer 9 := by
  have hp : Payload.tricky.encode.length < Text.numberBound := Payload.tricky_fits.size
  obtain ⟨-, hs, -, hn, -⟩ := embed_replaces (mark ++ trailer 9) Payload.tricky Payload.tricky hp
  exact ⟨hp, hs.trans (hn mark 9 (by decide) rfl)⟩

end Program

end Guidebook
