import Guidebook.Input.Pipe
import Guidebook.Proofs.Text.Lines
import Guidebook.Proofs.Text.Utf8
import Mathlib.Data.List.DropRight

namespace Guidebook.Plain

variable {bs c : Bytes} {t l : Text}

/-- A chunk is a line that a line feed ends, or the last one without. -/
theorem shape_of_mem_chunks (hc : c ∈ chunks bs) :
    ∃ body, newline ∉ body ∧ (c = body ∨ c = body ++ [newline]) := by
  induction bs generalizing c with
  | nil => cases hc
  | cons b bs ih =>
    rw [chunks] at hc
    split at hc
    · next hb =>
      rcases List.mem_cons.mp hc with rfl | hc
      · exact ⟨[], List.not_mem_nil, .inr (by rw [hb]; rfl)⟩
      · exact ih hc
    · next hb =>
      have hb' : newline ∉ [b] := by simpa using Ne.symm hb
      split at hc
      · exact ⟨[b], hb', .inl (List.mem_singleton.mp hc)⟩
      · next d ds hd =>
        rcases List.mem_cons.mp hc with rfl | hc
        · obtain ⟨body, hn, h⟩ := ih (c := d) (hd ▸ List.mem_cons_self)
          refine ⟨b :: body, by simpa using ⟨Ne.symm hb, hn⟩, ?_⟩
          rcases h with rfl | rfl
          · exact .inl rfl
          · exact .inr rfl
        · exact ih (hd ▸ List.mem_cons_of_mem _ hc)

theorem mem_of_mem_stripEnd {d : Char} (h : d ∈ stripEnd t) : d ∈ t :=
  (List.rdropWhile_prefix isTerminator t).subset h

theorem stripEnd_concat (t : Text) : stripEnd (t ++ ['\n']) = stripEnd t := by
  simp [stripEnd, isTerminator]

theorem newline_notMem_decode (h : Utf8.decode c = some t) (hc : newline ∉ c) : '\n' ∉ t :=
  fun hn => hc (Utf8.byte_of_mem_decode h (by decide) hn)

theorem newline_notMem_hear (hc : c ∈ chunks bs) (hl : hear c = .line l) : '\n' ∉ l := by
  obtain ⟨t, ht, rfl⟩ : ∃ t, Utf8.decode c = some t ∧ stripEnd t = l := by
    rw [hear] at hl
    split at hl
    · cases hl
    · next t ht => exact ⟨t, ht, Heard.line.inj hl⟩
  obtain ⟨body, hbody, rfl | rfl⟩ := shape_of_mem_chunks hc
  · exact mt mem_of_mem_stripEnd (newline_notMem_decode ht hbody)
  · have hs : Utf8.signs (body ++ [newline]) = Utf8.signs body ++ [some '\n'] :=
      Utf8.signsFrom_ascii (by decide) .lead body []
    rw [Utf8.decode_eq_some, hs] at ht
    obtain ⟨u, v, rfl, hu, hv⟩ := List.map_eq_append_iff.mp ht.symm
    obtain rfl : v = ['\n'] := by simpa [List.map_eq_cons_iff] using hv
    rw [stripEnd_concat]
    exact mt mem_of_mem_stripEnd (newline_notMem_decode (Utf8.decode_eq_some.mpr hu.symm) hbody)

/-- The lines that are heard of a script have no line feeds in them. -/
theorem newline_notMem_heard {hs : List Heard} {k : Nat}
    (hp : hs <+: (chunks bs).map hear ++ List.replicate k .closed)
    (hl : some l ∈ hs.map Heard.line?) : '\n' ∉ l := by
  obtain ⟨h, hh, hline⟩ := List.mem_map.mp hl
  have hline : h = .line l := by
    cases h with
    | line m => exact congrArg _ (Option.some.inj hline)
    | closed | failed f => cases hline
  rcases List.mem_append.mp (hp.subset hh) with hc | hc
  · obtain ⟨c, hc, hhear⟩ := List.mem_map.mp hc
    exact newline_notMem_hear hc (hhear.trans hline)
  · rw [List.eq_of_mem_replicate hc] at hline
    cases hline

theorem newline_notMem_encode {t : Text} (h : '\n' ∉ t) : newline ∉ Utf8.encode t := by
  intro hm
  obtain ⟨c, hc, hb⟩ := List.mem_flatMap.mp hm
  have hn : c.toNat = 10 := Utf8.toNat_of_mem_encodeChar hb (by decide)
  have he : c = '\n' := by rw [← Char.ofNat_toNat c, hn]
  exact h (he ▸ hc)

theorem chunks_line {body : Bytes} (h : newline ∉ body) (rest : Bytes) :
    chunks (body ++ newline :: rest) = (body ++ [newline]) :: chunks rest := by
  induction body with
  | nil => rw [List.nil_append, chunks, if_pos rfl, List.nil_append]
  | cons b bs ih =>
    obtain ⟨hb, hbs⟩ : newline ≠ b ∧ newline ∉ bs := by simpa using h
    rw [List.cons_append, chunks, if_neg (Ne.symm hb), ih hbs]
    rfl

theorem hear_line {l : Text} (h : Text.Clean l) :
    hear (Utf8.encode l ++ [newline]) = .line l := by
  have he : Utf8.encode l ++ [newline] = Utf8.encode (l ++ ['\n']) := by
    rw [Utf8.encode_append]
    rfl
  have hs : stripEnd l = l := by
    refine List.rdropWhile_eq_self_iff.mpr fun hne => ?_
    have hn : l.getLast hne ≠ '\n' := fun hn => h.1 (hn ▸ List.getLast_mem hne)
    have hr : l.getLast hne ≠ '\r' := by
      intro hr
      exact h.2 (by rw [List.getLast?_eq_some_getLast hne, hr])
    simp [isTerminator, hn, hr]
  rw [hear, he, Utf8.decode_encode]
  exact congrArg Heard.line ((stripEnd_concat l).trans hs)

/-- Clean lines are heard one after the other, as they are. -/
theorem hear_unlines {ls : List Text} (h : ∀ l ∈ ls, Text.Clean l) :
    (chunks (Utf8.encode (Text.unlines ls))).map hear = ls.map .line := by
  induction ls with
  | nil => rfl
  | cons l ls ih =>
    obtain ⟨hl, hls⟩ := List.forall_mem_cons.mp h
    have he : Utf8.encode (Text.unlines (l :: ls)) =
        Utf8.encode l ++ newline :: Utf8.encode (Text.unlines ls) := by
      rw [Text.unlines, List.flatMap_cons, Utf8.encode_append, Utf8.encode_append, List.append_assoc]
      rfl
    rw [he, chunks_line (newline_notMem_encode hl.1), List.map_cons, hear_line hl, ih hls,
      List.map_cons]

end Guidebook.Plain

namespace Guidebook

/-- What is heard and what is shown if a line is read for each of some prompts. -/
def Source.hearAll {ι : Type} (src : Source ι) : ι → List Text → List (Heard × Text)
  | _, [] => []
  | i, p :: ps => ((src.read p i).1, (src.read p i).2.1) :: src.hearAll (src.read p i).2.2 ps

namespace Plain

variable {bs c : Bytes} {cs : List Bytes} {ps : List Text}

/-- An input in parts, cut behind each of its line feeds. Only the last part may be without, and
none is empty. -/
inductive Cut : Bytes → List Bytes → Prop
  | nil : Cut [] []
  | last {bs : Bytes} (hne : bs ≠ []) (h : newline ∉ bs) : Cut bs [bs]
  | line {body rest : Bytes} {cs : List Bytes} (h : newline ∉ body) (hc : Cut rest cs) :
    Cut (body ++ newline :: rest) ((body ++ [newline]) :: cs)

/-- What is to be heard of a part: the text that it stands for without the line feeds and carriage
returns at its end, or a failure if it stands for none. -/
inductive Answers : Bytes → Heard → Prop
  | line {l u : Text} (hl : ∀ d ∈ l.getLast?, d ≠ '\n' ∧ d ≠ '\r')
    (hu : ∀ d ∈ u, d = '\n' ∨ d = '\r') : Answers (Utf8.encode (l ++ u)) (.line l)
  | failed {c : Bytes} (h : ∀ t, c ≠ Utf8.encode t) : Answers c (.failed .notUtf8)

theorem chunks_last (hne : bs ≠ []) (h : newline ∉ bs) : chunks bs = [bs] := by
  induction bs with
  | nil => exact absurd rfl hne
  | cons b bs ih =>
    obtain ⟨hb, hbs⟩ : newline ≠ b ∧ newline ∉ bs := by simpa using h
    rw [chunks, if_neg (Ne.symm hb)]
    cases bs with
    | nil => rfl
    | cons d ds => rw [ih (List.cons_ne_nil d ds) hbs]

theorem cut_chunks (bs : Bytes) : Cut bs (chunks bs) := by
  induction hn : bs.length using Nat.strongRecOn generalizing bs with
  | ind n ih =>
    by_cases h : newline ∈ bs
    · obtain ⟨body, rest, rfl, hbody⟩ := List.eq_append_cons_of_mem h
      have hlt : rest.length < n := by
        rw [List.length_append, List.length_cons] at hn
        omega
      rw [chunks_line hbody]
      exact .line hbody (ih rest.length hlt rest rfl)
    · by_cases hne : bs = []
      · subst hne
        exact .nil
      · rw [chunks_last hne h]
        exact .last hne h

/-- There is only one way to cut an input. -/
theorem Cut.eq_chunks (hc : Cut bs cs) : cs = chunks bs := by
  induction hc with
  | nil => rfl
  | last hne h => exact (chunks_last hne h).symm
  | line h hc ih => rw [chunks_line h, ih]

theorem stripEnd_append (t : Text) :
    ∃ u, t = stripEnd t ++ u ∧ ∀ d ∈ u, d = '\n' ∨ d = '\r' := by
  refine ⟨t.rtakeWhile isTerminator, (List.rdropWhile_append_rtakeWhile ..).symm, fun d hd => ?_⟩
  simpa [isTerminator] using List.mem_rtakeWhile_imp hd

theorem getLast?_stripEnd (t : Text) : ∀ d ∈ (stripEnd t).getLast?, d ≠ '\n' ∧ d ≠ '\r' := by
  intro d hd
  obtain ⟨hne, rfl⟩ := List.mem_getLast?_eq_getLast hd
  have hlast : ¬isTerminator ((stripEnd t).getLast hne) := List.rdropWhile_last_not _ t hne
  simpa [isTerminator] using hlast

theorem answers_hear (c : Bytes) : Answers c (hear c) := by
  rw [hear]
  split
  · next h =>
    refine .failed fun t ht => ?_
    rw [Utf8.decode_iff_encode.mpr ht] at h
    cases h
  · next t h =>
    obtain ⟨u, ht, hu⟩ := stripEnd_append t
    have hc : c = Utf8.encode (stripEnd t ++ u) := by rw [← ht, Utf8.decode_iff_encode.mp h]
    rw [hc]
    exact .line (getLast?_stripEnd t) hu

theorem hear_ne_closed (c : Bytes) : hear c ≠ .closed := by
  intro h
  cases h ▸ answers_hear c

theorem map_snd_hearAll (cs : List Bytes) (ps : List Text) :
    (source.hearAll cs ps).map Prod.snd = ps := by
  induction ps generalizing cs with
  | nil => rfl
  | cons p ps ih =>
    rw [Source.hearAll, List.map_cons, ih]
    cases cs <;> rfl

/-- For one prompt after the other, one part after the other is heard, and then that the input is
closed. -/
theorem getElem?_hearAll (cs : List Bytes) {k : Nat} (hk : k < ps.length) :
    ((source.hearAll cs ps).map Prod.fst)[k]? = some ((cs[k]?.map hear).getD .closed) := by
  induction ps generalizing cs k with
  | nil => cases hk
  | cons p ps ih =>
    rw [Source.hearAll, List.map_cons]
    cases k with
    | zero => cases cs <;> rfl
    | succ k =>
      rw [List.getElem?_cons_succ, ih _ (Nat.lt_of_succ_lt_succ hk)]
      cases cs <;> rfl

end Plain

namespace Pipe

theorem cut?_eq_some {bs l r : Bytes} (h : cut? bs = some (l, r)) :
    ∃ body, Plain.newline ∉ body ∧ l = body ++ [Plain.newline] ∧ bs = l ++ r := by
  induction bs generalizing l with
  | nil => cases h
  | cons b bs ih =>
    rw [cut?] at h
    split at h
    · next hb =>
      cases h
      exact ⟨[], List.not_mem_nil, by rw [hb]; rfl, rfl⟩
    · next hb =>
      obtain ⟨⟨l', r'⟩, hr, he⟩ := Option.map_eq_some_iff.mp h
      obtain ⟨rfl, rfl⟩ := Prod.mk.inj he
      obtain ⟨body, hbody, rfl, rfl⟩ := ih hr
      exact ⟨b :: body, by simpa using ⟨Ne.symm hb, hbody⟩, rfl, rfl⟩

theorem cut?_eq_none {bs : Bytes} (h : cut? bs = none) : Plain.newline ∉ bs := by
  induction bs with
  | nil => exact List.not_mem_nil
  | cons b bs ih =>
    rw [cut?] at h
    split at h
    · cases h
    · next hb => simpa using ⟨Ne.symm hb, ih (Option.map_eq_none_iff.mp h)⟩

/-- Whatever of it is held already, a pipe gives the first part of its bytes and keeps the others. -/
theorem chunks_bytes (p : Pipe) (hp : p.bytes ≠ []) :
    Plain.chunks p.bytes = p.line.1 :: Plain.chunks p.line.2.bytes := by
  fun_induction line p with
  | case1 p l r h =>
    obtain ⟨body, hbody, rfl, hh⟩ := cut?_eq_some h
    have hb : p.bytes = body ++ Plain.newline :: (r ++ p.behind) := by simp [bytes, hh]
    rw [hb, Plain.chunks_line hbody]
    rfl
  | case2 p h hb =>
    have hheld : p.bytes = p.held := by rw [bytes, hb, List.append_nil]
    rw [hheld] at hp ⊢
    exact Plain.chunks_last hp (cut?_eq_none h)
  | case3 p h hb ih =>
    have hsame : (Pipe.mk (p.held ++ p.behind.take blockSize) (p.behind.drop blockSize)).bytes =
        p.bytes := by rw [bytes, List.append_assoc, List.take_append_drop, bytes]
    rw [hsame] at ih
    exact ih hp

/-- A pipe is heard as the same bytes are without blocks. -/
theorem hearAll_eq (p : Pipe) (ps : List Text) :
    source.hearAll p ps = Plain.source.hearAll (Plain.chunks p.bytes) ps := by
  induction ps generalizing p with
  | nil => rfl
  | cons q ps ih =>
    have hread : source.read q p =
        if p.bytes.isEmpty then (.closed, q, p) else (Plain.hear p.line.1, q, p.line.2) := rfl
    by_cases hp : p.bytes = []
    · rw [Source.hearAll, hread, if_pos (List.isEmpty_iff.mpr hp), ih, hp]
      rfl
    · rw [Source.hearAll, hread, if_neg (mt List.isEmpty_iff.mp hp), ih, chunks_bytes p hp]
      rfl

end Pipe

namespace Plain

/-- There is one way to cut an input behind its line feeds, and each part of it is heard once: for
one prompt after the other, which is shown once, one part after the other is heard, and when there
is none left, and only then, that the input is closed. What is held of a pipe does not matter. -/
theorem hearAll_cut (bs : Bytes) :
    (∃! cs, Cut bs cs) ∧
    ∀ cs, Cut bs cs → ∀ ps,
      let hs := source.hearAll (chunks bs) ps
      hs.map Prod.snd = ps ∧
      (∀ k h, (hs.map Prod.fst)[k]? = some h →
        (∀ c, cs[k]? = some c → Answers c h) ∧ (h = .closed ↔ cs.length ≤ k)) ∧
      ∀ p : Pipe, p.bytes = bs → Pipe.source.hearAll p ps = hs := by
  refine ⟨⟨chunks bs, cut_chunks bs, fun cs hc => hc.eq_chunks⟩, fun cs hc ps => ?_⟩
  obtain rfl := hc.eq_chunks
  have hshown := map_snd_hearAll (chunks bs) ps
  refine ⟨hshown, fun k h hh => ?_, fun p hp => by rw [Pipe.hearAll_eq, hp]⟩
  have hk : k < ps.length := by
    have hlt := (List.getElem?_eq_some_iff.mp hh).1
    rwa [List.length_map, ← List.length_map Prod.snd, hshown] at hlt
  rw [getElem?_hearAll _ hk, Option.some.injEq] at hh
  cases hc : (chunks bs)[k]? with
  | none =>
    rw [hc] at hh
    exact ⟨fun c hn => (by cases hn), fun _ => List.getElem?_eq_none_iff.mp hc, fun _ => hh.symm⟩
  | some c =>
    obtain rfl : hear c = h := by rwa [hc] at hh
    have hlt := (List.getElem?_eq_some_iff.mp hc).1
    refine ⟨fun d hd => Option.some.inj hd ▸ answers_hear c, fun hn => ?_, fun hle => by omega⟩
    exact absurd hn (hear_ne_closed c)

/-- A part with a carriage return, a blank one, one that is no text, and one that nothing ends. -/
theorem hearAll_cut_mixed :
    let bs := Utf8.encode "one\r\n\n".toList ++ 0xFF :: newline :: Utf8.encode "two\r".toList
    let cs := [Utf8.encode "one\r\n".toList, [newline], [0xFF, newline], Utf8.encode "two\r".toList]
    let hs := source.hearAll (chunks bs) (List.replicate 6 "> ".toList)
    Cut bs cs ∧ hs.map Prod.snd = List.replicate 6 "> ".toList ∧
    hs.map Prod.fst = [.line "one".toList, .line [], .failed .notUtf8, .line "two".toList, .closed,
      .closed] ∧
    Pipe.source.hearAll (.ofBytes bs) (List.replicate 6 "> ".toList) = hs := by
  intro bs cs hs
  have hc : Cut bs cs := by
    have hcs : chunks bs = cs := by decide
    exact hcs ▸ cut_chunks bs
  obtain ⟨hshown, -, hpipe⟩ := (hearAll_cut bs).2 cs hc (List.replicate 6 "> ".toList)
  exact ⟨hc, hshown, by decide, hpipe _ rfl⟩

end Plain

end Guidebook
