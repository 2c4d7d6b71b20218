import Guidebook.Proofs.Document.Shape
import Guidebook.Proofs.Input.Bare
import Guidebook.Proofs.Interview.Records

namespace Guidebook

namespace Interview

variable {ι : Type} {src : Source ι} {P : ι → Prop} {i : ι} {rs : List Record}

theorem after_hear (src : Source ι) (i : ι) (h : Heard) (s : Interview) :
    Dialogue.after src i (Interview.hear h s).1 = i := by
  have hanswer (a : Answer) : Dialogue.after src i (s.answer a).1 = i := by
    obtain ⟨rs, n, q⟩ := s
    cases q <;> cases a <;> simp only [answer] <;> (repeat' split) <;> rfl
  cases h with
  | line l => exact hanswer (some l)
  | closed => exact hanswer none
  | failed f => rfl

theorem newline_notMem_exchanges (h : src.Linewise P) (hi : P i) (s : Interview) :
    ∀ e ∈ dialogue.exchanges src i s, ∀ l, e.heard = .line l → '\n' ∉ l := by
  induction i, s using Dialogue.exchanges.induct dialogue src with
  | case1 i s r hr =>
    rw [dialogue.exchanges_last hr, List.forall_mem_singleton]
    exact fun l hl => h.line hi hl
  | case2 i s t ht ih =>
    have hrest : dialogue.rest src i s = (src.read (dialogue.prompt s) i).2.2 := after_hear ..
    rw [dialogue.exchanges_more ht, List.forall_mem_cons]
    exact ⟨fun l hl => h.line hi hl, ih (hrest ▸ h.read hi)⟩

/-- The records that an interview gives are tidy, wherever its lines come from. -/
theorem tidy_conduct (h : src.Linewise P) (hi : P i) (hr : (conduct src i).2.1 = .ok rs) :
    ∀ r ∈ rs, r.Tidy := by
  have hcourse := course_conduct src i
  -- An interview that gives records has never been cut off by a failure to read.
  have hf : ∀ f, Heard.failed f ∉ reads (conduct src i).1 := fun f hf => by
    rw [broken_of_course hcourse (reads_conduct src i ▸ hf)] at hr
    cases hr
  have hlines : ∀ l, some l ∈ (reads (conduct src i).1).map Heard.line? → '\n' ∉ l := by
    intro l hl
    rw [reads_conduct, List.map_map] at hl
    obtain ⟨e, he, hheard⟩ := List.mem_map.mp hl
    refine newline_notMem_exchanges h hi start e he l ?_
    cases hh : e.heard <;> simp_all [Heard.line?]
  have hends := ends_of_course hcourse (reads_conduct src i ▸ hf)
  obtain ⟨ds, hds, -⟩ := ends_title.mp hends
  rw [← reads_conduct] at hds
  rw [result_of_typed hf hds] at hr
  split at hr
  · cases hr
  · intro r hm
    rw [← Except.ok.inj hr] at hm
    obtain ⟨x, hx, hm⟩ := List.mem_flatMap.mp hm
    obtain ⟨d, hd, rfl⟩ := List.mem_map.mp hx
    obtain ⟨p, hp, rfl⟩ := List.mem_map.mp hd
    exact tidy_of_typed hds hlines p (List.mem_filter.mp hp).1 r hm

end Interview

namespace Guide

/-- The ways in which guides come about: from a document, or from an interview with a script or with
somebody at a keyboard, who presses no key that stands for a line feed. -/
inductive Authored : Guide → Prop
  | compiled {t : Text} {g : Guide} (h : Document.compile t = .ok g) : Authored g
  | scripted {bs : Bytes} {rs : List Record} {g : Guide}
      (h : (Interview.conduct Plain.source (Plain.chunks bs)).2.1 = .ok rs)
      (hg : ofRecords rs = .ok g) : Authored g
  | typed {keys : List Key} {rs : List Record} {g : Guide}
      (hk : ∀ k ∈ keys, k.code ≠ .char '\n')
      (h : (Interview.conduct Keyboard.source ⟨[], keys⟩).2.1 = .ok rs)
      (hg : ofRecords rs = .ok g) : Authored g

variable {g : Guide} {t : Text} {rs : List Record}

theorem newline_notMem_document (h : Document.read t = .ok rs) :
    ∀ u ∈ rs.filterMap Record.title?, '\n' ∉ u := by
  obtain ⟨xs, hxs, hrecords⟩ := Document.recordsOf_sections t
  have hrs : rs = (xs.map Section.toGroup).flatMap Group.records := by
    rw [Document.read_eq] at h
    split at h
    · cases h
    · rw [← Except.ok.inj h, hrecords, Section.flatMap_toGroup]
  rw [hrs, Group.titles_records, List.map_map]
  intro u hu
  obtain ⟨x, hx, rfl⟩ := List.mem_map.mp hu
  exact (hxs x hx).title

theorem newline_notMem_tidy (h : ∀ r ∈ rs, r.Tidy) : ∀ u ∈ rs.filterMap Record.title?, '\n' ∉ u := by
  intro u hu
  obtain ⟨r, hr, ht⟩ := List.mem_filterMap.mp hu
  cases r <;> cases ht
  exact (h _ hr).2.2

theorem Authored.exists_records (h : g.Authored) :
    ∃ rs, ofRecords rs = .ok g ∧ ∀ u ∈ rs.filterMap Record.title?, '\n' ∉ u := by
  cases h with
  | @compiled t _ h =>
    cases hr : Document.read t with
    | error e =>
      rw [Document.compile, hr] at h
      cases h
    | ok rs => exact ⟨rs, Document.compile_of_read hr ▸ h, newline_notMem_document hr⟩
  | scripted h hg =>
    have htidy := Interview.tidy_conduct (Plain.linewise _) (List.Subset.refl _) h
    exact ⟨_, hg, newline_notMem_tidy htidy⟩
  | typed hk h hg =>
    have htidy := Interview.tidy_conduct Keyboard.linewise ⟨List.forall_mem_nil _, hk⟩ h
    exact ⟨_, hg, newline_notMem_tidy htidy⟩

theorem Authored.newline_notMem_title (h : g.Authored) {i : Nat} {s : Step}
    (hs : g.step? i = some s) : '\n' ∉ s.title := by
  obtain ⟨rs, hg, hrs⟩ := h.exists_records
  have hmem : s ∈ g.steps := by
    cases i with
    | zero => cases hs
    | succ i => exact List.mem_of_getElem? hs
  refine hrs _ ?_
  rw [← (keeps_of_ofRecords hg).titles]
  exact List.mem_map_of_mem hmem

end Guide

end Guidebook
