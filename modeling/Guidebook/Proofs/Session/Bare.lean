import Guidebook.Proofs.Buffer.Snippet
import Guidebook.Proofs.Guide.Progress
import Guidebook.Proofs.Session.Commands
import Guidebook.Proofs.Work.Bare

namespace Guidebook

section Guide

/-- There is no escape character in the guide. -/
structure Guide.Bare (g : Guide) : Prop where
  steps : ∀ s ∈ g.steps, s.Bare
  suggestions : ∀ x ∈ g.suggestions, x.Bare

variable {g : Guide}

theorem Guide.Bare.step? (h : g.Bare) {n : Nat} {s : Step} (hs : g.step? n = some s) : s.Bare := by
  cases n with
  | zero => cases hs
  | succ i => exact h.steps s (List.mem_of_getElem? hs)

theorem Guide.Bare.suggestionsOf (h : g.Bare) (n : Nat) : ∀ x ∈ g.suggestionsOf n, x.Bare := by
  rw [Guide.suggestionsOf]
  split
  · simp
  · exact fun x hx => h.suggestions x (List.mem_of_mem_drop (List.mem_of_mem_take hx))

theorem Guide.Bare.markDone (h : g.Bare) (n : Nat) : (g.markDone n).Bare := by
  cases n with
  | zero => exact h
  | succ i =>
    refine ⟨fun s hs => ?_, h.suggestions⟩
    obtain ⟨k, hk⟩ := List.mem_iff_getElem?.mp hs
    have hs : (g.markDone (i + 1)).step? (k + 1) = some s := hk
    rw [Guide.step?_markDone] at hs
    split at hs
    · obtain ⟨t, ht, rfl⟩ := Option.map_eq_some_iff.mp hs
      have hbare : t.Bare := h.step? ht
      exact hbare
    · exact h.step? hs

end Guide

namespace Buffer

variable {t : Text}

theorem bare_comment (h : t.Bare) : (comment t).Bare := by
  rw [comment]
  split
  · decide
  · exact ((h.cons (by decide)).cons (by decide)).append (by decide)

theorem bare_comments (h : t.Bare) : (comments t).Bare := by
  refine Text.Bare.flatten fun u hu => ?_
  obtain ⟨l, hl, rfl⟩ := List.mem_map.mp hu
  exact bare_comment (h.of_mem_lines hl)

theorem bare_header (number : Nat) {step : Step} {x : Suggestion} (hs : step.Bare) (hx : x.Bare) :
    (header number step x).Bare := by
  have htitle : Text.Bare ("Step ".toList ++ Text.ofNat number ++ ": ".toList ++ step.title) :=
    ((Text.Bare.append (by decide) (Text.bare_ofNat number)).append (by decide)).append hs.1
  refine ((bare_comment htitle).append ?_).append ?_
  · split
    · next d hd => exact bare_comments (hs.2 d hd)
    · exact List.not_mem_nil
  · split
    · next n hn => exact (bare_comment List.not_mem_nil).append (bare_comments (hx.2 n hn))
    · exact List.not_mem_nil

theorem bare_ofCommand (number : Nat) {step : Step} {x : Suggestion} (hs : step.Bare)
    (hx : x.Bare) : (ofCommand number step x).Bare :=
  (((bare_header number hs hx).append (Text.bare_ofList (by decide))).append hx.1).append (by decide)

theorem bare_ofSnippet (number : Nat) {step : Step} {x : Suggestion} (hs : step.Bare)
    (hx : x.Bare) : (ofSnippet number step x).Bare := by
  have hbody : Text.Bare (if x.body.isEmpty then [] else x.body ++ ['\n']) := by
    split
    · exact List.not_mem_nil
    · exact hx.1.append (by decide)
  have hfirst : Text.Bare startMarker := Text.bare_ofList (by decide)
  have hlast : Text.Bare endMarker := Text.bare_ofList (by decide)
  exact ((((bare_header number hs hx).append hfirst).append (hbody.cons (by decide))).append
    hlast).append (by decide)

theorem bare_stripComments (h : t.Bare) : (stripComments t).Bare :=
  (Text.Bare.joinLines fun _ hl => h.of_mem_lines (List.mem_filter.mp hl).1).trim

theorem bare_snippet? (h : t.Bare) {c : Text} (hc : snippet? t = some c) : c.Bare := by
  obtain ⟨before, first, body, last, after, hl, -, -, -, -, rfl⟩ := snippet?_eq_some.mp hc
  exact Text.Bare.joinLines fun l hm => h.of_mem_lines (by simp [hl, hm])

end Buffer

section Command

/-- There is no escape character in what the command runs and in the file it names. -/
def StashCommand.Bare : StashCommand → Prop
  | .paste file _ | .place file => file.Bare
  | .view | .edit | .clear => True

def Command.Bare : Command → Prop
  | .shell t => t.Bare
  | .stash c => c.Bare
  | _ => True

/-- Read as a command, there is no escape character in what is found, nor in what is told. -/
def BareOr {α : Type} (Q : α → Prop) : Except Mistake α → Prop
  | .ok a => Q a
  | .error m => m.message.Bare

theorem Mistake.bare_stashUsage (u : StashUsage) : (stashUsage u).message.Bare := by
  have htext : u.text.Bare := by cases u <;> exact Text.bare_ofList (by decide)
  exact Text.Bare.append (Text.bare_ofList (by decide)) htext

variable {home : Option Text} {t : Text}

theorem StashCommand.bare_ending (c : StashCommand) (hc : c.Bare) (ws : List Text) :
    BareOr StashCommand.Bare (ofWords.ending c ws) := by
  rw [ofWords.ending]
  split
  · exact hc
  · exact Mistake.bare_stashUsage .all

theorem StashCommand.bare_ofWords (hh : ∀ h ∈ home, h.Bare) {ws : List Text}
    (hw : ∀ w ∈ ws, w.Bare) : BareOr StashCommand.Bare (ofWords home ws) := by
  have hfile {verb file : Text} {rest : List Text} (h : ws = verb :: file :: rest) :
      (Path.expand home file).Bare := Path.bare_expand hh (hw file (by simp [h]))
  unfold ofWords
  split
  · exact Mistake.bare_stashUsage .all
  next verb ws =>
  split
  · exact bare_ending .view trivial ws
  split
  · exact bare_ending .edit trivial ws
  split
  · exact bare_ending .clear trivial ws
  split
  · split
    · exact Mistake.bare_stashUsage .paste
    · exact hfile rfl
    · split
      · exact bare_ending (.paste _ .append) (hfile rfl) _
      · split
        · exact bare_ending (.paste _ .overwrite) (hfile rfl) _
        · exact Mistake.bare_stashUsage .paste
  split
  · split
    · exact Mistake.bare_stashUsage .place
    · exact bare_ending (.place _) (hfile rfl) _
  · exact Mistake.bare_stashUsage .all

theorem Command.bare_number (h : t.Bare) : BareOr (fun _ => True) (number t) := by
  rw [number]
  split
  · trivial
  · exact (h.append (by decide)).cons (by decide)

theorem Command.bare_ofLine (hh : ∀ h ∈ home, h.Bare) (ht : t.Bare) :
    BareOr Command.Bare (ofLine home t) := by
  have hnumber {u : Text} {make : Nat → Command} (hu : u.Bare) (hm : ∀ n, (make n).Bare) :
      BareOr Command.Bare ((number u).map make) := by
    have h := bare_number hu
    cases hn : number u with
    | ok n => exact hm n
    | error m => rwa [hn] at h
  have hverbs : ∀ p ∈ verbs, ∀ n, (p.2 n).Bare := by simp [verbs, Command.Bare]
  have hword : Text.Bare (split t).1 := ht.of_subset (List.takeWhile_subset _)
  have hrest : Text.Bare (split t).2 :=
    ht.of_subset (List.Subset.trans (Text.trimStart_suffix _).subset (List.dropWhile_subset _))
  rw [ofLine]
  split
  · exact hnumber ht fun _ => trivial
  dsimp only
  split
  · exact ht
  split
  · next make hmake =>
    split
    · exact (Text.Bare.append (by decide) hword).append (by decide)
    · exact hnumber hrest.trim (hverbs _ (mem_of_lookup hmake))
  split
  · have h := StashCommand.bare_ofWords hh fun w hw => hrest.of_mem_words hw
    cases hc : StashCommand.ofWords home (Text.words (split t).2) with
    | ok c => rwa [hc] at h
    | error m => rwa [hc] at h
  · exact ht

theorem Command.bare_ofInput (hh : ∀ h ∈ home, h.Bare) (ht : t.Bare) :
    BareOr Command.Bare (ofInput home t) := by
  have haliases : ∀ p ∈ aliases, p.2.Bare := by simp [aliases, Command.Bare]
  rw [ofInput]
  split
  · trivial
  · split
    · next c hc => exact haliases _ (mem_of_lookup hc)
    · exact bare_ofLine hh ht.trim

end Command

/-- There is no escape character in what a session works under. -/
structure Setting.Bare (x : Setting) : Prop where
  runner : x.runner.Bare
  home : ∀ h ∈ x.home, h.Bare

def Way.Bare : Way → Prop
  | .ask file => file.Bare
  | _ => True

def Place.Bare : Place → Prop
  | .placing file => file.Bare
  | _ => True

namespace Session

/-- There is no escape character in the guide, on the desk and in the file that is asked about. -/
structure Bare (s : Session) : Prop where
  guide : s.guide.Bare
  desk : s.desk.Bare
  place : s.place.Bare

/-- Nothing that follows brings an escape character in. -/
structure Turn.Bare (r : Turn) : Prop where
  events : ∀ e ∈ r.1, e.Bare
  next {s : Session} (h : r.2 = .inl s) : s.Bare

theorem Turn.Bare.append {r : Turn} (h : r.Bare) {es : List Said} (he : ∀ e ∈ es, e.Bare) :
    Turn.Bare (es ++ r.1, r.2) :=
  ⟨List.forall_mem_append.mpr ⟨he, h.events⟩, h.next⟩

variable {s : Session} {x : Setting}

theorem Bare.here (h : s.Bare) : ∀ y ∈ s.here, y.Bare := h.guide.suggestionsOf s.step

theorem Bare.listed (h : s.Bare) : s.listed.Bare := h.here

theorem Bare.titled (h : s.Bare) (n : Nat) : ∀ e ∈ s.titled n, e.Bare := by
  rw [Session.titled]
  split
  · simp
  · next y hy => exact List.forall_mem_singleton.mpr (h.guide.step? hy)

theorem Bare.flow (h : s.Bare) (n : Nat) : (s.flow n).Bare := h.guide.steps

theorem bare_stay {es : List Said} (he : ∀ e ∈ es, e.Bare) (h : s.Bare) :
    Turn.Bare (es, .inl s) :=
  ⟨he, fun hs => Sum.inl.inj hs ▸ h⟩

theorem bare_end {es : List Said} (he : ∀ e ∈ es, e.Bare) (e : Session × Ending) :
    Turn.Bare (es, .inr e) := ⟨he, nofun⟩

theorem Bare.enter (h : s.Bare) (n : Nat) : Turn.Bare ((s.enter n).1, .inl (s.enter n).2) := by
  refine bare_stay (List.forall_mem_append.mpr ⟨h.titled n, ?_⟩) ⟨h.guide, h.desk, trivial⟩
  exact List.forall_mem_cons.mpr ⟨trivial, List.forall_mem_singleton.mpr (h.flow n)⟩

theorem bare_openLine {g : Guide} (h : g.Bare) (n : Nat) : ∀ e ∈ openLine g n, e.Bare := by
  rw [openLine]
  split
  · simp
  · next y hy =>
    have hline : Text.Bare ("  ".toList ++ Text.ofNat n ++ ". ".toList ++ y.title) :=
      ((Text.Bare.append (by decide) (Text.bare_ofNat n)).append (by decide)).append
        (h.step? hy).1
    exact List.forall_mem_singleton.mpr hline

theorem Bare.finish (h : s.Bare) : s.finish.Bare := by
  have hdone : Event.Bare (.say (.notice "All steps done.".toList)) := Text.bare_ofList (by decide)
  rw [Session.finish]
  split
  · exact bare_end (List.forall_mem_singleton.mpr hdone) _
  · have hnotice : Event.Bare (.say (.notice "Steps not done yet:".toList)) :=
      Text.bare_ofList (by decide)
    refine bare_stay (List.forall_mem_cons.mpr ⟨hnotice, fun e he => ?_⟩) ⟨h.guide, h.desk, trivial⟩
    obtain ⟨es, hes, he⟩ := List.mem_flatten.mp he
    obtain ⟨n, -, rfl⟩ := List.mem_map.mp hes
    exact bare_openLine h.guide n e he

theorem Bare.leave (h : s.Bare) : s.leave.Bare := by
  rw [Session.leave]
  split
  · exact h.enter s.step
  · split
    · exact h.enter (s.step + 1)
    · exact h.finish

theorem Bare.follow (h : s.Bare) {w : Way} (hw : w.Bare) : (s.follow w).Bare := by
  cases w with
  | stay => exact bare_stay (by simp) ⟨h.guide, h.desk, trivial⟩
  | enter n => exact h.enter n
  | leave => exact h.leave
  | finish => exact h.finish
  | quit => exact bare_end (by simp) _
  | ask file => exact bare_stay (by simp) ⟨h.guide, h.desk, hw⟩

theorem bare_report {t : Trouble} (h : t.Bare) : (report t).Bare := by
  cases t with
  | mistake m => exact h
  | fault f => exact Text.Bare.intercalate (by decide) (List.forall_mem_cons.mpr h)

theorem Bare.work (h : s.Bare) {w : Work Way} (hw : Work.Bare Way.Bare w) : (s.work w).Bare := by
  have hd := hw s.desk h.desk
  rw [Session.work]
  split
  · next t ht =>
    refine bare_stay (List.forall_mem_append.mpr ⟨hd.events, ?_⟩) ⟨h.guide, hd.desk, trivial⟩
    exact List.forall_mem_singleton.mpr (bare_report (hd.error ht))
  · next way hway =>
    have hs : Bare { s with desk := (w s.desk).desk } := ⟨h.guide, hd.desk, h.place⟩
    exact (hs.follow (hd.ok hway)).append hd.events

theorem bare_staying {w : Work Unit} (h : Work.Bare (fun _ => True) w) :
    Work.Bare Way.Bare (staying w) :=
  Work.bare_bind h fun _ _ => Work.bare_done trivial

theorem Bare.fail (h : s.Bare) {m : Mistake} (hm : m.message.Bare) : (s.fail m).Bare :=
  h.work (Work.bare_breakOff hm)

theorem bare_notice {t : String} (h : Text.Bare t.toList) :
    Work.Bare (fun _ => True) (Work.notice t) := Work.bare_say h

section Runner

variable (hr : x.runner.Bare)

include hr

theorem bare_pick (number : Nat) {step : Step} {y : Suggestion} (hs : step.Bare) (hy : y.Bare) :
    Work.Bare (fun _ => True) (pick x number step y) := by
  rw [pick]
  cases y.kind with
  | cmd =>
    refine Work.bare_bind (Work.bare_editText hr (by decide) (Buffer.bare_ofCommand number hs hy))
      fun o ho => ?_
    split
    · exact bare_notice (Text.bare_ofList (by decide))
    · next t =>
      dsimp only
      split
      · exact bare_notice (Text.bare_ofList (by decide))
      · exact Work.bare_execute hr x.now number (Buffer.bare_stripComments (ho t rfl))
  | snippet =>
    refine Work.bare_bind (Work.bare_editText hr (by decide) (Buffer.bare_ofSnippet number hs hy))
      fun o ho => ?_
    split
    · exact bare_notice (Text.bare_ofList (by decide))
    · next t =>
      split
      · exact Work.bare_breakOff (Text.bare_ofList (by decide))
      · next c hc =>
        have hbytes := Utf8.bare_encode (Buffer.bare_snippet? (ho t rfl) hc)
        refine Work.bare_bind (Work.bare_onStash fun _ _ ht => ?_) fun _ _ =>
          bare_notice (Text.bare_ofList (by decide))
        exact Stash.bare_inParent ht fun _ _ hv hw => hv.write hw hbytes

theorem bare_editFile {file : Text} (hf : file.Bare) :
    Work.Bare (fun _ => True) (editFile x file) :=
  Work.bare_bind (Work.bare_edit hr hf) fun _ _ => Work.bare_done trivial

theorem bare_stashWork {c : StashCommand} (hc : c.Bare) : Work.Bare Way.Bare (stashWork x c) := by
  cases c with
  | view => exact bare_staying Work.bare_viewStash
  | edit => exact bare_staying (Work.bare_touchStash hr)
  | clear => exact bare_staying Work.bare_clearStash
  | paste file mode => exact bare_staying (Work.bare_paste hc mode)
  | place file =>
    refine Work.bare_bind Work.bare_readStash fun t _ => ?_
    split
    · exact bare_staying (bare_editFile hr hc)
    · exact Work.bare_done hc

theorem bare_placeWork {file : Text} (hf : file.Bare) (answer : Text) :
    Work.Bare Way.Bare (placeWork x file answer) := by
  have hrest : Work.Bare Way.Bare (staying (editFile x file)) :=
    bare_staying (bare_editFile hr hf)
  rw [placeWork]
  dsimp only
  split
  · exact Work.bare_bind (Work.bare_paste hf .append) fun _ _ => hrest
  · split
    · exact Work.bare_bind (Work.bare_paste hf .overwrite) fun _ _ => hrest
    · exact hrest

end Runner

theorem bare_noSuch {noun place : String} (hn : Text.Bare noun.toList)
    (hp : Text.Bare place.toList) (n max : Nat) : (Mistake.noSuch noun n max place).Bare := by
  have hrange : (Mistake.validRange max).Bare := by
    rw [Mistake.validRange]
    split
    · decide
    · split
      · decide
      · exact Text.Bare.append (by decide) (Text.bare_ofNat max)
  have hstart : Text.Bare "No ".toList := by decide
  exact (((((hstart.append hn).append ((Text.bare_ofNat n).cons (by decide))).append hp).append
    (by decide)).append hrange).append (by decide)

theorem Bare.noSuggestion (h : s.Bare) (n : Nat) : (s.fail (.noSuggestion n s.here.length)).Bare :=
  h.fail (bare_noSuch (by decide) (by decide) n _)

theorem Bare.noStep (h : s.Bare) (n : Nat) : (s.fail (.noStep n s.guide.stepCount)).Bare :=
  h.fail (bare_noSuch (by decide) (by decide) n _)

theorem Bare.obey (h : s.Bare) (hr : x.runner.Bare) {c : Command} (hc : c.Bare) :
    (s.obey x c).Bare := by
  have hpage (n : Nat) : (s.turnPage x n).Bare :=
    bare_stay (List.forall_mem_singleton.mpr h.here) ⟨h.guide, h.desk, h.place⟩
  cases c with
  | nothing => exact h.follow (w := .stay) trivial
  | home =>
    refine bare_stay (List.forall_mem_append.mpr ⟨h.titled s.step, ?_⟩) ⟨h.guide, h.desk, h.place⟩
    exact List.forall_mem_singleton.mpr h.here
  | suggestions => exact bare_stay (List.forall_mem_singleton.mpr h.listed) h
  | flow => exact bare_stay (List.forall_mem_singleton.mpr (h.flow s.step)) h
  | help => exact bare_stay (List.forall_mem_singleton.mpr trivial) h
  | pick n =>
    simp only [Session.obey]
    split
    · next step i hstep =>
      split
      · next y hy =>
        exact h.work (bare_staying (bare_pick hr s.step (h.guide.step? hstep)
          (h.here y (List.mem_of_getElem? hy))))
      · exact h.noSuggestion _
    · exact h.noSuggestion _
  | nextStep =>
    have hs : Bare { s with guide := s.guide.markDone s.step } :=
      ⟨h.guide.markDone s.step, h.desk, h.place⟩
    simp only [Session.obey]
    split
    · exact hs.finish
    · exact hs.follow (w := .enter _) trivial
  | goto n =>
    rw [Session.obey]
    split
    · exact h.noStep n
    · exact h.follow (w := .enter n) trivial
  | nextPage => exact hpage _
  | prevPage => exact hpage _
  | page n => exact hpage n
  | finish => exact h.finish
  | quit => exact h.follow (w := .quit) trivial
  | leave => exact h.leave
  | stash c => exact h.work (bare_stashWork hr hc)
  | shell t => exact h.work (bare_staying (Work.bare_execute hr x.now s.step hc))

theorem Bare.jumpTo (h : s.Bare) {t : Text} (ht : t.Bare) : (s.jumpTo t).Bare := by
  rw [Session.jumpTo]
  split
  · exact h.follow (w := .stay) trivial
  · split
    · exact h.fail ((ht.trim.append (by decide)).cons (by decide))
    · next n hn =>
      split
      · exact h.follow (w := .enter n) trivial
      · exact h.noStep n

theorem Bare.hearLine (h : s.Bare) (hx : x.Bare) {t : Text} (ht : t.Bare) :
    (s.hearLine x t).Bare := by
  rw [Session.hearLine]
  split
  · refine bare_stay (List.forall_mem_cons.mpr ⟨h.listed, ?_⟩) ⟨h.guide, h.desk, trivial⟩
    exact List.forall_mem_singleton.mpr trivial
  · have hremember : ∀ e ∈ ([.remember t] : List Said), e.Bare :=
      List.forall_mem_singleton.mpr ht
    have hc := Command.bare_ofInput hx.home ht
    split
    · next m hm =>
      rw [hm] at hc
      exact (h.fail hc).append hremember
    · next c hm =>
      rw [hm] at hc
      exact (h.obey hx.runner hc).append hremember
  · split
    · exact bare_end (by simp) _
    · exact bare_stay (by simp) ⟨h.guide, h.desk, trivial⟩
  · exact h.jumpTo ht
  · next file hfile =>
    have hplace := h.place
    rw [hfile] at hplace
    exact h.work (bare_placeWork hx.runner hplace t)

/-- Whatever is heard, if no escape character is in it, none comes in. -/
theorem Bare.hear (h : s.Bare) (hx : x.Bare) {heard : Heard} (hl : ∀ l, heard = .line l → l.Bare) :
    (Session.hear x heard s).Bare := by
  rw [Session.hear.eq_def]
  split
  · exact h.hearLine hx (hl _ rfl)
  · exact bare_end (by simp) _
  · exact h.work (Work.bare_breakOff (Fault.bare_ofIo _))
  · exact bare_end (by simp) _

theorem Bare.prompt (h : s.Bare) : s.prompt.Bare := by
  have htotal := Text.bare_ofNat s.guide.stepCount
  rw [Session.prompt]
  split
  · exact Text.bare_ofList (by decide)
  · exact (((Text.bare_ofNat s.step).cons (by decide)).append (htotal.cons (by decide))).append
      (by decide)
  · exact Text.bare_ofList (by decide)
  · exact (Text.Bare.append (by decide) htotal).append (by decide)
  · next file hfile =>
    have hplace := h.place
    rw [hfile] at hplace
    have hstart : Text.Bare "Put the snippet into ".toList := Text.bare_ofList (by decide)
    exact (hstart.append hplace).append (Text.bare_ofList (by decide))

end Session

end Guidebook
