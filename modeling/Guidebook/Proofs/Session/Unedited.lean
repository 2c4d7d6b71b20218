import Guidebook.Proofs.Buffer.Header
import Guidebook.Proofs.Checked
import Guidebook.Proofs.Guide.Authored
import Guidebook.Proofs.Session.Commands
import Guidebook.Proofs.Session.Course
import Guidebook.Proofs.Work.Scratch

namespace Guidebook

/-- The lines of a text that do not begin with a number sign, blanks apart. -/
def Buffer.uncommented (t : Text) : List Text :=
  (Text.lines t).filter fun l => (Text.trimStart l).head? ≠ some '#'

theorem Buffer.stripComments_eq (t : Text) :
    stripComments t = Text.trim (Text.joinLines (uncommented t)) := by
  have hlines : uncommented t = (Text.lines t).filter fun l => !isComment l :=
    List.filter_congr fun l _ => by rw [Bool.eq_iff_iff]; simp [isComment]
  rw [stripComments, hlines]

/-- A file that is left as it was counts as saved. -/
theorem Work.saved_untouched {r : Runner} {suffix content path : Text} {d : Desk}
    (hs : Path.Single suffix) (h : (scratchFile suffix content d).result = .ok path)
    (hr : (editorReply r path (scratchFile suffix content d).desk).result = .ok 0)
    (ht : (editorReply r path (scratchFile suffix content d).desk).tree =
      (scratchFile suffix content d).desk.tree) : Saved r suffix content d content := by
  obtain ⟨a, hmade⟩ := scratched hs h
  have hread : (scratchFile suffix content d).desk.tree.read path = .ok (Utf8.encode content) := by
    rw [FileTree.read_iff_of_leads hmade.leads, hmade.bytes, Function.update_self]
  refine ⟨path, h, hr, ?_⟩
  rw [ht, FileTree.readText, hread]
  simp only [Utf8.decode_encode]

namespace Session

open Guide

variable {x : Setting} {g : Guide} {s : Session} {number k : Nat} {step : Step} {y : Suggestion}
  {d : Desk} {t : Text}

theorem exists_title_of_later {h : Guide} (hl : Later g h) {i : Nat} (hs : h.step? i = some step) :
    ∃ st, g.step? i = some st ∧ st.title = step.title := by
  have hplan := hl.plan_step? i
  rw [hs] at hplan
  obtain ⟨st, hst, hp⟩ := Option.map_eq_some_iff.mp hplan.symm
  exact ⟨st, hst, (congrArg Step.title hp :)⟩

theorem picked?_of_saved (hk : y.kind = .cmd)
    (ht : Work.Saved x.runner ".sh".toList (Buffer.ofCommand number step y) d t) :
    picked? x number step y d =
      if Buffer.stripComments t = [] then none else some (Buffer.stripComments t) := by
  rw [picked?, hk, (Work.editText_eq_some ..).mpr ht]
  simp only [List.isEmpty_iff]

theorem commands_of_pick {e : Round} (he : (dialogue x).Made e)
    (hc : e.before.command? x e.heard = some (.pick (k + 1)))
    (hs : e.before.guide.step? e.before.step = some step) (hy : e.before.here[k]? = some y) :
    commands e.events =
      (picked? x e.before.step step y (e.before.supplied e.behind).desk).toList := by
  have hcommand : (e.before.supplied e.behind).command? x e.heard = some (.pick (k + 1)) := hc
  have hstep : (e.before.supplied e.behind).guide.step? (e.before.supplied e.behind).step =
      some step := hs
  have hhere : (e.before.supplied e.behind).here[k]? = some y := hy
  rw [← events_made he, commands_hear, hcommand]
  simp only [Option.bind_some, ran?, hstep, hhere]
  rfl

/-- A command that is saved as it was when somebody began to edit it is what its body says, and
nothing that stands above the body gets into it. -/
theorem rounds_unedited (hg : g.Authored) :
    (∀ i step, g.step? i = some step → ∀ y,
      Buffer.stripComments (Buffer.ofCommand i step y) = Buffer.stripComments y.body ∧
      Buffer.stripComments y.body = Text.trim (Text.joinLines (Buffer.uncommented y.body))) ∧
    ∀ {ι : Type} (x : Setting) (src : Source ι) (i : ι) (desk : Desk) (first : Nat),
      ∀ e ∈ rounds x src i g desk first, ∀ k step y,
        e.before.command? x e.heard = some (.pick (k + 1)) →
        e.before.guide.step? e.before.step = some step → e.before.here[k]? = some y →
        y.kind = .cmd →
        Work.Saved x.runner ".sh".toList (Buffer.ofCommand e.before.step step y)
          (e.before.supplied e.behind).desk (Buffer.ofCommand e.before.step step y) →
        commands e.events = if Buffer.stripComments y.body = [] then []
          else [Buffer.stripComments y.body] := by
  refine ⟨fun i step hs y => ⟨?_, Buffer.stripComments_eq y.body⟩,
    fun x src i desk first e he k step y hc hs hy hk ht => ?_⟩
  · exact Buffer.stripComments_ofCommand (hg.newline_notMem_title hs)
  · have hcourse := course_conduct x src i g desk first
    obtain ⟨rs, hrs, -⟩ := hg.exists_records
    have hplaced := placed_course (stepCount_pos_of_ofRecords hrs) hcourse e he
    obtain ⟨st, hst, htitle⟩ := exists_title_of_later hplaced.guide hs
    have hstrip : Buffer.stripComments (Buffer.ofCommand e.before.step step y) =
        Buffer.stripComments y.body :=
      Buffer.stripComments_ofCommand (htitle ▸ hg.newline_notMem_title hst)
    rw [commands_of_pick (hcourse.made e he) hc hs hy, picked?_of_saved hk ht, hstrip]
    split <;> rfl

def described : Text :=
  "step: A\ndesc: |\n  rm x\r\n\n    # y\nsuggestions:\n  - note: rm z\n    cmd: |\n      ls\n       # all\n".toList

def describedStep : Step := ⟨"A".toList, some " rm x\n\n   # y".toList, .todo, 0, 1⟩

def describedCommand : Suggestion := ⟨.cmd, some "rm z".toList, " ls\n  # all".toList⟩

def describedGuide : Guide := ⟨[describedStep], [describedCommand]⟩

theorem rounds_unedited_described :
    Document.compile described = .ok describedGuide ∧
    ∃ e ∈ rounds ⟨⟨false, Pager.ofSize 14⟩, .ofScripts [] [], none, 0⟩ Plain.source
        (Plain.chunks (Utf8.encode "\n1\n".toList)) describedGuide
        (Desk.openAt "/state".toList "/tmp".toList 100 ⟨[], [], []⟩) 0,
      e.heard = .line ['1'] ∧ commands e.events = ["ls".toList] := by
  have hcompile : Document.compile described = .ok describedGuide := by decide +kernel
  obtain ⟨-, hrounds⟩ := rounds_unedited (.compiled hcompile)
  let x : Setting := ⟨⟨false, Pager.ofSize 14⟩, .ofScripts [] [], none, 0⟩
  let desk := Desk.openAt "/state".toList "/tmp".toList 100 ⟨[], [], []⟩
  let i := Plain.chunks (Utf8.encode "\n1\n".toList)
  have hround : ∃ e ∈ rounds x Plain.source i describedGuide desk 0,
      e = (dialogue x).exchange Plain.source i.tail ⟨describedGuide, 1, 1, .command, desk⟩ := by
    rw [rounds, Dialogue.exchanges_more _ (t := ⟨describedGuide, 1, 1, .command, desk⟩) rfl]
    exact ⟨_, .tail _ (Dialogue.exchange_mem _ _ _), rfl⟩
  obtain ⟨e, he, hexchange⟩ := hround
  have hcommands := hrounds x Plain.source i desk 0 e he 0
  subst hexchange
  let t := Buffer.ofCommand 1 describedStep describedCommand
  have hpath : (Work.scratchFile ".sh".toList t { desk with input := [] }).result =
      .ok "/tmp/walkbook-0.sh".toList := by decide +kernel
  have hsaved := Work.saved_untouched (r := x.runner) (by decide) hpath rfl rfl
  refine ⟨hcompile, _, he, rfl, ?_⟩
  rw [hcommands _ _ rfl rfl rfl rfl hsaved]
  decide

end Session

end Guidebook
