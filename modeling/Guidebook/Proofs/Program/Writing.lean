import Guidebook.Proofs.FileTree.Ways
import Guidebook.Proofs.Program.Embedding

namespace Guidebook

namespace Program

open FileTree

/-- A step of writing a program. -/
inductive Step where
  | folder (above : Nat)
  | temp
  | content (written : Nat)
  | rights
  | name
  deriving DecidableEq, Repr

/-- The step that the system refuses for a reason of its own, such as a full disk, if there is one:
the first refusal ends the writing. By then the parents of the folder may have been made from some
parent on, and some of the content may have been written, or even all of it. -/
abbrev Refusal := Option (Step × IoFault)

namespace Refusal

variable (r : Refusal)

/-- A change of the files is done as a whole or not at all. -/
def whole (t : FileTree) : Except IoFault FileTree → FileTree × Except IoFault Unit
  | .ok u => (u, .ok ())
  | .error e => (t, .error e)

def folder (dir : Text) (t : FileTree) : FileTree × Except IoFault Unit :=
  match r with
  | some (.folder above, e) => ((t.makeDirs ((Path.upwards dir).drop above)).1, .error e)
  | _ => t.makePath dir

/-- The temporary file is empty at first and cannot be executed. -/
def temp (dir : Text) (t : FileTree) : Except IoFault (FileTree × Text) :=
  match r with
  | some (.temp, e) => .error e
  | _ => t.makeTemp dir tempName [] false []

def content (temp : Text) (c : Bytes) (t : FileTree) : FileTree × Except IoFault Unit :=
  match r with
  | some (.content written, e) => ((t.write temp (c.take written)).toOption.getD t, .error e)
  | _ => whole t (t.write temp c)

def rights (temp : Text) (t : FileTree) : FileTree × Except IoFault Unit :=
  match r with
  | some (.rights, e) => (t, .error e)
  | _ => whole t (t.permit temp)

def name (temp output : Text) (t : FileTree) : FileTree × Except IoFault Unit :=
  match r with
  | some (.name, e) => (t, .error e)
  | _ => whole t (t.rename temp output)

/-- What is done with the temporary file until it gets its name. -/
def finish (temp output : Text) (c : Bytes) (t : FileTree) : FileTree × Except Fault Unit :=
  match r.content temp c t with
  | (t, .error e) => (t, .error (.ofIo e))
  | (t, .ok ()) =>
    match r.rights temp t with
    | (t, .error e) => (t, .error (.ofIo e))
    | (t, .ok ()) =>
      match r.name temp output t with
      | (t, .ok ()) => (t, .ok ())
      | (t, .error e) =>
        (t, .error (((Fault.ofIo e).within
          ("failed to persist temporary file: ".toList ++ e.message)).within
          ("Failed to write ".toList ++ output)))

/-- `write` step by step, where the system may refuse one of the steps. A temporary file that has
not got its name is taken away. -/
def write (program : Bytes) (p : Payload) (output : Text) (t : FileTree) :
    FileTree × Except Fault Unit :=
  let dir := folderOf output
  match r.folder dir t with
  | (t, .error e) => (t, .error ((Fault.ofIo e).within ("Failed to create ".toList ++ dir)))
  | (t, .ok ()) =>
    match r.temp dir t with
    | .error e =>
      (t, .error ((Fault.ofIo e).within ("Failed to create a temporary file in ".toList ++ dir)))
    | .ok (t, temp) =>
      match r.finish temp output (embed program p) t with
      | (t, .ok ()) => (t, .ok ())
      | (t, .error f) => ((t.removeFile temp).toOption.getD t, .error f)

section Steps

variable {t u v : FileTree} {a : Address} {temp output : Text} {c d : Bytes} {x : Bool}

theorem folder_cases (dir : Text) (t : FileTree) :
    ∃ ps, ps ⊆ Path.upwards dir ∧ (r.folder dir t).1 = (t.makeDirs ps).1 := by
  unfold folder
  split
  · exact ⟨_, List.drop_subset .., rfl⟩
  · exact ⟨_, List.Subset.refl _, rfl⟩

theorem temp_eq_ok {dir : Text} (h : r.temp dir t = .ok (u, temp)) :
    ∃ a, u = t.put a (.file false []) ∧ t.Leads temp a ∧ t.node? a = none := by
  unfold Refusal.temp at h
  split at h
  · cases h
  rw [makeTemp_eq] at h
  cases hs : t.tempSpot dir tempName [] with
  | error e =>
    rw [hs] at h
    cases h
  | ok s =>
    rw [hs] at h
    cases h
    obtain ⟨-, -, -, hspot⟩ := tempSpot_eq_ok (by decide) (by decide) (by decide) hs
    exact ⟨s.1, rfl, hspot⟩

theorem name_cases (temp output : Text) (t : FileTree) :
    (∃ u, t.rename temp output = .ok u ∧ r.name temp output t = (u, .ok ())) ∨
      ∃ e, r.name temp output t = (t, .error e) := by
  unfold name
  split
  · exact .inr ⟨_, rfl⟩
  · cases h : t.rename temp output with
    | ok u => exact .inl ⟨u, rfl, rfl⟩
    | error e => exact .inr ⟨e, rfl⟩

variable (hl : t.Leads temp a) (hn : t.node? a ≠ some .dir)

include hl hn

theorem content_cases (c : Bytes) :
    r.content temp c (t.put a (.file x d)) = (t.put a (.file x c), .ok ()) ∨
      ∃ c' e, r.content temp c (t.put a (.file x d)) = (t.put a (.file x c'), .error e) := by
  unfold content
  split
  · exact .inr ⟨_, _, by rw [write_put_file hl hn]; rfl⟩
  · exact .inl (by rw [write_put_file hl hn]; rfl)

theorem rights_cases :
    r.rights temp (t.put a (.file x c)) = (t.put a (.file true c), .ok ()) ∨
      ∃ e, r.rights temp (t.put a (.file x c)) = (t.put a (.file x c), .error e) := by
  unfold rights
  split
  · exact .inr ⟨_, rfl⟩
  · exact .inl (by rw [permit_put_file hl hn]; rfl)

/-- The temporary file gets its name with all of its content and the right to be executed, or else
it is still there, in whatever state. -/
theorem finish_cases (output : Text) (c : Bytes) :
    (∃ u, (t.put a (.file true c)).rename temp output = .ok u ∧
      r.finish temp output c (t.put a (.file false [])) = (u, .ok ())) ∨
    ∃ x d f,
      r.finish temp output c (t.put a (.file false [])) = (t.put a (.file x d), .error f) := by
  rw [finish]
  rcases r.content_cases (d := []) (x := false) hl hn c with hc | ⟨d, e, hc⟩
  · rw [hc]
    dsimp only
    rcases r.rights_cases (c := c) (x := false) hl hn with hr | ⟨e, hr⟩
    · rw [hr]
      dsimp only
      rcases r.name_cases temp output (t.put a (.file true c)) with ⟨u, hu, hname⟩ | ⟨e, hname⟩
      · exact .inl ⟨u, hu, by rw [hname]⟩
      · exact .inr ⟨true, c, _, by rw [hname]⟩
    · exact .inr ⟨false, c, _, by rw [hr]⟩
  · exact .inr ⟨false, d, _, by rw [hc]⟩

end Steps

end Refusal

section Folder

variable {t u : FileTree} {output : Text} {a : Address}

/-- The folder of a program and its parents are above it, unless they are the directory that
relative paths start from. -/
theorem above_folder {q : Text} (h : q ∈ Path.upwards (folderOf output)) :
    Path.Above q output ∨ q = ['.'] ∨ q = [] := by
  rw [folderOf] at h
  cases hp : (Path.parent? output).filter (!·.isEmpty) with
  | none =>
    have hup : Path.upwards ['.'] = [['.'], []] := by decide
    rw [hp, Option.getD_none, hup, List.mem_pair] at h
    exact .inr h
  | some f =>
    rw [hp, Option.getD_some] at h
    have hf := Path.above_parent (Option.filter_eq_some_iff.mp hp).1
    rcases Path.mem_upwards h with rfl | hq
    · exact .inl hf
    · exact .inl (hf.trans hq)

theorem reaches_here {q : Text} (hq : q = ['.'] ∨ q = []) (h : t.Reaches q a) : a = t.here := by
  rcases hq with rfl | rfl
  · exact (Except.ok.inj h).symm
  · exact (Except.ok.inj h).symm

/-- To make the folder of a program, or a part of it, is to make directories that the path of the
program leads through. -/
theorem paves_makeDirs (hs : t.Sound) {ps : List Text} (hps : ps ⊆ Path.upwards (folderOf output)) :
    (t.makeDirs ps).1.Sound ∧ Paves (fun _ => False) output t (t.makeDirs ps).1 := by
  obtain ⟨hsound, hlays⟩ := makeDirs_sound hs ps
  have hk := keeps_makeDirs (P := fun _ => False) t ps
  refine ⟨hsound, hk, fun a n _ hn hnone => ?_⟩
  obtain ⟨rfl, q, hq, hr⟩ := hlays a n hn hnone
  refine ⟨rfl, ?_⟩
  rcases above_folder (hps hq) with hq | hq
  · exact hr.through hq
  · have hhere := hs.here _ List.prefix_rfl
    rw [← hk.here, ← reaches_here hq hr, hnone] at hhere
    cases hhere

end Folder

section Whole

variable {t u : FileTree} {program : Bytes} {p : Payload} {output temp : Text} {a : Address}

/-- However far the writing gets, only directories above the program are new if it fails, and only
the program besides if it does not. -/
theorem Refusal.write_cases (r : Refusal) (program : Bytes) (p : Payload) (output : Text)
    (hs : t.Sound) :
    (∃ u b, r.write program p output t = (u, .ok ()) ∧ u.Sound ∧
      u.find output = .ok (b, .file true (embed program p)) ∧ t.node? b ≠ some .dir ∧
      Paves (· = b) output t u) ∨
    ∃ u f, r.write program p output t = (u, .error f) ∧ u.Sound ∧
      Paves (fun _ => False) output t u := by
  obtain ⟨ps, hps, hfst⟩ := r.folder_cases (folderOf output) t
  obtain ⟨hv, hpaves⟩ := paves_makeDirs hs hps
  rw [← hfst] at hv hpaves
  rw [Refusal.write]
  rcases hfolder : r.folder (folderOf output) t with ⟨v, e | ⟨⟨⟩⟩⟩ <;> rw [hfolder] at hv hpaves
  · exact .inr ⟨v, _, rfl, hv, hpaves⟩
  dsimp only
  cases htemp : r.temp (folderOf output) v with
  | error e => exact .inr ⟨v, _, rfl, hv, hpaves⟩
  | ok s =>
    obtain ⟨w, temp⟩ := s
    obtain ⟨a, rfl, hl, hn⟩ := Refusal.temp_eq_ok r htemp
    dsimp only
    rcases r.finish_cases hl (by simp [hn]) output (embed program p) with
      ⟨u, hu, hfinish⟩ | ⟨x, d, f, hfinish⟩
    · obtain ⟨b, hhere, hb, hd, hu, hnode⟩ := rename_put_file hv hl hn hu
      obtain ⟨hbt, hplace⟩ := hpaves.place hhere hd hnode
      refine .inl ⟨u, b, by rw [hfinish], hu, ?_, hbt, hplace⟩
      rw [find_of_leads hb, hnode, if_pos rfl]
    · obtain ⟨u, hremove, hhere, hnode⟩ := removeFile_put_file (x := x) (c := d) hl hn
      refine .inr ⟨u, f, ?_, hv.same hhere hnode, hpaves.same hhere hnode⟩
      rw [hfinish]
      dsimp only
      rw [hremove]
      rfl

theorem Refusal.finish_none (hl : t.Leads temp a) (hn : t.node? a ≠ some .dir) (c : Bytes) :
    Refusal.finish none temp output c (t.put a (.file false [])) =
      match (t.put a (.file true c)).rename temp output with
      | .ok u => (u, .ok ())
      | .error e => (t.put a (.file true c), .error (((Fault.ofIo e).within
          ("failed to persist temporary file: ".toList ++ e.message)).within
          ("Failed to write ".toList ++ output))) := by
  simp only [Refusal.finish, Refusal.content, Refusal.rights, Refusal.name, write_put_file hl hn,
    permit_put_file hl hn, Refusal.whole]
  cases (t.put a (.file true c)).rename temp output <;> rfl

/-- Where nothing is refused, step by step comes to the same. -/
theorem Refusal.write_none (program : Bytes) (p : Payload) (output : Text) (t : FileTree) :
    Refusal.write none program p output t = Program.write program p output t := by
  simp only [Refusal.write, Program.write, Refusal.folder, Refusal.temp, makeTemp_eq]
  rcases t.makePath (folderOf output) with ⟨v, e | ⟨⟨⟩⟩⟩
  · rfl
  dsimp only
  cases hs : v.tempSpot (folderOf output) tempName [] with
  | error e => rfl
  | ok s =>
    obtain ⟨a, temp⟩ := s
    obtain ⟨-, -, -, hl, hn⟩ := tempSpot_eq_ok (by decide) (by decide) (by decide) hs
    simp only [Except.map, Refusal.finish_none hl (by simp [hn]), persist]
    cases (v.put a (.file true (embed program p))).rename temp output <;> rfl

/-- There can be a folder for a program and a new file in it, and then there is a place for a file
where the path leads. -/
structure Writable (output : Text) (t : FileTree) : Prop where
  folder : (t.makePath (folderOf output)).2 = .ok ()
  temp : ∃ s, (t.makePath (folderOf output)).1.tempSpot (folderOf output) tempName [] = .ok s
  place : ∃ b, (t.makePath (folderOf output)).1.fileSpot output = .ok b

theorem rename_put_file_isOk (hl : t.Leads temp a) (hn : t.node? a ≠ some .dir) (output : Text)
    (x : Bool) (c : Bytes) :
    (∃ u, (t.put a (.file x c)).rename temp output = .ok u) ↔ ∃ b, t.fileSpot output = .ok b := by
  constructor
  · rintro ⟨u, hu⟩
    obtain ⟨b, hb, hd, -⟩ := (rename_file (leads_put_file hl hn) (node?_put_self hl.ne_nil)).mp hu
    exact ⟨b, (fileSpot_put_file hl.ne_nil hn).mp (fileSpot_eq_ok.mpr ⟨hb, hd⟩)⟩
  · rintro ⟨b, hb⟩
    obtain ⟨hb, hd⟩ := fileSpot_eq_ok.mp ((fileSpot_put_file hl.ne_nil hn).mpr hb)
    exact ⟨_, (rename_file (leads_put_file hl hn) (node?_put_self hl.ne_nil)).mpr ⟨b, hb, hd, rfl⟩⟩

theorem write_ok_iff : (write program p output t).2 = .ok () ↔ Writable output t := by
  have hsplit : Writable output t ↔ (t.makePath (folderOf output)).2 = .ok () ∧
      (∃ s, (t.makePath (folderOf output)).1.tempSpot (folderOf output) tempName [] = .ok s) ∧
      ∃ b, (t.makePath (folderOf output)).1.fileSpot output = .ok b :=
    ⟨fun ⟨h₁, h₂, h₃⟩ => ⟨h₁, h₂, h₃⟩, fun ⟨h₁, h₂, h₃⟩ => ⟨h₁, h₂, h₃⟩⟩
  rw [hsplit, write]
  rcases t.makePath (folderOf output) with ⟨v, e | ⟨⟨⟩⟩⟩
  · simp
  dsimp only
  rw [makeTemp_eq]
  cases hs : v.tempSpot (folderOf output) tempName [] with
  | error e => simp [Except.map]
  | ok s =>
    obtain ⟨a, temp⟩ := s
    obtain ⟨-, -, -, hl, hn⟩ := tempSpot_eq_ok (by decide) (by decide) (by decide) hs
    have hplace := rename_put_file_isOk hl (by simp [hn]) output true (embed program p)
    simp only [Except.map, persist, ← hplace]
    cases (v.put a (.file true (embed program p))).rename temp output <;> simp

/-- A tree with a program, and something else beside it. -/
def installed : FileTree :=
  ⟨[(["bin".toList], .dir), (["bin".toList, "deploy".toList], .file false mark),
    (["notes".toList], .file false mark)], [], []⟩

end Whole

end Program

end Guidebook
