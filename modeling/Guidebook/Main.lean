import Guidebook.Invocation

/-!
The program on a real system. It takes in the files it may work with, is run on them, and brings
what it changed back to the disk.
-/

namespace Guidebook.Main

/-- The variables that matter to the program and to what it starts. -/
def names : List String :=
  ["HOME", "PATH", "TERM", "TMPDIR", "NO_COLOR", "VISUAL", "EDITOR", "XDG_CONFIG_HOME",
   "XDG_STATE_HOME", "XDG_DATA_HOME", "WALKBOOK_SHELL", "WALKBOOK_TMPDIR", "WALKBOOK_STATE_DIR",
   "WALKBOOK_PAGE_SIZE", "WALKBOOK_HISTORY_SIZE"]

def environment : IO (List (Text × Text)) := do
  let values ← names.mapM fun n => return (← IO.getEnv n).map fun v => (n.toList, v.toList)
  return values.filterMap id

/-- How deep below a directory files are looked for. -/
def depth : Nat := 32

/-- A file, or a directory with all that is below it. -/
def gather : Nat → Address → IO.FS.DirEntry → IO (List (Address × Node))
  | 0, _, _ => return []
  | n + 1, a, e => do
    if ← e.path.isDir then
      let below ← (← e.path.readDir).toList.mapM fun f => gather n (a ++ [f.fileName.toList]) f
      return (a, .dir) :: below.flatten
    else return [(a, .file false (← IO.FS.readBinFile e.path).toList)]

/-- What is at an absolute path, and the directories that lead there. -/
def gatherAt (p : Text) : IO (List (Address × Node)) := do
  let a := Path.names p
  let e : IO.FS.DirEntry := ⟨"/", String.ofList (['/'].intercalate a)⟩
  if ← e.path.pathExists then
    let parents := (List.range a.length).map fun k => (a.take k, Node.dir)
    return parents ++ (← gather depth a e)
  else return []

/-- The directories that the program may work in besides the present one. -/
def outside (e : Env) : List Text :=
  ([Settings.userDir e "XDG_CONFIG_HOME" ".config", Settings.userDir e "XDG_STATE_HOME" ".local/state",
    Settings.userDir e "XDG_DATA_HOME" ".local/share"].filterMap id).map (Path.join · Settings.name)

def files (e : Env) : IO FileTree := do
  let here := (← IO.currentDir).toString.toList
  let found ← (here :: outside e).mapM gatherAt
  let temp := Path.names (Settings.tempDir e)
  let dirs := (List.range (temp.length + 1)).map fun k => (temp.take k, Node.dir)
  return { nodes := (dirs ++ found.flatten).filter (·.1 ≠ []), here := Path.names here }

def filePath (a : Address) : String := String.ofList ('/' :: ['/'].intercalate a)

def everybody : IO.FileRight := ⟨⟨true, true, true⟩, ⟨true, false, true⟩, ⟨true, false, true⟩⟩

/-- Makes what is at an address of the disk what it is in the tree. -/
def bring (a : Address) : Node → IO Unit
  | .dir => IO.FS.createDirAll (filePath a)
  | .file executable c => do
    IO.FS.writeBinFile (filePath a) ⟨c.toArray⟩
    if executable then IO.setAccessRights (filePath a) everybody

def take (a : Address) : Node → IO Unit
  | .dir => IO.FS.removeDirAll (filePath a)
  | .file .. => IO.FS.removeFile (filePath a)

/-- Brings to the disk what differs between two trees, parents first. -/
def update (old new : FileTree) : IO Unit := do
  let gone := old.nodes.filter fun (a, _) => (new.node? a).isNone
  for (a, n) in gone.filter fun (a, _) => !gone.any fun b => b.1 == a.dropLast do take a n
  let changed := new.nodes.filter fun (a, n) => old.node? a ≠ some n
  for (a, n) in changed.mergeSort fun x y => x.1.length ≤ y.1.length do bring a n

/-- The present second, which is when a new file is made. -/
def now : IO Int := do
  let (_, path) ← IO.FS.createTempFile
  let seconds := (← path.metadata).modified.sec
  IO.FS.removeFile path
  return seconds

/-- The rows of a terminal that does not tell how many it has. -/
def usualRows : Nat := 24

/-- The whole input, for a program that listens to it. A line that is typed ends with the enter
key. -/
def console (listens : Bool) : IO Console := do
  let input ← IO.getStdin
  if !listens then return .pipe []
  else if ← input.isTty then
    let rows := ((← IO.getEnv "LINES").bind fun t => Text.natural? t.toList).getD usualRows
    let key := fun c => if c = '\n' then Key.plain .enter else Key.ofChar c
    return .terminal rows ((← input.readToEnd).toList.map key)
  else return .pipe (← input.readBinToEnd).toList

end Guidebook.Main

open Guidebook in
def main (args : List String) : IO UInt32 := do
  let env ← Main.environment
  let tree ← Main.files fun n => env.lookup n
  let program := (← IO.FS.readBinFile (← IO.appPath)).toList
  let args := args.map String.toList
  let console ← Main.console (Invocation.listens program args)
  let c := Invocation.run ⟨program, args, env, console, tree, ← Main.now⟩
  (← IO.getStdout).write ⟨c.output.toArray⟩
  if !c.report.isEmpty then (← IO.getStderr).putStrLn (String.ofList c.report)
  Main.update tree c.tree
  return c.code.toUInt32
