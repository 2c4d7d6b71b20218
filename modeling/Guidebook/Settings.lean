import Guidebook.FileTree.Basic
import Guidebook.Toml.Reader

namespace Guidebook

/-- What can be set. -/
structure Settings where
  maxHistory : Nat
  shell : Option Text
  editor : Option Text
  pageSize : Option Nat
  color : Bool
  scratchDir : Option Text
  stateDir : Option Text
  deriving DecidableEq, Repr

/-- The variables of the environment. -/
abbrev Env := Text → Option Text

namespace Env

/-- A variable that is more than blanks. -/
def filled (e : Env) (name : String) : Option Text := (e name.toList).filter fun v => !Text.allBlank v

/-- A variable that holds an absolute path. -/
def absolute (e : Env) (name : String) : Option Text := (e name.toList).filter Path.isAbsolute

def home (e : Env) : Option Text := (e "HOME".toList).filter (!·.isEmpty)

end Env

namespace Settings

def defaults : Settings := ⟨500, none, none, none, true, none, none⟩

/-- The entries of a section: its members by name, or the items of an array by their position. A date
has entries, too, but none that is known. -/
def entry? (names : List Text) (v : Toml) : Option (Text → Option Toml) :=
  match v with
  | .table _ ms => some fun name => ms.lookup name
  | .arr vs => some fun name => (names.zip vs).lookup name
  | .tables all => some fun name => (names.zip (all.map (Toml.table .named))).lookup name
  | .date => some fun _ => none
  | _ => none

def text? : Toml → Option Text
  | .str t => some t
  | _ => none

def nat? : Toml → Option Nat
  | .int i => if 0 ≤ i then some i.toNat else none
  | _ => none

def bool? : Toml → Option Bool
  | .bool b => some b
  | _ => none

/-- The value of an entry, if there is one, has to be of the right sort. -/
def field (f : Toml → Option α) (d : α) : Option Toml → Option α
  | none => some d
  | some v => f v

def optional (f : Toml → Option α) : Option Toml → Option (Option α) := field (fun v => (f v).map some) none

def generalNames : List Text := ["max_history".toList, "shell".toList]

def editorNames : List Text := ["program".toList]

def uiNames : List Text := ["page_size".toList, "color".toList]

def pathNames : List Text := ["scratch_dir".toList, "state_dir".toList]

def section? (names : List Text) (ms : Toml.Members) (name : String) : Option (Text → Option Toml) :=
  match ms.lookup name.toList with
  | none => some fun _ => none
  | some v => entry? names v

/-- The settings that a document makes; what it does not mention has its default. -/
def ofMembers? (ms : Toml.Members) : Option Settings := do
  let general ← section? generalNames ms "general"
  let editor ← section? editorNames ms "editor"
  let ui ← section? uiNames ms "ui"
  let paths ← section? pathNames ms "paths"
  return ⟨← field nat? defaults.maxHistory (general "max_history".toList),
    ← optional text? (general "shell".toList), ← optional text? (editor "program".toList),
    ← optional nat? (ui "page_size".toList), ← field bool? defaults.color (ui "color".toList),
    ← optional text? (paths "scratch_dir".toList), ← optional text? (paths "state_dir".toList)⟩

/-- Why settings cannot be loaded. -/
inductive Failure where
  | unreadable (e : IoFault)
  | malformed
  deriving DecidableEq, Repr

def ofFile (t : FileTree) (p : Text) : Except Failure Settings :=
  match t.readText p with
  | .error e => .error (.unreadable e)
  | .ok s =>
    match (Toml.read s).bind ofMembers? with
    | none => .error .malformed
    | some c => .ok c

/-- A page size has to be positive. -/
def pageSizeOf (v : Text) : Option Nat := (Text.natural? (Text.trim v)).filter (0 < ·)

/-- Variables go before what is set, except for the editor. Values that make no sense are passed
over. -/
def overlay (c : Settings) (e : Env) : Settings where
  editor := c.editor <|> e.filled "VISUAL" <|> e.filled "EDITOR"
  shell := e.filled "WALKBOOK_SHELL" <|> c.shell
  scratchDir := e.filled "WALKBOOK_TMPDIR" <|> c.scratchDir
  stateDir := e.filled "WALKBOOK_STATE_DIR" <|> c.stateDir
  pageSize := ((e.filled "WALKBOOK_PAGE_SIZE").bind pageSizeOf) <|> c.pageSize
  maxHistory :=
    (((e.filled "WALKBOOK_HISTORY_SIZE").bind fun v => Text.natural? (Text.trim v))).getD c.maxHistory
  color := c.color && (e "NO_COLOR".toList).isNone

def name : Text := "walkbook".toList

def localFile : Text := ".walkbook.toml".toList

/-- A directory that a variable names, or else the usual one below the home directory. -/
def userDir (e : Env) (var usual : String) : Option Text :=
  e.absolute var <|> e.home.map fun h => Path.join h usual.toList

/-- The file with the settings of one user. -/
def userFile (e : Env) : Option Text :=
  (userDir e "XDG_CONFIG_HOME" ".config").map fun d =>
    Path.join (Path.join d name) "config.toml".toList

/-- The settings of the directory if it has any, and else those of the user. -/
def fromFiles (t : FileTree) (e : Env) : Except Failure Settings :=
  if t.existsAt localFile then ofFile t localFile
  else match (userFile e).filter t.existsAt with
    | some p => ofFile t p
    | none => .ok defaults

def load (t : FileTree) (e : Env) : Except Failure Settings := (fromFiles t e).map (·.overlay e)

def editorProgram (c : Settings) : Text := c.editor.getD "vi".toList

def shellProgram (c : Settings) : Text := c.shell.getD "sh".toList

def tempDir (e : Env) : Text := (e "TMPDIR".toList).getD "/tmp".toList

def scratch (c : Settings) (e : Env) : Text :=
  match c.scratchDir with
  | some d => Path.expand e.home d
  | none => tempDir e

/-- The directory below which every walkthrough keeps its state. -/
def stateRoot (c : Settings) (e : Env) : Text :=
  match c.stateDir with
  | some d => Path.expand e.home d
  | none =>
    let dir := userDir e "XDG_STATE_HOME" ".local/state" <|> userDir e "XDG_DATA_HOME" ".local/share"
    Path.join (dir.getD (tempDir e)) name

def stateDirFor (c : Settings) (e : Env) (identity : Text) : Text :=
  Path.join (c.stateRoot e) identity

end Settings

end Guidebook
