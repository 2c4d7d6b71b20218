import Guidebook.Runner
import Guidebook.Shell.Evaluate

namespace Guidebook.Shell

/-- What commands and editors are started with: the shell, the command line of the editor, the
vars of the environment and whether complaints are seen. -/
structure Host where
  shell : Text
  editor : Text
  env : List (Text × Text)
  complaints : Bool

namespace Host

def machine (h : Host) (input : Bytes) (t : FileTree) : Machine :=
  let vars := h.env.map fun (n, v) => ⟨Octet.ofText n, some (Octet.ofText v), true, false⟩
  (Machine.fresh (Disk.ofTree t) vars (Octet.ofText h.shell) [] input).exportName "PATH".toList

def seen (h : Host) (p : Printed) : Bytes :=
  ((p.filter fun c => h.complaints || c.1 = .out).map (·.2)).flatten

def notStarted (h : Host) (cause : Text) : Fault :=
  ⟨"Failed to start '".toList ++ h.shell ++ ['\''], [cause]⟩

/-- The length in bytes that an argument cannot have. -/
def argumentBound : Nat := 131072

/-- What keeps texts from being arguments. -/
def argumentFault? (args : List Text) : Option Text :=
  if args.any (·.contains '\x00') then some "nul byte found in provided data".toList
  else if args.any fun a => argumentBound ≤ (Utf8.encode a).length then
    some "Argument list too long (os error 7)".toList
  else none

/-- Starts the shell with arguments. -/
def start (h : Host) (args : List Text) (input : Bytes) (t : FileTree) : Reply :=
  match argumentFault? (h.shell :: args) with
  | some e => ⟨[], 0, t, .error (h.notStarted e)⟩
  | none =>
    let r := Launch.start (Script.reader Script.nesting) id (Octet.ofText h.shell) (args.map Octet.ofText)
      (h.machine input t)
    match r with
    | .error e => ⟨[], 0, t, .error (h.notStarted e.message)⟩
    | .ok r => ⟨h.seen r.printed, input.length - r.machine.input.length,
        { r.machine.tree.toTree with here := t.here }, .ok r.finish.code⟩

def editorName : Text := "walkbook-editor".toList

/-- The path is an argument of the editor's command line, so that it is never taken apart. -/
def editorArgs (h : Host) (path : Text) : List Text :=
  ["-c".toList, h.editor ++ " \"$1\"".toList, editorName, path]

def runner (h : Host) : Runner where
  command _ c input t := h.start ["-c".toList, c] input t
  editor _ path input t := h.start (h.editorArgs path) input t

end Host

end Guidebook.Shell
