import Guidebook.Mistake
import Guidebook.Path

namespace Guidebook

/-- How the stash gets into a file: behind what is there, or instead of it. -/
inductive PasteMode where
  | append
  | overwrite
  deriving DecidableEq, Repr

def PasteMode.label : PasteMode → Text
  | .append => "append".toList
  | .overwrite => "overwrite".toList

/-- What can be done with the stash. To place it in a file is to paste it, if that is wanted, and to
edit the file. -/
inductive StashCommand where
  | view
  | edit
  | clear
  | paste (file : Text) (mode : PasteMode)
  | place (file : Text)
  deriving DecidableEq, Repr

namespace StashCommand

/-- The command that words spell; `home` is the home directory. -/
def ofWords (home : Option Text) : List Text → Except Mistake StashCommand
  | [] => .error (.stashUsage .all)
  | verb :: ws =>
    if verb = "show".toList then ending .view ws
    else if verb = "edit".toList then ending .edit ws
    else if verb = "clear".toList then ending .clear ws
    else if verb = "paste".toList then
      match ws with
      | [] => .error (.stashUsage .paste)
      | [file] => .ok (.paste (Path.expand home file) .append)
      | file :: mode :: ws =>
        if mode = "append".toList ∨ mode = "a".toList then
          ending (.paste (Path.expand home file) .append) ws
        else if mode = "overwrite".toList ∨ mode = "o".toList then
          ending (.paste (Path.expand home file) .overwrite) ws
        else .error (.stashUsage .paste)
    else if verb = "open".toList then
      match ws with
      | [] => .error (.stashUsage .place)
      | file :: ws => ending (.place (Path.expand home file)) ws
    else .error (.stashUsage .all)
where
  /-- Nothing may follow a complete command. -/
  ending (c : StashCommand) (ws : List Text) : Except Mistake StashCommand :=
    if ws.isEmpty then .ok c else .error (.stashUsage .all)

end StashCommand

/-- What a line typed at the prompt of a step means. -/
inductive Command where
  | home
  | suggestions
  | flow
  | help
  | pick (n : Nat)
  | nextStep
  | goto (n : Nat)
  | nextPage
  | prevPage
  | page (n : Nat)
  | finish
  | quit
  | leave
  | stash (c : StashCommand)
  | shell (t : Text)
  | nothing
  deriving DecidableEq, Repr

namespace Command

/-- The commands without arguments under all of their names. -/
def aliases : List (Text × Command) :=
  [("home".toList, home), ("h".toList, home), ("?".toList, home),
   ("show_suggestions".toList, suggestions), ("suggestions".toList, suggestions),
   ("s".toList, suggestions), ("flow".toList, flow), ("f".toList, flow), ("help".toList, help),
   ("next_step".toList, nextStep), ("next".toList, nextStep), ("ns".toList, nextStep),
   ("next_page".toList, nextPage), ("np".toList, nextPage), ("more".toList, nextPage),
   ("prev_page".toList, prevPage), ("pp".toList, prevPage), ("finish".toList, finish),
   ("quit".toList, quit), ("q".toList, quit), (":q".toList, quit), (":quit".toList, quit),
   ("exit".toList, leave), ("x".toList, leave)]

/-- The commands that take a number. -/
def verbs : List (Text × (Nat → Command)) :=
  [("pick".toList, pick), ("goto_step".toList, goto), ("goto".toList, goto), ("g".toList, goto),
   ("page".toList, page)]

def stashWord : Text := ":snippet".toList

def number (t : Text) : Except Mistake Nat :=
  match Text.natural? t with
  | some n => .ok n
  | none => .error (.notNumber t)

/-- The first word of a line and what follows the blanks behind it. -/
def split (t : Text) : Text × Text :=
  (t.takeWhile fun c => !Text.isBlank c, Text.trimStart (t.dropWhile fun c => !Text.isBlank c))

/-- What a trimmed line that is no alias means. Arguments stand on one line: a line feed in them
makes the line one for the shell, and so does every first word that is not known. -/
def ofLine (home : Option Text) (t : Text) : Except Mistake Command :=
  if t.all Text.isDecimal then (number t).map pick
  else
    let (word, rest) := split t
    if rest.contains '\n' then .ok (shell t)
    else match verbs.lookup word with
      | some make =>
        if rest.isEmpty then .error (.missingNumber word) else (number (Text.trim rest)).map make
      | none =>
        if word = stashWord then (StashCommand.ofWords home (Text.words rest)).map stash
        else .ok (shell t)

def ofInput (home : Option Text) (input : Text) : Except Mistake Command :=
  let t := Text.trim input
  if t.isEmpty then .ok nothing
  else match aliases.lookup t with
    | some c => .ok c
    | none => ofLine home t

end Command

end Guidebook
