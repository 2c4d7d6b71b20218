import Guidebook.Shell.Tool

namespace Guidebook.Shell

/-- The options that a program takes: letters that stand alone, letters with a value, letters whose value
may follow in the same word, letters that only stand for longer names, the letters of longer names, and whether
options end where something else begins. -/
structure Menu where
  plain : String
  valued : String := ""
  optional : String := ""
  hidden : String := ""
  long : List (String × Char) := []
  inFront : Bool := false

/-- Options that were given, with their values. -/
abbrev Given := List (Char × Text)

namespace Given

def has (g : Given) (c : Char) : Bool := g.any (·.1 = c)

def hasAny (g : Given) (cs : String) : Bool := cs.toList.any g.has

/-- All values of an option. -/
def values (g : Given) (c : Char) : List Text := (g.filter (·.1 = c)).map (·.2)

/-- The value that an option was given last. -/
def value? (g : Given) (c : Char) : Option Text := (g.values c).getLast?

/-- Which of some options was given last. -/
def latest? (g : Given) (cs : String) : Option Char :=
  ((g.filter fun o => cs.toList.contains o.1).getLast?).map (·.1)

end Given

namespace Menu

/-- Letters of one word, with what follows it. -/
def letters (u : Menu) : Text → List Text → Except Text (Given × List Text)
  | [], as => .ok ([], as)
  | c :: cs, as =>
    if u.hidden.toList.contains c then .error ("invalid option -- '".toList ++ [c, '\''])
    else if u.plain.toList.contains c then (letters u cs as).map fun r => ((c, []) :: r.1, r.2)
    else if u.optional.toList.contains c then .ok ([(c, cs)], as)
    else if u.valued.toList.contains c then
      match cs, as with
      | [], [] => .error ("option requires an argument -- '".toList ++ [c, '\''])
      | [], v :: as => .ok ([(c, v)], as)
      | cs, as => .ok ([(c, cs)], as)
    else .error ("invalid option -- '".toList ++ [c, '\''])

/-- The letters that a longer name stands for, which may be cut short. -/
def named (u : Menu) (name : Text) : List Char :=
  match u.long.filter (·.1.toList = name) with
  | [] => ((u.long.filter fun l => name.isPrefixOf l.1.toList).map (·.2)).eraseDups
  | ls => ls.map (·.2)

def longer (u : Menu) (t : Text) (as : List Text) : Except Text (Given × List Text) :=
  let (name, value) := match Text.cut? '=' t with
    | some (n, v) => (n, some v)
    | none => (t, none)
  let shown := "'--".toList ++ name ++ ['\'']
  match u.named name with
  | [c] =>
    if u.valued.toList.contains c then
      match value, as with
      | some v, as => .ok ([(c, v)], as)
      | none, v :: as => .ok ([(c, v)], as)
      | none, [] => .error ("option ".toList ++ shown ++ " requires an argument".toList)
    else if value.isSome && !u.optional.toList.contains c then
      .error ("option ".toList ++ shown ++ " doesn't allow an argument".toList)
    else .ok ([(c, value.getD [])], as)
  | [] => .error ("unrecognized option ".toList ++ shown)
  | _ =>
    let fitting := u.long.filter fun l => name.isPrefixOf l.1.toList
    .error ("option ".toList ++ shown ++ " is ambiguous; possibilities:".toList ++
      fitting.flatMap fun l => " '--".toList ++ l.1.toList ++ ['\''])

/-- The options among some arguments, and the others. -/
def readFrom (u : Menu) : Nat → List Text → Except Text (Given × List Text)
  | 0, as => .ok ([], as)
  | _, [] => .ok ([], [])
  | n + 1, a :: as =>
    let go := fun (r : Given × List Text) => (readFrom u n r.2).map fun s => (r.1 ++ s.1, s.2)
    match a with
    | ['-', '-'] => .ok ([], as)
    | '-' :: '-' :: name => (u.longer name as).bind go
    | '-' :: c :: cs => (u.letters (c :: cs) as).bind go
    | a => if u.inFront then .ok ([], a :: as) else (readFrom u n as).map fun r => (r.1, a :: r.2)

def read (u : Menu) (args : List Text) : Except Text (Given × List Text) := u.readFrom args.length args

end Menu

/-- A program has been called in a way that makes no sense. -/
def misused (tool : String) (why : Text) (status : Nat) (m : Machine) : Ran :=
  m.tell .err (tool.toList ++ ": ".toList ++ why ++ "\nTry '".toList ++ tool.toList ++
    " --help' for more information.\n".toList) status

/-- A program that takes options. -/
def program (tool : String) (status : Nat) (u : Menu) (f : Given → Tool) : Tool := fun args m =>
  match u.read args with
  | .error why => misused tool why status m
  | .ok (g, as) => f g as m

end Guidebook.Shell
