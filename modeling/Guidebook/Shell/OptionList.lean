import Guidebook.Shell.FileTool

namespace Guidebook.Shell

/-- The options that arguments may hold, as a caller tells them: letters and longer names, each with how many values
it has, none, one, or perhaps one. Then what becomes of other arguments: they come last, they end the options, or they
stay where they are. -/
structure OptionList where
  short : List (Char × Nat)
  long : List (Text × Nat)
  way : Char

namespace OptionList

open FileTool

/-- Colons behind a letter tell how many values it has. -/
def letters : Text → List (Char × Nat)
  | c :: ':' :: ':' :: cs => (c, 2) :: letters cs
  | c :: ':' :: cs => (c, 1) :: letters cs
  | c :: cs => (c, 0) :: letters cs
  | [] => []

def ofText (short : Text) (long : List Text) : OptionList :=
  let (way, short) := match short with
    | '+' :: cs => ('+', cs)
    | '-' :: cs => ('-', cs)
    | cs => ('.', cs)
  let names := ((long.flatMap (Text.pieces fun c => c == ',' || c == ' ' || c == '\t' || c == '\n')).filter (!·.isEmpty)).map
    fun n =>
      let bare := n.reverse.dropWhile (· = ':') |>.reverse
      (bare, n.length - bare.length)
  ⟨letters short, names, way⟩

/-- What has been found: options with their values in order, other arguments, and complaints. -/
structure Found where
  options : List (Text × Option Text)
  others : List Text
  wrong : List Text

def Found.with (o : List (Text × Option Text)) (ps wrong : List Text) (f : Found) : Found :=
  ⟨o ++ f.options, ps ++ f.others, wrong ++ f.wrong⟩

/-- The letters of one word: options, a complaint, and how many of the arguments behind it were values. -/
def cluster (l : OptionList) : Text → List Text → List (Text × Option Text) × List Text × Nat
  | [], _ => ([], [], 0)
  | c :: cs, as =>
    match if c = ':' then none else l.short.lookup c with
    | none =>
      let r := cluster l cs as
      (r.1, ("invalid option -- '".toList ++ [c, '\'']) :: r.2.1, r.2.2)
    | some 0 =>
      let r := cluster l cs as
      ((['-', c], none) :: r.1, r.2.1, r.2.2)
    | some 1 =>
      match cs, as with
      | [], [] => ([], ["option requires an argument -- '".toList ++ [c, '\'']], 0)
      | [], a :: _ => ([(['-', c], some a)], [], 1)
      | cs, _ => ([(['-', c], some cs)], [], 0)
    | some _ => ([(['-', c], some cs)], [], 0)

/-- A longer name, which may be cut short: an option or a complaint, and how many arguments were values. -/
def named (l : OptionList) (t : Text) (as : List Text) : List (Text × Option Text) × List Text × Nat :=
  let (name, value) := match Text.cut? '=' t with
    | some (n, v) => (n, some v)
    | none => (t, none)
  let exact := l.long.filter (·.1 = name)
  let fitting := if exact.isEmpty then l.long.filter fun n => name.isPrefixOf n.1 else exact
  let shown := "'--".toList ++ name ++ ['\'']
  match fitting with
  | [] => ([], ["unrecognized option ".toList ++ "'--".toList ++ name ++ ['\'']], 0)
  | [(n, k)] =>
    let full := "--".toList ++ n
    let shownFull := '\'' :: full ++ ['\'']
    match k, value, as with
    | 0, some _, _ => ([], ["option ".toList ++ shownFull ++ " doesn't allow an argument".toList], 0)
    | 0, none, _ => ([(full, none)], [], 0)
    | 1, none, [] => ([], ["option ".toList ++ shownFull ++ " requires an argument".toList], 0)
    | 1, none, a :: _ => ([(full, some a)], [], 1)
    | _, v, _ => ([(full, some (v.getD []))], [], 0)
  | ns =>
    ([], ["option ".toList ++ shown ++ " is ambiguous; possibilities:".toList ++
      ns.flatMap fun n => " '--".toList ++ n.1 ++ ['\'']], 0)

def find (l : OptionList) (alternative : Bool) : Nat → List Text → Found
  | 0, as => ⟨[], as, []⟩
  | _, [] => ⟨[], [], []⟩
  | n + 1, a :: as =>
    let go := fun (r : List (Text × Option Text) × List Text × Nat) =>
      (find l alternative n (as.drop r.2.2)).with r.1 [] r.2.1
    match a with
    | ['-', '-'] => ⟨[], as, []⟩
    | '-' :: '-' :: t => go (named l t as)
    | '-' :: c :: cs =>
      if alternative && !l.long.isEmpty && (1 < (c :: cs).length || (l.short.lookup c).isNone) &&
          l.long.any (fun x => ((c :: cs).takeWhile (· ≠ '=')).isPrefixOf x.1) then go (named l (c :: cs) as)
      else go (cluster l (c :: cs) as)
    | a =>
      if l.way = '+' then ⟨[], a :: as, []⟩
      else if l.way = '-' then (find l alternative n as).with [([], some a)] [] []
      else (find l alternative n as).with [] [a] []

/-- A text that a shell reads as one word. -/
def sheltered (t : Text) : Text :=
  '\'' :: t.flatMap (fun c => if c = '\'' then "'\\''".toList else [c]) ++ ['\'']

/-- Arguments in their usual order, with a mark between the options and the others. -/
def shown (bare : Bool) (f : Found) : Text :=
  let value := fun (t : Text) => if bare then t else sheltered t
  (f.options.flatMap fun (o, v) =>
    (if o.isEmpty then [] else ' ' :: o) ++ match v with
      | some v => ' ' :: value v
      | none => []) ++ " --".toList ++ f.others.flatMap fun a => ' ' :: value a

/-- Options of the program itself end where something else begins. -/
def own : Menu :=
  { plain := "ahqQTuV", valued := "olns", inFront := true,
    long := [("alternative", 'a'), ("options", 'o'), ("longoptions", 'l'), ("name", 'n'), ("quiet", 'q'),
      ("quiet-output", 'Q'), ("shell", 's'), ("test", 'T'), ("unquoted", 'u')] }

def result (g : Given) (short : Text) (args : List Text) (bare : Bool) (m : Machine) : Ran :=
  let l := ofText short (g.values 'l')
  let f := find l (g.has 'a') (args.length + 1) args
  let name := (g.value? 'n').getD "getopt".toList
  let said := if g.has 'q' then [] else f.wrong.map fun w => (Channel.err, lineOf (name ++ ": ".toList ++ w))
  ⟨m, said ++ (if g.has 'Q' then [] else [(.out, lineOf (shown bare f))]), .status (if f.wrong.isEmpty then 0 else 1)⟩

def getopt : Tool := fun args m =>
  match args with
  | [] => misused "getopt" "missing optstring argument".toList 2 m
  | ('-' :: c :: cs) :: as =>
    match own.read (('-' :: c :: cs) :: as) with
    | .error why => misused "getopt" why 2 m
    | .ok (g, rest) =>
      if g.has 'T' then m.ends 4
      else match g.value? 'o', rest with
        | some o, rest => result g o rest (g.has 'u') m
        | none, o :: rest => result g o rest (g.has 'u') m
        | none, [] => misused "getopt" "missing optstring argument".toList 2 m
  | o :: as => result [] o as true m

def all : List (Text × Tool) := [("getopt".toList, getopt)]

end OptionList

end Guidebook.Shell
