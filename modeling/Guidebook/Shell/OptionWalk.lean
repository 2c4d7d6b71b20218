import Guidebook.Shell.Tool

namespace Guidebook.Shell

namespace OptionWalk

open Tool

/-- Whether a letter is among those of a list, and then whether it takes an argument. A colon behind a
letter says so. -/
def letter? (c : Char) : Text → Option Bool
  | [] => none
  | q :: qs =>
    if q = c then some (qs.head? = some ':')
    else match qs with
      | ':' :: more => letter? c more
      | more => letter? c more

/-- What has been found: nothing more, a letter that takes no argument, one with its argument, one
whose argument is missing, or one that is unknown. -/
inductive Found where
  | ending
  | plain (c : Char)
  | valued (c : Char) (value : Text)
  | lacking (c : Char)
  | unknown (c : Char)
  deriving DecidableEq, Repr

/-- The letter at the start of what is left of the argument in front of the next one. -/
def letterAt (spec : Text) (args : List Text) (next : Nat) (c : Char) (rest : Text) : Found × Progression :=
  let read := ((args[next - 2]?).getD []).length - rest.length
  match letter? c spec, rest, args[next - 1]? with
  | none, _, _ => (.unknown c, ⟨next, some read⟩)
  | some false, _, _ => (.plain c, ⟨next, some read⟩)
  | some true, [], none => (.lacking c, ⟨next, none⟩)
  | some true, [], some v => (.valued c v, ⟨next + 1, none⟩)
  | some true, v, _ => (.valued c v, ⟨next, none⟩)

/-- The next letter among some arguments. -/
def step (spec : Text) (args : List Text) (p : Progression) : Found × Progression :=
  let begun := match p.within with
    | some k => if p.next ≤ 1 then [] else ((args[p.next - 2]?).getD []).drop k
    | none => []
  match begun with
  | c :: rest => letterAt spec args p.next c rest
  | [] =>
    match args[p.next - 1]? with
    | some ['-', '-'] => (.ending, ⟨p.next + 1, none⟩)
    | some ('-' :: c :: rest) => letterAt spec args (p.next + 1) c rest
    | _ => (.ending, ⟨p.next, none⟩)

def argumentVar : Text := "OPTARG".toList

/-- Tells what has been found. A colon in front of the letters lets it be told without a complaint. -/
def tell (silent : Bool) (m : Machine) : Found → Char × Machine × Text × Nat
  | .ending => ('?', m, [], 1)
  | .plain c => (c, m.assign argumentVar [], [], 0)
  | .valued c v => (c, m.assign argumentVar v, [], 0)
  | .lacking c =>
    if silent then (':', m.assign argumentVar [c], [], 0)
    else ('?', m.unset argumentVar, "No arg for -".toList ++ c :: " option\n".toList, 0)
  | .unknown c =>
    if silent then ('?', m.assign argumentVar [c], [], 0)
    else ('?', m.unset argumentVar, "Illegal option -".toList ++ [c, '\n'], 0)

def getopts : Tool := fun args m =>
  match args with
  | spec :: name :: given =>
    let args := if given.isEmpty then m.args else given
    let p := if args.length + 1 < m.options.next then .start else m.options
    let (found, p) := step spec args p
    let (c, n, said, status) := tell (spec.head? = some ':') m found
    let n := { n.assign Machine.optionVar (Text.ofNat p.next) with options := p }
    let said := if said.isEmpty then [] else [(Channel.err, Octet.encode said)]
    match objection? n name with
    | some why => ⟨n, said ++ [(.err, Octet.encode (n.complaint ("getopts: ".toList ++ why)))], .status 2⟩
    | none => ⟨{ n.assign name [c] with options := p }, said, .status status⟩
  | _ => refuse m "getopts: Usage: getopts optstring var [arg...]" [] 2

end OptionWalk

end Guidebook.Shell
