import Guidebook.Shell.Calendar
import Guidebook.Shell.FileTool

namespace Guidebook.Shell

/-! What can be asked about the system, the user and the time, and what only the user root may do. All
who ask are told the same. -/

namespace Surroundings

open FileTool

def answers (t : String) : Tool := fun _ m => m.tell .out (t.toList ++ ['\n']) 0

def uname : Tool := program "uname" 1
  { plain := "asnrvmpio", long := [("all", 'a'), ("kernel-name", 's'), ("nodename", 'n'), ("kernel-release", 'r'),
      ("kernel-version", 'v'), ("machine", 'm'), ("processor", 'p'), ("hardware-platform", 'i'),
      ("operating-system", 'o')] }
  fun g _ m =>
    let parts := [('s', "Linux"), ('n', "localhost"), ('r', "6.1.0"), ('v', "#1 SMP"), ('m', "x86_64"),
      ('o', "GNU/Linux")]
    let asked := parts.filter fun p => g.has p.1 || g.has 'a' || (g.isEmpty && p.1 = 's')
    m.tell .out ([' '].intercalate (asked.map (·.2.toList)) ++ ['\n']) 0

def id : Tool := program "id" 1
  { plain := "ugGnrz", long := [("user", 'u'), ("group", 'g'), ("groups", 'G'), ("name", 'n')] }
  fun g names m =>
    let answer := lineOf (if !g.hasAny "ugG" then "uid=0(root) gid=0(root) groups=0(root)"
      else if g.has 'n' then "root" else "0").toList
    let one := fun (n : Text) (t : Disk) =>
      if n = "root".toList || n = ['0'] then (t, answer, none)
      else refusing (objection "id" (literal n ++ ": no such user".toList) 1) t
    if names.isEmpty then finish [] answer 0 m else each (names.map one) m

def tty : Tool := program "tty" 2 { plain := "s" } fun g _ m =>
  if g.has 's' then m.ends 1 else m.tell .out "not a tty\n".toList 1

def stty : Tool := fun _ m => m.tell .err "stty: 'standard input': Inappropriate ioctl for device\n".toList 1

def logname : Tool := fun _ m => m.tell .err "logname: no login name\n".toList 1

/-- Files belong to nobody else. -/
def own (tool : String) : Tool := program tool 1 { plain := "RcfvhHLP" } fun _ args m =>
  match args with
  | [] => missing tool m
  | [p] => misused tool ("missing operand after ".toList ++ literal p) 1 m
  | _ :: ps => each (ps.map fun p t => match t.find p with
    | .ok _ => (t, [], none)
    | .error e => refusing (complain tool "cannot access " (quoted p) e 1) t) m

def date : Tool := program "date" 1
  { plain := "uR", valued := "dr", optional := "I",
    long := [("utc", 'u'), ("universal", 'u'), ("date", 'd'), ("reference", 'r'), ("iso-8601", 'I'),
      ("rfc-email", 'R')] }
  fun g args m =>
    let now := secondsOf m.tree.now
    let precision := (g.value? 'I').getD []
    let format := match args with
      | ('+' :: f) :: _ => f
      | _ =>
        if g.has 'I' then
          (if precision = "seconds".toList then "%FT%T%:z" else if precision = "minutes".toList then "%FT%R%:z"
            else if precision = "hours".toList then "%FT%H%:z" else "%F").toList
        else if g.has 'R' then "%a, %d %b %Y %T %z".toList
        else "%a %b %e %H:%M:%S %Z %Y".toList
    match args.find? (·.head? ≠ some '+'), (g.value? 'd').map (Calendar.moment? now), g.value? 'r' with
    | some a, _, _ => m.tell .err ("date: invalid date ".toList ++ literal a ++ ['\n']) 1
    | none, some none, _ =>
      m.tell .err ("date: invalid date ".toList ++ literal ((g.value? 'd').getD []) ++ ['\n']) 1
    | none, some (some s), _ => m.tell .out (Calendar.shown s (format.length + 40) format ++ ['\n']) 0
    | none, none, some p =>
      match m.tree.find p with
      | .error e => finish [complain "date" "" (named p) e 1] [] 1 m
      | .ok r => m.tell .out (Calendar.shown (secondsOf r.2.time) (format.length + 40) format ++ ['\n']) 0
    | none, none, none => m.tell .out (Calendar.shown now (format.length + 40) format ++ ['\n']) 0

def all : List (Text × Tool) :=
  [("uname".toList, uname), ("id".toList, id), ("tty".toList, tty), ("logname".toList, logname),
   ("whoami".toList, answers "root"), ("groups".toList, answers "root"), ("hostname".toList, answers "localhost"),
   ("nproc".toList, answers "1"), ("arch".toList, answers "x86_64"), ("chown".toList, own "chown"),
   ("chgrp".toList, own "chgrp"), ("stty".toList, stty), ("users".toList, Tool.quit 0), ("who".toList, Tool.quit 0),
   ("hostid".toList, answers "007f0101"), ("date".toList, date)]

end Surroundings

end Guidebook.Shell
