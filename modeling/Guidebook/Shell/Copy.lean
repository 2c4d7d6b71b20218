import Guidebook.Shell.Inquiry

namespace Guidebook.Shell

namespace Copy

open FileTool

/-- Where something goes that is put to a path: into a directory it goes under its own name. A link to a directory
may count as one. -/
def target (t : Disk) (g : Given) (linksCount : Bool) (source dest : Text) : Text :=
  if t.isDirAt dest && !g.has 'T' && (linksCount || !t.isLinkAt dest) then Walk.under dest (Walk.lastName source)
  else dest

/-- The name of what had been in the place of something else. -/
def otherName (g : Given) (d : Text) : Text := d ++ (g.value? 'S').getD ['~']

/-- Keeps what is in the place of something else under another name, if that is asked for, and tells so. -/
def saved (g : Given) (t : Disk) (d : Text) : Disk × Text :=
  if g.hasAny "bS" && t.hasName d && (t.isLinkAt d || !t.isDirAt d) then
    ((t.rename d (otherName g d)).toOption.getD t, " (backup: ".toList ++ quoted (otherName g d) ++ [')'])
  else (t, [])

def same (a b : Text) : Text := quoted a ++ " and ".toList ++ quoted b ++ " are the same file".toList

/-- How links are copied: as what they lead to, that only where they are named, or as links. -/
inductive Following where
  | always
  | named
  | never
  deriving DecidableEq, Repr

/-- How something is copied: what becomes of links, whether rights and times are kept and whether files with several
names keep them. -/
structure Way where
  following : Following
  keepsMode : Bool
  keepsTime : Bool
  keepsNames : Bool

namespace Way

def ofGiven (g : Given) : Way :=
  let deep := g.hasAny "rRa"
  let kept := ((g.values 'K').flatMap (Text.pieces (· == ','))).map String.ofList
  let all := g.hasAny "a" || kept.contains "all"
  { following := match g.latest? "PLHda" with
      | some 'L' => .always
      | some 'H' => .named
      | some _ => .never
      | none => if deep then .never else .always
    keepsMode := all || g.has 'p' || kept.contains "mode"
    keepsTime := all || g.has 'p' || kept.contains "timestamps"
    keepsNames := all || g.has 'd' || kept.contains "links" }

/-- The stamp of a copy. -/
def stamp (w : Way) (t : Disk) (m : Stamp) : Stamp :=
  ⟨if w.keepsMode then m.mode else Rights.less (m.mode &&& 0o777) t.mask, if w.keepsTime then m.time else t.now⟩

/-- The stamp of a node that has been there when something was copied to it. -/
def restamp (w : Way) (t : Disk) (old m : Stamp) : Stamp :=
  ⟨if w.keepsMode then m.mode else old.mode, if w.keepsTime then m.time else t.now⟩

end Way

/-- Nodes that have several names, each with an address where a copy is. -/
abbrev Seen := List (Nat × Address)

/-- What becomes of a copy of something that is not a directory: the files, what is said, a complaint, and what has
been copied. -/
def copyLeaf (g : Given) (w : Way) (p d : Text) (a : Address) (n : Node) (seen : Seen) (t : Disk) :
    (Disk × Bytes × Option Complaint) × Seen :=
  let fail := fun (what : Text) => (refusing (objection "cp" what 1) t, seen)
  let isLink := n.isLink
  let there := if isLink || g.has 'D' then t.entry d else t.find d
  match there with
  | .ok (_, .dir _) => fail ("cannot overwrite directory ".toList ++ quoted d ++ " with non-directory".toList)
  | r =>
    let isSame := match r with
      | .ok (b, _) => a = b || t.serial? a = t.serial? b && (t.serial? a).isSome
      | .error _ => false
    if g.hasAny "nM" && t.hasName d then ((t, [], none), seen)
    else if g.has 'u' && (r.toOption.any fun x => n.time ≤ x.2.time) then ((t, [], none), seen)
    else if isSame && g.has 'l' then ((t, [], none), seen)
    else if isSame && !(g.hasAny "bS") then fail (same p d)
    else
      let (u, told) := saved g t d
      let removed := u.hasName d && (isLink || g.hasAny "Dsl")
      let said := fun (ending : Text) =>
        if g.has 'v' then
          (if removed && !g.hasAny "sl" then lineOf ("removed ".toList ++ quoted d) else []) ++
            lineOf (quoted p ++ " -> ".toList ++ quoted d ++ ending)
        else []
      let taken := removed && g.hasAny "sl" && !g.hasAny "fD"
      let u := if removed && !taken then (u.removeFile d).toOption.getD u else u
      let known := if w.keepsNames && !g.has 'L' then (t.serial? a).bind fun k => seen.lookup k else none
      let create := fun (r : Except IoFault Disk) => match r with
        | .ok v =>
          let b := (v.entry d).toOption.map (·.1)
          ((v, said told, none), ((t.serial? a).bind fun k => b.map (k, ·)).toList ++ seen)
        | .error e => (refusing (complain "cp" "cannot create regular file " (quoted d) e 1) t, seen)
      let hard := fun (b : Address) => match u.locate d, u.serial? b with
        | .ok s, some k => create (.ok (u.name s.address k))
        | .error e, _ => create (.error e)
        | _, none => create (.error .notFound)
      if taken then
        fail ("cannot create ".toList ++ (if g.has 's' then "symbolic".toList else "hard".toList) ++ " link ".toList ++
          quoted d ++ (if g.has 's' then [] else " to ".toList ++ quoted p) ++ ": File exists".toList)
      else if g.has 'l' then hard a
      else if g.has 's' then
        if !Path.isAbsolute p && d.contains '/' then
          fail (d ++ ": can make relative symbolic links only in current directory".toList)
        else create (u.make d (u.newLink p))
      else match known, n with
        | some b, _ => hard b
        | none, .link m x => create (u.make d (.link ⟨0o777, if w.keepsTime then m.time else u.now⟩ x))
        | none, n =>
          if !u.existsAt d && u.isLinkAt d then
            (refusing (objection "cp" ("not writing through dangling symlink ".toList ++ quoted d) 1) t, seen)
          else
            let content := match n with
              | .file _ c => c
              | .device _ x => Disk.flow x
              | _ => []
            let isNew := !u.existsAt d
            create (do
              if d.getLast? = some '/' then .error .notDirectory
              let (v, k) ← u.opened d false
              let v := v.setContent k fun _ => content
              return match v.content? k with
                | some (.file old c) =>
                  v.change k (.file (if isNew then w.stamp v n.stamp else w.restamp v old n.stamp) c)
                | _ => v)

/-- Copies what has been come to on a walk. -/
def copyVisits (g : Given) (w : Way) (p d : Text) :
    List Visit → Seen → Disk → Disk × Bytes × List Complaint × Seen
  | [], seen, t => (t, [], [], seen)
  | v :: vs, seen, t =>
    let q := d ++ v.path.drop p.length
    let ((t, out, c), seen) := match v.node with
      | .dir m =>
        match t.find q with
        | .ok (_, .dir _) => ((t, [], none), seen)
        | .ok _ =>
          (refusing (objection "cp" ("cannot overwrite non-directory ".toList ++ quoted q ++ " with directory ".toList ++
            quoted v.path) 1) t, seen)
        | .error _ =>
          match t.make q (.dir { w.stamp t m with time := t.now }) with
          | .ok t =>
            ((t, if g.has 'v' then lineOf (quoted v.path ++ " -> ".toList ++ quoted q) else [], none), seen)
          | .error e => (refusing (complain "cp" "cannot create directory " (quoted q) e 1) t, seen)
      | n => copyLeaf g w v.path q v.address n seen t
    let r := copyVisits g w p d vs seen t
    (r.1, out ++ r.2.1, c.toList ++ r.2.2.1, r.2.2.2)

/-- Gives directories the stamps of those that they are copies of. -/
def restamped (w : Way) (p d : Text) (vs : List Visit) (t : Disk) : Disk :=
  vs.reverse.foldl (fun t v => match v.node, t.find (d ++ v.path.drop p.length) with
    | .dir m, .ok (b, .dir old) => t.put b (.dir (w.restamp { t with now := old.time } old m))
    | _, _ => t) t

/-- What comes of a copy of a file or a directory. -/
def copyTo (g : Given) (p d : Text) : Act := fun t =>
  let w := Way.ofGiven g
  let fail := fun (what : Text) => refusing (objection "cp" what 1) t
  match if w.following = .never then t.entry p else t.find p with
  | .error e => refusing (complain "cp" "cannot stat " (quoted p) e 1) t
  | .ok (a, .dir m) =>
    if !g.hasAny "rRa" then fail ("-r not specified; omitting directory ".toList ++ quoted p)
    else match t.find d with
      | .ok (b, .dir _) => if a = b then fail (same p d) else copyDir w a m (some b) t
      | .ok _ =>
        fail ("cannot overwrite non-directory ".toList ++ quoted d ++ " with directory ".toList ++ quoted p)
      | .error _ => match t.locate d with
        | .error e => refusing (complain "cp" "cannot create directory " (quoted d) e 1) t
        | .ok s => copyDir w a m (some s.address) t
  | .ok (a, n) => (copyLeaf g w p d a n [] t).1
where
  copyDir (w : Way) (a : Address) (m : Stamp) (b : Option Address) : Act := fun t =>
    let vs := Walk.visits t false (w.following = .always) t.size [] 0 p a
    let inside := b.any a.isPrefixOf
    let vs := if inside then vs.filter fun v => !(b.any fun b => b.isPrefixOf v.address) else vs
    let vs := match vs with
      | v :: vs => { v with node := .dir m } :: vs
      | [] => []
    let r := copyVisits g w p d vs [] t
    let own := if inside then [objection "cp" ("cannot copy a directory, ".toList ++ quoted p ++
      ", into itself, ".toList ++ quoted d) 1] else []
    let complaints := r.2.2.1 ++ own
    (if w.keepsMode || w.keepsTime then restamped w p d vs r.1 else r.1, r.2.1,
      if complaints.isEmpty then none else some ⟨(complaints.map (·.what)).flatten, 1⟩)

/-- Copies to the same path in a directory. -/
def copyWithParents (g : Given) (dest p : Text) : Act := fun t =>
  let d := Walk.under dest p
  let up := ((Path.parent? p).getD [])
  let made := (steps up).foldl (fun (r : Disk × Bytes) q =>
    let e := Walk.under dest q
    if r.1.isDirAt e then r
    else match r.1.makeDir e with
      | .ok t => (t, r.2 ++ if g.has 'v' then lineOf (q ++ " -> ".toList ++ e) else [])
      | .error _ => r) (t, [])
  let r := copyTo g p d made.1
  (r.1, made.2 ++ r.2.1, r.2.2)

/-- What comes of a new name. -/
def moveTo (g : Given) (p d : Text) : Act := fun t =>
  let fail := fun (what : Text) => refusing (objection "mv" what 1) t
  let move := "cannot move ".toList ++ quoted p ++ " to ".toList
  match t.entry p, t.entry d with
  | .error e, _ => refusing (complain "mv" "cannot stat " (quoted p) e 1) t
  | .ok (a, n), r =>
    if (r.toOption.any fun x => x.1 = a || t.serial? x.1 = t.serial? a && (t.serial? a).isSome) then fail (same p d)
    else match n, r with
    | .dir _, .ok (_, .file ..) | .dir _, .ok (_, .link ..) | .dir _, .ok (_, .device ..) =>
      fail ("cannot overwrite non-directory ".toList ++ quoted d ++ " with directory ".toList ++ quoted p)
    | .file .., .ok (_, .dir _) | .link .., .ok (_, .dir _) | .device .., .ok (_, .dir _) =>
      fail ("cannot overwrite directory ".toList ++ quoted d ++ " with non-directory".toList)
    | n, r =>
      if [['.'], ['.', '.']].contains (Walk.lastName p) then
        fail (move ++ quoted d ++ ": Device or resource busy".toList)
      else if g.has 'M' && r.isOk then (t, [], none)
      else if g.has 'n' && r.isOk then fail ("not replacing ".toList ++ quoted d)
      else if g.has 'u' && (r.toOption.any fun x => n.time ≤ x.2.time) then (t, [], none)
      else if n.isDir && ((t.locate d).toOption.map (·.address)).any a.isPrefixOf then
        fail ("cannot move ".toList ++ quoted p ++ " to a subdirectory of itself, ".toList ++ quoted d)
      else
        let (u, told) := saved g t d
        match u.rename p d with
        | .ok u => saying (g.has 'v') ("renamed ".toList ++ quoted p ++ " -> ".toList ++ quoted d ++ told) u
        | .error .notEmpty => refusing (complain "mv" "cannot overwrite " (quoted d) .notEmpty 1) t
        | .error e => refusing (complain "mv" "" (move ++ quoted d) e 1) t

/-- Does something for paths one after the other, and asks before something is replaced by it. -/
def asking (words : String) (g : Given) (place : Disk → Text → Text) (one : Text → Act) : List Text → Ran → Ran
  | [], r => r
  | p :: ps, r =>
    let m := r.machine
    let d := place m.tree p
    let (r, yes) :=
      if g.latest? "fin" = some 'i' && m.tree.hasName d && m.tree.hasName p then
        let answer := m.input.takeWhile (· ≠ 10)
        let said := (.err, Octet.encode (words.toList ++ quoted d ++ "? ".toList))
        ({ r with
            machine := { m with input := m.input.drop (answer.length + 1) }, printed := r.printed ++ [said] },
          answer.head? = some 121 || answer.head? = some 89)
      else (r, true)
    let s := if yes then each [one p] r.machine else r.machine.ends 1
    asking words g place one ps ⟨s.machine, r.printed ++ s.printed, .status (max r.finish.code s.finish.code)⟩

/-- Puts files to a path, or several into a directory. -/
def toDest (tool words : String) (linksCount : Bool) (g : Given) (one : Text → Text → Act) : Tool := fun args m =>
  let bad := fun (d : Text) (why : String) =>
    m.tell .err (tool.toList ++ ": target ".toList ++ quoted d ++ ": ".toList ++ why.toList ++ ['\n']) 1
  let isThere := m.tree.existsAt
  let why := fun d =>
    if isThere d || (m.tree.find d matches .error .notDirectory) then "Not a directory" else "No such file or directory"
  let go := fun (dest : Text) (ps : List Text) =>
    let place := fun t p => target t g linksCount p dest
    asking words g place (fun p t => one p (place t p) t) ps (m.ends 0)
  match g.value? 't', args.reverse with
  | _, [] => misused tool "missing file operand".toList 1 m
  | some d, _ =>
    if m.tree.isDirAt d then go d args
    else
      let stated :=
        if tool = "ln" && isThere d then "target ".toList ++ quoted d ++ " is not a directory".toList
        else (if tool = "cp" || tool = "mv" then "target directory " else "failed to access ").toList ++ quoted d ++
          ": ".toList ++ (why d).toList
      finish [objection tool stated 1] [] 1 m
  | none, [p] => misused tool ("missing destination file operand after ".toList ++ literal p) 1 m
  | none, dest :: ps =>
    if 2 ≤ ps.length ∧ !m.tree.isDirAt dest then bad dest (why dest)
    else match m.tree.find dest with
      | .error .notDirectory =>
        let stated := if ps.length = 1 && tool = "ln" then
            if g.has 'f' then "failed to access ".toList ++ quoted dest
            else if g.has 's' then "failed to create symbolic link ".toList ++ quoted dest
            else "failed to create hard link ".toList ++ quoted dest ++ " => ".toList ++ quoted (ps.headD [])
          else "cannot stat ".toList ++ quoted dest
        finish [complain tool "" stated .notDirectory 1] [] 1 m
      | _ => go dest ps.reverse

def longNames : List (String × Char) :=
  [("recursive", 'r'), ("force", 'f'), ("verbose", 'v'), ("no-clobber", 'n'), ("target-directory", 't'),
   ("no-target-directory", 'T'), ("archive", 'a'), ("update", 'U'), ("interactive", 'i'), ("backup", 'B'),
   ("suffix", 'S'), ("parents", 'Q'), ("symbolic-link", 's'), ("link", 'l'), ("preserve", 'K'),
   ("dereference", 'L'), ("no-dereference", 'P'), ("remove-destination", 'D'), ("one-file-system", 'x'),
   ("no-preserve", 'N'), ("attributes-only", 'x'), ("strip-trailing-slashes", 'x')]

/-- Options that stand for others. -/
def unfolded (g : Given) : Given :=
  g.map fun o =>
    if o.1 = 'K' && o.2.isEmpty then ('p', [])
    else if o.1 = 'B' then ('b', [])
    else if o.1 = 'U' then
      (if o.2 = "none".toList then 'M' else if o.2 = "all".toList then 'f' else 'u', [])
    else o

def cp : Tool := program "cp" 1
  { plain := "rRfvnTaibPpdlsLHxQDu", valued := "tSN", optional := "KUB", long := longNames }
  fun g args m =>
    let g := unfolded g
    let r :=
      if g.has 'Q' then
        match args.reverse with
        | dest :: p :: ps => each ((p :: ps).reverse.map (copyWithParents g dest)) m
        | _ => toDest "cp" "cp: overwrite " true g (copyTo g) args m
      else toDest "cp" "cp: overwrite " true g (copyTo g) args m
    if g.has 'n' then
      let warning := "cp: warning: behavior of -n is non-portable and may change in future; use --update=none instead\n"
      { r with printed := (.err, Octet.encode warning.toList) :: r.printed }
    else r

def mv : Tool := program "mv" 1 { plain := "fvnTibxu", valued := "tS", optional := "UB", long := longNames }
  fun g => toDest "mv" "mv: overwrite " true (unfolded g) (moveTo (unfolded g))

/-- Gives a node a second name, or makes a link that stands for a path. -/
def linkTo (g : Given) (p d : Text) : Act := fun t =>
  let fail := fun (what : Text) => refusing (objection "ln" what 1) t
  let isSymbolic := g.has 's'
  let what := if isSymbolic then "failed to create symbolic link ".toList else "failed to create hard link ".toList
  let said := fun (told : Text) => quoted d ++ (if isSymbolic then " -> ".toList else " => ".toList) ++ quoted p ++ told
  match if isSymbolic then .ok ([], .link ⟨0, 0⟩ []) else if g.has 'L' then t.find p else t.entry p with
  | .error e => refusing (complain "ln" "failed to access " (quoted p) e 1) t
  | .ok (a, n) =>
    if n.isDir then fail (p ++ ": hard link not allowed for directory".toList)
    else
      let old := t.entry d
      let isSame := !isSymbolic && (old.toOption.any fun x => x.1 = a || t.serial? x.1 = t.serial? a)
      if isSame && g.has 'f' && (old.toOption.any fun x => x.1 = a) then fail (same p d)
      else if (old.toOption.any fun x => x.2.isDir) && g.has 'f' then fail (d ++ ": cannot overwrite directory".toList)
      else
        let (u, told) := saved g t d
        let u := if g.hasAny "fi" then (u.removeFile d).toOption.getD u else u
        let source := if isSymbolic && g.has 'r' then
            match Inquiry.ending u .nothing p, Inquiry.ending u .nothing ((Path.parent? d).filter (!·.isEmpty) |>.getD ['.']) with
            | .ok b, .ok dir => Inquiry.wayFrom dir b
            | _, _ => p
          else p
        let made := do
          let s ← u.locate d
          match ← u.lookUp s with
          | some _ => .error IoFault.alreadyExists
          | none =>
            if s.slash || isSymbolic && p.isEmpty then .error .notFound
            else if isSymbolic then .ok (u.add s.address (u.newLink source))
            else match u.serial? a with
              | some k => .ok (u.name s.address k)
              | none => .error .notFound
        match made with
        | .ok u => saying (g.has 'v') (said told) u
        | .error e =>
          let shown := if isSymbolic && p.isEmpty then quoted d ++ " -> ".toList ++ quoted p
            else if isSymbolic || e = .alreadyExists then quoted d
            else quoted d ++ " => ".toList ++ quoted p
          refusing (complain "ln" "" (what ++ shown) e 1) t

def ln : Tool := program "ln" 1
  { plain := "sfnTvirPLbdF", valued := "tS",
    long := [("symbolic", 's'), ("force", 'f'), ("no-dereference", 'n'), ("no-target-directory", 'T'), ("verbose", 'v'),
      ("interactive", 'i'), ("relative", 'r'), ("physical", 'P'), ("logical", 'L'), ("backup", 'b'), ("suffix", 'S'),
      ("target-directory", 't')] }
  fun g args m =>
    let many := toDest "ln" "ln: replace " (!g.has 'n') g (linkTo g)
    match args with
    | [p] => if (g.value? 't').isSome then many args m else each [fun t => linkTo g p (target t g true p ['.']) t] m
    | args => many args m

def link : Tool := program "link" 1 { plain := "" } fun g args m =>
  match args with
  | [p, d] => each [fun t => linkTo g p d t] m
  | [p] => misused "link" ("missing operand after ".toList ++ literal p) 1 m
  | [] => missing "link" m
  | _ :: _ :: p :: _ => misused "link" ("extra operand ".toList ++ literal p) 1 m

/-- Makes a directory and those that it is in. -/
def withDirs (g : Given) (mode : Option Nat) (p : Text) : Act :=
  makeAll (if g.has 'v' then some "install: creating directory " else none) mode (steps p)

/-- A copy that can be run unless something else is said. -/
def installTo (g : Given) (mode : Nat) (p d : Text) : Act := fun t =>
  let r := if g.has 'D' then withDirs g none ((Path.parent? d).getD []) t else (t, [], none)
  match t.find p, r.1.find d with
  | .error e, _ => refusing (complain "install" "cannot stat " (quoted p) e 1) t
  | .ok (_, .dir _), _ => refusing (objection "install" ("omitting directory ".toList ++ quoted p) 1) t
  | .ok (_, n), old =>
    let (u, told) := saved g r.1 d
    let removed := if u.hasName d && !u.isDirAt d && g.has 'v' then lineOf ("removed ".toList ++ quoted d) else []
    let u := if old.isOk || u.isLinkAt d then (u.removeFile d).toOption.getD u else u
    let content := match n with
      | .file _ c => c
      | _ => []
    let time := if g.has 'p' then n.time else u.now
    match if d.getLast? = some '/' then .error .notDirectory else u.make d (.file ⟨mode, time⟩ content) with
    | .ok u =>
      (u, r.2.1 ++ removed ++ if g.has 'v' then lineOf (quoted p ++ " -> ".toList ++ quoted d ++ told) else [], none)
    | .error e => refusing (complain "install" "cannot create regular file " (quoted d) e 1) t

/-- Copies files, which can be run unless something else is said, or makes directories. -/
def install : Tool := program "install" 1
  { plain := "dDvTpCscb", valued := "mtogS",
    long := [("directory", 'd'), ("verbose", 'v'), ("no-target-directory", 'T'), ("preserve-timestamps", 'p'),
      ("backup", 'b'), ("mode", 'm'), ("target-directory", 't'), ("owner", 'o'), ("group", 'g'), ("strip", 's'),
      ("compare", 'C'), ("suffix", 'S')] }
  fun g args m =>
    let change := (g.value? 'm').map Rights.ofText?
    let mode := ((change.bind id).map (Rights.after 0 (g.has 'd') 0)).getD 0o755
    if change = some none then
      m.tell .err ("install: invalid mode ".toList ++ literal ((g.value? 'm').getD []) ++ ['\n']) 1
    else if g.has 'd' then
      if args.isEmpty then misused "install" "missing file operand".toList 1 m
      else each (args.map (withDirs g (some mode))) m
    else
      let inDir := (g.value? 't').filter fun _ => g.has 'D'
      let m := match inDir with
        | some d => (each [withDirs g none d] m).machine
        | none => m
      toDest "install" "" true g (installTo g mode) args m

def all : List (Text × Tool) :=
  [("cp".toList, cp), ("mv".toList, mv), ("ln".toList, ln), ("link".toList, link),
   ("install".toList, install)]

end Copy

end Guidebook.Shell
