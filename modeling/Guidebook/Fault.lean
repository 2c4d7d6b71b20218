import Guidebook.Text.Digit

namespace Guidebook

/-- Why a file operation can fail. -/
inductive IoFault where
  | notFound
  | notDirectory
  | isDirectory
  | alreadyExists
  | notEmpty
  | nameTooLong
  | busy
  | denied
  | notUtf8
  | nulInName
  | noRoot
  | endless
  deriving DecidableEq, Repr

def IoFault.message : IoFault → Text
  | .notFound => "No such file or directory (os error 2)".toList
  | .notDirectory => "Not a directory (os error 20)".toList
  | .isDirectory => "Is a directory (os error 21)".toList
  | .alreadyExists => "File exists (os error 17)".toList
  | .notEmpty => "Directory not empty (os error 39)".toList
  | .nameTooLong => "File name too long (os error 36)".toList
  | .busy => "Device or resource busy (os error 16)".toList
  | .denied => "Permission denied (os error 13)".toList
  | .notUtf8 => "stream did not contain valid UTF-8".toList
  | .nulInName => "file name contained an unexpected NUL byte".toList
  | .noRoot => "failed to create whole tree".toList
  | .endless => "Too many levels of symbolic links (os error 40)".toList

/-- A failure as it is told: what failed first, then what caused it, outermost first. -/
structure Fault where
  what : Text
  causes : List Text
  deriving DecidableEq, Repr

namespace Fault

def ofIo (e : IoFault) : Fault := ⟨e.message, []⟩

def within (context : Text) (f : Fault) : Fault := ⟨context, f.what :: f.causes⟩

/-- The failure on one line. -/
def line (f : Fault) : Text := ": ".toList.intercalate (f.what :: f.causes)

def indentLines (first rest : Text) (t : Text) : Text :=
  match Text.pieces (· == '\n') t with
  | [] => first
  | l :: ls => first ++ l ++ (ls.map fun m => '\n' :: rest ++ m).flatten

/-- The failure over several lines: causes are indented, and numbered if there are several. -/
def report (f : Fault) : Text :=
  "Error: ".toList ++ f.what ++
    match f.causes with
    | [] => []
    | [c] => "\n\nCaused by:\n".toList ++ indentLines "    ".toList "    ".toList c
    | cs => "\n\nCaused by:".toList ++ (cs.zipIdx.map fun (c, i) =>
        let n := Text.ofNat i
        '\n' :: indentLines (List.replicate (5 - n.length) ' ' ++ n ++ ": ".toList)
          "       ".toList c).flatten

end Fault

end Guidebook
