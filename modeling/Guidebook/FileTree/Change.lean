import Guidebook.FileTree.Basic

namespace Guidebook

/-- What somebody else does to a file tree. -/
inductive Change where
  | put (path : Text) (content : Bytes)
  | dir (path : Text)
  | remove (path : Text)
  deriving DecidableEq, Repr

namespace FileTree

/-- Takes away a node and all that is below it. -/
def prune (t : FileTree) (a : Address) : FileTree :=
  { t with nodes := t.nodes.filter fun (b, _) => !a.isPrefixOf b }

/-- Makes a change as far as it can be made. Missing parents are made first. -/
def change (t : FileTree) : Change → FileTree
  | .put p c =>
    let t := (t.makePath ((Path.parent? p).getD [])).1
    (t.write p c).toOption.getD t
  | .dir p => (t.makePath p).1
  | .remove p =>
    match t.find p with
    | .ok (a, _) => t.prune a
    | .error _ => t

/-- What is below an address, under its path from there. -/
def below (t : FileTree) (a : Address) : List (Text × Node) :=
  (t.nodes.filter fun (b, _) => a.isPrefixOf b && b != a).map fun (b, n) =>
    (['/'].intercalate (b.drop a.length), n)

/-- A root directory that holds an empty directory under each of these addresses. -/
def ofDirs (here : Address) (dirs : List Address) : FileTree :=
  { nodes := dirs.map fun a => (a, .dir), here }

end FileTree

end Guidebook
