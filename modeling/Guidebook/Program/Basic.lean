import Guidebook.FileTree.Basic
import Guidebook.Program.Payload

/-!
A program may end in a payload and a trailer, which is the length of the payload in eight bytes and
a mark in eight more.
-/

namespace Guidebook.Program

def mark : Bytes := Utf8.encode "WLKBOOK\x01".toList

def lengthSize : Nat := 8

def trailerSize : Nat := 16

/-- The lowest `k` bytes of a number, lowest first. -/
def littleEndian : Nat → Nat → Bytes
  | 0, _ => []
  | k + 1, n => n.toUInt8 :: littleEndian k (n / 256)

def ofLittleEndian : Bytes → Nat
  | [] => 0
  | b :: bs => b.toNat + 256 * ofLittleEndian bs

def trailer (n : Nat) : Bytes := littleEndian lengthSize n ++ mark

/-- Where the payload starts and where it ends, if there is a trailer for one that fits. -/
def locate (bs : Bytes) : Option (Nat × Nat) :=
  if bs.length < trailerSize ∨ ¬ mark.isSuffixOf bs then none
  else
    let last := bs.length - trailerSize
    let n := ofLittleEndian ((bs.drop last).take lengthSize)
    if n ≤ last then some (last - n, last) else none

/-- The program without its payload. -/
def strip (bs : Bytes) : Bytes :=
  match locate bs with
  | some (first, _) => bs.take first
  | none => bs

/-- The program with a payload, which takes the place of the one that is there. -/
def embed (bs : Bytes) (p : Payload) : Bytes :=
  let content := p.encode
  strip bs ++ content ++ trailer content.length

def extract (bs : Bytes) : Except Payload.Defect (Option Payload) :=
  match locate bs with
  | none => .ok none
  | some (first, last) => (Payload.decode ((bs.take last).drop first)).map some

/-- Some bytes of a file from a place in it. -/
def readAt (file : Bytes) (place count : Nat) : Bytes := (file.drop place).take count

/-- What a program finds in its own file when it starts. It reads the trailer first and then no more
than the payload. -/
def load (file : Bytes) : Except Payload.Defect (Option Payload) :=
  if file.length < trailerSize then .ok none
  else
    let last := file.length - trailerSize
    let tail := readAt file last trailerSize
    if tail.drop lengthSize ≠ mark then .ok none
    else
      let n := ofLittleEndian (tail.take lengthSize)
      if last < n then .error .truncated
      else (Payload.decode (readAt file (last - n) n)).map some

/-- The directory that a program is written to. -/
def folderOf (output : Text) : Text := ((Path.parent? output).filter (!·.isEmpty)).getD ['.']

def tempName : Text := ".walkbook-".toList

/-- Gives a finished file its name, or takes it away if that fails. -/
def persist (t : FileTree) (temp output : Text) : FileTree × Except IoFault Unit :=
  match t.rename temp output with
  | .ok t => (t, .ok ())
  | .error e => ((t.removeFile temp).toOption.getD t, .error e)

/-- Writes a program with a payload beside where it is to be and then moves it there, so that an
older one is whole until then. -/
def write (program : Bytes) (p : Payload) (output : Text) (t : FileTree) :
    FileTree × Except Fault Unit :=
  let folder := folderOf output
  match t.makePath folder with
  | (t, .error e) => (t, .error ((Fault.ofIo e).within ("Failed to create ".toList ++ folder)))
  | (t, .ok ()) =>
    match t.makeTemp folder tempName [] true (embed program p) with
    | .error e =>
      (t, .error ((Fault.ofIo e).within ("Failed to create a temporary file in ".toList ++ folder)))
    | .ok (t, temp) =>
      match persist t temp output with
      | (t, .ok ()) => (t, .ok ())
      | (t, .error e) =>
        (t, .error (((Fault.ofIo e).within ("failed to persist temporary file: ".toList ++ e.message)).within
          ("Failed to write ".toList ++ output)))

end Guidebook.Program
