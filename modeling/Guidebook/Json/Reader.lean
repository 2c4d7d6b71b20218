import Guidebook.Json.Basic
import Guidebook.Text.Utf8

namespace Guidebook.Json

/-- One written character of a string: a character, an escape for half of a surrogate pair, or bytes
that are no character. -/
inductive Glyph where
  | char (c : Char)
  | half (n : Nat)
  | stray

def isHighHalf (n : Nat) : Bool := 0xD800 ≤ n && n < 0xDC00

def isLowHalf (n : Nat) : Bool := 0xDC00 ≤ n && n < 0xE000

def glyph (n : Nat) : Glyph := if isHighHalf n || isLowHalf n then .half n else .char (Char.ofNat n)

/-- The text that glyphs spell, if every half stands in a pair and nothing is stray. -/
def spell : List Glyph → Option Text
  | [] => some []
  | .char c :: gs => (spell gs).map (c :: ·)
  | .half h :: .half l :: gs =>
    if isHighHalf h && isLowHalf l then
      (spell gs).map (Char.ofNat (0x10000 + (h - 0xD800) * 0x400 + (l - 0xDC00)) :: ·)
    else none
  | .half _ :: _ => none
  | .stray :: _ => none

/-- What is open around the place that has been read up to, its contents newest first. A key may
spell no text. -/
inductive Frame where
  | items (done : List Json)
  | members (done : List (Option Text × Json))
  | member (done : List (Option Text × Json)) (key : Option Text)

/-- The object with these members. -/
def ofMembers (ms : List (Option Text × Json)) : Json :=
  match ms.mapM fun (k, v) => k.map (·, v) with
  | some ms => .obj ms
  | none => .garbled

/-- What may come next. -/
inductive Place where
  | value
  | valueOrClose
  | key
  | keyOrClose
  | colon
  | next
  | whole (v : Json)
  | word (seen : Text)
  | string (isKey : Bool) (seen : List Glyph)
  | escape (isKey : Bool) (seen : List Glyph)
  | hex (isKey : Bool) (seen : List Glyph) (left value : Nat)

structure Reader where
  place : Place
  stack : List Frame

def Reader.start : Reader := ⟨.value, []⟩

/-- A complete value goes into what is open around it. -/
def Reader.put (v : Json) : List Frame → Option Reader
  | [] => some ⟨.whole v, []⟩
  | .items done :: s => some ⟨.next, .items (v :: done) :: s⟩
  | .member done k :: s => some ⟨.next, .members ((k, v) :: done) :: s⟩
  | .members _ :: _ => none

/-- A complete string is a value or the key of the member that follows. -/
def Reader.putString (isKey : Bool) (seen : List Glyph) (stack : List Frame) : Option Reader :=
  match isKey, spell seen.reverse, stack with
  | false, some t, s => put (.str t) s
  | false, none, s => put .garbled s
  | true, t, .members done :: s => some ⟨.colon, .member done t :: s⟩
  | true, _, _ => none

def isSpace (c : Char) : Bool := c = ' ' || c = '\n' || c = '\t' || c = '\r'

def isWordChar (c : Char) : Bool := c.isAlphanum || c = '-' || c = '+' || c = '.'

def isExponent (t : Text) : Bool :=
  match t with
  | [] => true
  | e :: '+' :: ds => (e = 'e' || e = 'E') && Text.isDigits ds
  | e :: '-' :: ds => (e = 'e' || e = 'E') && Text.isDigits ds
  | e :: ds => (e = 'e' || e = 'E') && Text.isDigits ds

/-- What may follow the whole part of a number. -/
def isFraction (t : Text) : Bool :=
  match t with
  | '.' :: ds => Text.isDigits (ds.takeWhile Char.isDigit) && isExponent (ds.dropWhile Char.isDigit)
  | _ => isExponent t

/-- A number in decimal, without a leading plus sign or needless zeros. -/
def isNumber (t : Text) : Bool :=
  let digits := match t with
    | '-' :: ds => ds
    | ds => ds
  match digits with
  | '0' :: r => isFraction r
  | _ => Text.isDigits (digits.takeWhile Char.isDigit) && isFraction (digits.dropWhile Char.isDigit)

def word? (t : Text) : Option Json :=
  if t = "null".toList then some .null
  else if t = "true".toList then some (.bool true)
  else if t = "false".toList then some (.bool false)
  else if isNumber t then some (.num t)
  else none

def escaped? (c : Char) : Option Char :=
  if c = '"' ∨ c = '\\' ∨ c = '/' then some c
  else if c = 'b' then some '\x08'
  else if c = 'f' then some '\x0c'
  else if c = 'n' then some '\n'
  else if c = 'r' then some '\r'
  else if c = 't' then some '\t'
  else none

def hexValue? (c : Char) : Option Nat :=
  if c.isDigit then some (c.toNat - 48)
  else if 'a' ≤ c ∧ c ≤ 'f' then some (c.toNat - 87)
  else if 'A' ≤ c ∧ c ≤ 'F' then some (c.toNat - 55)
  else none

def openValue (c : Char) (s : List Frame) : Option Reader :=
  if c = '[' then some ⟨.valueOrClose, .items [] :: s⟩
  else if c = '\x7b' then some ⟨.keyOrClose, .members [] :: s⟩
  else if c = '"' then some ⟨.string false [], s⟩
  else if isWordChar c then some ⟨.word [c], s⟩
  else none

def close (c : Char) : List Frame → Option Reader
  | .items done :: s => if c = ']' then Reader.put (.arr done.reverse) s else none
  | .members done :: s => if c = '\x7d' then Reader.put (ofMembers done.reverse) s else none
  | _ => none

def afterValue (c : Char) : List Frame → Option Reader
  | .items done :: s =>
    if c = ',' then some ⟨.value, .items done :: s⟩ else close c (.items done :: s)
  | .members done :: s =>
    if c = ',' then some ⟨.key, .members done :: s⟩ else close c (.members done :: s)
  | _ => none

/-- A character outside of words and strings. -/
def Reader.mark (r : Reader) (c : Char) : Option Reader :=
  if isSpace c then some r
  else match r.place with
    | .value => openValue c r.stack
    | .valueOrClose => if c = ']' then close c r.stack else openValue c r.stack
    | .key => if c = '"' then some ⟨.string true [], r.stack⟩ else none
    | .keyOrClose =>
      if c = '\x7d' then close c r.stack
      else if c = '"' then some ⟨.string true [], r.stack⟩
      else none
    | .colon => if c = ':' then some ⟨.value, r.stack⟩ else none
    | .next => afterValue c r.stack
    | _ => none

def Reader.step (r : Reader) (c : Char) : Option Reader :=
  match r.place with
  | .word seen =>
    if isWordChar c then some ⟨.word (c :: seen), r.stack⟩
    else do (← put (← word? seen.reverse) r.stack).mark c
  | .string k seen =>
    if c = '"' then putString k seen r.stack
    else if c = '\\' then some ⟨.escape k seen, r.stack⟩
    else if c.toNat < 32 then none
    else some ⟨.string k (.char c :: seen), r.stack⟩
  | .escape k seen =>
    if c = 'u' then some ⟨.hex k seen 3 0, r.stack⟩
    else do some ⟨.string k (.char (← escaped? c) :: seen), r.stack⟩
  | .hex k seen left value => do
    let n := 16 * value + (← hexValue? c)
    match left with
    | 0 => some ⟨.string k (glyph n :: seen), r.stack⟩
    | left + 1 => some ⟨.hex k seen left n, r.stack⟩
  | _ => r.mark c

/-- What is read next is a character or, within a string, perhaps none. -/
def Reader.take (r : Reader) : Option Char → Option Reader
  | some c => r.step c
  | none =>
    match r.place with
    | .string k seen => some ⟨.string k (.stray :: seen), r.stack⟩
    | _ => none

def Reader.finish (r : Reader) : Option Json :=
  match r.place, r.stack with
  | .whole v, [] => some v
  | .word seen, [] => word? seen.reverse
  | _, _ => none

/-- The value that is written down, with blanks allowed around every part of it. -/
def readSigns (ss : List (Option Char)) : Option Json := do
  (← ss.foldlM Reader.take Reader.start).finish

/-- The value a text writes down. -/
def read (t : Text) : Option Json := readSigns (t.map some)

/-- The value that bytes write down. Its strings need not all be texts. -/
def readBytes (bs : Bytes) : Option Json := readSigns (Utf8.signs bs)

end Guidebook.Json
