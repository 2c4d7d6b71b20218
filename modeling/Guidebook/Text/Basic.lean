namespace Guidebook

/-- Text is the list of its characters, so that a rule on text is an induction. -/
abbrev Text := List Char

abbrev Bytes := List UInt8

namespace Text

/-- The characters with the Unicode property White_Space. -/
def isBlank (c : Char) : Bool :=
  (9 ≤ c.toNat && c.toNat ≤ 13) || c.toNat == 32 || c.toNat == 0x85 || c.toNat == 0xA0 ||
  c.toNat == 0x1680 || (0x2000 ≤ c.toNat && c.toNat ≤ 0x200A) || c.toNat == 0x2028 ||
  c.toNat == 0x2029 || c.toNat == 0x202F || c.toNat == 0x205F || c.toNat == 0x3000

def trimStart (t : Text) : Text := t.dropWhile isBlank

def trimEnd (t : Text) : Text := (t.reverse.dropWhile isBlank).reverse

def trim (t : Text) : Text := trimEnd (trimStart t)

def allBlank (t : Text) : Bool := t.all isBlank

/-- The lines of a text. A line ends before a line feed, or before a carriage return that stands
directly before one; what follows the last line feed is a line unless it is empty. -/
def lines : Text → List Text
  | [] => []
  | '\n' :: cs => [] :: lines cs
  | '\r' :: '\n' :: cs => [] :: lines cs
  | c :: cs =>
    match lines cs with
    | [] => [[c]]
    | l :: ls => (c :: l) :: ls

def joinLines (ls : List Text) : Text := ['\n'].intercalate ls

/-- The parts between the characters that satisfy `p`: always one more than there are of them. -/
def pieces (p : Char → Bool) : Text → List Text
  | [] => [[]]
  | c :: cs =>
    if p c then [] :: pieces p cs
    else match pieces p cs with
      | [] => [[c]]
      | w :: ws => (c :: w) :: ws

/-- The maximal runs of characters that are not blank. -/
def words (t : Text) : List Text := (pieces isBlank t).filter (!·.isEmpty)

/-- What stands before and after the first occurrence of `c`. -/
def cut? (c : Char) : Text → Option (Text × Text)
  | [] => none
  | d :: ds => if d = c then some ([], ds) else (cut? c ds).map fun (a, b) => (d :: a, b)

/-- ASCII letters made small, every other character kept. -/
def lower (t : Text) : Text := t.map Char.toLower

/-- Every occurrence of `old`, from the left and without overlap, replaced by `new`. -/
def replace (old new : Text) (t : Text) : Text := go 0 t
where
  go : Nat → Text → Text
    | _, [] => []
    | skip + 1, _ :: cs => go skip cs
    | 0, c :: cs =>
      if old ≠ [] ∧ old.isPrefixOf (c :: cs) then new ++ go (old.length - 1) cs
      else c :: go 0 cs

/-- The answer means yes: `y` or `yes` in any case. -/
def isYes (t : Text) : Bool := lower t == "y".toList || lower t == "yes".toList

theorem pieces_ne_nil (p : Char → Bool) (t : Text) : pieces p t ≠ [] := by
  cases t with
  | nil => simp [pieces]
  | cons c cs =>
    rw [pieces]
    split
    · simp
    · split <;> simp

theorem trimStart_append_of_blank {a b : Text} (h : ∀ c ∈ a, isBlank c) :
    trimStart (a ++ b) = trimStart b := by
  induction a with
  | nil => rfl
  | cons c cs ih =>
    have hc : isBlank c = true := h c (by simp)
    simpa [trimStart, hc] using ih fun d hd => h d (by simp [hd])

end Text

end Guidebook
