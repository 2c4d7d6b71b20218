import Guidebook.Shell.Condition

namespace Guidebook.Shell

/-! Days and moments: how they are counted, told and read. Moments are seconds from the beginning of 1970 on. -/

namespace Calendar

/-- A day, from how many days it is after the first one of 1970: its year, its month and its day there.
Years begin in March, so that the day that is there in some years only is the last one. -/
def civil (days : Int) : Int × Nat × Nat :=
  let z := days + 719468
  let era := z / 146097
  let inEra := (z % 146097).toNat
  let year := (inEra - inEra / 1460 + inEra / 36524 - inEra / 146096) / 365
  let inYear := inEra - (365 * year + year / 4 - year / 100)
  let part := (5 * inYear + 2) / 153
  let month := if part < 10 then part + 3 else part - 9
  ((year : Int) + era * 400 + if month ≤ 2 then 1 else 0, month, inYear - (153 * part + 2) / 5 + 1)

def daysOf (year : Int) (month day : Nat) : Int :=
  let y := if month ≤ 2 then year - 1 else year
  let era := y / 400
  let inEra := (y % 400).toNat
  let inYear := (153 * (if 2 < month then month - 3 else month + 9) + 2) / 5 + day - 1
  era * 146097 + ((inEra * 365 + inEra / 4 - inEra / 100 + inYear : Nat) : Int) - 719468

/-- Whether a month has a day. -/
def isDay (year : Int) (month day : Nat) : Bool := civil (daysOf year month day) = (year, month, day)

def dayNames : List Text :=
  ["Thursday", "Friday", "Saturday", "Sunday", "Monday", "Tuesday", "Wednesday"].map String.toList

def monthNames : List Text :=
  ["January", "February", "March", "April", "May", "June", "July", "August", "September", "October",
   "November", "December"].map String.toList

/-- What a letter of a format stands for: a text, or a number that is filled up to a width. -/
inductive Shown where
  | text (t : Text)
  | number (i : Int) (width : Nat) (fill : Char)

/-- The days of a moment and the seconds of its day. -/
def halves (seconds : Int) : Int × Nat := (seconds / 86400, (seconds % 86400).toNat)

/-- The year and the week of a day, where weeks begin on Mondays and belong to the year of their Thursday. -/
def week (days : Int) : Int × Int :=
  let thursday := days - (days + 3) % 7 + 3
  let year := (civil thursday).1
  (year, (thursday - daysOf year 1 1) / 7 + 1)

/-- What letters stand for that are made of others. -/
def parts : List (Char × Text) :=
  [('F', "%Y-%m-%d"), ('T', "%H:%M:%S"), ('X', "%H:%M:%S"), ('R', "%H:%M"), ('D', "%m/%d/%y"), ('x', "%m/%d/%y"),
   ('c', "%a %b %e %H:%M:%S %Y"), ('r', "%I:%M:%S %p")].map fun p => (p.1, p.2.toList)

def letter? (seconds : Int) (c : Char) : Option Shown :=
  let (days, rest) := halves seconds
  let (year, month, day) := civil days
  let hour := rest / 3600
  let twelve : Nat := if hour % 12 = 0 then 12 else hour % 12
  let inYear := days - daysOf year 1 1
  let weekday := (days + 4) % 7
  let two := fun (i : Int) => some (Shown.number i 2 '0')
  let spaced := fun (i : Int) => some (Shown.number i 2 ' ')
  let dayName := (dayNames[(days % 7).toNat]?).getD []
  let monthName := (monthNames[month - 1]?).getD []
  match c with
  | 'Y' => some (.number year 1 '0')
  | 'y' => two (year % 100)
  | 'C' => two (year / 100)
  | 'G' => some (.number (week days).1 1 '0')
  | 'g' => two ((week days).1 % 100)
  | 'V' => two (week days).2
  | 'U' => two ((inYear + 7 - weekday) / 7)
  | 'W' => two ((inYear + 7 - (weekday + 6) % 7) / 7)
  | 'm' => two month
  | 'd' => two day
  | 'e' => spaced day
  | 'H' => two hour
  | 'k' => spaced hour
  | 'I' => two twelve
  | 'l' => spaced twelve
  | 'M' => two (rest / 60 % 60 : Nat)
  | 'S' => two (rest % 60 : Nat)
  | 's' => some (.number seconds 1 '0')
  | 'N' => some (.number 0 9 '0')
  | 'p' => some (.text (if hour < 12 then ['A', 'M'] else ['P', 'M']))
  | 'P' => some (.text (if hour < 12 then ['a', 'm'] else ['p', 'm']))
  | 'j' => some (.number (inYear + 1) 3 '0')
  | 'u' => some (.number ((days + 3) % 7 + 1) 1 '0')
  | 'w' => some (.number weekday 1 '0')
  | 'q' => some (.number ((month - 1) / 3 + 1 : Nat) 1 '0')
  | 'a' => some (.text (dayName.take 3))
  | 'A' => some (.text dayName)
  | 'b' | 'h' => some (.text (monthName.take 3))
  | 'B' => some (.text monthName)
  | 'Z' => some (.text "UTC".toList)
  | 'z' => some (.text "+0000".toList)
  | 'n' => some (.text ['\n'])
  | 't' => some (.text ['\t'])
  | '%' => some (.text ['%'])
  | _ => none

/-- A part of a format with what has been said about its case, its filling and its width. -/
def filled (flags : Text) (width : Option Nat) (s : Shown) : Text :=
  let plain := flags.contains '-'
  let pad := fun (c : Char) (k : Nat) (t : Text) => List.replicate (k - t.length) c ++ t
  let t := match s with
    | .text t => if plain then t else pad (if flags.contains '0' then '0' else ' ') (width.getD 0) t
    | .number i k c =>
      let c := if flags.contains '_' then ' ' else if flags.contains '0' then '0' else c
      let ds := Text.ofNat i.natAbs
      let ds := if plain then ds else pad c (width.getD k) ds
      if i < 0 then '-' :: ds else ds
  if flags.contains '^' then t.map Char.toUpper else t

/-- A moment filled into a format. -/
def shown (seconds : Int) : Nat → Text → Text
  | 0, _ | _, [] => []
  | n + 1, '%' :: cs =>
    let flags := cs.takeWhile "-_0^#".toList.contains
    let ds := (cs.drop flags.length).takeWhile Char.isDigit
    let width := if ds.isEmpty then none else some (Text.digitsValue ds)
    match cs.drop (flags.length + ds.length) with
    | ':' :: 'z' :: rest => "+00:00".toList ++ shown seconds n rest
    | c :: rest =>
      let (c, rest) := match c, rest with
        | 'E', d :: rest | 'O', d :: rest => (d, rest)
        | c, rest => (c, rest)
      match parts.lookup c, letter? seconds c with
      | some f, _ => filled flags width (.text (shown seconds n f)) ++ shown seconds n rest
      | none, some s => filled flags width s ++ shown seconds n rest
      | none, none => '%' :: cs.take (cs.length - rest.length) ++ shown seconds n rest
    | [] => '%' :: cs
  | n + 1, c :: cs => c :: shown seconds n cs

/-- What has been read about a moment: its day, or how many days from now it is, its second there, and what is
added to it in months, days and seconds. -/
structure Told where
  day : Option (Int × Nat × Nat)
  ahead : Option Int
  second : Option Int
  months : Int
  days : Int
  seconds : Int

def units : List (Text × (Int → Told → Told)) :=
  let seconds := fun (k n : Int) (t : Told) => { t with seconds := t.seconds + k * n }
  let days := fun (k n : Int) (t : Told) => { t with days := t.days + k * n }
  let months := fun (k n : Int) (t : Told) => { t with months := t.months + k * n }
  [("sec", seconds 1), ("second", seconds 1), ("min", seconds 60), ("minute", seconds 60), ("hour", seconds 3600),
   ("day", days 1), ("week", days 7), ("fortnight", days 14), ("month", months 1), ("year", months 12)].map
    fun u => (u.1.toList, u.2)

/-- A unit, which may be named in the plural. -/
def unit? (t : Text) : Option (Int → Told → Told) :=
  let t := Text.lower t
  (units.lookup t).orElse fun _ => if t.getLast? = some 's' then units.lookup t.dropLast else none

/-- The number of a name that may be cut after its third letter. -/
def named? (names : List Text) (t : Text) : Option Nat :=
  let t := Text.lower t
  names.findIdx? fun n => let n := Text.lower n; n = t || n.take 3 = t

def integers? (c : Char) (t : Text) : Option (List Nat) :=
  (Text.pieces (· == c) t).mapM fun d => if Text.isDigits d then some (Text.digitsValue d) else none

def day? (y m d : Nat) : Option (Int × Nat × Nat) :=
  if 1 ≤ m && m ≤ 12 && 1 ≤ d && isDay y m d then some (y, m, d) else none

def clock? (t : Text) : Option Int :=
  let whole := t.takeWhile fun c => c ≠ '.' && c ≠ 'Z'
  match integers? ':' whole with
  | some [h, m] => if h < 24 && m < 60 then some (3600 * h + 60 * m : Nat) else none
  | some [h, m, s] => if h < 24 && m < 60 && s < 61 then some (3600 * h + 60 * m + s : Nat) else none
  | _ => none

/-- How far a clock is ahead. -/
def zone? (t : Text) : Option Int :=
  match t with
  | s :: ds =>
    let ds := ds.filter (· ≠ ':')
    if (s = '+' || s = '-') && Text.isDigits ds && ds.length = 4 then
      let n := Text.digitsValue ds
      let k : Int := (n / 100 * 3600 + n % 100 * 60 : Nat)
      some (if s = '-' then -k else k)
    else none
  | [] => none

def isAfternoon? (t : Text) : Option Bool :=
  let t := Text.lower t
  if t = "pm".toList then some true else if t = "am".toList then some false else none

def hour? (h : Nat) (afternoon : Bool) : Option Int :=
  if 1 ≤ h && h ≤ 12 then some (3600 * (h % 12 + if afternoon then 12 else 0) : Nat) else none

/-- What a word tells by itself. -/
def single? (base : Int) (t : Told) (w : Text) : Option Told :=
  let l := Text.lower w
  let is := fun (s : String) => l = s.toList
  if is "now" || is "today" || is "utc" || is "gmt" || is "z" then some t
  else if is "yesterday" then some { t with days := t.days - 1 }
  else if is "tomorrow" then some { t with days := t.days + 1 }
  else match clock? w, named? dayNames w with
    | some s, _ => some { t with second := some s }
    | none, some k =>
      some { t with ahead := some (((k : Int) - base / 86400) % 7), second := t.second.orElse fun _ => some 0 }
    | none, none =>
      match integers? '-' w, integers? '/' w with
      | some [y, m, d], _ => (day? y m d).map fun x => { t with day := some x }
      | _, some [m, d, y] => (day? y m d).map fun x => { t with day := some x }
      | _, _ =>
        if Text.isDigits w && w.length = 8 then
          let n := Text.digitsValue w
          (day? (n / 10000) (n / 100 % 100) (n % 100)).map fun x => { t with day := some x }
        else match Text.cut? 'T' w with
          | some (d, c) =>
            match integers? '-' d, clock? (c.takeWhile fun c => c.isDigit || c = ':' || c = '.') with
            | some [y, m, d], some s =>
              let rest := c.dropWhile fun c => c.isDigit || c = ':' || c = '.'
              let ahead := if rest.isEmpty || rest = ['Z'] then some 0 else zone? rest
              (day? y m d).bind fun x => ahead.map fun k =>
                { t with day := some x, second := some s, seconds := t.seconds - k }
            | _, _ => none
          | none =>
            let ds := w.takeWhile Char.isDigit
            (isAfternoon? (w.drop ds.length)).bind fun p =>
              if ds.isEmpty then none
              else (hour? (Text.digitsValue ds) p).map fun s => { t with second := some s }

/-- A number with a sign, and what follows it in the same word. -/
def amount? (w : Text) : Option (Int × Text) :=
  let (negative, ds) := match w with
    | '-' :: ds => (true, ds)
    | '+' :: ds => (false, ds)
    | ds => (false, ds)
  let n := ds.takeWhile Char.isDigit
  if n.isEmpty then none
  else
    let i : Int := Text.digitsValue n
    some (if negative then -i else i, ds.drop n.length)

/-- Reads words one after the other. -/
def told? (base : Int) : Nat → Told → List Text → Option Told
  | 0, _, _ => none
  | _, t, [] => some t
  | n + 1, t, w :: ws =>
    let add := fun (k : Int) (u : Int → Told → Told) (ws : List Text) =>
      match ws with
      | a :: rest => if Text.lower a = "ago".toList then told? base n (u (-k) t) rest else told? base n (u k t) ws
      | [] => told? base n (u k t) []
    let plainly := fun (_ : Unit) => (single? base t w).bind fun t => told? base n t ws
    match w, ws with
    | ['+'], v :: rest => told? base n t (('+' :: v) :: rest)
    | ['-'], v :: rest => told? base n t (('-' :: v) :: rest)
    | _, _ =>
      let l := Text.lower w
      match if l = "next".toList then some (1 : Int) else if l = "last".toList then some (-1) else none, ws with
      | some k, v :: rest =>
        match unit? v, named? dayNames v with
        | some u, _ => told? base n (u k t) rest
        | none, some d =>
          let ahead := ((d : Int) - base / 86400) % 7
          let days := if k < 0 then ahead - 7 else if ahead = 0 then 7 else ahead
          told? base n { t with ahead := some days, second := t.second.orElse fun _ => some 0 } rest
        | none, none => none
      | _, _ =>
        match if t.second.isSome then zone? w else none with
        | some k => told? base n { t with seconds := t.seconds - k } ws
        | none =>
          match named? monthNames w, ws with
          | some m, d :: y :: rest =>
            if Text.isDigits d && Text.isDigits y then
              (day? (Text.digitsValue y) (m + 1) (Text.digitsValue d)).bind fun x =>
                told? base n { t with day := some x } rest
            else none
          | _, _ =>
            match amount? w, ws with
            | some (k, []), v :: rest =>
              match unit? v, named? monthNames v, rest, isAfternoon? v with
              | some u, _, _, _ => add k u rest
              | none, some m, y :: rest, _ =>
                if Text.isDigits w && Text.isDigits y then
                  (day? (Text.digitsValue y) (m + 1) (Text.digitsValue w)).bind fun x =>
                    told? base n { t with day := some x } rest
                else none
              | none, none, rest, some p =>
                (hour? k.toNat p).bind fun s => told? base n { t with second := some s } rest
              | _, _, _, _ => plainly ()
            | some (k, u), _ =>
              match unit? u with
              | some u => add k u ws
              | none => plainly ()
            | none, _ => plainly ()

/-- The moment that a text tells, seen from another one. -/
def moment? (base : Int) (t : Text) : Option Int :=
  match Text.trim t with
  | '@' :: ds => Condition.integer? (ds.takeWhile (· ≠ '.'))
  | t =>
    let ws := ((Text.pieces (fun c => c == ' ' || c == ',' || c == '\t') t).filter (!·.isEmpty))
    (told? base (2 * ws.length + 2) ⟨none, none, none, 0, 0, 0⟩ ws).map fun r =>
      let (days, rest) := halves base
      let (y, m, d) := r.day.getD (civil days)
      let second : Int := r.second.getD (if r.day.isSome || ws.isEmpty then 0 else rest)
      let months := y * 12 + ((m : Int) - 1) + r.months
      let ahead := if r.day.isSome then 0 else r.ahead.getD 0
      (daysOf (months / 12) ((months % 12).toNat + 1) d + ahead + r.days) * 86400 + second + r.seconds

end Calendar

end Guidebook.Shell
