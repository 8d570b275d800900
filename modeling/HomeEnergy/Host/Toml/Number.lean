import HomeEnergy.Text.Decimal
import HomeEnergy.Host.Toml.Scan

/-!
# Numbers, dates and times in TOML

Integers are signed 64-bit; they may be written in base 16, 8 or 2, without a sign.
Digits may be grouped by single underscores.  A real number is the double nearest to
its decimal text.  Dates and times are only checked.
-/

namespace HomeEnergy.Toml

/-- The digits at the front, where single underscores may stand between two of them. -/
def moreDigits (ok : Char → Bool) : List Char → List Char × List Char
  | '_' :: c :: cs =>
    if ok c then
      let (ds, rest) := moreDigits ok cs
      (c :: ds, rest)
    else ([], '_' :: c :: cs)
  | c :: cs =>
    if ok c then
      let (ds, rest) := moreDigits ok cs
      (c :: ds, rest)
    else ([], c :: cs)
  | [] => ([], [])

/-- One digit or more. -/
def digits (ok : Char → Bool) : Scan (List Char)
  | c :: cs =>
    if ok c then
      let (ds, rest) := moreDigits ok cs
      some (c :: ds, rest)
    else none
  | [] => none

/-- Whether there is a minus at the front, and the text without its sign. -/
def sign : List Char → Bool × List Char
  | '-' :: cs => (true, cs)
  | '+' :: cs => (false, cs)
  | cs => (false, cs)

/-- Decimal digits that do not begin with a needless zero. -/
def wholeDigits : Scan (List Char)
  | '0' :: cs => some (['0'], cs)
  | cs => digits Char.isDigit cs

/-- The digits of another base, as a number. -/
def inBase (base : Nat) (cs : List Char) : Option (Int × List Char) := do
  let valueOf (c : Char) : Option Nat := (hexValue? c).filter (· < base)
  let (ds, cs) ← digits (fun c => (valueOf c).isSome) cs
  some (ds.foldl (fun n c => base * n + (valueOf c).getD 0) 0, cs)

/-- Any integer. -/
def unboundedInteger : Scan Int
  | '0' :: 'x' :: cs => inBase 16 cs
  | '0' :: 'o' :: cs => inBase 8 cs
  | '0' :: 'b' :: cs => inBase 2 cs
  | cs => do
    let (negative, cs) := sign cs
    let (ds, cs) ← wholeDigits cs
    let n : Int := Text.Decimal.value ds
    some (if negative then -n else n, cs)

/-- An integer that fits 64 bits. -/
def integer : Scan Int := fun cs => do
  let (n, cs) ← unboundedInteger cs
  if -0x8000000000000000 ≤ n ∧ n < 0x8000000000000000 then some (n, cs) else none

/-- The double nearest to `mantissa · 10 ^ exponent`.  Beyond the first bound every
double has been passed, below the second every one but zero. -/
def nearestDouble (mantissa : Nat) (exponent : Int) : Float :=
  let magnitude : Int := (Text.Decimal.ofNat mantissa).length + exponent
  if mantissa = 0 ∨ magnitude < -400 then 0.0
  else if 400 < magnitude then 1.0 / 0.0
  else Float.ofScientific mantissa (decide (exponent < 0)) exponent.natAbs

/-- The exponent at the front. -/
def exponent : Scan Int
  | c :: cs =>
    if c = 'e' ∨ c = 'E' then do
      let (negative, cs) := sign cs
      let (ds, cs) ← digits Char.isDigit cs
      let n : Int := Text.Decimal.value ds
      some (if negative then -n else n, cs)
    else none
  | [] => none

/-- A fraction, an exponent or both: the digits of the fraction, and the exponent. -/
def fractionAndExponent : Scan (List Char × Int)
  | '.' :: cs => do
    let (ds, cs) ← digits Char.isDigit cs
    match exponent cs with
    | some (e, cs) => some ((ds, e), cs)
    | none => some ((ds, 0), cs)
  | cs => do
    let (e, cs) ← exponent cs
    some (([], e), cs)

/-- A real number.  One too great for a double is refused, unless it is negative. -/
def real : Scan Float := fun cs => do
  let (negative, cs) := sign cs
  match cs with
  | 'i' :: 'n' :: 'f' :: cs => some (if negative then -1.0 / 0.0 else 1.0 / 0.0, cs)
  | 'n' :: 'a' :: 'n' :: cs => some (0.0 / 0.0, cs)
  | cs =>
    let (whole, cs) ← wholeDigits cs
    let ((fraction, e), cs) ← fractionAndExponent cs
    let x := nearestDouble (Text.Decimal.value (whole ++ fraction)) (e - fraction.length)
    if negative then some (-x, cs)
    else if x.isInf then none
    else some (x, cs)

/-- A number of exactly this many digits, within bounds. -/
def fixed (width least greatest : Nat) : Scan Nat := fun cs => do
  let ds := cs.take width
  let n ← Text.Decimal.nat? ds
  if ds.length = width ∧ least ≤ n ∧ n ≤ greatest then some (n, cs.drop width) else none

/-- The days of a month. -/
def daysIn (year month : Nat) : Nat :=
  if month = 2 then
    if year % 4 = 0 ∧ (year % 100 ≠ 0 ∨ year % 400 = 0) then 29 else 28
  else if month = 4 ∨ month = 6 ∨ month = 9 ∨ month = 11 then 30
  else 31

/-- Skips a date. -/
def skipDate (cs : List Char) : Option (List Char) := do
  let (year, cs) ← fixed 4 0 9999 cs
  let (month, cs) ← fixed 2 1 12 (← expect '-' cs)
  let (_, cs) ← fixed 2 1 (daysIn year month) (← expect '-' cs)
  some cs

/-- Skips a time of day, with or without a fraction of a second. -/
def skipTime (cs : List Char) : Option (List Char) := do
  let (_, cs) ← fixed 2 0 23 cs
  let (_, cs) ← fixed 2 0 59 (← expect ':' cs)
  let (_, cs) ← fixed 2 0 60 (← expect ':' cs)
  match cs with
  | '.' :: c :: rest => if c.isDigit then some (rest.dropWhile Char.isDigit) else some cs
  | _ => some cs

/-- Skips the distance from universal time, if it is given. -/
def skipOffset (cs : List Char) : Option (List Char) :=
  match cs with
  | 'Z' :: rest | 'z' :: rest => some rest
  | '+' :: rest | '-' :: rest => do
    let (_, cs) ← fixed 2 0 23 rest
    let (_, cs) ← fixed 2 0 59 (← expect ':' cs)
    some cs
  | _ => some cs

/-- A date, a time of day, or both with a letter or a space between them. -/
def moment : Scan Unit := fun cs =>
  match skipDate cs with
  | none => (skipTime cs).map ((), ·)
  | some rest =>
    match rest with
    | c :: cs =>
      if c = 'T' ∨ c = 't' ∨ c = ' ' then
        match skipTime cs with
        | some cs => (skipOffset cs).map ((), ·)
        | none => some ((), rest)
      else some ((), rest)
    | [] => some ((), rest)

end HomeEnergy.Toml
