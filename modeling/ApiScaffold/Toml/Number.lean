import ApiScaffold.Data.Basic
import ApiScaffold.Toml.Lexeme

/-!
# Numbers and times of TOML text

Integers have 64 bits and may be written in four bases; other numbers are binary64 numbers; between
digits an underscore may stand. Dates and times are checked and written back in their normal form.
-/

namespace ApiScaffold.Toml

/-- The digits of a base, with underscores between them: their values, and the text after them. -/
def digits? (base : Nat) (cs : List Char) : Option (List Nat × List Char) :=
  match cs with
  | [] => none
  | c :: rest => do
    let d ← value? c
    let (ds, rest) := more rest.length rest
    return (d :: ds, rest)
where
  /-- The value of a digit of the base. -/
  value? (c : Char) : Option Nat := (hexValue? c).filter (· < base)
  /-- The digits after the first one. -/
  more : Nat → List Char → List Nat × List Char
    | 0, cs => ([], cs)
    | fuel + 1, cs =>
      let inner := match cs with
        | '_' :: rest => rest
        | cs => cs
      match inner with
      | c :: rest =>
        match value? c with
        | some d => let (ds, rest) := more fuel rest; (d :: ds, rest)
        | none => ([], cs)
      | [] => ([], cs)

/-- The natural that digits of a base stand for. -/
def natOf (base : Nat) (ds : List Nat) : Nat := ds.foldl (fun n d => base * n + d) 0

/-- A sign, if there is one. -/
def sign (cs : List Char) : Bool × List Char :=
  match cs with
  | '-' :: rest => (true, rest)
  | '+' :: rest => (false, rest)
  | _ => (false, cs)

/-- Decimal digits without a needless leading zero. -/
def wholeDigits? (cs : List Char) : Option (List Nat × List Char) :=
  match cs with
  | '0' :: rest => some ([0], rest)
  | _ => digits? 10 cs

/-- A natural as an integer of 64 bits. -/
def checked? (n : Int) (rest : List Char) : Option (Leaf × List Char) :=
  if -(twoTo 63 : Int) ≤ n ∧ n < (twoTo 63 : Int) then some (.int n, rest) else none

/-- **An integer.** -/
def integer? (cs : List Char) : Option (Leaf × List Char) :=
  match cs with
  | '0' :: 'x' :: rest => do let (ds, rest) ← digits? 16 rest; checked? (natOf 16 ds) rest
  | '0' :: 'o' :: rest => do let (ds, rest) ← digits? 8 rest; checked? (natOf 8 ds) rest
  | '0' :: 'b' :: rest => do let (ds, rest) ← digits? 2 rest; checked? (natOf 2 ds) rest
  | _ => do
    let (negative, rest) := sign cs
    let (ds, rest) ← wholeDigits? rest
    let n : Int := natOf 10 ds
    checked? (if negative then -n else n) rest

/-- An exponent. -/
def exponent? (cs : List Char) : Option (Int × List Char) := do
  match cs with
  | e :: rest =>
    if e = 'e' ∨ e = 'E' then
      let (negative, rest) := sign rest
      let (ds, rest) ← digits? 10 rest
      let n : Int := natOf 10 ds
      return (if negative then -n else n, rest)
    else none
  | [] => none

/-- The word of an infinity or a not-a-number. -/
def specialFloat? (cs : List Char) : Option (Leaf × List Char) :=
  let (_, rest) := sign cs
  match after? ['i', 'n', 'f'] rest, after? ['n', 'a', 'n'] rest with
  | some rest, _ => some (.nonFinite, rest)
  | none, some rest => some (.nonFinite, rest)
  | none, none => none

/-- The leaf of a decimal. Too large a number is a negative infinity, or none at all. -/
def decimalLeaf? (negative : Bool) (digits : Nat) (e : Int) : Option Leaf :=
  match Binary64.ofDecimal? negative digits e with
  | some x => some (.float x)
  | none => if negative then some .nonFinite else none

/-- **A number with a point or exponent.** -/
def float? (cs : List Char) : Option (Leaf × List Char) := do
  let (negative, rest) := sign cs
  match wholeDigits? rest with
  | none => specialFloat? cs
  | some (whole, rest) =>
    match rest with
    | '.' :: rest =>
      let (fraction, rest) ← digits? 10 rest
      let (e, rest) := (exponent? rest).getD (0, rest)
      let leaf ← decimalLeaf? negative (natOf 10 (whole ++ fraction)) (e - fraction.length)
      return (leaf, rest)
    | _ =>
      let (e, rest) ← exponent? rest
      return (← decimalLeaf? negative (natOf 10 whole) e, rest)

/-! ### Dates and times -/

/-- A number of exactly so many digits, within bounds. -/
def fixed? (count low high : Nat) (cs : List Char) : Option (Nat × List Char) := do
  let ds := cs.take count
  if ds.length ≠ count || !ds.all Char.isDigit then none
  let n := natOf 10 (ds.map fun c => c.toNat - '0'.toNat)
  if low ≤ n ∧ n ≤ high then return (n, cs.drop count) else none

/-- The number of days of a month. -/
def monthDays (year month : Nat) : Nat :=
  if month = 2 then
    if year % 4 = 0 ∧ (year % 100 ≠ 0 ∨ year % 400 = 0) then 29 else 28
  else if month = 4 ∨ month = 6 ∨ month = 9 ∨ month = 11 then 30
  else 31

/-- A number with zeros in front. -/
def padded (width n : Nat) : String :=
  let ds := Nat.toDigits 10 n
  String.ofList (List.replicate (width - ds.length) '0' ++ ds)

/-- A date in its normal form. -/
def date? (cs : List Char) : Option (String × List Char) := do
  let (year, rest) ← fixed? 4 0 9999 cs
  let (month, rest) ← fixed? 2 1 12 (← after? ['-'] rest)
  let (day, rest) ← fixed? 2 1 (monthDays year month) (← after? ['-'] rest)
  return (padded 4 year ++ "-" ++ padded 2 month ++ "-" ++ padded 2 day, rest)

/-- A fraction of a second in its normal form: at most nine digits, without zeros at the end. -/
def fraction (cs : List Char) : String × List Char :=
  match cs with
  | '.' :: rest =>
    let ds := rest.takeWhile Char.isDigit
    if ds.isEmpty then ("", cs)
    else
      let kept := ((ds.take 9).reverse.dropWhile (· = '0')).reverse
      (if kept.isEmpty then "" else "." ++ String.ofList kept, rest.dropWhile Char.isDigit)
  | _ => ("", cs)

/-- A time in its normal form. -/
def time? (cs : List Char) : Option (String × List Char) := do
  let (hour, rest) ← fixed? 2 0 23 cs
  let (minute, rest) ← fixed? 2 0 59 (← after? [':'] rest)
  let (second, rest) ← fixed? 2 0 60 (← after? [':'] rest)
  let (part, rest) := fraction rest
  return (padded 2 hour ++ ":" ++ padded 2 minute ++ ":" ++ padded 2 second ++ part, rest)

/-- An offset from universal time in its normal form, if there is one. -/
def offset (cs : List Char) : String × List Char :=
  match cs with
  | c :: rest =>
    if c = 'Z' ∨ c = 'z' then ("Z", rest)
    else if c = '+' ∨ c = '-' then
      match hoursAndMinutes? rest with
      | some ((hour, minute), rest) =>
        -- an offset of nothing has a plus sign
        let mark := if c = '-' ∧ (hour ≠ 0 ∨ minute ≠ 0) then "-" else "+"
        (mark ++ padded 2 hour ++ ":" ++ padded 2 minute, rest)
      | none => ("", cs)
    else ("", cs)
  | [] => ("", cs)
where
  /-- Hours and minutes with a colon between them. -/
  hoursAndMinutes? (cs : List Char) : Option ((Nat × Nat) × List Char) := do
    let (hour, rest) ← fixed? 2 0 23 cs
    let (minute, rest) ← fixed? 2 0 59 (← after? [':'] rest)
    return ((hour, minute), rest)

/-- A time after a date. -/
def timeAfterDate? (cs : List Char) : Option (String × List Char) :=
  match cs with
  | c :: rest =>
    if c = 'T' ∨ c = 't' ∨ c = ' ' then time? rest else none
  | [] => none

/-- **A date, a time, or both** in normal form. -/
def dateTime? (cs : List Char) : Option (String × List Char) :=
  match date? cs with
  | some (date, rest) =>
    match timeAfterDate? rest with
    | some (time, rest) =>
      let (zone, rest) := offset rest
      some (date ++ "T" ++ time ++ zone, rest)
    | none => some (date, rest)
  | none => time? cs

end ApiScaffold.Toml
