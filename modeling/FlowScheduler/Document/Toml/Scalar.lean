import FlowScheduler.Calendar.Date
import FlowScheduler.Document.Toml.Text

/-!
TOML scalars without quotes: truth values, integers, reals, dates and times.

A scalar is one word. Digits may be divided by single underscores, which have no meaning. The text of a
date or time is normal: capital letters, no needless zeros at the end of a fraction.
-/

namespace FlowScheduler.Document.Toml

open Text

/-! ### Numbers -/

/-- Digits without the underscores that divide them. -/
def digits? (isDigit : Char → Bool) (cs : List Char) : Option (List Char) :=
  let groups := splitAll '_' cs
  if groups.all fun g => g ≠ [] && g.all isDigit then some groups.flatten else none

/-- Decimal digits that do not begin with a needless zero. -/
def whole? (cs : List Char) : Option (List Char) :=
  (digits? Char.isDigit cs).filter fun ds => ds.head? ≠ some '0' || ds.length = 1

/-- The sign and what follows it. -/
def sign : List Char → Bool × List Char
  | '-' :: cs => (true, cs)
  | '+' :: cs => (false, cs)
  | cs => (false, cs)

/-- The number that digits denote to a base. -/
def ofDigits (base : Nat) (cs : List Char) : Nat :=
  cs.foldl (fun n c => base * n + (Json.hexDigit? c).getD 0) 0

/-- A digit to a base. -/
def isDigitOf (base : Nat) (c : Char) : Bool := (Json.hexDigit? c).any (· < base)

/-- A whole number: decimal with an optional sign, or to base 16, 8 or 2 after its mark. -/
def integer? : List Char → Option Int
  | '0' :: 'x' :: cs => (digits? (isDigitOf 16) cs).map fun ds => (ofDigits 16 ds : Int)
  | '0' :: 'o' :: cs => (digits? (isDigitOf 8) cs).map fun ds => (ofDigits 8 ds : Int)
  | '0' :: 'b' :: cs => (digits? (isDigitOf 2) cs).map fun ds => (ofDigits 2 ds : Int)
  | cs =>
    let (negative, cs) := sign cs
    (whole? cs).map fun ds =>
      if negative then -(ofDigits 10 ds : Int) else (ofDigits 10 ds : Int)

/-- The value of an integer. With more than 64 bits it denotes nothing, with more than 128 it is no
part of a document. -/
def ofInteger? (n : Int) : Option Value :=
  if Word.isIn64 n then some (.integer n)
  else if -(Word.nat64End * Word.int64End) ≤ n ∧ n < Word.nat64End * Word.nat64End then some .broken
  else none

/-- A number with a fraction, an exponent or both; also infinity and the number that is none. A number
too large for a floating-point number is refused. -/
def real? (cs : List Char) : Option Float := do
  let (negative, cs) := sign cs
  if cs = ['i', 'n', 'f'] then return if negative then -1 / 0 else 1 / 0
  if cs = ['n', 'a', 'n'] then return 0 / 0
  let mantissa := cs.takeWhile fun c => c ≠ 'e' && c ≠ 'E'
  let power : Option (List Char) := (cs.drop mantissa.length).tail?
  let (digits, places) ← match splitAll '.' mantissa with
    | [whole] => if power.isSome then (whole? whole).map (·, 0) else none
    | [whole, fraction] => do
      let fraction ← digits? Char.isDigit fraction
      some ((← whole? whole) ++ fraction, fraction.length)
    | _ => none
  let exponent : Int ← match power with
    | none => some 0
    | some cs =>
      let (negative, cs) := sign cs
      (digits? Char.isDigit cs).map fun ds =>
        if negative then -(ofDigits 10 ds : Int) else (ofDigits 10 ds : Int)
  let x := Decimal.toFloat negative (ofDigits 10 digits) (exponent - places)
  if x.isInf then none else some x

/-! ### Dates and times -/

/-- Exactly `width` decimal digits, and the rest. -/
def fixed? (width : Nat) (cs : List Char) : Option (Nat × List Char) :=
  let ds := cs.take width
  if ds.length = width then (number? ds).map (·, cs.drop width) else none

/-- A date, and the rest. -/
def date? (cs : List Char) : Option (String × List Char) := do
  let (year, cs) ← fixed? 4 cs
  let cs ← strip? ['-'] cs
  let (month, cs) ← fixed? 2 cs
  let cs ← strip? ['-'] cs
  let (day, cs) ← fixed? 2 cs
  if 1 ≤ month ∧ month ≤ 12 ∧ 1 ≤ day ∧ day ≤ daysInMonth year month then
    some (padded 4 year ++ "-" ++ padded 2 month ++ "-" ++ padded 2 day, cs)
  else none

/-- A fraction of a second with its point, without trailing zeros after its first digit; only nine
digits count. -/
def fractionOf (digits : List Char) : String :=
  let kept := ((digits.take 9).reverse.dropWhile (· = '0')).reverse
  if kept = [] then ".0" else "." ++ String.ofList kept

/-- A time of day, and the rest. The seconds may be missing. -/
def clock? (cs : List Char) : Option (String × List Char) := do
  let (hour, cs) ← fixed? 2 cs
  let cs ← strip? [':'] cs
  let (minute, cs) ← fixed? 2 cs
  if 24 ≤ hour ∨ 60 ≤ minute then none
  let start := padded 2 hour ++ ":" ++ padded 2 minute
  match cs with
  | ':' :: cs =>
    let (second, cs) ← fixed? 2 cs
    if 60 < second then none
    let start := start ++ ":" ++ padded 2 second
    match cs with
    | '.' :: cs =>
      let ds := cs.takeWhile Char.isDigit
      if ds = [] then none else some (start ++ fractionOf ds, cs.drop ds.length)
    | cs => some (start, cs)
  | cs => some (start, cs)

/-- What remains of a time after its clock: nothing, or an offset. An offset of nothing has a plus. -/
def offset? : List Char → Option String
  | [] => some ""
  | ['Z'] | ['z'] => some "Z"
  | c :: cs => do
    if c ≠ '+' ∧ c ≠ '-' then none
    let (hour, cs) ← fixed? 2 cs
    let cs ← strip? [':'] cs
    let (minute, cs) ← fixed? 2 cs
    if 24 ≤ hour ∨ 60 ≤ minute ∨ cs ≠ [] then none
    let sign := if c = '-' ∧ (hour, minute) ≠ (0, 0) then "-" else "+"
    some (sign ++ padded 2 hour ++ ":" ++ padded 2 minute)

/-- A date, a time of day, or a date with a time and perhaps an offset, in normal form. -/
def moment? (cs : List Char) : Option String :=
  match date? cs with
  | some (date, []) => some date
  | some (date, c :: cs) => do
    if c ≠ 'T' ∧ c ≠ 't' ∧ c ≠ ' ' then none
    let (clock, cs) ← clock? cs
    some (date ++ "T" ++ clock ++ (← offset? cs))
  | none => do
    let (clock, cs) ← clock? cs
    if cs = [] then some clock else none

/-! ### Words -/

/-- A character of a word. -/
def isWordChar (c : Char) : Bool :=
  c.isAlphanum || c = '+' || c = '-' || c = '_' || c = '.' || c = ':'

/-- A word, and the rest. A blank between a date and a time does not end the word. -/
def word (cs : List Char) : List Char × List Char :=
  let w := cs.takeWhile isWordChar
  match (date? w).map (·.2), cs.drop w.length with
  | some [], ' ' :: rest =>
    if rest.head?.any Char.isDigit then
      let time := rest.takeWhile isWordChar
      (w ++ ' ' :: time, rest.drop time.length)
    else (w, ' ' :: rest)
  | _, rest => (w, rest)

/-- The value of a word. -/
def scalar? (w : List Char) : Option Value :=
  if w = ['t', 'r', 'u', 'e'] then some (.bool true)
  else if w = ['f', 'a', 'l', 's', 'e'] then some (.bool false)
  else match integer? w, real? w, moment? w with
    | some n, _, _ => ofInteger? n
    | none, some x, _ => some (.real x)
    | none, none, some m => some (.moment m)
    | none, none, none => none

end FlowScheduler.Document.Toml
