import FlowScheduler.Document.Value
import FlowScheduler.Text.Decimal
import FlowScheduler.Text.Pieces

/-!
JSON texts (RFC 8259).

`Json.read?` accepts exactly one value between blanks. Integers between `-2^63` and `2^64 - 1` are
integers, except `-0`; all other numbers are reals, and a real that is too large for a floating-point
number is broken, as is a string with half of a surrogate pair. `Json.render` writes a value without
blanks.
-/

namespace FlowScheduler.Document.Json

open Text

/-! ### Reading -/

/-- The text without leading blanks. -/
def skip (cs : List Char) : List Char :=
  cs.dropWhile fun c => c = ' ' || c = '\n' || c = '\t' || c = '\r'

/-- The value of a hexadecimal digit. -/
def hexDigit? (c : Char) : Option Nat :=
  if '0' ≤ c ∧ c ≤ '9' then some (c.toNat - 48)
  else if 'a' ≤ c ∧ c ≤ 'f' then some (c.toNat - 87)
  else if 'A' ≤ c ∧ c ≤ 'F' then some (c.toNat - 55)
  else none

/-- Four hexadecimal digits and the rest. -/
def hex4? : List Char → Option (Nat × List Char)
  | a :: b :: c :: d :: rest => do
    some (((← hexDigit? a) * 16 + (← hexDigit? b)) * 256 + (← hexDigit? c) * 16 + (← hexDigit? d), rest)
  | _ => none

/-- The character of an escape of one letter. -/
def simpleEscape? (c : Char) : Option Char :=
  if c = '"' ∨ c = '\\' ∨ c = '/' then some c
  else if c = 'b' then some '\x08'
  else if c = 'f' then some '\x0c'
  else if c = 'n' then some '\n'
  else if c = 'r' then some '\r'
  else if c = 't' then some '\t'
  else none

/-- One unit of a string: a character, or half of a surrogate pair. -/
inductive StringUnit where
  | char (c : Char)
  | high (n : Nat)
  | low (n : Nat)

/-- The units of a string up to the closing quote, and the rest; `fuel` bounds the units. -/
def units? : (fuel : Nat) → List Char → Option (List StringUnit × List Char)
  | 0, _ => none
  | _, [] => none
  | fuel + 1, c :: cs =>
    if c = '"' then some ([], cs)
    else if c.toNat < 0x20 then none
    else if c ≠ '\\' then
      (units? fuel cs).map fun (us, rest) => (.char c :: us, rest)
    else match cs with
      | [] => none
      | e :: cs =>
        if e = 'u' then
          (hex4? cs).bind fun (n, cs) =>
            let unit : StringUnit :=
              if 0xD800 ≤ n ∧ n < 0xDC00 then .high n
              else if 0xDC00 ≤ n ∧ n < 0xE000 then .low n
              else .char (Char.ofNat n)
            (units? fuel cs).map fun (us, rest) => (unit :: us, rest)
        else
          (simpleEscape? e).bind fun c =>
            (units? fuel cs).map fun (us, rest) => (.char c :: us, rest)

/-- The characters of units in which every surrogate has its other half. -/
def join? : List StringUnit → Option (List Char)
  | [] => some []
  | .char c :: us => (join? us).map (c :: ·)
  | .high h :: .low l :: us =>
    (join? us).map (Char.ofNat (0x10000 + (h - 0xD800) * 0x400 + (l - 0xDC00)) :: ·)
  | .high _ :: _ => none
  | .low _ :: _ => none

/-- After the opening quote: the string, absent if it holds half of a surrogate pair, and the
rest. -/
def string? (cs : List Char) : Option (Option String × List Char) :=
  (units? (cs.length + 1) cs).map fun (us, rest) => ((join? us).map String.ofList, rest)

/-- The value of a decimal number with a fraction or an exponent. -/
def realOf (negative : Bool) (digits : Nat) (exponent : Int) : Value :=
  let x := Decimal.toFloat negative digits exponent
  if x.isInf then .broken else .real x

/-- An exponent, after its letter: an optional sign and digits. -/
def exponent? (cs : List Char) : Option (Int × List Char) :=
  let (sign, cs) : Int × List Char := match cs with
    | '-' :: cs => (-1, cs)
    | '+' :: cs => (1, cs)
    | cs => (1, cs)
  let ds := cs.takeWhile Char.isDigit
  (number? ds).map fun n => (sign * n, cs.drop ds.length)

/-- A number without its sign, and the rest. -/
def unsigned? (negative : Bool) (cs : List Char) : Option (Value × List Char) := do
  let whole := cs.takeWhile Char.isDigit
  let rest := cs.drop whole.length
  let n ← number? whole
  if whole.head? = some '0' ∧ whole.length ≠ 1 then none
  let (digits, places, rest, isReal) ← match rest with
    | '.' :: rest =>
      let ds := rest.takeWhile Char.isDigit
      if ds = [] then none
      some (← number? (whole ++ ds), ds.length, rest.drop ds.length, true)
    | rest => some (n, 0, rest, false)
  let (power, rest, isReal) ← match rest with
    | e :: rest' =>
      if e = 'e' ∨ e = 'E' then (exponent? rest').map fun (p, r) => (p, r, true)
      else some ((0 : Int), rest, isReal)
    | [] => some (0, rest, isReal)
  let value : Value :=
    if isReal then realOf negative digits (power - places)
    else if negative then
      if n = 0 ∨ Word.int64End < n then realOf true n 0 else .integer (-n)
    else if Word.nat64End ≤ n then realOf false n 0
    else .integer n
  return (value, rest)

mutual

/-- A value and the rest; `fuel` bounds the values. -/
def value? : (fuel : Nat) → List Char → Option (Value × List Char)
  | 0, _ => none
  | fuel + 1, cs =>
    match skip cs with
    | [] => none
    | c :: cs =>
      if c = '"' then
        (string? cs).map fun (s, rest) => (s.elim .broken .text, rest)
      else if c = '[' then
        match skip cs with
        | ']' :: rest => some (.list [], rest)
        | cs => (items? fuel cs).map fun (vs, rest) => (.list vs, rest)
      else if c = '\x7b' then
        match skip cs with
        | '\x7d' :: rest => some (.record [], rest)
        | cs => (fields? fuel cs).map fun (fs, rest) => (fs.elim .broken .record, rest)
      else if c = '-' then unsigned? true cs
      else if c.isDigit then unsigned? false (c :: cs)
      else if c = 't' then (strip? ['r', 'u', 'e'] cs).map (.bool true, ·)
      else if c = 'f' then (strip? ['a', 'l', 's', 'e'] cs).map (.bool false, ·)
      else if c = 'n' then (strip? ['u', 'l', 'l'] cs).map (.null, ·)
      else none

/-- The values of a list up to its closing bracket, and the rest. -/
def items? : (fuel : Nat) → List Char → Option (List Value × List Char)
  | 0, _ => none
  | fuel + 1, cs =>
    (value? fuel cs).bind fun (v, rest) =>
      match skip rest with
      | ',' :: rest => (items? fuel rest).map fun (vs, rest) => (v :: vs, rest)
      | ']' :: rest => some ([v], rest)
      | _ => none

/-- The fields of a record up to its closing brace, absent if a name is broken, and the rest. -/
def fields? : (fuel : Nat) → List Char → Option (Option (List (String × Value)) × List Char)
  | 0, _ => none
  | fuel + 1, cs =>
    match skip cs with
    | '"' :: cs =>
      (string? cs).bind fun (name, rest) =>
        match skip rest with
        | ':' :: rest =>
          (value? fuel rest).bind fun (v, rest) =>
            match skip rest with
            | ',' :: rest =>
              (fields? fuel rest).map fun (fs, rest) =>
                (name.bind fun n => fs.map ((n, v) :: ·), rest)
            | '\x7d' :: rest => some (name.map fun n => [(n, v)], rest)
            | _ => none
        | _ => none
    | _ => none

end

/-- The value of a text that holds one value and blanks. -/
def read? (s : String) : Option Value :=
  let cs := s.toList
  match value? (2 * cs.length + 2) cs with
  | some (v, rest) => if skip rest = [] then some v else none
  | none => none

/-! ### Printing -/

/-- A hexadecimal digit in lower case. -/
def hexChar (n : Nat) : Char := Char.ofNat (if n < 10 then 48 + n else 87 + n)

/-- A character inside quotes. -/
def escape (c : Char) : List Char :=
  if c = '"' then ['\\', '"']
  else if c = '\\' then ['\\', '\\']
  else if c = '\n' then ['\\', 'n']
  else if c = '\r' then ['\\', 'r']
  else if c = '\t' then ['\\', 't']
  else if c = '\x08' then ['\\', 'b']
  else if c = '\x0c' then ['\\', 'f']
  else if c.toNat < 0x20 then ['\\', 'u', '0', '0', hexChar (c.toNat / 16), hexChar (c.toNat % 16)]
  else [c]

/-- A string with its quotes. -/
def quote (s : String) : String :=
  "\"" ++ String.ofList (s.toList.flatMap escape) ++ "\""

mutual

/-- The text of a value, without blanks. Reals print as `null`: no entity holds one. -/
def render : Value → String
  | .null => "null"
  | .bool b => if b then "true" else "false"
  | .integer n => toString n
  | .text s => quote s
  | .moment s => quote s
  | .list vs => "[" ++ renderItems vs ++ "]"
  | .record fs => "\x7b" ++ renderFields fs ++ "\x7d"
  | .real _ | .broken => "null"

/-- The texts of values with commas between them. -/
def renderItems : List Value → String
  | [] => ""
  | [v] => render v
  | v :: vs => render v ++ "," ++ renderItems vs

/-- The texts of fields with commas between them. -/
def renderFields : List (String × Value) → String
  | [] => ""
  | [(n, v)] => quote n ++ ":" ++ render v
  | (n, v) :: fs => quote n ++ ":" ++ render v ++ "," ++ renderFields fs

end

end FlowScheduler.Document.Json
