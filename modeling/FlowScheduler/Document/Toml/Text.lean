import FlowScheduler.Document.Json

/-!
TOML strings and keys: reading and printing.

Strings are basic, with escapes, or literal, without; either kind may run over several lines between
three quotes. `quote` writes a string in the first form that shows it plainly.
-/

namespace FlowScheduler.Document.Toml

open Text

/-! ### Characters -/

/-- A character that may stand for itself in comments and strings. -/
def isPlain (c : Char) : Bool := c = '\t' || (0x20 ≤ c.toNat && c ≠ '\x7f')

/-- A blank inside a line. -/
def isSpace (c : Char) : Bool := c = ' ' || c = '\t'

/-- The text after a line break. -/
def lineBreak? : List Char → Option (List Char)
  | '\n' :: rest => some rest
  | '\r' :: '\n' :: rest => some rest
  | _ => none

/-- The text without the blanks at its front. -/
def skipSpaces (cs : List Char) : List Char := cs.dropWhile isSpace

/-! ### Escapes -/

/-- The character whose code is written in `width` hexadecimal digits, and the rest. -/
def codePoint? (width : Nat) (cs : List Char) : Option (Char × List Char) := do
  let digits ← (cs.take width).mapM Json.hexDigit?
  if digits.length ≠ width then none
  let n := digits.foldl (fun n d => 16 * n + d) 0
  if n.isValidChar then some (Char.ofNat n, cs.drop width) else none

/-- The character of an escape, after its backslash, and the rest. -/
def escape? : List Char → Option (Char × List Char)
  | [] => none
  | c :: cs =>
    if c = '"' ∨ c = '\\' then some (c, cs)
    else if c = 'b' then some ('\x08', cs)
    else if c = 't' then some ('\t', cs)
    else if c = 'n' then some ('\n', cs)
    else if c = 'f' then some ('\x0c', cs)
    else if c = 'r' then some ('\r', cs)
    else if c = 'e' then some ('\x1b', cs)
    else if c = 'x' then codePoint? 2 cs
    else if c = 'u' then codePoint? 4 cs
    else if c = 'U' then codePoint? 8 cs
    else none

/-! ### Strings of one line -/

/-- A basic string after its opening quote, and the rest; `fuel` bounds its characters. -/
def basic? : (fuel : Nat) → List Char → Option (List Char × List Char)
  | 0, _ => none
  | _, [] => none
  | fuel + 1, c :: cs =>
    if c = '"' then some ([], cs)
    else if c = '\\' then
      (escape? cs).bind fun (e, cs) => (basic? fuel cs).map fun (s, rest) => (e :: s, rest)
    else if isPlain c then (basic? fuel cs).map fun (s, rest) => (c :: s, rest)
    else none

/-- A literal string after its opening quote, and the rest. -/
def literal? (cs : List Char) : Option (List Char × List Char) :=
  let s := cs.takeWhile fun c => isPlain c && c ≠ '\''
  match cs.drop s.length with
  | '\'' :: rest => some (s, rest)
  | _ => none

/-! ### Strings of several lines -/

/-- Up to two quotes before the three closing ones belong to the string. -/
def closing (quote : Char) : List Char → List Char × List Char
  | a :: b :: rest =>
    if a = quote ∧ b = quote then ([a, b], rest)
    else if a = quote then ([a], b :: rest)
    else ([], a :: b :: rest)
  | [a] => if a = quote then ([a], []) else ([], [a])
  | [] => ([], [])

/-- The text without the blanks and line breaks at its front; `fuel` bounds the line breaks. -/
def skipBlankLines : (fuel : Nat) → List Char → List Char
  | 0, cs => cs
  | fuel + 1, cs =>
    let rest := skipSpaces cs
    match lineBreak? rest with
    | some rest => skipBlankLines fuel rest
    | none => rest

/-- After a backslash at the end of a line: the text at the next character that is not blank. -/
def continuation? (cs : List Char) : Option (List Char) :=
  (lineBreak? (skipSpaces cs)).map fun rest => skipBlankLines (rest.length + 1) rest

/-- A string of several lines after its opening quotes, and the rest; escapes are read if
`escapes` holds, and `fuel` bounds the characters. -/
def lines? (quote : Char) (escapes : Bool) : (fuel : Nat) → List Char → Option (List Char × List Char)
  | 0, _ => none
  | _, [] => none
  | fuel + 1, c :: cs =>
    if c = quote ∧ cs.take 2 = [quote, quote] then some (closing quote (cs.drop 2))
    else if c = '\\' ∧ escapes then
      match continuation? cs with
      | some cs => lines? quote escapes fuel cs
      | none =>
        (escape? cs).bind fun (e, cs) => (lines? quote escapes fuel cs).map fun (s, rest) => (e :: s, rest)
    else if isPlain c ∨ (lineBreak? (c :: cs)).isSome then
      (lines? quote escapes fuel cs).map fun (s, rest) => (c :: s, rest)
    else none

/-- A string of any kind, and the rest. A line break right after three opening quotes is not part of
the string. -/
def string? (cs : List Char) : Option (List Char × List Char) :=
  match cs with
  | '"' :: '"' :: '"' :: rest => lines? '"' true (cs.length + 1) ((lineBreak? rest).getD rest)
  | '\'' :: '\'' :: '\'' :: rest => lines? '\'' false (cs.length + 1) ((lineBreak? rest).getD rest)
  | '"' :: rest => basic? (cs.length + 1) rest
  | '\'' :: rest => literal? rest
  | _ => none

/-! ### Keys -/

/-- A character of a key without quotes. -/
def isBare (c : Char) : Bool := c.isAlphanum || c = '_' || c = '-'

/-- One part of a key, and the rest. -/
def simpleKey? (cs : List Char) : Option (String × List Char) :=
  match cs with
  | '"' :: rest => (basic? (cs.length + 1) rest).map fun (s, rest) => (String.ofList s, rest)
  | '\'' :: rest => (literal? rest).map fun (s, rest) => (String.ofList s, rest)
  | _ =>
    let s := cs.takeWhile isBare
    if s = [] then none else some (String.ofList s, cs.drop s.length)

/-- The parts of a key with points between them, and the rest without leading blanks; `fuel` bounds the
parts. -/
def keyParts? : (fuel : Nat) → List Char → Option (List String × List Char)
  | 0, _ => none
  | fuel + 1, cs =>
    (simpleKey? (skipSpaces cs)).bind fun (k, rest) =>
      match skipSpaces rest with
      | '.' :: rest => (keyParts? fuel rest).map fun (ks, rest) => (k :: ks, rest)
      | rest => some ([k], rest)

/-- How many parts a key may have. -/
def maxKeyParts : Nat := 80

/-- A key as the list of its parts, and the rest without leading blanks. -/
def key? (cs : List Char) : Option (List String × List Char) :=
  keyParts? maxKeyParts cs

/-! ### Printing -/

/-- The length of the longest run of a character. -/
def longestRun (c : Char) (cs : List Char) : Nat :=
  (cs.foldl (fun (best, run) d =>
    let run := if d = c then run + 1 else 0
    (max best run, run)) (0, 0)).1

/-- A character that has to be escaped in every form. -/
def isControl (c : Char) : Bool := (c.toNat < 0x20 && c ≠ '\t' && c ≠ '\n') || c = '\x7f'

/-- A character inside basic quotes; `breaks` says whether line breaks stand for themselves. -/
def escape (breaks : Bool) (c : Char) : List Char :=
  if c = '\n' then if breaks then ['\n'] else ['\\', 'n']
  else if c = '\\' then ['\\', '\\']
  else if c = '\x08' then ['\\', 'b']
  else if c = '\t' then ['\\', 't']
  else if c = '\x0c' then ['\\', 'f']
  else if c = '\r' then ['\\', 'r']
  else if isControl c then
    ['\\', 'u', '0', '0'] ++ [c.toNat / 16, c.toNat % 16].map fun n => (Json.hexChar n).toUpper
  else [c]

/-- Characters inside basic quotes, of which at most `allowed` in a row may stand for themselves;
`run` of them have just been written. -/
def escapeAll (breaks : Bool) (allowed : Nat) : (run : Nat) → List Char → List Char
  | _, [] => []
  | run, c :: cs =>
    if c = '"' then
      if run < allowed then '"' :: escapeAll breaks allowed (run + 1) cs
      else '\\' :: '"' :: escapeAll breaks allowed 0 cs
    else escape breaks c ++ escapeAll breaks allowed 0 cs

/-- A string with its quotes: basic if nothing has to be escaped, else literal, else basic or
literal over several lines, and as a last resort with escapes. -/
def quote (s : String) : String :=
  let cs := s.toList
  let control := cs.any isControl
  let backslash := cs.contains '\\'
  let broken := cs.contains '\n'
  let single := longestRun '\'' cs
  let double := longestRun '"' cs
  -- an empty first line keeps a line break at the front of the string apart from the quotes
  let first := if broken then "\n" else ""
  let basic := "\"" ++ String.ofList (escapeAll false 0 0 cs) ++ "\""
  let basicLines := "\"\"\"" ++ first ++ String.ofList (escapeAll true 2 0 cs) ++ "\"\"\""
  if !control && !backslash && double = 0 && !broken then basic
  else if !control && single = 0 && !broken then "'" ++ s ++ "'"
  else if !control && !backslash && double ≤ 2 then basicLines
  else if !control && single ≤ 2 then "'''" ++ first ++ s ++ "'''"
  else if broken then basicLines
  else basic

end FlowScheduler.Document.Toml
