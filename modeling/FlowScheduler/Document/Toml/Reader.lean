import FlowScheduler.Document.Toml.Scalar
import FlowScheduler.Document.Toml.Table

/-!
TOML documents.

A document is a sequence of lines: headers of tables, and keys with their values. `read?` answers the
record of all tables, or nothing if a line is malformed or something is defined twice.
-/

namespace FlowScheduler.Document.Toml

/-! ### Blanks and comments -/

/-- The text after a comment; a comment ends before its line break. -/
def dropComment (cs : List Char) : List Char :=
  match cs with
  | '#' :: rest => rest.dropWhile isPlain
  | _ => cs

/-- The text without leading blanks, comments and line breaks; `fuel` bounds their number. -/
def skipLines : (fuel : Nat) → List Char → List Char
  | 0, cs => cs
  | fuel + 1, cs =>
    let rest := dropComment (skipSpaces cs)
    match lineBreak? rest with
    | some rest => skipLines fuel rest
    | none => rest

/-- The text of the next line, where nothing but blanks and a comment are left of this one. -/
def endLine? (cs : List Char) : Option (List Char) :=
  match dropComment (skipSpaces cs) with
  | [] => some []
  | rest => lineBreak? rest

/-! ### Values -/

/-- How deep lists and inline tables may be nested. -/
def maxNesting : Nat := 80

mutual

/-- A value, and the rest; `room` is how many lists and inline tables may be nested in each other, and
`fuel` bounds the values. -/
def value? : (fuel room : Nat) → List Char → Option (Value × List Char)
  | 0, _, _ => none
  | fuel + 1, room, cs =>
    match cs, room with
    | '"' :: _, _ | '\'' :: _, _ => (string? cs).map fun (s, rest) => (.text (String.ofList s), rest)
    | '[' :: _, 0 | '\x7b' :: _, 0 => none
    | '[' :: cs, room + 1 => (items? fuel room cs).map fun (vs, rest) => (.list vs, rest)
    | '\x7b' :: cs, room + 1 =>
      (inline? fuel room [] cs).map fun (fs, rest) => (.record (toRecord fs), rest)
    | _, _ =>
      let (w, rest) := word cs
      (scalar? w).map (·, rest)

/-- The values of a list up to its closing bracket, and the rest. -/
def items? : (fuel room : Nat) → List Char → Option (List Value × List Char)
  | 0, _, _ => none
  | fuel + 1, room, cs =>
    match skipLines cs.length cs with
    | ']' :: rest => some ([], rest)
    | cs =>
      (value? fuel room cs).bind fun (v, rest) =>
        match skipLines rest.length rest with
        | ',' :: rest => (items? fuel room rest).map fun (vs, rest) => (v :: vs, rest)
        | ']' :: rest => some ([v], rest)
        | _ => none

/-- The fields of an inline table up to its closing brace, after some that were read, and the
rest. Lines may end anywhere but inside a key. -/
def inline? : (fuel room : Nat) → Fields → List Char → Option (Fields × List Char)
  | 0, _, _, _ => none
  | fuel + 1, room, fs, cs =>
    match skipLines cs.length cs with
    | '\x7d' :: rest => some (fs, rest)
    | cs =>
      (key? cs).bind fun (key, rest) =>
        match skipLines rest.length rest with
        | '=' :: rest =>
          (value? fuel room (skipLines rest.length rest)).bind fun (v, rest) =>
            (fs.assign v key).bind fun fs =>
              match skipLines rest.length rest with
              | ',' :: rest => inline? fuel room fs rest
              | '\x7d' :: rest => some (fs, rest)
              | _ => none
        | _ => none

end

/-! ### Lines -/

/-- A document that is being read. -/
structure Draft where
  fields : Fields := []
  /-- The table that keys without a header of their own belong to. -/
  here : List String := []

namespace Draft

/-- A header, after its first bracket: the draft with the table opened, and the rest. -/
def header? (d : Draft) (cs : List Char) : Option (Draft × List Char) :=
  match cs with
  | '[' :: cs => do
    let (path, rest) ← key? cs
    let rest ← Text.strip? [']', ']'] rest
    return ({ fields := ← d.fields.atEnd Fields.openElement path, here := path }, rest)
  | cs => do
    let (path, rest) ← key? cs
    let rest ← Text.strip? [']'] rest
    return ({ fields := ← d.fields.atEnd Fields.openTable path, here := path }, rest)

/-- A key and its value: the draft with the value added, and the rest. -/
def entry? (d : Draft) (cs : List Char) : Option (Draft × List Char) := do
  let (key, rest) ← key? cs
  let rest ← Text.strip? ['='] rest
  let (v, rest) ← value? (2 * rest.length + 2) maxNesting (skipSpaces rest)
  return ({ d with fields := ← d.fields.descend (Fields.assign v key) d.here }, rest)

/-- Reads the lines of a text; `fuel` bounds them. -/
def lines? : (fuel : Nat) → Draft → List Char → Option Draft
  | 0, _, _ => none
  | fuel + 1, d, cs =>
    match skipLines cs.length cs with
    | [] => some d
    | c :: cs =>
      let line := if c = '[' then d.header? cs else d.entry? (c :: cs)
      line.bind fun (d, rest) => (endLine? rest).bind fun rest => lines? fuel d rest

end Draft

/-- The record that a document denotes. A byte order mark at its front is no part of it. -/
def read? (s : String) : Option Value :=
  let cs := match s.toList with
    | '\ufeff' :: cs => cs
    | cs => cs
  (Draft.lines? (cs.length + 1) {} cs).map fun d => .record (toRecord d.fields)

end FlowScheduler.Document.Toml
