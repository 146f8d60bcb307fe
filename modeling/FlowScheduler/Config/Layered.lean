import FlowScheduler.Config.Codec
import FlowScheduler.Document.Toml.Reader
import FlowScheduler.Files

/-!
Settings from a file and from the environment.

A variable of the environment sets what its name says after `SCHEDULER__`, in lower case, where `__`
leads into a section; it wins over the file, which wins over the defaults. Names may lead to a setting in
several steps: `agent.poll_interval_ms`, or `agent[0]` by its place in the section. Values from these
layers are read leniently: texts count as the numbers they write, and truth values as 1 and 0.
-/

namespace FlowScheduler

open Document

/-! ### Lenient reading -/

namespace Lenient

/-- The truth value that a word stands for, in any case. -/
def switch? (s : String) : Option Bool :=
  let s := Text.toLower s
  if s = "true" ∨ s = "on" ∨ s = "yes" then some true
  else if s = "false" ∨ s = "off" ∨ s = "no" then some false
  else none

/-- A natural number of 64 bits. Reals are rounded, a half away from zero, and held to the range. -/
def nat64 : Decoder Nat
  | .bool b => some b.toNat
  | .integer n => Decode.nat64 (.integer n)
  | .real x => some x.round.toUInt64.toNat
  | .text s =>
    match switch? s with
    | some b => some b.toNat
    | none => Text.natUpTo? (Word.nat64End - 1) s.toList
  | _ => none

/-- An integer of 64 bits. Reals are rounded, a half away from zero, and held to the range. -/
def int64 : Decoder Int
  | .bool b => some b.toNat
  | .integer n => Decode.int64 (.integer n)
  | .real x => some x.round.toInt64.toInt
  | .text s =>
    match switch? s with
    | some b => some b.toNat
    | none => Text.integerIn? (-Word.int64End) (Word.int64End - 1) s.toList
  | _ => none

/-- The text of a scalar. -/
def text : Decoder String
  | .bool b => some (if b then "true" else "false")
  | .integer n => some (toString n)
  | .real x => some (Text.Decimal.ofFloat x)
  | .text s => some s
  | _ => none

/-- The lenient reader of settings. -/
def reader : SettingReader where
  nat64 := nat64
  nat32 v := (nat64 v).filter (· < Word.nat32End)
  int32 v := (int64 v).filter fun n => -Word.int32End ≤ n && n < Word.int32End
  text := text

end Lenient

/-! ### Layers -/

namespace Layer

/-- A step from a value to one inside it. -/
inductive Step where
  /-- To the field of a name. -/
  | field (name : String)
  /-- To the item at a place in a list; places below zero count from the end. -/
  | item (place : Int)
  deriving DecidableEq, Repr

/-! #### Names of several steps -/

/-- A character of a field's name. -/
def isStepChar (c : Char) : Bool := c.isAlphanum || c = '_' || c = '-'

/-- A step to a field, and the rest. -/
def field? (cs : List Char) : Option (Step × List Char) :=
  let name := cs.takeWhile isStepChar
  if name = [] then none else some (.field (String.ofList name), cs.drop name.length)

/-- A step to an item, after its opening bracket, and the rest. -/
def item? (cs : List Char) : Option (Step × List Char) :=
  let cs := cs.dropWhile Toml.isSpace
  let sign := cs.takeWhile (· = '-')
  let digits := (cs.drop sign.length).takeWhile Char.isDigit
  let rest := (cs.drop (sign.length + digits.length)).dropWhile Toml.isSpace
  match Text.integerIn? (-Word.int64End) (Word.int64End - 1) (sign ++ digits), rest with
  | some place, ']' :: rest => some (.item place, rest)
  | _, _ => none

/-- The steps after the first one; `fuel` bounds them. -/
def moreSteps? : (fuel : Nat) → List Char → Option (List Step)
  | _, [] => some []
  | 0, _ => none
  | fuel + 1, c :: cs =>
    let step := if c = '.' then field? cs else if c = '[' then item? cs else none
    step.bind fun (step, rest) => (moreSteps? fuel rest).map (step :: ·)

/-- The steps of a name: fields with points between them, and places in brackets. Any other name is the
name of one field. -/
def stepsOf (name : String) : List Step :=
  let steps := (field? name.toList).bind fun (step, rest) =>
    (moreSteps? rest.length rest).map (step :: ·)
  steps.getD [.field name]

/-! #### Changes -/

/-- The record with the value under a name replaced or added. -/
def put (name : String) (v : Value) (fs : List (String × Value)) : List (String × Value) :=
  if fs.any (·.1 == name) then fs.map fun f => if f.1 == name then (name, v) else f
  else fs ++ [(name, v)]

/-- The list with the item at a place changed, filled up with `null` to have such an item. -/
def changeItem (change : Value → Value) (place : Int) (items : List Value) : List Value :=
  if 0 ≤ place then
    (items ++ List.replicate (place.toNat + 1 - items.length) Value.null).modify place.toNat change
  else
    let items := List.replicate (place.natAbs - items.length) Value.null ++ items
    items.modify (items.length - place.natAbs) change

/-- The value with the one at the end of some steps changed. What is no record or list on the way
becomes one. -/
def change (f : Value → Value) : (steps : List Step) → Value → Value
  | [], v => f v
  | .field s :: steps, .record fs =>
    .record (put s (change f steps ((fs.lookup s).getD .null)) fs)
  | .field s :: steps, _ => .record [(s, change f steps .null)]
  | .item place :: steps, .list items => .list (changeItem (change f steps) place items)
  | .item place :: steps, _ => .list (changeItem (change f steps) place [])

/-- One value over another: records are laid over each other field by field. `fuel` bounds their
depth. -/
def lay : (fuel : Nat) → (upper lower : Value) → Value
  | fuel + 1, .record upper, .record lower =>
    .record (upper.foldl (fun fs (name, v) =>
      put name (lay fuel v ((fs.lookup name).getD .null)) fs) lower)
  | _, upper, _ => upper

/-! #### The file and the environment -/

/-- Whether a record stands for a date or time: its first name in order is the one for their texts. -/
def isMoment (fs : List (String × Value)) : Bool :=
  fs.any (·.1 == Decode.momentField) && fs.all fun f => !(f.1 < Decode.momentField)

mutual

/-- A value of a file in a layer. Dates and times become texts, also where records stand for them;
integers must have at most 64 bits with a sign. -/
def ofFile? : Value → Option Value
  | .integer n => if Word.isInt64 n then some (.integer n) else none
  | .moment s => some (.text s)
  | .broken => none
  | .list items => (ofFileItems? items).map .list
  | .record fs =>
    if isMoment fs then
      ((fs.lookup Decode.momentField).bind Decode.text).bind fun s => (Toml.moment? s.toList).map .text
    else (ofFileFields? fs).map .record
  | v => some v

/-- Several values of a file in a layer. -/
def ofFileItems? : List Value → Option (List Value)
  | [] => some []
  | v :: vs => (ofFile? v).bind fun v => (ofFileItems? vs).map (v :: ·)

/-- The fields of a file's record in a layer. -/
def ofFileFields? : List (String × Value) → Option (List (String × Value))
  | [] => some []
  | (name, v) :: fs => (ofFile? v).bind fun v => (ofFileFields? fs).map ((name, v) :: ·)

end

/-- The value that a variable of the environment writes: a truth value, a number or else a text. -/
def valueOf (s : String) : Value :=
  let lower := Text.toLower s
  if lower = "true" then .bool true
  else if lower = "false" then .bool false
  else match Text.integerIn? (-Word.int64End) (Word.int64End - 1) s.toList with
    | some n => .integer n
    | none => match Text.Decimal.float? s.toList with
      | some x => .real x
      | none => .text s

/-- What a variable of the environment sets, and the value; other variables set nothing. -/
def ofVariable? (name value : String) : Option (List Step × Value) :=
  let mark := "scheduler__"
  if (Text.toLower name).startsWith mark then
    let rest := Text.replaceAll ['_', '_'] ['.'] (name.toList.drop mark.length)
    some (stepsOf (Text.toLower (String.ofList rest)), valueOf value)
  else none

/-- The layer of a file's fields: names at the top may have several steps. -/
def ofFields (fields : List (String × Value)) : Value :=
  fields.foldl (fun layer (name, v) => change (lay (v.depth + 1) v) (stepsOf name) layer) (.record [])

/-- The variables of the environment over a layer. -/
def withEnvironment (environment : List (String × String)) (layer : Value) : Value :=
  environment.foldl (fun layer (name, value) =>
    match ofVariable? name value with
    | some (steps, v) => change (fun _ => v) steps layer
    | none => layer) layer

end Layer

/-! ### Loading -/

/-- Why settings could not be loaded. -/
inductive LoadFault where
  /-- There is nothing at the path given. -/
  | missing
  /-- The file is no TOML document, or has integers beyond 64 bits. -/
  | unreadable
  /-- A setting has a value of another kind. -/
  | undecodable
  | invalid (fault : SettingsFault)
  deriving DecidableEq, Repr

namespace Settings

/-- Where the settings are looked for if no path is given. -/
def defaultPaths : List String := ["config/scheduler.toml", "scheduler.toml"]

/-- The settings if they are valid. -/
def validated (s : Settings) : Except SettingsFault Settings :=
  match s.fault? with
  | some f => .error f
  | none => .ok s

/-- The layer of the file at a path. A directory stands for the TOML file of its name. -/
def fileLayer (files : Files) (path : String) : Except LoadFault Value :=
  let text := files.read? path <|> (Files.withEnding? path ".toml").bind files.read?
  match (text.bind Toml.read?).bind Layer.ofFile? with
  | some (.record fields) => .ok (Layer.ofFields fields)
  | _ => .error .unreadable

/-- The settings from the file at a path, or at one of the default paths, and from the
environment. -/
def load (files : Files) (path : Option String) (environment : List (String × String)) :
    Except LoadFault Settings := do
  let layer ← match path with
    | some path => if files.contains path then fileLayer files path else .error .missing
    | none =>
      match defaultPaths.find? files.contains with
      | some path => fileLayer files path
      | none => .ok (.record [])
  match Settings.ofValue? Lenient.reader (Layer.withEnvironment environment layer) with
  | none => .error .undecodable
  | some s => s.validated.mapError .invalid

/-- Why a text holds no settings. -/
inductive TextFault where
  | unreadable
  | invalid (fault : SettingsFault)
  deriving DecidableEq, Repr

/-- The settings that a TOML document holds. -/
def ofToml (text : String) : Except TextFault Settings :=
  match (Toml.read? text).bind (Settings.ofValue? {}) with
  | none => .error .unreadable
  | some s => s.validated.mapError .invalid

end Settings

end FlowScheduler
