import FlowScheduler.Document.Value
import FlowScheduler.Calendar.Timestamp

/-!
Decoding of documents into entities.

An entity is written as a record of its fields, or as the list of their values in order. A record may
have further fields, which are ignored, but may not repeat a known one. A field with a default may be
missing; any other may not, and no value is taken for one of another kind. A decoder answers `none`
for a document that does not denote an entity.
-/

namespace FlowScheduler.Document

/-- The text format that a document came from, where it matters to decoding. -/
inductive Format where
  | json
  | toml
  deriving DecidableEq, Repr

/-- A reader of values. -/
abbrev Decoder (α : Type) := Value → Option α

namespace Decode

/-! ### Plain values -/

/-- A truth value. -/
def bool : Decoder Bool
  | .bool b => some b
  | _ => none

/-- A text. -/
def text : Decoder String
  | .text s => some s
  | _ => none

/-- An integer between two bounds. -/
def integerIn (low high : Int) : Decoder Int
  | .integer n => if low ≤ n ∧ n ≤ high then some n else none
  | _ => none

/-- An integer of 64 bits. -/
def int64 : Decoder Int := integerIn (-Word.int64End) (Word.int64End - 1)

/-- An integer of 32 bits. -/
def int32 : Decoder Int := integerIn (-Word.int32End) (Word.int32End - 1)

/-- An integer of 8 bits. -/
def int8 : Decoder Int := integerIn (-128) 127

/-- A natural number of 64 bits. -/
def nat64 : Decoder Nat := fun v => (integerIn 0 (Word.nat64End - 1) v).map Int.toNat

/-- A natural number of 32 bits. -/
def nat32 : Decoder Nat := fun v => (integerIn 0 (Word.nat32End - 1) v).map Int.toNat

/-- A value or `null`. -/
def option (d : Decoder α) : Decoder (Option α)
  | .null => some none
  | v => (d v).map some

/-- A list of values of one kind. -/
def list (d : Decoder α) : Decoder (List α)
  | .list vs => vs.mapM d
  | _ => none

/-- The name that the text of a date or time has where a record is asked for. -/
def momentField : String := "$__toml_private_datetime"

/-- The fields of a record. A date or time counts as a record of its text alone. -/
def fields? : Decoder (List (String × Value))
  | .record fs => some fs
  | .moment s => some [(momentField, .text s)]
  | _ => none

/-- A record of texts under any names, in its order. -/
def texts : Decoder (List (String × String)) := fun v =>
  (fields? v).bind fun fs => fs.mapM fun (n, v) => (text v).map (n, ·)

/-- A timestamp as an instant. -/
def instant : Decoder Instant := fun v => (text v).bind Instant.ofText?

/-- A timestamp with its offset. -/
def offsetTime : Decoder OffsetTime := fun v => (text v).bind OffsetTime.ofText?

/-! ### Records -/

/-- The values under the known names, each present or not. -/
structure Slots where
  values : List (String × Option Value)
  /-- Whether the values were given in order, without names. -/
  positional : Bool

/-- The only value under a name; `none` if the name is repeated. -/
def unique? (name : String) (fields : List (String × Value)) : Option (Option Value) :=
  match fields.filter (·.1 == name) with
  | [] => some none
  | [f] => some (some f.2)
  | _ => none

/-- The values of known fields. -/
def recordSlots (names : List String) (fields : List (String × Value)) : Option Slots :=
  (names.mapM fun n => (unique? n fields).map (n, ·)).map (⟨·, false⟩)

/-- The values of fields given in order; JSON refuses surplus values. -/
def listSlots (format : Format) (names : List String) (items : List Value) : Option Slots :=
  if format = .json ∧ names.length < items.length then none
  else some ⟨names.zipIdx.map fun (n, i) => (n, items[i]?), true⟩

/-- The values under the known names, from a record or from a list in the order of the names. -/
def slots (format : Format) (names : List String) : Value → Option Slots
  | .list items => listSlots format names items
  | v => (fields? v).bind (recordSlots names)

namespace Slots

/-- The value of a field, if it is present. -/
def value? (s : Slots) (name : String) : Option Value := (s.values.lookup name).join

/-- A field that must be present. -/
def need (s : Slots) (name : String) (d : Decoder α) : Option α := (value? s name).bind d

/-- A field that has a value of its own when it is missing. -/
def get (s : Slots) (name : String) (d : Decoder α) (default : α) : Option α :=
  match value? s name with
  | some v => d v
  | none => some default

/-- A field that may be `null`, and may be missing where fields have names. -/
def getOption (s : Slots) (name : String) (d : Decoder α) : Option (Option α) :=
  match value? s name with
  | some v => option d v
  | none => if s.positional then none else some none

end Slots

end Decode

end FlowScheduler.Document
