import FlowScheduler.Word

/-!
Documents: the values that the text formats JSON and TOML have in common.

A reader yields a value; decoders turn values into entities. Records keep their fields in the order
of the text and may hold a name twice, so that a decoder can refuse a repeated field. A part of a
text that is well delimited but denotes nothing, such as half of a surrogate pair, reads as `broken`:
it is harmless where nothing looks at it and is refused everywhere else.
-/

namespace FlowScheduler.Document

/-- A value of a document. -/
inductive Value where
  | null
  | bool (b : Bool)
  | integer (n : Int)
  /-- A number with a fraction or an exponent, or one too large to be an integer. -/
  | real (x : Float)
  | text (s : String)
  /-- A date, a time of day or both, as TOML writes them without quotes. -/
  | moment (s : String)
  | list (items : List Value)
  | record (fields : List (String × Value))
  /-- A delimited part of the text that denotes no value. -/
  | broken
  deriving Repr, Inhabited

namespace Value

mutual

/-- The number of lists and records around the innermost value. -/
def depth : Value → Nat
  | list items => listDepth items + 1
  | record fields => fieldsDepth fields + 1
  | _ => 0

/-- The greatest depth of several values. -/
def listDepth : List Value → Nat
  | [] => 0
  | v :: vs => max v.depth (listDepth vs)

/-- The greatest depth of the values of several fields. -/
def fieldsDepth : List (String × Value) → Nat
  | [] => 0
  | (_, v) :: fs => max v.depth (fieldsDepth fs)

end

mutual

/-- Whether every part satisfies a condition. -/
def all (p : Value → Bool) : Value → Bool
  | list items => p (list items) && listAll p items
  | record fields => p (record fields) && fieldsAll p fields
  | v => p v

/-- Whether every part of several values satisfies a condition. -/
def listAll (p : Value → Bool) : List Value → Bool
  | [] => true
  | v :: vs => v.all p && listAll p vs

/-- Whether every part of the values of several fields satisfies a condition. -/
def fieldsAll (p : Value → Bool) : List (String × Value) → Bool
  | [] => true
  | (_, v) :: fs => v.all p && fieldsAll p fs

end

/-- Whether no part is broken. -/
def isSound (v : Value) : Bool :=
  v.all fun
    | broken => false
    | _ => true

/-- An optional value; `null` stands for a missing one. -/
def ofOption (f : α → Value) : Option α → Value
  | some a => f a
  | none => null

end Value

end FlowScheduler.Document
