import FlowScheduler.Document.Value

/-!
The tables of a TOML document while it is read.

A table may be opened by a header of its own, come to be because a table inside it has a header, or stem
from a key with points. A header opens each table once; a key with points goes only through tables that
have no header of their own, or through the last of a list of tables to a table inside it; and a value,
once given, cannot be extended.
-/

namespace FlowScheduler.Document.Toml

/-- How a table came to be. -/
inductive Origin where
  /-- By a header of its own. -/
  | header
  /-- By the header of a table inside it. -/
  | implied
  /-- By a key with points. -/
  | dotted
  deriving DecidableEq, Repr

/-- What stands under a key. -/
inductive Node where
  /-- A value that is complete. -/
  | closed (v : Value)
  /-- A table that may grow. -/
  | table (origin : Origin) (fields : List (String × Node))
  /-- A list of tables, of which the last may grow; the earlier ones are in reverse order. -/
  | tables (last : List (String × Node)) (earlier : List (List (String × Node)))

/-- The fields of a table that may grow. -/
abbrev Fields := List (String × Node)

namespace Fields

/-- The fields with another node under a key that is there. -/
def replace (k : String) (n : Node) (fs : Fields) : Fields :=
  fs.map fun f => if f.1 = k then (k, n) else f

/-- The fields with a value added under a key. -/
def assign (v : Value) : (key : List String) → Fields → Option Fields
  | [], _ => none
  | [k], fs => if (fs.lookup k).isSome then none else some (fs ++ [(k, .closed v)])
  | k :: ks, fs =>
    match fs.lookup k with
    | none => (assign v ks []).map fun inner => fs ++ [(k, .table .dotted inner)]
    | some (.table origin inner) =>
      -- the table that receives the value has to stem from a key with points itself
      if origin = .header ∨ (origin = .implied ∧ ks.length = 1) then none
      else (assign v ks inner).map fun inner => replace k (.table origin inner) fs
    | some (.tables last earlier) =>
      if ks.length = 1 then none
      else (assign v ks last).map fun last => replace k (.tables last earlier) fs
    | some (.closed _) => none

/-- The fields with a table changed that a header names; tables on the way come to be. -/
def descend (change : Fields → Option Fields) : (path : List String) → Fields → Option Fields
  | [], fs => change fs
  | k :: ks, fs =>
    match fs.lookup k with
    | none => (descend change ks []).map fun inner => fs ++ [(k, .table .implied inner)]
    | some (.table origin inner) =>
      (descend change ks inner).map fun inner => replace k (.table origin inner) fs
    | some (.tables last earlier) =>
      (descend change ks last).map fun last => replace k (.tables last earlier) fs
    | some (.closed _) => none

/-- The fields with a table opened under a key. -/
def openTable (k : String) (fs : Fields) : Option Fields :=
  match fs.lookup k with
  | none => some (fs ++ [(k, .table .header [])])
  | some (.table .implied inner) => some (replace k (.table .header inner) fs)
  | some _ => none

/-- The fields with a further table in the list under a key. -/
def openElement (k : String) (fs : Fields) : Option Fields :=
  match fs.lookup k with
  | none => some (fs ++ [(k, .tables [] [])])
  | some (.tables last earlier) => some (replace k (.tables [] (last :: earlier)) fs)
  | some _ => none

/-- Changes the table around the last part of a path, under that part. -/
def atEnd (change : String → Fields → Option Fields) (path : List String) (fs : Fields) :
    Option Fields :=
  match path.getLast? with
  | some k => descend (change k) path.dropLast fs
  | none => none

end Fields

mutual

/-- The value of a node. -/
def Node.toValue : Node → Value
  | .closed v => v
  | .table _ fs => .record (toRecord fs)
  | .tables last earlier => .list (toRecords earlier [.record (toRecord last)])

/-- The values of fields. -/
def toRecord : List (String × Node) → List (String × Value)
  | [] => []
  | (k, n) :: fs => (k, n.toValue) :: toRecord fs

/-- The values of tables in reverse order, before further values. -/
def toRecords : List (List (String × Node)) → List Value → List Value
  | [], vs => vs
  | fs :: rest, vs => toRecords rest (.record (toRecord fs) :: vs)

end

end FlowScheduler.Document.Toml
