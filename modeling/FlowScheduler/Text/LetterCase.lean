import FlowScheduler.Text.CaseTable

/-!
Upper and lower case of texts, over all of Unicode.

The upper case of one character may be several (`ß` becomes `SS`). The lower case of a sigma depends
on its place: at the end of a word it is the final form.
-/

namespace FlowScheduler.Text

/-- The counterpart of a character in a run. -/
def CaseRun.image? (r : CaseRun) (n : Nat) : Option Char :=
  if r.low ≤ n ∧ n ≤ r.high ∧ (n - r.low) % r.step = 0 then
    some (Char.ofNat (n + r.shift).toNat)
  else none

private def inRanges (ranges : List (Nat × Nat)) (c : Char) : Bool :=
  ranges.any fun r => r.1 ≤ c.toNat && c.toNat ≤ r.2

/-- The upper case of one character. -/
def upperChar (c : Char) : List Char :=
  if c.toNat < 0x80 then [c.toUpper]
  else match upperExpansions.lookup c.toNat with
    | some ns => ns.map Char.ofNat
    | none => [(upperRuns.findSome? (·.image? c.toNat)).getD c]

/-- The lower case of one character, wherever it stands. -/
def lowerChar (c : Char) : List Char :=
  if c.toNat < 0x80 then [c.toLower]
  else if c.toNat = 0x130 then ['i', Char.ofNat 0x307]
  else [(lowerRuns.findSome? (·.image? c.toNat)).getD c]

/-- Whether the first character that is not case-ignorable is cased. -/
private def meetsCased (cs : List Char) : Bool :=
  match cs.dropWhile (inRanges ignorableRanges) with
  | [] => false
  | c :: _ => inRanges casedRanges c

private def lowerFrom (before : List Char) : List Char → List Char
  | [] => []
  | c :: rest =>
    let lowered :=
      if c.toNat = 0x3A3 then
        [if meetsCased before && !meetsCased rest then Char.ofNat 0x3C2 else Char.ofNat 0x3C3]
      else lowerChar c
    lowered ++ lowerFrom (c :: before) rest

/-- The characters in upper case. -/
def upperChars (cs : List Char) : List Char :=
  cs.flatMap upperChar

/-- The characters in lower case; a sigma that ends a word takes its final form. -/
def lowerChars (cs : List Char) : List Char :=
  lowerFrom [] cs

/-- The text in upper case. -/
def toUpper (s : String) : String :=
  String.ofList (upperChars s.toList)

/-- The text in lower case. -/
def toLower (s : String) : String :=
  String.ofList (lowerChars s.toList)

end FlowScheduler.Text
