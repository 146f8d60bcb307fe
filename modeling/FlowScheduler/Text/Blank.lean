/-!
Blank characters and the trimming of texts.

A character is blank when it has the Unicode property White_Space. All trimming and all removal of
blanks in rules, names and tags uses this one set.
-/

namespace FlowScheduler.Text

/-- Membership in the Unicode property White_Space. -/
def isBlank (c : Char) : Bool :=
  let n := c.toNat
  (9 ≤ n && n ≤ 13) || n == 0x20 || n == 0x85 || n == 0xA0 || n == 0x1680 ||
    (0x2000 ≤ n && n ≤ 0x200A) || n == 0x2028 || n == 0x2029 || n == 0x202F || n == 0x205F ||
    n == 0x3000

/-- The characters without the blanks before the first other one. -/
def dropBlanks (cs : List Char) : List Char :=
  cs.dropWhile isBlank

/-- The characters without leading and trailing blanks. -/
def trimChars (cs : List Char) : List Char :=
  (dropBlanks (dropBlanks cs).reverse).reverse

/-- The text without leading and trailing blanks. -/
def trim (s : String) : String :=
  String.ofList (trimChars s.toList)

/-- Whether a text has no character other than blanks. -/
def isAllBlank (s : String) : Bool :=
  s.toList.all isBlank

/-- The characters that are not blank, in order. -/
def withoutBlanks (s : String) : List Char :=
  s.toList.filter (fun c => !isBlank c)

end FlowScheduler.Text
