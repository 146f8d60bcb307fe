import FlowScheduler.Calendar.Instant
import FlowScheduler.Text.Blank
import FlowScheduler.Text.LetterCase
import FlowScheduler.Text.Pieces

/-!
Date tags in texts.

A tag stands between `<%` and the next `%>`. If its content, trimmed and in capitals, begins with
`DT_`, the tag is replaced by what follows `DT_` with the date tokens filled in; every other tag and
all other text stay as they are, and so does a tag that is never closed.
-/

namespace FlowScheduler

namespace DateTag

/-- The mark that opens a tag. -/
def opening : List Char := ['<', '%']

/-- The mark that closes a tag. -/
def closing : List Char := ['%', '>']

/-- The date tokens with the texts that they stand for, in the order in which they are tried. -/
def tokens (l : LocalTime) : List (List Char × List Char) :=
  [(['Y', 'Y', 'Y', 'Y'], (Text.paddedInt 4 l.date.year).toList),
    (['Y', 'Y'], (Text.padded 2 (l.date.year % 100).toNat).toList),
    (['M', 'M'], (Text.padded 2 l.date.month).toList),
    (['D', 'D'], (Text.padded 2 l.date.day).toList),
    (['H', 'H'], (Text.padded 2 l.time.hour).toList),
    (['N', 'N'], (Text.padded 2 l.time.minute).toList),
    (['S', 'S'], (Text.padded 2 l.time.secondOfMinute).toList)]

/-- The first token that a text begins with: the text that it stands for, and the rest. -/
def token? (ts : List (List Char × List Char)) (cs : List Char) : Option (List Char × List Char) :=
  ts.findSome? fun (token, value) =>
    if token = [] then none else (Text.strip? token cs).map (value, ·)

theorem token?_shortens {ts : List (List Char × List Char)} {cs value rest : List Char}
    (h : token? ts cs = some (value, rest)) : rest.length < cs.length := by
  obtain ⟨⟨token, v⟩, _, h⟩ := List.exists_of_findSome?_eq_some h
  simp only at h
  split at h
  · nomatch h
  · next hne =>
    obtain ⟨r, hr, he⟩ := Option.map_eq_some_iff.1 h
    cases he
    have := Text.strip?_eq_some.1 hr
    have : 0 < token.length := List.length_pos_iff.2 hne
    simp_all

/-- The text with every token filled in, from left to right. -/
def fill (ts : List (List Char × List Char)) (cs : List Char) : List Char :=
  match h : token? ts cs with
  | some (value, rest) =>
    have := token?_shortens h
    value ++ fill ts rest
  | none =>
    match cs with
    | [] => []
    | c :: rest => c :: fill ts rest
termination_by cs.length

/-- The date format with its tokens filled in from a local time. -/
def format (l : LocalTime) (cs : List Char) : List Char := fill (tokens l) cs

/-- The format of a tag's content, if it is a date tag. -/
def format? (content : List Char) : Option (List Char) :=
  Text.strip? ['D', 'T', '_'] (Text.upperChars (Text.trimChars content))

/-- What a tag with this content becomes. -/
def expandTag (l : LocalTime) (content : List Char) : List Char :=
  match format? content with
  | some f => format l f
  | none => opening ++ content ++ closing

/-- The text with every date tag replaced. -/
def substitute (l : LocalTime) (cs : List Char) : List Char :=
  match h : Text.cut? opening cs with
  | none => cs
  | some (before, after) =>
    match h' : Text.cut? closing after with
    | none => cs
    | some (content, rest) =>
      have : rest.length < cs.length := Nat.lt_trans
        (Text.cut?_shortens (by decide) h') (Text.cut?_shortens (by decide) h)
      before ++ expandTag l content ++ substitute l rest
termination_by cs.length

end DateTag

/-- The date format with its tokens filled in from the reference's local time. -/
def formatDate (reference : OffsetTime) (format : String) : String :=
  String.ofList (DateTag.format reference.shown format.toList)

/-- The text with its date tags replaced at the reference's local time. -/
def substituteDateTags (reference : OffsetTime) (text : String) : String :=
  String.ofList (DateTag.substitute reference.shown text.toList)

end FlowScheduler
