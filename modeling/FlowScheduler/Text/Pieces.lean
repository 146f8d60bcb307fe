/-!
Cutting and joining of texts: the pieces between separators, the first place of a mark, and the
replacement of every occurrence of a mark.
-/

namespace FlowScheduler.Text

/-- The pieces between separators; there is one piece more than there are separators. -/
def splitAll (sep : Char) : List Char → List (List Char)
  | [] => [[]]
  | c :: cs =>
    if c = sep then [] :: splitAll sep cs
    else match splitAll sep cs with
      | [] => [[c]]
      | p :: ps => (c :: p) :: ps

/-- The texts with `sep` between each two neighbours. -/
def joinWith (sep : String) (parts : List String) : String :=
  sep.intercalate parts

/-- What follows `mark` in a text that begins with it. -/
def strip? : (mark text : List Char) → Option (List Char)
  | [], text => some text
  | _ :: _, [] => none
  | m :: ms, c :: cs => if m = c then strip? ms cs else none

theorem strip?_eq_some {mark text rest : List Char} :
    strip? mark text = some rest ↔ text = mark ++ rest := by
  induction mark generalizing text with
  | nil => simp [strip?, eq_comm]
  | cons m ms ih =>
    cases text with
    | nil => simp [strip?]
    | cons c cs =>
      by_cases h : m = c
      · simp [strip?, h, ih]
      · simp [strip?, h, Ne.symm h]

/-- The text before and after the first occurrence of `mark`. -/
def cut? (mark : List Char) : List Char → Option (List Char × List Char)
  | [] => if mark.isEmpty then some ([], []) else none
  | c :: cs =>
    match strip? mark (c :: cs) with
    | some rest => some ([], rest)
    | none => (cut? mark cs).map fun (before, after) => (c :: before, after)

theorem cut?_append {mark text before after : List Char}
    (h : cut? mark text = some (before, after)) : text = before ++ mark ++ after := by
  induction text generalizing before after with
  | nil =>
    simp only [cut?] at h
    split at h <;> simp_all
  | cons c cs ih =>
    simp only [cut?] at h
    split at h
    · next rest hs =>
      cases h
      simpa using strip?_eq_some.1 hs
    · obtain ⟨⟨b, a⟩, hb, he⟩ := Option.map_eq_some_iff.1 h
      cases he
      simpa using congrArg (c :: ·) (ih hb)

theorem cut?_shortens {mark text before after : List Char} (hm : mark ≠ [])
    (h : cut? mark text = some (before, after)) : after.length < text.length := by
  have := cut?_append h
  subst this
  have : 0 < mark.length := List.length_pos_iff.2 hm
  simp only [List.length_append]
  omega

/-- Every occurrence of `mark`, from left to right and without overlap, replaced by `value`. An
empty mark occurs nowhere. -/
def replaceAll (mark value text : List Char) : List Char :=
  if hm : mark = [] then text
  else match h : cut? mark text with
    | none => text
    | some (before, after) =>
      have : after.length < text.length := cut?_shortens hm h
      before ++ value ++ replaceAll mark value after
termination_by text.length

end FlowScheduler.Text
