import Mathlib
import FlowScheduler.Argument.DateTag
import FlowScheduler.Proofs.Text.Marks

/-!
What the replacement of date tags does to a text.

A text is cut in one way into plain text, closed tags and what follows a mark that is not closed (`Splits`).
Every piece is expanded for itself, and nothing but the date tags is changed (`substituteDateTags_expands`). So
two texts one after the other are expanded one after the other, provided that the first one neither leaves a tag
open nor ends in the first half of a mark.
-/

namespace FlowScheduler

namespace DateTag

variable {reference : OffsetTime} {l : LocalTime} {text before content rest more : List Char}

/-! ### Pieces -/

/-- A piece of a text. -/
inductive Piece where
  /-- Text outside of tags. -/
  | plain (chars : List Char)
  /-- What stands between the marks of a closed tag. -/
  | tag (content : List Char)
  /-- What follows a mark that opens a tag and is not closed. -/
  | unclosed (rest : List Char)
  deriving DecidableEq, Repr

namespace Piece

/-- The piece as it stands in the text. -/
def written : Piece → List Char
  | plain chars => chars
  | tag content => opening ++ content ++ closing
  | unclosed rest => opening ++ rest

/-- The content of a tag, trimmed and in capitals. -/
def label (content : List Char) : List Char := Text.upperChars (Text.trimChars content)

/-- What follows `DT_` in the label of a date tag. -/
def format? : Piece → Option (List Char)
  | tag content => if ['D', 'T', '_'] <+: label content then some ((label content).drop 3) else none
  | plain _ | unclosed _ => none

/-- What becomes of a piece. -/
def expand (reference : OffsetTime) (p : Piece) : List Char :=
  match p.format? with
  | some format => (formatDate reference (String.ofList format)).toList
  | none => p.written

theorem expand_of_format? {p : Piece} (h : p.format? = none) : p.expand reference = p.written := by
  rw [expand, h]

end Piece

/-- Whether the pieces are those of a text: a tag begins at the first mark that opens one and ends at the first mark
behind it that closes one, and the search goes on behind that. -/
inductive Splits : List Char → List Piece → Prop where
  | plain {text : List Char} : ¬opening <:+: text → Splits text [.plain text]
  | unclosed {before rest : List Char} : ¬opening <:+: before → ¬closing <:+: rest →
      Splits (before ++ opening ++ rest) [.plain before, .unclosed rest]
  | tag {before content rest : List Char} {ps : List Piece} : ¬opening <:+: before → ¬closing <:+: content →
      Splits rest ps →
      Splits (before ++ opening ++ (content ++ closing ++ rest)) (.plain before :: .tag content :: ps)

variable {ps : List Piece}

/-- The pieces make up the text. -/
theorem Splits.written_eq (h : Splits text ps) : ps.flatMap Piece.written = text := by
  induction h with
  | plain => simp [Piece.written]
  | unclosed => simp [Piece.written]
  | tag _ _ _ ih => simp [Piece.written, ih]

/-! ### The search for tags -/

theorem cut?_opening_eq_none (h : ¬opening <:+: text) : Text.cut? opening text = none :=
  (Text.cut?_eq_none_iff (by decide)).2 h

theorem cut?_closing_eq_none (h : ¬closing <:+: text) : Text.cut? closing text = none :=
  (Text.cut?_eq_none_iff (by decide)).2 h

theorem cut?_opening (h : ¬opening <:+: before) (rest : List Char) :
    Text.cut? opening (before ++ opening ++ rest) = some (before, rest) :=
  Text.cut?_of_not_infix (by decide) h

theorem cut?_closing (h : ¬closing <:+: content) (rest : List Char) :
    Text.cut? closing (content ++ closing ++ rest) = some (content, rest) :=
  Text.cut?_of_not_infix (by decide) h

theorem substitute_eq (l : LocalTime) (text : List Char) : substitute l text =
    match Text.cut? opening text with
    | none => text
    | some (before, after) =>
      match Text.cut? closing after with
      | none => text
      | some (content, rest) => before ++ expandTag l content ++ substitute l rest := by
  rw [substitute]
  split
  · next hopen => simp only [hopen]
  · next hopen =>
    split
    · next hclose => simp only [hopen, hclose]
    · next hclose => simp only [hopen, hclose]

theorem substitute_tag (hbefore : ¬opening <:+: before) (hcontent : ¬closing <:+: content) :
    substitute l (before ++ opening ++ (content ++ closing ++ rest)) =
      before ++ expandTag l content ++ substitute l rest := by
  rw [substitute_eq, cut?_opening hbefore]
  dsimp only
  rw [cut?_closing hcontent]

theorem substitute_unclosed (hbefore : ¬opening <:+: before) (hrest : ¬closing <:+: rest) :
    substitute l (before ++ opening ++ rest) = before ++ opening ++ rest := by
  rw [substitute_eq, cut?_opening hbefore]
  dsimp only
  rw [cut?_closing_eq_none hrest]

theorem substitute_plain (htext : ¬opening <:+: text) : substitute l text = text := by
  rw [substitute_eq, cut?_opening_eq_none htext]

/-- Plain text that does not end in the first half of a mark stands for itself in front of any text. -/
theorem substitute_plain_append (hbefore : ¬opening <:+: before) (hlast : before.getLast? ≠ some '<') :
    substitute l (before ++ more) = before ++ substitute l more := by
  have hcut : Text.cut? opening (before ++ more) =
      (Text.cut? opening more).map fun cut => (before ++ cut.1, cut.2) :=
    Text.cut?_append_eq_map hbefore fun h => absurd h hlast
  rw [substitute_eq l (before ++ more), substitute_eq l more, hcut]
  cases Text.cut? opening more with
  | none => rfl
  | some cut =>
    obtain ⟨head, after⟩ := cut
    dsimp only [Option.map_some]
    cases Text.cut? closing after with
    | none => rfl
    | some cut => simp

/-! ### The pieces of a text -/

theorem exists_splits (text : List Char) : ∃ ps, Splits text ps := by
  induction hlength : text.length using Nat.strong_induction_on generalizing text with
  | _ n ih =>
    cases hopen : Text.cut? opening text with
    | none => exact ⟨_, .plain ((Text.cut?_eq_none_iff (by decide)).1 hopen)⟩
    | some cut =>
      obtain ⟨before, after⟩ := cut
      have hbefore : ¬opening <:+: before := Text.not_infix_of_cut? (by decide) hopen
      have hshorter := Text.cut?_shortens (by decide) hopen
      rw [Text.cut?_append hopen]
      cases hclose : Text.cut? closing after with
      | none => exact ⟨_, .unclosed hbefore ((Text.cut?_eq_none_iff (by decide)).1 hclose)⟩
      | some cut =>
        obtain ⟨content, rest⟩ := cut
        have hrest := Text.cut?_shortens (by decide) hclose
        obtain ⟨ps, hps⟩ := ih rest.length (by omega) rest rfl
        rw [Text.cut?_append hclose]
        exact ⟨_, .tag hbefore (Text.not_infix_of_cut? (by decide) hclose) hps⟩

theorem opening_inj {before' rest' : List Char} (hbefore : ¬opening <:+: before)
    (hbefore' : ¬opening <:+: before') (h : before ++ opening ++ rest = before' ++ opening ++ rest') :
    before = before' ∧ rest = rest' := by
  have hcut := cut?_opening hbefore rest
  rw [h, cut?_opening hbefore', Option.some.injEq, Prod.mk.injEq] at hcut
  exact ⟨hcut.1.symm, hcut.2.symm⟩

theorem closing_inj {content' rest' : List Char} (hcontent : ¬closing <:+: content)
    (hcontent' : ¬closing <:+: content') (h : content ++ closing ++ rest = content' ++ closing ++ rest') :
    content = content' ∧ rest = rest' := by
  have hcut := cut?_closing hcontent rest
  rw [h, cut?_closing hcontent', Option.some.injEq, Prod.mk.injEq] at hcut
  exact ⟨hcut.1.symm, hcut.2.symm⟩

theorem Splits.unique {qs : List Piece} (h : Splits text ps) (h' : Splits text qs) : qs = ps := by
  induction h generalizing qs with
  | plain hplain =>
    cases h' with
    | plain => rfl
    | unclosed | tag => exact absurd ⟨_, _, rfl⟩ hplain
  | @unclosed before rest hbefore hrest =>
    generalize htext : before ++ opening ++ rest = text at h'
    cases h' with
    | plain hplain => exact absurd ⟨_, _, htext⟩ hplain
    | unclosed hbefore' _ =>
      obtain ⟨rfl, rfl⟩ := opening_inj hbefore hbefore' htext
      rfl
    | tag hbefore' _ _ =>
      obtain ⟨-, rfl⟩ := opening_inj hbefore hbefore' htext
      exact absurd ⟨_, _, rfl⟩ hrest
  | @tag before content rest ps hbefore hcontent _ ih =>
    generalize htext : before ++ opening ++ (content ++ closing ++ rest) = text at h'
    cases h' with
    | plain hplain => exact absurd ⟨_, _, htext⟩ hplain
    | unclosed hbefore' hrest' =>
      obtain ⟨-, rfl⟩ := opening_inj hbefore hbefore' htext
      exact absurd ⟨_, _, rfl⟩ hrest'
    | tag hbefore' hcontent' hps' =>
      obtain ⟨rfl, htail⟩ := opening_inj hbefore hbefore' htext
      obtain ⟨rfl, rfl⟩ := closing_inj hcontent hcontent' htail
      rw [ih hps']

/-! ### Expansion -/

theorem format?_eq (content : List Char) : format? content = (Piece.tag content).format? := by
  rw [format?, Piece.format?, ← Piece.label]
  split
  · next hbegins =>
    obtain ⟨format, hformat⟩ := hbegins
    rw [← hformat]
    exact Text.strip?_eq_some.2 rfl
  · next hbegins => exact Text.strip?_eq_none_iff.2 hbegins

theorem expandTag_eq (reference : OffsetTime) (content : List Char) :
    expandTag reference.shown content = (Piece.tag content).expand reference := by
  rw [expandTag, format?_eq, Piece.expand]
  cases (Piece.tag content).format? with
  | some f => simp only [formatDate, String.toList_ofList]
  | none => rfl

theorem Splits.substitute_eq (h : Splits text ps) :
    substitute reference.shown text = ps.flatMap (Piece.expand reference) := by
  induction h with
  | plain hplain =>
    rw [substitute_plain hplain]
    simp [Piece.expand, Piece.format?, Piece.written]
  | unclosed hbefore hrest =>
    rw [substitute_unclosed hbefore hrest]
    simp [Piece.expand, Piece.format?, Piece.written]
  | tag hbefore hcontent _ ih =>
    rw [substitute_tag hbefore hcontent, ih, expandTag_eq]
    simp [Piece.expand, Piece.format?, Piece.written]

theorem Splits.substitute_append (h : Splits text ps) (hclosed : ∀ rest, .unclosed rest ∉ ps)
    (hlast : text.getLast? ≠ some '<') : substitute l (text ++ more) = substitute l text ++ substitute l more := by
  induction h with
  | plain hplain => rw [substitute_plain_append hplain hlast, substitute_plain hplain]
  | unclosed => simp at hclosed
  | @tag before content rest ps hbefore hcontent _ ih =>
    have hrest : rest.getLast? ≠ some '<' := by
      intro hrest
      exact hlast (by simp [List.getLast?_append, hrest])
    have hps : ∀ rest', .unclosed rest' ∉ ps := fun rest' hmem => hclosed rest' (by simp [hmem])
    have hshift : before ++ opening ++ (content ++ closing ++ rest) ++ more =
        before ++ opening ++ (content ++ closing ++ (rest ++ more)) := by simp
    rw [hshift, substitute_tag hbefore hcontent, substitute_tag hbefore hcontent, ih hps hrest]
    simp

end DateTag

open DateTag

theorem toList_substituteDateTags (reference : OffsetTime) (text : String) :
    (substituteDateTags reference text).toList = substitute reference.shown text.toList :=
  String.toList_ofList

/-- A text has one list of pieces, and the text with its date tags replaced consists of what becomes of each: a tag
whose label begins with `DT_` becomes the rest of the label with the date filled in, and everything else stays. So
a text without date tags stays as it is, and a text that leaves no tag open and does not end in the first half of a
mark is expanded in front of any other text as it is alone. -/
theorem substituteDateTags_expands (reference : OffsetTime) (text : String) :
    ∃ ps, Splits text.toList ps ∧ (∀ qs, Splits text.toList qs → qs = ps) ∧
      (substituteDateTags reference text).toList = ps.flatMap (Piece.expand reference) ∧
      ((∀ p ∈ ps, p.format? = none) → substituteDateTags reference text = text) ∧
      ((∀ rest, .unclosed rest ∉ ps) → text.toList.getLast? ≠ some '<' → ∀ more : String,
        substituteDateTags reference (text ++ more) =
          substituteDateTags reference text ++ substituteDateTags reference more) := by
  obtain ⟨ps, hps⟩ := exists_splits text.toList
  have hexpand : (substituteDateTags reference text).toList = ps.flatMap (Piece.expand reference) := by
    rw [toList_substituteDateTags, hps.substitute_eq]
  refine ⟨ps, hps, fun qs hqs => hps.unique hqs, hexpand, fun hdates => ?_, fun hclosed hlast more => ?_⟩
  · rw [← String.toList_inj, hexpand]
    calc ps.flatMap (Piece.expand reference)
        = ps.flatMap Piece.written := List.flatMap_congr fun p hp => Piece.expand_of_format? (hdates p hp)
      _ = text.toList := hps.written_eq
  · rw [← String.toList_inj, String.toList_append, toList_substituteDateTags, String.toList_append,
      hps.substitute_append hclosed hlast, toList_substituteDateTags, toList_substituteDateTags]

private def lunch : OffsetTime := ⟨.ofSecond 1709813342, 3600⟩

private def folder : List Piece :=
  [.plain [], .tag ['H', 'O', 'S', 'T'], .plain ['/'], .tag [' ', 'd', 't', '_', 'y', 'y'], .plain ['-']]

theorem substituteDateTags_expands_before_open_tag :
    Splits "<%HOST%>/<% dt_yy%>-".toList folder ∧ (∀ rest, .unclosed rest ∉ folder) ∧
      substituteDateTags lunch ("<%HOST%>/<% dt_yy%>-" ++ "<%DT_MM%><%DT_DD") = "<%HOST%>/24-03<%DT_DD" := by
  have hend : Splits ['-'] [.plain ['-']] := .plain (by decide)
  have hdate : Splits _ (.plain ['/'] :: .tag [' ', 'd', 't', '_', 'y', 'y'] :: [.plain ['-']]) :=
    .tag (by decide) (by decide) hend
  have hhost : Splits _ (.plain [] :: .tag ['H', 'O', 'S', 'T'] :: _) := .tag (by decide) (by decide) hdate
  have hsplits : Splits "<%HOST%>/<% dt_yy%>-".toList folder := hhost
  have hclosed : ∀ rest, .unclosed rest ∉ folder := by simp [folder]
  obtain ⟨ps, -, hunique, -, -, happend⟩ := substituteDateTags_expands lunch "<%HOST%>/<% dt_yy%>-"
  obtain rfl := hunique folder hsplits
  refine ⟨hsplits, hclosed, ?_⟩
  rw [happend hclosed (by decide)]
  decide +kernel

end FlowScheduler
