import Mathlib
import FlowScheduler.Argument.NamedTag
import FlowScheduler.Proofs.Argument.DateTags
import FlowScheduler.Proofs.Argument.Tokens

/-!
The insertion of named arguments in a text.

The tags of the names are replaced one name after the other, each in the text that the names before it left. That is
one pass over the text from left to right (`insertEntries`) as long as no value overlaps the tag of a name behind its
own. A value that holds such a tag does not stay as it is: in a text of closed tags every value is inserted with the
values of the names behind its own put in (`expandEntries`, `applyNamedArgs_inserts`). So the outcome depends on the
order of the names (`applyNamedArgs_replaces_in_value`).
-/

namespace FlowScheduler

open DateTag

variable {es es' : List (String × String)} {name value : String} {u v content before rest more body : List Char}

/-- The tags of names, with the values. -/
def NamedTag.tags (es : List (String × String)) : List (List Char × List Char) :=
  es.map fun e => (nameTag e.1, e.2.toList)

/-- The text with the tags of the names replaced by their values in one pass from left to right. -/
def insertEntries (es : List (String × String)) (text : String) : String :=
  String.ofList (fill (NamedTag.tags es) text.toList)

/-- Each value with the values of the names behind its own put in. -/
def expandEntries : List (String × String) → List (String × String)
  | [] => []
  | (name, value) :: rest => (name, applyEntries rest value) :: expandEntries rest

namespace NamedTag

/-! ### Texts of closed tags -/

/-- Whether a text holds no mark that opens a tag, and does not end in the first half of one. -/
structure IsSealed (text : List Char) : Prop where
  closed : ¬opening <:+: text
  last : text.getLast? ≠ some '<'

/-- Whether a text can stand between the marks of a tag. -/
structure IsContent (content : List Char) : Prop extends IsSealed content where
  ends : ¬closing <:+: content

/-- Whether every tag that is opened in a text is closed before another one is opened. -/
inductive IsPaired : List Char → Prop where
  | nil : IsPaired []
  | plain {before rest : List Char} : IsSealed before → IsPaired rest → IsPaired (before ++ rest)
  | tag {name : String} {rest : List Char} : IsContent name.toList → IsPaired rest → IsPaired (nameTag name ++ rest)

/-- Whether a text consists of paired tags and an end in which no tag is closed. -/
def IsTidy (text : List Char) : Prop := ∃ body tail, text = body ++ tail ∧ IsPaired body ∧ ¬closing <:+: tail

theorem IsSealed.suffix (h : IsSealed u) (hs : v <:+ u) : IsSealed v := by
  obtain ⟨before, rfl⟩ := hs
  exact ⟨fun hopening => h.closed (hopening.trans (List.suffix_append before v).isInfix),
    fun hlast => h.last (by rw [List.getLast?_append, hlast, Option.some_or])⟩

theorem IsSealed.freeOf (h : IsSealed u) (name : String) : FreeOf u (nameTag name) := by
  intro s more hs hne hbegins
  have hseals := h.suffix hs
  have hopening : opening <+: s ++ more := by
    refine List.IsPrefix.trans ?_ hbegins
    exact ⟨name.toList ++ closing, by rw [nameTag, List.append_assoc]⟩
  cases s with
  | nil => exact hne rfl
  | cons c s => exact Text.not_prefix_append hseals.closed (fun hlast => absurd hlast hseals.last) hopening

theorem IsSealed.append (h : IsSealed u) (h' : IsSealed v) : IsSealed (u ++ v) := by
  refine ⟨fun hopening => ?_, fun hlast => ?_⟩
  · induction u with
    | nil => exact h'.closed hopening
    | cons c u ih =>
      rcases List.infix_cons_iff.1 hopening with hbegins | htail
      · exact Text.not_prefix_append h.closed (fun hlast => absurd hlast h.last) hbegins
      · exact ih (h.suffix (List.suffix_cons c u)) htail
  · rw [List.getLast?_append, Option.or_eq_some_iff] at hlast
    exact hlast.elim h'.last fun hlast => h.last hlast.2

/-- What follows the first character of a tag. -/
theorem IsContent.rest_isSealed (h : IsContent content) : IsSealed ('%' :: (content ++ closing)) := by
  have hmark : IsSealed ['%'] := ⟨by decide, by decide⟩
  have hclosing : IsSealed closing := ⟨by decide, by decide⟩
  exact hmark.append (h.toIsSealed.append hclosing)

theorem nameTag_freeOf (h : IsContent name.toList) (h' : IsContent value.toList) (hne : value ≠ name) :
    FreeOf (nameTag name) (nameTag value) := by
  intro s more hs hs' hbegins
  rcases List.suffix_cons_iff.1 hs with rfl | hrest
  · obtain ⟨rest, hrest⟩ := hbegins
    have htail : value.toList ++ closing ++ rest = name.toList ++ closing ++ more := by
      simpa [nameTag, opening] using hrest
    exact hne (String.toList_inj.1 (closing_inj h'.ends h.ends htail).1)
  · exact h.rest_isSealed.freeOf value s more hrest hs' hbegins

/-- A value without any character of a mark overlaps a tag only if it is part of the name. -/
theorem apart_nameTag (hne : u ≠ []) (hmarks : ∀ c ∈ u, c ∉ ['<', '%', '>']) (hname : ¬u <:+: name.toList) :
    Apart u (nameTag name) := by
  have hplain : u.Disjoint ['<', '%', '>'] := fun c => hmarks c
  have hseals : IsSealed u := by
    refine ⟨fun hopening => ?_, fun hlast => ?_⟩
    · exact hplain (hopening.subset (by decide : '<' ∈ opening)) (by decide)
    · exact hplain (List.mem_of_getLast? hlast) (by decide)
  have hopening : u.Disjoint opening := List.disjoint_of_subset_right (by decide) hplain
  have hclosing : u.Disjoint closing := List.disjoint_of_subset_right (by decide) hplain
  refine ⟨hseals.freeOf name, fun s more hs hs' hbegins => ?_⟩
  rcases List.prefix_or_prefix_of_prefix hbegins (List.prefix_append s more) with hvalue | hsuffix
  · have hinside : u <:+: nameTag name := hvalue.isInfix.trans hs.isInfix
    exact hname (Text.infix_right_of_disjoint hne hopening (Text.infix_left_of_disjoint hne hclosing hinside))
  · -- the tag, and so each end of it, ends in a character of a mark
    have hlast : s.getLast hs' = '>' := by
      rw [hs.getLast hs']
      simp [nameTag, closing]
    exact hplain (hsuffix.subset (hlast ▸ List.getLast_mem hs')) (by decide)

/-! ### The tags of names -/

theorem toList_insertEntries (es : List (String × String)) (text : String) :
    (insertEntries es text).toList = fill (tags es) text.toList :=
  String.toList_ofList

theorem nameTag_ne_nil (name : String) : nameTag name ≠ [] := by simp [nameTag, opening]

theorem fill_tags_of_isSealed (h : IsSealed before) (rest : List Char) :
    fill (tags es) (before ++ rest) = before ++ fill (tags es) rest := by
  refine fill_append_of_freeOf (fun t ht => ?_) rest
  obtain ⟨e, -, rfl⟩ := List.mem_map.1 ht
  exact h.freeOf e.1

theorem fill_tags_of_not_closing (h : ¬closing <:+: rest) : fill (tags es) rest = rest := by
  refine fill_eq_self fun t ht hinfix => h ?_
  obtain ⟨e, -, rfl⟩ := List.mem_map.1 ht
  exact List.IsInfix.trans (List.suffix_append _ closing).isInfix hinfix

theorem token?_tags (hes : ∀ e ∈ es, IsContent e.1.toList) (hname : IsContent name.toList) (rest : List Char) :
    token? (tags es) (nameTag name ++ rest) = (es.lookup name).map fun value => (value.toList, rest) := by
  induction es with
  | nil => rfl
  | cons e es ih =>
    obtain ⟨key, value⟩ := e
    rw [tags, List.map_cons, token?_cons (nameTag_ne_nil key), List.lookup_cons]
    by_cases hkey : name = key
    · subst hkey
      simp [Text.strip?_eq_some.2 rfl]
    · have hfree := nameTag_freeOf hname (hes _ List.mem_cons_self) (Ne.symm hkey)
      have hnone : Text.strip? (nameTag key) (nameTag name ++ rest) = none :=
        Text.strip?_eq_none_iff.2 (hfree _ rest List.suffix_rfl (nameTag_ne_nil name))
      rw [hnone, Option.map_none, Option.none_or, beq_false_of_ne hkey]
      exact ih fun e he => hes e (List.mem_cons_of_mem _ he)

/-- What takes the place of the tag of a name. -/
def inPlaceOf (es : List (String × String)) (name : String) : List Char :=
  ((es.lookup name).map String.toList).getD (nameTag name)

theorem fill_tags_nameTag (hes : ∀ e ∈ es, IsContent e.1.toList) (hname : IsContent name.toList) (rest : List Char) :
    fill (tags es) (nameTag name ++ rest) = inPlaceOf es name ++ fill (tags es) rest := by
  have htoken := token?_tags hes hname rest
  cases hlookup : es.lookup name with
  | some value =>
    rw [hlookup, Option.map_some] at htoken
    rw [fill_of_token? htoken, inPlaceOf, hlookup, Option.map_some, Option.getD_some]
  | none =>
    rw [hlookup, Option.map_none] at htoken
    have htag : nameTag name ++ rest = '<' :: ('%' :: (name.toList ++ closing) ++ rest) := by simp [nameTag, opening]
    -- the tag stays: no tag of a name begins with it, and none behind its first character
    rw [htag] at htoken ⊢
    rw [fill_cons htoken, fill_tags_of_isSealed hname.rest_isSealed, inPlaceOf, hlookup, Option.map_none,
      Option.getD_none]
    simp [nameTag, opening]

/-! ### One name after the other -/

theorem IsSealed.isPaired (h : IsSealed u) : IsPaired u := List.append_nil u ▸ .plain h .nil

theorem IsPaired.append (h : IsPaired u) (h' : IsPaired v) : IsPaired (u ++ v) := by
  induction h with
  | nil => exact h'
  | plain hbefore _ ih => exact List.append_assoc _ _ v ▸ .plain hbefore ih
  | tag hname _ ih => exact List.append_assoc _ _ v ▸ .tag hname ih

theorem isPaired_nameTag (hname : IsContent name.toList) : IsPaired (nameTag name) :=
  List.append_nil (nameTag name) ▸ .tag hname .nil

theorem IsPaired.fill_append (h : IsPaired u) (hes : ∀ e ∈ es, IsContent e.1.toList) (more : List Char) :
    fill (tags es) (u ++ more) = fill (tags es) u ++ fill (tags es) more := by
  induction h with
  | nil => rw [fill_nil, List.nil_append, List.nil_append]
  | plain hbefore _ ih =>
    rw [List.append_assoc, fill_tags_of_isSealed hbefore, fill_tags_of_isSealed hbefore, ih, List.append_assoc]
  | tag hname _ ih =>
    rw [List.append_assoc, fill_tags_nameTag hes hname, fill_tags_nameTag hes hname, ih, List.append_assoc]

theorem isPaired_inPlaceOf (hvalues : ∀ e ∈ es, IsPaired e.2.toList) (hname : IsContent name.toList) :
    IsPaired (inPlaceOf es name) := by
  rw [inPlaceOf]
  cases hlookup : es.lookup name with
  | none => exact isPaired_nameTag hname
  | some value =>
    obtain ⟨before, after, rfl, -⟩ := List.lookup_eq_some_iff.1 hlookup
    exact hvalues (name, value) (by simp)

theorem IsPaired.fill_tags (h : IsPaired body) (hes : ∀ e ∈ es, IsContent e.1.toList)
    (hvalues : ∀ e ∈ es, IsPaired e.2.toList) : IsPaired (fill (tags es) body) := by
  induction h with
  | nil =>
    rw [fill_nil]
    exact .nil
  | plain hbefore _ ih =>
    rw [fill_tags_of_isSealed hbefore]
    exact .plain hbefore ih
  | tag hname _ ih =>
    rw [fill_tags_nameTag hes hname]
    exact (isPaired_inPlaceOf hvalues hname).append ih

theorem inPlaceOf_cons_self (es : List (String × String)) (name value : String) :
    inPlaceOf ((name, value) :: es) name = value.toList := by simp [inPlaceOf]

theorem inPlaceOf_cons_of_ne (es : List (String × String)) (value : String) {name other : String} (h : other ≠ name) :
    inPlaceOf ((name, value) :: es) other = inPlaceOf es other := by
  rw [inPlaceOf, List.lookup_cons, beq_false_of_ne h, inPlaceOf]

/-- To put in one value and then the others is to put in all of them, the one with the others put in it. -/
theorem IsPaired.fill_fill (h : IsPaired body) (hname : IsContent name.toList) (hvalue : IsPaired value.toList)
    (hes : ∀ e ∈ es, IsContent e.1.toList) : fill (tags es) (fill (tags [(name, value)]) body) =
      fill (tags ((name, insertEntries es value) :: es)) body := by
  have hone : ∀ e ∈ [(name, value)], IsContent e.1.toList := by simpa using hname
  have hall : ∀ e ∈ (name, insertEntries es value) :: es, IsContent e.1.toList :=
    List.forall_mem_cons.2 ⟨hname, hes⟩
  induction h with
  | nil => rw [fill_nil, fill_nil, fill_nil]
  | plain hbefore _ ih =>
    rw [fill_tags_of_isSealed hbefore, fill_tags_of_isSealed hbefore, fill_tags_of_isSealed hbefore, ih]
  | @tag other rest hother _ ih =>
    rw [fill_tags_nameTag hone hother, fill_tags_nameTag hall hother, ← ih]
    by_cases heq : other = name
    · subst heq
      rw [inPlaceOf_cons_self, inPlaceOf_cons_self, hvalue.fill_append hes, toList_insertEntries]
    · rw [inPlaceOf_cons_of_ne _ _ heq, inPlaceOf_cons_of_ne _ _ heq]
      exact fill_tags_nameTag hes hother _

theorem IsTidy.fill_tags (h : IsTidy u) (hes : ∀ e ∈ es, IsContent e.1.toList)
    (hvalues : ∀ e ∈ es, IsPaired e.2.toList) : IsTidy (fill (tags es) u) := by
  obtain ⟨body, tail, rfl, hbody, htail⟩ := h
  rw [hbody.fill_append hes, fill_tags_of_not_closing htail]
  exact ⟨_, tail, rfl, hbody.fill_tags hes hvalues, htail⟩

theorem IsTidy.fill_fill (h : IsTidy u) (hname : IsContent name.toList) (hvalue : IsPaired value.toList)
    (hes : ∀ e ∈ es, IsContent e.1.toList) : fill (tags es) (fill (tags [(name, value)]) u) =
      fill (tags ((name, insertEntries es value) :: es)) u := by
  obtain ⟨body, tail, rfl, hbody, htail⟩ := h
  have hone : ∀ e ∈ [(name, value)], IsContent e.1.toList := by simpa using hname
  have hfirst : IsPaired (fill (tags [(name, value)]) body) := hbody.fill_tags hone (by simpa using hvalue)
  rw [hbody.fill_append hone, fill_tags_of_not_closing htail, hfirst.fill_append hes, fill_tags_of_not_closing htail,
    hbody.fill_append (List.forall_mem_cons.2 ⟨hname, hes⟩), fill_tags_of_not_closing htail,
    hbody.fill_fill hname hvalue hes]

theorem IsPaired.isTidy (h : IsPaired u) : IsTidy u := ⟨u, [], (List.append_nil u).symm, h, by decide⟩

end NamedTag

open NamedTag

theorem applyEntries_nil (text : String) : applyEntries [] text = text := String.ofList_toList

theorem applyEntries_cons (name value text : String) (es : List (String × String)) :
    applyEntries ((name, value) :: es) text = applyEntries es (insertEntries [(name, value)] text) := by
  rw [applyEntries, applyEntries, List.foldl_cons, toList_insertEntries]
  dsimp only
  rw [replaceAll_eq_fill (nameTag_ne_nil name)]
  rfl

theorem applyEntries_eq_self {text : String} (h : ∀ e ∈ es, ¬nameTag e.1 <:+: text.toList) :
    applyEntries es text = text := by
  induction es with
  | nil => exact applyEntries_nil text
  | cons e es ih =>
    obtain ⟨hfirst, hrest⟩ := List.forall_mem_cons.1 h
    have hkept : insertEntries [e] text = text := by
      rw [← String.toList_inj, toList_insertEntries]
      exact fill_eq_self (by simpa [tags] using hfirst)
    rw [applyEntries_cons, hkept, ih hrest]

theorem map_fst_expandEntries (es : List (String × String)) :
    (expandEntries es).map Prod.fst = es.map Prod.fst := by
  induction es with
  | nil => rfl
  | cons e es ih => rw [expandEntries, List.map_cons, List.map_cons, ih]

theorem content_of_map_fst_eq (hnames : es'.map Prod.fst = es.map Prod.fst) (hes : ∀ e ∈ es, IsContent e.1.toList) :
    ∀ e ∈ es', IsContent e.1.toList := by
  intro e he
  obtain ⟨e', he', heq⟩ := List.mem_map.1 (hnames ▸ List.mem_map_of_mem he : e.1 ∈ es.map Prod.fst)
  exact heq ▸ hes e' he'

theorem expandEntries_eq_self (h : es.Pairwise fun e e' => ¬nameTag e'.1 <:+: e.2.toList) : expandEntries es = es := by
  induction es with
  | nil => rfl
  | cons e es ih =>
    obtain ⟨hvalue, hrest⟩ := List.pairwise_cons.1 h
    rw [expandEntries, applyEntries_eq_self hvalue, ih hrest]

theorem applyEntries_eq_expanded (hes : ∀ e ∈ es, IsContent e.1.toList) (hvalues : ∀ e ∈ es, IsPaired e.2.toList)
    {text : String} (htext : IsTidy text.toList) :
    applyEntries es text = insertEntries (expandEntries es) text := by
  induction es generalizing text with
  | nil =>
    rw [applyEntries_nil, ← String.toList_inj, toList_insertEntries]
    exact (fill_eq_self (by simp [expandEntries, tags])).symm
  | cons e es ih =>
    obtain ⟨name, value⟩ := e
    obtain ⟨hname, hes⟩ := List.forall_mem_cons.1 hes
    obtain ⟨hvalue, hvalues⟩ := List.forall_mem_cons.1 hvalues
    -- the first name leaves a tidy text, in which the others are put in by induction; and so are they in its value
    have hfirst : IsTidy (insertEntries [(name, value)] text).toList := by
      rw [toList_insertEntries]
      exact htext.fill_tags (by simpa using hname) (by simpa using hvalue)
    rw [applyEntries_cons, ih hes hvalues hfirst, ← String.toList_inj, toList_insertEntries, toList_insertEntries,
      toList_insertEntries, expandEntries, ih hes hvalues hvalue.isTidy]
    exact htext.fill_fill hname hvalue (content_of_map_fst_eq (map_fst_expandEntries es) hes)

theorem eq_of_inPlaceOf_eq (hnames : es.map Prod.fst = es'.map Prod.fst) (hnodup : (es.map Prod.fst).Nodup)
    (h : ∀ name ∈ es.map Prod.fst, inPlaceOf es name = inPlaceOf es' name) : es = es' := by
  induction es generalizing es' with
  | nil => exact (List.map_eq_nil_iff.1 hnames.symm).symm
  | cons e es ih =>
    obtain ⟨name, value⟩ := e
    obtain ⟨⟨name', value'⟩, es', rfl, hname, hrest⟩ := List.map_eq_cons_iff.1 hnames.symm
    obtain rfl : name' = name := hname
    obtain ⟨hfresh, hnodup⟩ := List.nodup_cons.1 hnodup
    have hvalue := h name' List.mem_cons_self
    rw [inPlaceOf_cons_self, inPlaceOf_cons_self, String.toList_inj] at hvalue
    rw [hvalue, ih hrest.symm hnodup fun other hother => ?_]
    have hne : other ≠ name' := fun heq => hfresh (heq ▸ hother)
    have hsame := h other (List.mem_cons_of_mem _ hother)
    rwa [inPlaceOf_cons_of_ne _ _ hne, inPlaceOf_cons_of_ne _ _ hne] at hsame

/-- Whether every name is there once and can stand between the marks of a tag. -/
structure HasTags (es : List (String × String)) : Prop where
  nodup : (es.map Prod.fst).Nodup
  content : ∀ e ∈ es, IsContent e.1.toList

theorem HasTags.perm (h : HasTags es) (hperm : es.Perm es') : HasTags es' where
  nodup := (hperm.map Prod.fst).nodup_iff.1 h.nodup
  content e he := h.content e (hperm.mem_iff.2 he)

theorem HasTags.tokensApart (h : HasTags es) : TokensApart (tags es) := by
  refine ⟨fun t ht => ?_, List.pairwise_map.2 ?_⟩
  · obtain ⟨e, -, rfl⟩ := List.mem_map.1 ht
    exact nameTag_ne_nil e.1
  · refine (List.pairwise_map.1 h.nodup).imp_of_mem fun {e e'} he he' hne => ?_
    exact ⟨nameTag_freeOf (h.content e he) (h.content e' he') hne.symm,
      nameTag_freeOf (h.content e' he') (h.content e he) hne⟩

theorem HasTags.insertEntries_perm (h : HasTags es) (hperm : es.Perm es') (text : String) :
    insertEntries es text = insertEntries es' text := by
  rw [insertEntries, insertEntries, h.tokensApart.fill_perm (hperm.map _)]
  rfl

theorem HasTags.applyEntries_eq (h : HasTags es)
    (hvalues : es.Pairwise fun e e' => Apart e.2.toList (nameTag e'.1)) (text : String) :
    applyEntries es text = insertEntries es text := by
  rw [applyEntries, insertEntries, ← h.tokensApart.foldl_replaceAll (List.pairwise_map.2 hvalues), tags,
    List.foldl_map]

/-- The texts that consist of one tag tell the values. -/
theorem HasTags.eq_of_insertEntries_eq (h : HasTags es) (hnames : es'.map Prod.fst = es.map Prod.fst)
    (hsame : ∀ text : String, IsTidy text.toList →
      insertEntries es' text = insertEntries es text) : es' = es := by
  refine eq_of_inPlaceOf_eq hnames (hnames ▸ h.nodup) fun name hmem => ?_
  obtain ⟨e, he, rfl⟩ := List.mem_map.1 (hnames ▸ hmem)
  have hname : IsContent e.1.toList := h.content e he
  have hinsert {fs : List (String × String)} (hfs : ∀ e ∈ fs, IsContent e.1.toList) :
      (insertEntries fs (String.ofList (nameTag e.1))).toList = inPlaceOf fs e.1 := by
    rw [toList_insertEntries, String.toList_ofList, ← List.append_nil (nameTag e.1), fill_tags_nameTag hfs hname,
      fill_nil, List.append_nil]
  rw [← hinsert (content_of_map_fst_eq hnames h.content), ← hinsert h.content, hsame]
  rw [String.toList_ofList]
  exact (isPaired_nameTag hname).isTidy

/-- The names are taken one after the other, in whatever order. If no value overlaps the tag of a name behind its own,
then every text becomes what one pass over it makes of it.

If the tags in the values are paired, then a tidy text becomes what one pass makes of it with each value changed by
the names behind its own. For every tidy text that is one pass with the values as they are if and only if no value is
changed, and none is if none holds the tag of a name behind its own. -/
theorem applyNamedArgs_inserts {args : NamedArgs} (hargs : ∀ e ∈ args.entries, IsContent e.1.toList)
    (hperm : es.Perm args.entries) :
    (es.Pairwise (fun e e' => Apart e.2.toList (nameTag e'.1)) →
      ∀ text, applyEntries es text = insertEntries args.entries text) ∧
    ((∀ e ∈ es, IsPaired e.2.toList) →
      (∀ text : String, IsTidy text.toList →
        applyEntries es text = insertEntries (expandEntries es) text) ∧
      ((∀ text : String, IsTidy text.toList → applyEntries es text = insertEntries args.entries text) ↔
        expandEntries es = es) ∧
      (es.Pairwise (fun e e' => ¬nameTag e'.1 <:+: e.2.toList) → expandEntries es = es)) := by
  have htags : HasTags es := HasTags.perm ⟨args.names_nodup, hargs⟩ hperm.symm
  have hsame (text : String) : insertEntries args.entries text = insertEntries es text :=
    (htags.insertEntries_perm hperm text).symm
  refine ⟨fun hapart text => ?_, fun hvalues => ?_⟩
  · rw [htags.applyEntries_eq hapart, hsame]
  · have hexpanded {text : String} (htext : IsTidy text.toList) :
        applyEntries es text = insertEntries (expandEntries es) text :=
      applyEntries_eq_expanded htags.content hvalues htext
    refine ⟨fun text => hexpanded, ⟨fun hone => ?_, fun heq text htext => ?_⟩, fun hfree => ?_⟩
    · refine htags.eq_of_insertEntries_eq (map_fst_expandEntries es) fun text htext => ?_
      rw [← hsame, ← hone text htext]
      exact (hexpanded htext).symm
    · rw [hexpanded htext, heq, hsame]
    · exact expandEntries_eq_self hfree

private def dumpArgs : NamedArgs := .ofList [("FILE", "<%HOST%>.sql"), ("HOST", "db01")]

private def hostFirst : List (String × String) := [("HOST", "db01"), ("FILE", "<%HOST%>.sql")]

private theorem dumpArgs_content : ∀ e ∈ dumpArgs.entries, IsContent e.1.toList := by
  intro e he
  rcases List.mem_pair.1 he with rfl | rfl
  · exact { closed := by decide, last := by decide, ends := by decide }
  · exact { closed := by decide, last := by decide, ends := by decide }

theorem applyNamedArgs_inserts_host_first : (∀ e ∈ dumpArgs.entries, IsContent e.1.toList) ∧
    hostFirst.Perm dumpArgs.entries ∧
    hostFirst.Pairwise (fun e e' => Apart e.2.toList (nameTag e'.1)) ∧ (∀ e ∈ hostFirst, IsPaired e.2.toList) ∧
    applyEntries hostFirst "<%<%FILE%> <%HOST%>" = "<%<%HOST%>.sql db01" ∧
    expandEntries hostFirst = hostFirst := by
  have hperm : hostFirst.Perm dumpArgs.entries := by decide
  have hapart : hostFirst.Pairwise fun e e' => Apart e.2.toList (nameTag e'.1) :=
    List.pairwise_pair.2 (apart_nameTag (by decide) (by simp) (by decide))
  have hpaired : ∀ e ∈ hostFirst, IsPaired e.2.toList := by
    intro e he
    have hhost : IsSealed "db01".toList := ⟨by decide, by decide⟩
    have hsql : IsSealed ".sql".toList := ⟨by decide, by decide⟩
    have hfile : IsPaired "<%HOST%>.sql".toList :=
      @IsPaired.tag "HOST" _ { closed := by decide, last := by decide, ends := by decide } hsql.isPaired
    rcases List.mem_pair.1 he with rfl | rfl
    · exact hhost.isPaired
    · exact hfile
  obtain ⟨hone, htidy⟩ := applyNamedArgs_inserts dumpArgs_content hperm
  obtain ⟨-, -, hkept⟩ := htidy hpaired
  refine ⟨dumpArgs_content, hperm, hapart, hpaired, ?_, hkept (by decide)⟩
  rw [hone hapart]
  decide +kernel

/-- The name in a value is replaced too, but not where it comes first. -/
theorem applyNamedArgs_replaces_in_value :
    applyNamedArgs dumpArgs "<%FILE%>" ≠ insertEntries dumpArgs.entries "<%FILE%>" ∧
    applyEntries hostFirst "<%FILE%>" ≠ applyNamedArgs dumpArgs "<%FILE%>" := by
  decide +kernel

end FlowScheduler
