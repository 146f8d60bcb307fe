import Mathlib
import FlowScheduler.Argument.DateTag
import FlowScheduler.Proofs.Text.Marks

/-!
The filling in of tokens.

Where a token begins it is filled in (`fill_of_token?`), and where none begins a character is kept (`fill_cons`).
To replace every occurrence of a mark is to fill in the mark alone (`replaceAll_eq_fill`). To replace one token after
the other comes to the same as to fill in all of them, in any order, provided that no token and no value overlaps
another token (`TokensApart.foldl_replaceAll`, `TokensApart.fill_perm`).

If two lists of values have the same tokens and values of the same lengths, then what is filled in has the same
length with both (`SameWidths.length_fill`).
-/

namespace FlowScheduler.DateTag

variable {ts ts' : List (List Char × List Char)} {c : Char}
  {cs text before after rest mark token value u v : List Char}

theorem token?_eq_none_iff : token? ts cs = none ↔ ∀ t ∈ ts, t.1 = [] ∨ ¬t.1 <+: cs := by
  rw [token?, List.findSome?_eq_none_iff]
  refine forall₂_congr fun t _ => ?_
  by_cases hnil : t.1 = []
  · simp [hnil]
  · simp [hnil, Text.strip?_eq_none_iff]

theorem fill_of_token? (h : token? ts cs = some (value, rest)) : fill ts cs = value ++ fill ts rest := by
  rw [fill]
  split
  · next hsome =>
    rw [h] at hsome
    cases hsome
    rfl
  · next hnone =>
    rw [h] at hnone
    cases hnone

theorem fill_nil (ts : List (List Char × List Char)) : fill ts [] = [] := by
  rw [fill]
  split
  · next hsome => exact absurd (token?_shortens hsome) (Nat.not_lt_zero _)
  · rfl

theorem fill_cons (h : token? ts (c :: cs) = none) : fill ts (c :: cs) = c :: fill ts cs := by
  rw [fill]
  split
  · next hsome =>
    rw [h] at hsome
    cases hsome
  · rfl

theorem fill_eq_self (h : ∀ t ∈ ts, ¬t.1 <:+: cs) : fill ts cs = cs := by
  induction cs with
  | nil => exact fill_nil ts
  | cons c cs ih =>
    have hnone : token? ts (c :: cs) = none :=
      token?_eq_none_iff.2 fun t ht => .inr fun hbegins => h t ht hbegins.isInfix
    rw [fill_cons hnone, ih fun t ht hinfix => h t ht (List.infix_cons hinfix)]

/-! ### One token -/

theorem token?_cons (hmark : mark ≠ []) (value : List Char) (ts : List (List Char × List Char)) (cs : List Char) :
    token? ((mark, value) :: ts) cs = ((Text.strip? mark cs).map (value, ·)).or (token? ts cs) := by
  rw [token?, List.findSome?_cons]
  simp only [if_neg hmark]
  cases Text.strip? mark cs <;> rfl

theorem token?_singleton (hmark : mark ≠ []) (value cs : List Char) :
    token? [(mark, value)] cs = (Text.strip? mark cs).map (value, ·) := by
  rw [token?_cons hmark, token?, List.findSome?_nil, Option.or_none]

theorem value_of_token?_singleton (hmark : mark ≠ []) (h : token? [(mark, value)] cs = some (v, rest)) :
    value = v := by
  rw [token?_singleton hmark] at h
  obtain ⟨_, -, heq⟩ := Option.map_eq_some_iff.1 h
  exact congrArg Prod.fst heq

theorem fill_of_cut? (hmark : mark ≠ []) (h : Text.cut? mark text = some (before, after)) :
    fill [(mark, value)] text = before ++ value ++ fill [(mark, value)] after := by
  induction text generalizing before with
  | nil =>
    rw [Text.cut?, if_neg (by simpa using hmark)] at h
    cases h
  | cons c text ih =>
    rw [Text.cut?] at h
    split at h
    · next rest hrest =>
      cases h
      have htoken : token? [(mark, value)] (c :: text) = some (value, after) := by
        rw [token?_singleton hmark, hrest, Option.map_some]
      rw [fill_of_token? htoken, List.nil_append]
    · next hnone =>
      obtain ⟨⟨head, tail⟩, hcut, heq⟩ := Option.map_eq_some_iff.1 h
      cases heq
      rw [fill_cons (by rw [token?_singleton hmark, hnone, Option.map_none]), ih hcut]
      rfl

/-- To replace every occurrence of a mark is to fill it in as a token. -/
theorem replaceAll_eq_fill (hmark : mark ≠ []) (value text : List Char) :
    Text.replaceAll mark value text = fill [(mark, value)] text := by
  rw [Text.replaceAll, dif_neg hmark]
  split
  · next hnone => exact (fill_eq_self (by simpa using (Text.cut?_eq_none_iff hmark).1 hnone)).symm
  · next before after hcut =>
    have := Text.cut?_shortens hmark hcut
    rw [fill_of_cut? hmark hcut, replaceAll_eq_fill hmark value after]
termination_by text.length

/-! ### Texts in which no token begins -/

/-- Whether a token begins nowhere in a text, whatever follows the text. -/
def FreeOf (text token : List Char) : Prop := ∀ s more, s <:+ text → s ≠ [] → ¬token <+: s ++ more

theorem FreeOf.suffix (h : FreeOf text token) (hs : u <:+ text) : FreeOf u token :=
  fun s more hsuffix => h s more (hsuffix.trans hs)

theorem FreeOf.not_begins (h : FreeOf (c :: text) token) (more : List Char) : ¬token <+: c :: text ++ more :=
  h _ more List.suffix_rfl (List.cons_ne_nil c text)

theorem fill_append_of_freeOf (h : ∀ t ∈ ts, FreeOf text t.1) (more : List Char) :
    fill ts (text ++ more) = text ++ fill ts more := by
  induction text with
  | nil => rfl
  | cons c text ih =>
    have hnone : token? ts (c :: (text ++ more)) = none :=
      token?_eq_none_iff.2 fun t ht => .inr ((h t ht).not_begins more)
    rw [List.cons_append, fill_cons hnone, ih fun t ht => (h t ht).suffix (List.suffix_cons c text), List.cons_append]

/-- A value that begins nowhere in a token is no part of it where the token stands after the filling in. -/
theorem prefix_of_prefix_fill (hmark : mark ≠ []) (h : FreeOf token value)
    (hbegins : token <+: fill [(mark, value)] cs) : token <+: cs := by
  induction token generalizing cs with
  | nil => exact List.nil_prefix
  | cons d token ih =>
    cases htoken : token? [(mark, value)] cs with
    | some cut =>
      obtain ⟨v, rest⟩ := cut
      obtain rfl := value_of_token?_singleton hmark htoken
      rw [fill_of_token? htoken] at hbegins
      exfalso
      rcases List.prefix_or_prefix_of_prefix hbegins (List.prefix_append value _) with ⟨more, hmore⟩ | hvalue
      · exact h.not_begins more ⟨[], by rw [hmore, List.append_nil]⟩
      · exact h.not_begins [] (by rwa [List.append_nil])
    | none =>
      cases cs with
      | nil => rwa [fill_nil] at hbegins
      | cons c cs =>
        rw [fill_cons htoken] at hbegins
        obtain ⟨rfl, htail⟩ := List.cons_prefix_cons.1 hbegins
        exact List.cons_prefix_cons.2 ⟨rfl, ih (h.suffix (List.suffix_cons d token)) htail⟩

/-! ### Tokens that do not overlap -/

/-- Whether two texts overlap at no place. -/
def Apart (u v : List Char) : Prop := FreeOf u v ∧ FreeOf v u

theorem Apart.symm (h : Apart u v) : Apart v u := ⟨h.2, h.1⟩

/-- Whether each two tokens are apart. -/
structure TokensApart (ts : List (List Char × List Char)) : Prop where
  nonempty : ∀ t ∈ ts, t.1 ≠ []
  pairwise : ts.Pairwise fun t t' => Apart t.1 t'.1

theorem TokensApart.of_cons {t : List Char × List Char} (h : TokensApart (t :: ts)) : TokensApart ts where
  nonempty t' ht' := h.nonempty t' (List.mem_cons_of_mem t ht')
  pairwise := h.pairwise.of_cons

theorem TokensApart.token?_eq_some_iff (h : TokensApart ts) :
    token? ts cs = some (value, rest) ↔ ∃ token, (token, value) ∈ ts ∧ cs = token ++ rest := by
  induction ts with
  | nil => simp [token?]
  | cons t ts ih =>
    obtain ⟨head, v⟩ := t
    have hhead : head ≠ [] := h.nonempty _ List.mem_cons_self
    rw [token?_cons hhead, Option.or_eq_some_iff, ih h.of_cons, Option.map_eq_some_iff, Option.map_eq_none_iff]
    constructor
    · rintro (⟨r, hstrip, heq⟩ | ⟨-, token, hmem, rfl⟩)
      · cases heq
        exact ⟨head, List.mem_cons_self, Text.strip?_eq_some.1 hstrip⟩
      · exact ⟨token, List.mem_cons_of_mem _ hmem, rfl⟩
    · rintro ⟨token, hmem, rfl⟩
      rcases List.mem_cons.1 hmem with heq | hmem
      · cases heq
        exact .inl ⟨rest, Text.strip?_eq_some.2 rfl, rfl⟩
      · -- the head cannot begin where another token stands
        have hfree : FreeOf token head := ((List.pairwise_cons.1 h.pairwise).1 _ hmem).2
        have hnot : ¬head <+: token ++ rest := hfree _ rest List.suffix_rfl (h.of_cons.nonempty _ hmem)
        exact .inr ⟨Text.strip?_eq_none_iff.2 hnot, token, hmem, rfl⟩

theorem TokensApart.perm (h : TokensApart ts) (hperm : ts.Perm ts') : TokensApart ts' where
  nonempty t ht := h.nonempty t (hperm.mem_iff.2 ht)
  pairwise := hperm.pairwise h.pairwise Apart.symm

theorem TokensApart.token?_perm (h : TokensApart ts) (hperm : ts.Perm ts') (cs : List Char) :
    token? ts cs = token? ts' cs := by
  refine Option.ext fun ⟨value, rest⟩ => ?_
  rw [h.token?_eq_some_iff, (h.perm hperm).token?_eq_some_iff]
  simp only [hperm.mem_iff]

/-- The order of the tokens does not matter. -/
theorem TokensApart.fill_perm (h : TokensApart ts) (hperm : ts.Perm ts') (cs : List Char) :
    fill ts cs = fill ts' cs := by
  induction cs using fill.induct ts with
  | case1 cs value rest htoken _ ih =>
    have htoken' : token? ts' cs = some (value, rest) := by rw [← h.token?_perm hperm, htoken]
    rw [fill_of_token? htoken, fill_of_token? htoken', ih]
  | case2 => rw [fill_nil, fill_nil]
  | case3 c cs hnone ih =>
    have hnone' : token? ts' (c :: cs) = none := by rw [← h.token?_perm hperm, hnone]
    rw [fill_cons hnone, fill_cons hnone', ih]

/-- To fill in a token and then the others is to fill in all of them at once, provided that its value is apart from
the others. -/
theorem TokensApart.fill_fill (h : TokensApart ((mark, value) :: ts)) (hvalue : ∀ t ∈ ts, Apart value t.1)
    (cs : List Char) : fill ts (fill [(mark, value)] cs) = fill ((mark, value) :: ts) cs := by
  have hmark : mark ≠ [] := h.nonempty _ List.mem_cons_self
  have hcons (cs : List Char) : token? ((mark, value) :: ts) cs = (token? [(mark, value)] cs).or (token? ts cs) := by
    rw [token?_cons hmark, token?_singleton hmark]
  induction cs using fill.induct ((mark, value) :: ts) with
  | case1 cs v rest hall _ ih =>
    rw [fill_of_token? hall]
    rw [hcons, Option.or_eq_some_iff] at hall
    rcases hall with hfirst | ⟨-, hother⟩
    · obtain rfl := value_of_token?_singleton hmark hfirst
      rw [fill_of_token? hfirst, fill_append_of_freeOf fun t ht => (hvalue t ht).1, ih]
    · -- another token stands here, and the first one leaves it as it is
      obtain ⟨token, hmem, rfl⟩ := h.of_cons.token?_eq_some_iff.1 hother
      have hkept : ∀ t ∈ [(mark, value)], FreeOf token t.1 := by
        simpa using ((List.pairwise_cons.1 h.pairwise).1 _ hmem).2
      have hagain : token? ts (token ++ fill [(mark, value)] rest) = some (v, fill [(mark, value)] rest) :=
        h.of_cons.token?_eq_some_iff.2 ⟨token, hmem, rfl⟩
      rw [fill_append_of_freeOf hkept, fill_of_token? hagain, ih]
  | case2 => rw [fill_nil, fill_nil, fill_nil]
  | case3 c cs hnone ih =>
    rw [fill_cons hnone]
    rw [hcons, Option.or_eq_none_iff] at hnone
    obtain ⟨hfirst, hother⟩ := hnone
    -- the filling in of the first token makes no place for the others
    have hafter : token? ts (c :: fill [(mark, value)] cs) = none := by
      rw [← fill_cons hfirst]
      refine token?_eq_none_iff.2 fun t ht => .inr fun hbegins => ?_
      have hbefore := prefix_of_prefix_fill hmark (hvalue t ht).2 hbegins
      exact (token?_eq_none_iff.1 hother t ht).elim (h.of_cons.nonempty t ht) (· hbefore)
    rw [fill_cons hfirst, fill_cons hafter, ih]

/-- To replace the tokens one after the other is to fill in all of them at once, provided that no value overlaps a
token behind its own. -/
theorem TokensApart.foldl_replaceAll (h : TokensApart ts) (hvalues : ts.Pairwise fun t t' => Apart t.2 t'.1)
    (cs : List Char) : ts.foldl (fun cs t => Text.replaceAll t.1 t.2 cs) cs = fill ts cs := by
  induction ts generalizing cs with
  | nil => exact (fill_eq_self (by simp)).symm
  | cons t ts ih =>
    obtain ⟨hvalue, hvalues⟩ := List.pairwise_cons.1 hvalues
    rw [List.foldl_cons, ih h.of_cons hvalues, replaceAll_eq_fill (h.nonempty t List.mem_cons_self), h.fill_fill hvalue]

/-! ### Widths -/

/-- Whether two lists have the same tokens, with values of the same lengths. -/
def SameWidths (ts ts' : List (List Char × List Char)) : Prop :=
  List.Forall₂ (fun t t' => t.1 = t'.1 ∧ t.2.length = t'.2.length) ts ts'

theorem SameWidths.token?_cases (h : SameWidths ts ts') (cs : List Char) :
    (token? ts cs = none ∧ token? ts' cs = none) ∨
      ∃ value value' rest, token? ts cs = some (value, rest) ∧ token? ts' cs = some (value', rest) ∧
        value.length = value'.length := by
  induction h with
  | nil => exact .inl ⟨rfl, rfl⟩
  | @cons t t' ts ts' ht _ ih =>
    obtain ⟨token, value⟩ := t
    obtain ⟨token', value'⟩ := t'
    obtain ⟨rfl, hlength⟩ := ht
    by_cases hnil : token = []
    · simpa [token?, hnil] using ih
    · cases hstrip : Text.strip? token cs with
      | none => simpa [token?, hnil, hstrip] using ih
      | some rest => exact .inr ⟨value, value', rest, by simp [token?, hnil, hstrip],
          by simp [token?, hnil, hstrip], hlength⟩

theorem SameWidths.length_fill (h : SameWidths ts ts') (cs : List Char) :
    (fill ts cs).length = (fill ts' cs).length := by
  induction cs using fill.induct ts with
  | case1 cs value rest htoken _ ih =>
    rcases h.token?_cases cs with ⟨hnone, -⟩ | ⟨value, value', rest, hsome, hsome', hvalue⟩
    · rw [htoken] at hnone
      cases hnone
    · cases htoken.symm.trans hsome
      rw [fill_of_token? hsome, fill_of_token? hsome', List.length_append, List.length_append, hvalue, ih]
  | case2 => rw [fill_nil, fill_nil]
  | case3 c cs hnone ih =>
    rcases h.token?_cases (c :: cs) with ⟨-, hnone'⟩ | ⟨_, _, _, hsome, -⟩
    · rw [fill_cons hnone, fill_cons hnone', List.length_cons, List.length_cons, ih]
    · rw [hnone] at hsome
      cases hsome

end FlowScheduler.DateTag
