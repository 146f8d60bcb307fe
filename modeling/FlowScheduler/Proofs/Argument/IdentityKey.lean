import Mathlib
import FlowScheduler.Argument.NamedTag

/-!
What the key of a run tells about it.

The task flow can always be read off the key (`flowId_eq_of_identityKey_eq`). The named arguments stand in it
one after the other without any escape, so they can be read off it if no name holds the mark that ends a
name and no value the one that ends a value (`NamedArgs.IsPlain`, `identityKey_inj`).
-/

namespace FlowScheduler

variable {i j : Int} {a b : NamedArgs} {es es' : List (String × String)}

namespace IdentityKey

/-- Whether no name and no value holds the mark that ends it in a key. -/
structure IsPlain (es : List (String × String)) : Prop where
  names : ∀ e ∈ es, '=' ∉ e.1.toList
  values : ∀ e ∈ es, ¬[']', ' ', '['] <:+: e.2.toList

theorem IsPlain.of_cons {e : String × String} (h : IsPlain (e :: es)) : IsPlain es where
  names e' he' := h.names e' (List.mem_cons_of_mem e he')
  values e' he' := h.values e' (List.mem_cons_of_mem e he')

/-- The arguments in a key. -/
def argsPart (es : List (String × String)) : List Char :=
  es.flatMap fun e => ' ' :: '[' :: (e.1.toList ++ '=' :: (e.2.toList ++ [']']))

theorem argsPart_cons (name value : String) (es : List (String × String)) :
    argsPart ((name, value) :: es) =
      ' ' :: '[' :: (name.toList ++ '=' :: (value.toList ++ ']' :: argsPart es)) := by
  simp [argsPart]

theorem toList_identityKey (i : Int) (a : NamedArgs) :
    (identityKey i a).toList = 'T' :: 'F' :: ((toString i).toList ++ argsPart a.entries) := by
  have hfold (key : String) (es : List (String × String)) :
      (es.foldl (fun key e => key ++ " [" ++ e.1 ++ "=" ++ e.2 ++ "]") key).toList =
        key.toList ++ argsPart es := by
    induction es generalizing key with
    | nil => simp [argsPart]
    | cons e es ih =>
      rw [List.foldl_cons, ih, argsPart_cons]
      simp
  refine (hfold ("TF" ++ toString i) a.entries).trans ?_
  simp

/-! ### The flow -/

theorem space_not_mem_toString (i : Int) : ' ' ∉ (toString i).toList := by
  have hdigits (n : Nat) : ' ' ∉ n.repr.toList := fun h => by
    rw [Nat.toList_repr] at h
    exact absurd (Nat.isDigit_of_mem_toDigits (by decide) (by decide) h) (by decide)
  cases i with
  | ofNat n => exact hdigits n
  | negSucc n =>
    rw [Int.toString_eq_repr, Int.repr, String.toList_append, List.mem_append]
    rintro (h | h)
    · exact absurd h (by decide)
    · exact hdigits _ h

/-- The arguments part is empty or begins with a blank and a bracket. -/
theorem argsPart_eq_nil_or (es : List (String × String)) :
    argsPart es = [] ∨ ∃ rest, argsPart es = ' ' :: '[' :: rest := by
  cases es with
  | nil => exact .inl rfl
  | cons e es => exact .inr ⟨_, argsPart_cons e.1 e.2 es⟩

private theorem takeWhile_until {c : Char} {cs : List Char} (h : c ∉ cs) (rest : List Char) :
    (cs ++ c :: rest).takeWhile (· ≠ c) = cs := by
  rw [List.takeWhile_append_of_pos]
  · simp
  · intro d hd
    simpa using fun (heq : d = c) => h (heq ▸ hd)

theorem takeWhile_flow (i : Int) (es : List (String × String)) :
    ((toString i).toList ++ argsPart es).takeWhile (· ≠ ' ') = (toString i).toList := by
  have hspace := space_not_mem_toString i
  rcases argsPart_eq_nil_or es with h | ⟨rest, h⟩
  · rw [h, List.append_nil, List.takeWhile_eq_self_iff]
    intro c hc
    simpa using fun (heq : c = ' ') => hspace (heq ▸ hc)
  · rw [h, takeWhile_until hspace]

end IdentityKey

open IdentityKey

theorem identityKey_eq_iff_argsPart :
    identityKey i a = identityKey j b ↔ i = j ∧ argsPart a.entries = argsPart b.entries := by
  rw [← String.toList_inj, toList_identityKey, toList_identityKey]
  constructor
  · intro h
    injection h with _ h
    injection h with _ h
    have hflow : (toString i).toList = (toString j).toList := by
      rw [← takeWhile_flow i a.entries, h, takeWhile_flow]
    have hij : i = j := Int.repr_inj.1 (String.toList_inj.1 hflow)
    subst hij
    exact ⟨rfl, List.append_cancel_left h⟩
  · rintro ⟨rfl, h⟩
    rw [h]

theorem flowId_eq_of_identityKey_eq (h : identityKey i a = identityKey j b) : i = j :=
  (identityKey_eq_iff_argsPart.1 h).1

/-! ### The arguments -/

namespace IdentityKey

variable {name name' value value' rest rest' : List Char}

/-- A name ends at the first mark. -/
theorem name_eq (hname : '=' ∉ name) (hname' : '=' ∉ name')
    (h : name ++ '=' :: rest = name' ++ '=' :: rest') : name = name' ∧ rest = rest' := by
  have hsame : name = name' := by rw [← takeWhile_until hname rest, h, takeWhile_until hname']
  subst hsame
  exact ⟨rfl, (List.cons.inj (List.append_cancel_left h)).2⟩

/-- A value does not go on after a bracket at which it may end: what follows would be the mark. -/
theorem eq_nil_of_value {more : List Char} (hvalue : ¬[']', ' ', '['] <:+: value ++ more)
    (h : ']' :: argsPart es = more ++ ']' :: argsPart es') :
    more = [] ∧ argsPart es = argsPart es' := by
  cases more with
  | nil => exact ⟨rfl, List.cons.inj h |>.2⟩
  | cons c more =>
    rw [List.cons_append, List.cons.injEq] at h
    obtain ⟨rfl, h⟩ := h
    refine absurd ?_ hvalue
    rcases argsPart_eq_nil_or es with hnil | ⟨tail, htail⟩
    · simp [hnil] at h
    · rw [htail] at h
      match more, h with
      | [], h => cases h
      | [_], h => simp at h
      | c :: c' :: more, h =>
        obtain ⟨rfl, rfl, -⟩ : ' ' = c ∧ '[' = c' ∧ _ := by simpa using h
        exact ⟨value, more, by simp⟩

/-- A value ends at the first mark, or with the key. -/
theorem value_eq (hvalue : ¬[']', ' ', '['] <:+: value) (hvalue' : ¬[']', ' ', '['] <:+: value')
    (h : value ++ ']' :: argsPart es = value' ++ ']' :: argsPart es') :
    value = value' ∧ argsPart es = argsPart es' := by
  rcases List.append_eq_append_iff.1 h with ⟨more, rfl, hmore⟩ | ⟨more, rfl, hmore⟩
  · obtain ⟨rfl, hrest⟩ := eq_nil_of_value hvalue' hmore
    exact ⟨(List.append_nil value).symm, hrest⟩
  · obtain ⟨rfl, hrest⟩ := eq_nil_of_value hvalue hmore
    exact ⟨List.append_nil value', hrest.symm⟩

theorem argsPart_inj (hes : IsPlain es) (hes' : IsPlain es') (h : argsPart es = argsPart es') : es = es' := by
  induction es generalizing es' with
  | nil =>
    cases es' with
    | nil => rfl
    | cons e' es' => simp [argsPart] at h
  | cons e es ih =>
    cases es' with
    | nil => simp [argsPart] at h
    | cons e' es' =>
      obtain ⟨name, value⟩ := e
      obtain ⟨name', value'⟩ := e'
      rw [argsPart_cons, argsPart_cons, List.cons.injEq, List.cons.injEq] at h
      obtain ⟨hname, h⟩ := name_eq (hes.names _ List.mem_cons_self)
        (hes'.names _ List.mem_cons_self) h.2.2
      obtain ⟨hvalue, hrest⟩ := value_eq (hes.values _ List.mem_cons_self)
        (hes'.values _ List.mem_cons_self) h
      obtain rfl : name = name' := String.toList_inj.1 hname
      obtain rfl : value = value' := String.toList_inj.1 hvalue
      rw [ih hes.of_cons hes'.of_cons hrest]

end IdentityKey

/-- Whether no name and no value holds the mark that ends it in a key. -/
def NamedArgs.IsPlain (args : NamedArgs) : Prop := IdentityKey.IsPlain args.entries

theorem identityKey_inj (ha : a.IsPlain) (hb : b.IsPlain) :
    identityKey i a = identityKey j b ↔ i = j ∧ a = b := by
  rw [identityKey_eq_iff_argsPart]
  constructor
  · rintro ⟨hij, h⟩
    exact ⟨hij, NamedArgs.ext (argsPart_inj ha hb h)⟩
  · rintro ⟨hij, rfl⟩
    exact ⟨hij, rfl⟩

/-- The mark in a name moves the end of the name. -/
example : identityKey 1 (.ofList [("a=b", "c")]) = identityKey 1 (.ofList [("a", "b=c")]) := by decide +kernel

end FlowScheduler
