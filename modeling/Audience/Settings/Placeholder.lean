/-!
# Placeholders

A text may hold placeholders `${NAME}` and `${NAME:-DEFAULT}` for the values of
variables. `expand` replaces them in one pass from left to right: what it puts
in is not looked at again, and what is not a complete placeholder stays as it
is.
-/

namespace Audience.Settings

/-- A variable's name and the text to use when it is not set. -/
structure Placeholder where
  name : List Char
  fallback : List Char
deriving DecidableEq, Repr

/-- What may stand in a name. -/
def isNameChar (c : Char) : Bool := c != '}' && c != ':'

/-- Takes a placeholder off the front of a text. -/
def takePlaceholder? : List Char → Option (Placeholder × List Char)
  | '$' :: '{' :: c :: cs =>
    if isNameChar c then
      match cs.dropWhile isNameChar with
      | '}' :: rest => some (⟨c :: cs.takeWhile isNameChar, []⟩, rest)
      | ':' :: '-' :: tail =>
        match tail.dropWhile (· != '}') with
        | _ :: rest => some (⟨c :: cs.takeWhile isNameChar, tail.takeWhile (· != '}')⟩, rest)
        | [] => none
      | _ => none
    else none
  | _ => none

theorem length_lt_of_takePlaceholder? {cs rest : List Char} {p : Placeholder}
    (h : takePlaceholder? cs = some (p, rest)) : rest.length < cs.length := by
  unfold takePlaceholder? at h
  split at h
  · rename_i c cs
    have hs := (List.dropWhile_suffix (l := cs) isNameChar).length_le
    split at h
    · split at h
      · rename_i heq
        rw [heq] at hs
        simp only [Option.some.injEq, Prod.mk.injEq] at h
        obtain ⟨-, rfl⟩ := h
        simp at hs ⊢
        omega
      · rename_i tail heq
        rw [heq] at hs
        have ht := (List.dropWhile_suffix (l := tail) (· != '}')).length_le
        split at h
        · rename_i heq'
          rw [heq'] at ht
          simp only [Option.some.injEq, Prod.mk.injEq] at h
          obtain ⟨-, rfl⟩ := h
          simp at hs ht ⊢
          omega
        · simp at h
      · simp at h
    · simp at h
  · simp at h

/-- What a placeholder stands for. -/
def Placeholder.value (lookup : String → Option String) (p : Placeholder) : List Char :=
  match lookup (String.ofList p.name) with
  | some value => value.toList
  | none => p.fallback

/-- A text with its placeholders replaced. -/
def expand (lookup : String → Option String) (cs : List Char) : List Char :=
  match h : takePlaceholder? cs with
  | some (p, rest) =>
    have := length_lt_of_takePlaceholder? h
    p.value lookup ++ expand lookup rest
  | none => match cs with
    | [] => []
    | c :: cs => c :: expand lookup cs
termination_by cs.length

theorem expand_of_takePlaceholder? (lookup : String → Option String) {cs rest : List Char}
    {p : Placeholder} (h : takePlaceholder? cs = some (p, rest)) :
    expand lookup cs = p.value lookup ++ expand lookup rest := by
  rw [expand]
  split
  · next htake =>
    obtain ⟨rfl, rfl⟩ := Prod.mk.inj (Option.some.inj (h.symm.trans htake))
    rfl
  · next hnone => exact nomatch h.symm.trans hnone

theorem expand_nil (lookup : String → Option String) : expand lookup [] = [] := by
  rw [expand]
  rfl

theorem expand_cons_of_none (lookup : String → Option String) {c : Char} {cs : List Char}
    (h : takePlaceholder? (c :: cs) = none) : expand lookup (c :: cs) = c :: expand lookup cs := by
  rw [expand]
  split
  · next htake => exact nomatch h.symm.trans htake
  · rfl

/-! ## Texts without a placeholder -/

theorem takePlaceholder?_eq_none {cs : List Char} (h : ¬ ['$', '{'] <+: cs) :
    takePlaceholder? cs = none := by
  unfold takePlaceholder?
  split
  · exact absurd ⟨_, rfl⟩ h
  · rfl

theorem expand_eq_self (lookup : String → Option String) {cs : List Char}
    (h : ¬ ['$', '{'] <:+: cs) : expand lookup cs = cs := by
  induction cs with
  | nil => exact expand_nil lookup
  | cons c cs ih =>
    have htail : ¬ ['$', '{'] <:+: cs := fun hmark =>
      h (hmark.trans (List.suffix_cons c cs).isInfix)
    rw [expand_cons_of_none lookup (takePlaceholder?_eq_none fun hstart => h hstart.isInfix),
      ih htail]

end Audience.Settings
