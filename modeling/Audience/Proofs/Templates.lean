import Mathlib.Data.List.Infix
import Mathlib.Data.List.TakeWhile
import Audience.Settings.Placeholder

/-!
# Texts with slots

A `Slot` is a placeholder as it is written, `${NAME}` or `${NAME:-DEFAULT}`. The
reader of placeholders takes exactly the slots off the front of a text
(`takePlaceholder?_eq_some_iff`): a name goes on over dollars, opening braces
and ends of lines up to the first colon or closing brace, a default up to the
first closing brace.

A `Template` is a text cut at its slots, with literals in between that hold no
`${`. A literal may end in a dollar, since the slot after it begins with one, and
is read past as a whole (`expand_literal_append`). So `expand_template` fills
each slot with its value and leaves everything else as it is, the values too.
-/

namespace Audience.Settings

/-! ## Slots -/

/-- A placeholder as it is written. -/
structure Slot where
  name : List Char
  fallback? : Option (List Char)
  name_ne_nil : name ≠ []
  brace_notMem_name : '}' ∉ name
  colon_notMem_name : ':' ∉ name
  brace_notMem_fallback : ∀ fallback ∈ fallback?, '}' ∉ fallback

namespace Slot

/-- What stands behind the name. -/
def ending (s : Slot) : List Char :=
  match s.fallback? with
  | none => ['}']
  | some fallback => ':' :: '-' :: fallback ++ ['}']

/-- The text of a slot: `${NAME}`, or `${NAME:-DEFAULT}`. -/
def text (s : Slot) : List Char := '$' :: '{' :: s.name ++ s.ending

/-- What a slot is filled with: the value of its variable if that is set, or else its default, or
else nothing. -/
def filled (lookup : String → Option String) (s : Slot) : List Char :=
  match lookup (String.ofList s.name) with
  | some value => value.toList
  | none => s.fallback?.getD []

/-- The placeholder that a slot is read as. -/
def placeholder (s : Slot) : Placeholder := ⟨s.name, s.fallback?.getD []⟩

theorem value_placeholder (lookup : String → Option String) (s : Slot) :
    s.placeholder.value lookup = s.filled lookup := rfl

theorem isNameChar_of_mem (s : Slot) : ∀ c ∈ s.name, isNameChar c = true := by
  intro c hc
  have hbrace : c ≠ '}' := fun heq => s.brace_notMem_name (heq ▸ hc)
  have hcolon : c ≠ ':' := fun heq => s.colon_notMem_name (heq ▸ hc)
  simp [isNameChar, hbrace, hcolon]

end Slot

/-- Where a stretch of characters that pass a test ends. -/
theorem takeWhile_dropWhile_iff {p : Char → Bool} {cs passed rest : List Char} {c : Char} :
    cs.takeWhile p = passed ∧ cs.dropWhile p = c :: rest ↔
      cs = passed ++ c :: rest ∧ (∀ d ∈ passed, p d = true) ∧ p c = false := by
  constructor
  · rintro ⟨rfl, hdrop⟩
    have hstop := List.head?_dropWhile_not p cs
    rw [hdrop] at hstop
    exact ⟨by rw [← hdrop, List.takeWhile_append_dropWhile], fun _ => List.mem_takeWhile_imp, hstop⟩
  · rintro ⟨rfl, hpassed, hstop⟩
    rw [List.takeWhile_append_of_pos hpassed, List.dropWhile_append_of_pos hpassed]
    simp [hstop]

/-- A slot is taken off the front of a text. -/
theorem takePlaceholder?_append (s : Slot) (rest : List Char) :
    takePlaceholder? (s.text ++ rest) = some (s.placeholder, rest) := by
  obtain ⟨name, fallback?, hne, hbrace, hcolon, hfallback⟩ := s
  have hname := Slot.isNameChar_of_mem ⟨name, fallback?, hne, hbrace, hcolon, hfallback⟩
  obtain ⟨c, cs, rfl⟩ := List.exists_cons_of_ne_nil hne
  obtain ⟨hc, hcs⟩ := List.forall_mem_cons.1 hname
  cases fallback? with
  | none =>
    obtain ⟨htake, hdrop⟩ : _ ∧ (cs ++ '}' :: rest).dropWhile isNameChar = '}' :: rest :=
      takeWhile_dropWhile_iff.2 ⟨rfl, hcs, rfl⟩
    simp [Slot.text, Slot.ending, Slot.placeholder, takePlaceholder?, hc, htake, hdrop]
  | some fallback =>
    have hplain : ∀ d ∈ fallback, (d != '}') = true := fun d hd =>
      bne_iff_ne.2 fun heq => hfallback fallback rfl (heq ▸ hd)
    obtain ⟨htake, hdrop⟩ : _ ∧ (cs ++ ':' :: '-' :: (fallback ++ '}' :: rest)).dropWhile isNameChar =
        ':' :: '-' :: (fallback ++ '}' :: rest) :=
      takeWhile_dropWhile_iff.2 ⟨rfl, hcs, rfl⟩
    obtain ⟨htake', hdrop'⟩ : _ ∧ (fallback ++ '}' :: rest).dropWhile (· != '}') = '}' :: rest :=
      takeWhile_dropWhile_iff.2 ⟨rfl, hplain, rfl⟩
    simp [Slot.text, Slot.ending, Slot.placeholder, takePlaceholder?, hc, htake, hdrop, htake',
      hdrop']

/-- Nothing else is. -/
theorem exists_slot_of_takePlaceholder? {cs rest : List Char} {p : Placeholder}
    (h : takePlaceholder? cs = some (p, rest)) :
    ∃ s : Slot, cs = s.text ++ rest ∧ p = s.placeholder := by
  unfold takePlaceholder? at h
  split at h
  · next c cs =>
    split at h
    · next hc =>
      -- What is read as the name may stand in one.
      have hname : ∀ d ∈ c :: cs.takeWhile isNameChar, isNameChar d = true :=
        List.forall_mem_cons.2 ⟨hc, fun _ => List.mem_takeWhile_imp⟩
      have hbrace : '}' ∉ c :: cs.takeWhile isNameChar := fun hmem => nomatch hname _ hmem
      have hcolon : ':' ∉ c :: cs.takeWhile isNameChar := fun hmem => nomatch hname _ hmem
      split at h
      · next tail hdrop =>
        obtain ⟨rfl, rfl⟩ := Prod.mk.inj (Option.some.inj h)
        have hcut := (takeWhile_dropWhile_iff.1 ⟨rfl, hdrop⟩).1
        refine ⟨⟨_, none, List.cons_ne_nil _ _, hbrace, hcolon, nofun⟩, ?_, rfl⟩
        simpa [Slot.text, Slot.ending] using hcut
      · next tail hdrop =>
        have hcut := (takeWhile_dropWhile_iff.1 ⟨rfl, hdrop⟩).1
        split at h
        · next d left hdrop' =>
          obtain ⟨rfl, rfl⟩ := Prod.mk.inj (Option.some.inj h)
          obtain ⟨hcut', hplain, hstop⟩ := takeWhile_dropWhile_iff.1 ⟨rfl, hdrop'⟩
          obtain rfl : d = '}' := by simpa using hstop
          refine ⟨⟨_, some (tail.takeWhile (· != '}')), List.cons_ne_nil _ _, hbrace, hcolon, ?_⟩,
            ?_, rfl⟩
          · rintro _ ⟨rfl⟩ hmem
            exact nomatch hplain _ hmem
          · rw [hcut'] at hcut
            simpa [Slot.text, Slot.ending] using hcut
        · cases h
      · cases h
    · cases h
  · cases h

theorem takePlaceholder?_eq_some_iff {cs rest : List Char} {p : Placeholder} :
    takePlaceholder? cs = some (p, rest) ↔ ∃ s : Slot, cs = s.text ++ rest ∧ p = s.placeholder := by
  refine ⟨exists_slot_of_takePlaceholder?, ?_⟩
  rintro ⟨s, rfl, rfl⟩
  exact takePlaceholder?_append s rest

/-! ## Templates -/

/-- A text in which no placeholder begins. -/
structure Literal where
  text : List Char
  free : ¬ ['$', '{'] <:+: text

/-- A text cut at its slots: a literal, and then slots with a literal after each. -/
structure Template where
  head : Literal
  tail : List (Slot × Literal)

namespace Template

/-- The text of slots and literals. -/
def tailText (tail : List (Slot × Literal)) : List Char :=
  tail.flatMap fun (slot, literal) => slot.text ++ literal.text

/-- The text that is cut. -/
def text (t : Template) : List Char := t.head.text ++ tailText t.tail

/-- The text with every slot filled. -/
def filled (lookup : String → Option String) (t : Template) : List Char :=
  t.head.text ++ t.tail.flatMap fun (slot, literal) => slot.filled lookup ++ literal.text

end Template

/-- No placeholder begins in a literal, nor where it meets what comes after it, unless that begins
with a brace. -/
theorem expand_literal_append (lookup : String → Option String) {literal rest : List Char}
    (free : ¬ ['$', '{'] <:+: literal) (hrest : rest.head? ≠ some '{') :
    expand lookup (literal ++ rest) = literal ++ expand lookup rest := by
  induction literal with
  | nil => rfl
  | cons c cs ih =>
    have hnone : takePlaceholder? (c :: cs ++ rest) = none := by
      refine takePlaceholder?_eq_none fun hmark => ?_
      rw [List.cons_append, List.cons_prefix_cons] at hmark
      obtain ⟨rfl, hbrace⟩ := hmark
      cases cs with
      | nil =>
        cases rest with
        | nil => exact absurd hbrace (by simp)
        | cons d rest => exact hrest (congrArg some (List.cons_prefix_cons.1 hbrace).1.symm)
      | cons d cs =>
        obtain ⟨rfl, -⟩ := List.cons_prefix_cons.1 hbrace
        exact free ⟨[], cs, rfl⟩
    have htail : ¬ ['$', '{'] <:+: cs := fun hmark =>
      free (hmark.trans (List.suffix_cons c cs).isInfix)
    rw [List.cons_append, List.cons_append, ← ih htail]
    exact expand_cons_of_none lookup hnone

theorem expand_slot_append (lookup : String → Option String) (s : Slot) (rest : List Char) :
    expand lookup (s.text ++ rest) = s.filled lookup ++ expand lookup rest := by
  rw [expand_of_takePlaceholder? lookup (takePlaceholder?_append s rest), Slot.value_placeholder]

theorem head?_tailText (tail : List (Slot × Literal)) : (Template.tailText tail).head? ≠ some '{' := by
  cases tail with
  | nil => exact nofun
  | cons => exact fun h => nomatch h

theorem expand_tailText (lookup : String → Option String) (tail : List (Slot × Literal)) :
    expand lookup (Template.tailText tail) =
      tail.flatMap fun (slot, literal) => slot.filled lookup ++ literal.text := by
  induction tail with
  | nil => exact expand_nil lookup
  | cons first tail ih =>
    obtain ⟨slot, literal⟩ := first
    show expand lookup (slot.text ++ literal.text ++ Template.tailText tail) = _
    rw [List.append_assoc, expand_slot_append,
      expand_literal_append lookup literal.free (head?_tailText tail), ih, List.flatMap_cons,
      List.append_assoc]

/-! ## Texts without a slot -/

/-- A text without a slot is one off which no placeholder can be taken anywhere. -/
theorem forall_not_infix_iff {cs : List Char} :
    (∀ s : Slot, ¬ s.text <:+: cs) ↔ ∀ rest ∈ cs.tails, takePlaceholder? rest = none := by
  constructor
  · intro h rest hrest
    refine Option.eq_none_iff_forall_ne_some.2 fun (p, left) htake => ?_
    obtain ⟨s, rfl, -⟩ := takePlaceholder?_eq_some_iff.1 htake
    exact h s ((List.prefix_append s.text left).isInfix.trans ((List.mem_tails _ _).1 hrest).isInfix)
  · intro h s hslot
    obtain ⟨_, ⟨left, rfl⟩, hsuffix⟩ := List.infix_iff_prefix_suffix.1 hslot
    have hnone := h _ ((List.mem_tails _ _).2 hsuffix)
    rw [takePlaceholder?_append] at hnone
    cases hnone

theorem expand_of_tails (lookup : String → Option String) {cs : List Char}
    (h : ∀ rest ∈ cs.tails, takePlaceholder? rest = none) : expand lookup cs = cs := by
  induction cs with
  | nil => exact expand_nil lookup
  | cons c cs ih =>
    rw [List.tails, List.forall_mem_cons] at h
    rw [expand_cons_of_none lookup h.1, ih h.2]

/-! ## What that comes to -/

/-- Whatever the variables are, a text in which slots and literals without a `${` alternate is
replaced by the same text with every slot filled: with the value of its variable if that is set, even
to nothing, or else with its default if it has one. The literals stay as they are, and so do the values
that are filled in, whether or not they hold or complete a placeholder. A text without a slot stays
as it is. -/
theorem expand_template (lookup : String → Option String) :
    (∀ t : Template, expand lookup t.text = t.filled lookup) ∧
      ∀ cs : List Char, (∀ s : Slot, ¬ s.text <:+: cs) → expand lookup cs = cs := by
  refine ⟨fun ⟨head, tail⟩ => ?_, fun cs h => expand_of_tails lookup (forall_not_infix_iff.1 h)⟩
  rw [Template.text, Template.filled, expand_literal_append lookup head.free (head?_tailText tail),
    expand_tailText]

/-- A value makes up a slot with the literals around it, and a name and a default hold what begins
one. -/
theorem expand_of_completing_value :
    let lookup : String → Option String := fun name => if name = "A" then some "$" else none
    let slotless := "$\x7b\x7d$\x7bA:x\x7d$\x7bA:-b".toList
    expand lookup "x$$\x7bA\x7d\x7bB\x7d$$\x7bC$\x7b\n:-$\x7b:x\x7d".toList =
        "x$$\x7bB\x7d$$\x7b:x".toList ∧
      (∀ s : Slot, ¬ s.text <:+: slotless) ∧ expand lookup slotless = slotless := by
  intro lookup slotless
  let template : Template :=
    ⟨⟨"x$".toList, by decide⟩,
      [(⟨"A".toList, none, by decide, by decide, by decide, nofun⟩,
          ⟨"\x7bB\x7d$".toList, by decide⟩),
        (⟨"C$\x7b\n".toList, some "$\x7b:x".toList, by decide, by decide, by decide,
            fun _ h => by cases h; decide⟩,
          ⟨[], by decide⟩)]⟩
  have hslotless : ∀ s : Slot, ¬ s.text <:+: slotless := forall_not_infix_iff.2 (by decide)
  exact ⟨(expand_template lookup).1 template, hslotless,
    (expand_template lookup).2 slotless hslotless⟩

end Audience.Settings
