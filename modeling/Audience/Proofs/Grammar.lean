import Audience.Proofs.Covering
import Audience.Topic.Check

/-!
# The grammar of filters

The check of a filter goes through its levels from the left and stops at the
first that may not stand where it does. What it comes to, without a walk:

* `levelFault?_eq`: a level passes if it is `Allowed` at its place, and else its
  text alone says what is wrong with it (`objection`);
* `levelsFault?_eq_none_iff`, `levelsFault?_eq_some_iff`: levels pass if each
  is `Proper`, and else the leftmost that is not decides;
* `filterFault?_grammar`: so a filter passes exactly if it is as the grammar
  has it, the conditions on the text as a whole being looked at first.
-/

namespace Audience.Topic

/-! ## One level -/

/-- Whether a level may stand in a filter, as its last or before it. -/
def Allowed (level : String) (last : Prop) : Prop :=
  level = "+" ∨ level = "#" ∧ last ∨ '+' ∉ level.toList ∧ '#' ∉ level.toList

instance (level : String) (last : Prop) [Decidable last] : Decidable (Allowed level last) :=
  inferInstanceAs (Decidable (_ ∨ _))

/-- What is wrong with a level that may not stand where it does. -/
def objection (level : String) : FilterFault :=
  if '#' ∈ level.toList ∧ level ≠ "#" then .multiInsideLevel
  else if level = "#" then .multiBeforeEnd
  else .singleInsideLevel

theorem message_objection (level : String) :
    (objection level).message =
      if '#' ∈ level.toList ∧ level ≠ "#" then "multi-level wildcard must occupy entire level"
      else if level = "#" then "multi-level wildcard must be last level"
      else "single-level wildcard must occupy entire level" := by
  unfold objection
  split_ifs <;> rfl

theorem levelFault?_eq (level : String) (last : Bool) :
    levelFault? level.toList last =
      if Allowed level (last = true) then none else some (objection level) := by
  have hbare : level.toList = ['#'] ↔ level = "#" := @String.toList_inj level "#"
  have hone : level.toList = ['+'] ↔ level = "+" := @String.toList_inj level "+"
  by_cases hmulti : '#' ∈ level.toList
  · by_cases heq : level = "#"
    · subst heq
      cases last <;> decide
    · have hnot : ¬ Allowed level (last = true) := by
        rintro (rfl | ⟨h, -⟩ | ⟨-, h⟩)
        · exact absurd hmulti (by decide)
        · exact heq h
        · exact h hmulti
      simp [levelFault?, objection, hmulti, hbare, heq, hnot]
  · have heq : level ≠ "#" := by
      rintro rfl
      exact hmulti (by decide)
    by_cases hsingle : '+' ∈ level.toList ∧ level ≠ "+"
    · have hnot : ¬ Allowed level (last = true) := by
        rintro (h | ⟨h, -⟩ | ⟨h, -⟩)
        · exact hsingle.2 h
        · exact heq h
        · exact h hsingle.1
      simp [levelFault?, objection, hmulti, hone, heq, hsingle, hnot]
    · have hallowed : Allowed level (last = true) := by
        by_cases h : level = "+"
        · exact .inl h
        · exact .inr (.inr ⟨fun hmem => hsingle ⟨hmem, h⟩, hmulti⟩)
      rw [if_pos hallowed, levelFault?, if_neg hmulti, if_neg]
      rwa [ne_eq, hone]

/-! ## All levels -/

/-- Whether the level at a place may stand there. -/
def Proper (levels : List String) (i : Nat) : Prop :=
  ∃ level, levels[i]? = some level ∧ Allowed level (i + 1 = levels.length)

theorem proper_cons_zero {level : String} {levels : List String} :
    Proper (level :: levels) 0 ↔ Allowed level (levels.isEmpty = true) := by
  have hlast : 0 + 1 = (level :: levels).length ↔ levels.isEmpty = true := by
    cases levels <;> simp
  rw [Proper, hlast]
  simp only [List.getElem?_cons_zero, Option.some.injEq, exists_eq_left']

theorem proper_cons_succ {level : String} {levels : List String} {i : Nat} :
    Proper (level :: levels) (i + 1) ↔ Proper levels i := by
  simp only [Proper, List.getElem?_cons_succ, List.length_cons, Nat.add_right_cancel_iff]

/-- Levels pass the check if each may stand where it does. -/
theorem levelsFault?_eq_none_iff (levels : List String) :
    levelsFault? (levels.map String.toList) = none ↔ ∀ i < levels.length, Proper levels i := by
  induction levels with
  | nil => simp [levelsFault?]
  | cons level levels ih =>
    rw [List.map_cons, levelsFault?, List.isEmpty_map, levelFault?_eq, List.length_cons,
      Nat.forall_lt_succ_left, proper_cons_zero]
    simp only [proper_cons_succ, ← ih]
    by_cases hallowed : Allowed level (levels.isEmpty = true)
    · rw [if_pos hallowed, and_iff_right hallowed]
    · rw [if_neg hallowed]
      exact iff_of_false (Option.some_ne_none _) fun h => hallowed h.1

/-- The fault of levels is what is wrong with the leftmost that may not stand where it does. -/
theorem levelsFault?_eq_some_iff (levels : List String) (fault : FilterFault) :
    levelsFault? (levels.map String.toList) = some fault ↔
      ∃ i level, levels[i]? = some level ∧ ¬ Proper levels i ∧ (∀ j < i, Proper levels j) ∧
        fault = objection level := by
  induction levels with
  | nil => simp [levelsFault?]
  | cons level levels ih =>
    rw [List.map_cons, levelsFault?, List.isEmpty_map, levelFault?_eq]
    by_cases hallowed : Allowed level (levels.isEmpty = true)
    · -- The first level passes, so the leftmost that does not is one place further on.
      rw [if_pos hallowed, ih]
      constructor
      · rintro ⟨i, l, hl, hnot, hbefore, hfault⟩
        refine ⟨i + 1, l, hl, mt proper_cons_succ.1 hnot, ?_, hfault⟩
        exact Nat.forall_lt_succ_left.2 ⟨proper_cons_zero.2 hallowed,
          fun j hj => proper_cons_succ.2 (hbefore j hj)⟩
      · rintro ⟨i, l, hl, hnot, hbefore, hfault⟩
        cases i with
        | zero => exact absurd (proper_cons_zero.2 hallowed) hnot
        | succ i =>
          exact ⟨i, l, hl, mt proper_cons_succ.2 hnot,
            fun j hj => proper_cons_succ.1 (hbefore (j + 1) (Nat.succ_lt_succ hj)), hfault⟩
    · -- The first level does not, and nothing comes before it.
      rw [if_neg hallowed]
      constructor
      · intro h
        exact ⟨0, level, rfl, mt proper_cons_zero.1 hallowed, fun j hj => absurd hj (Nat.not_lt_zero j),
          (Option.some.inj h).symm⟩
      · rintro ⟨i, l, hl, hnot, hbefore, rfl⟩
        cases i with
        | zero => rw [← Option.some.inj hl]
        | succ i => exact absurd (proper_cons_zero.1 (hbefore 0 (Nat.succ_pos i))) hallowed

/-! ## The whole text -/

/-- The conditions on the text as a whole come first, and if all of them hold the levels decide. -/
theorem filterFault?_cases (f : String) :
    f = "" ∧ filterFault? f = some .empty ∨
    f ≠ "" ∧ maxBytes < f.utf8ByteSize ∧ filterFault? f = some .tooLong ∨
    f ≠ "" ∧ f.utf8ByteSize ≤ maxBytes ∧ '\x00' ∈ f.toList ∧ filterFault? f = some .null ∨
    f ≠ "" ∧ f.utf8ByteSize ≤ maxBytes ∧ '\x00' ∉ f.toList ∧
      filterFault? f = levelsFault? ((parts f).map String.toList) := by
  unfold filterFault?
  split
  · next hempty => exact .inl ⟨String.isEmpty_iff.1 hempty, rfl⟩
  · next hempty =>
    have hne : f ≠ "" := fun h => hempty (String.isEmpty_iff.2 h)
    split
    · next hlong => exact .inr (.inl ⟨hne, hlong, rfl⟩)
    · next hlong =>
      have hshort := Nat.not_lt.1 hlong
      split
      · next hnull => exact .inr (.inr (.inl ⟨hne, hshort, hnull, rfl⟩))
      · next hnull => exact .inr (.inr (.inr ⟨hne, hshort, hnull, by rw [map_toList_parts]⟩))

theorem filterFault?_eq_none_iff {f : String} :
    filterFault? f = none ↔ f ≠ "" ∧ f.utf8ByteSize ≤ maxBytes ∧ '\x00' ∉ f.toList ∧
      ∀ i < (parts f).length, Proper (parts f) i := by
  rcases filterFault?_cases f with ⟨hempty, hf⟩ | ⟨hne, hlong, hf⟩ | ⟨hne, hshort, hnull, hf⟩ |
    ⟨hne, hshort, hnull, hf⟩
  · rw [hf]
    exact iff_of_false (Option.some_ne_none _) fun h => h.1 hempty
  · rw [hf]
    exact iff_of_false (Option.some_ne_none _) fun h => Nat.not_lt.2 h.2.1 hlong
  · rw [hf]
    exact iff_of_false (Option.some_ne_none _) fun h => h.2.2.1 hnull
  · rw [hf, levelsFault?_eq_none_iff, and_iff_right hne, and_iff_right hshort, and_iff_right hnull]

/-- A filter passes the check exactly if it is not empty, at most 65535 bytes long and free of the null
character, and each of its levels may stand where it does. Else what is said is the first of the three
conditions on the text that fails, and if none does, what is wrong with the leftmost level that may not
stand where it does. -/
theorem filterFault?_grammar (f : String) :
    (∀ ps, IsSplit ps f ↔ ps = parts f) ∧
    (filterFault? f = none ↔ f ≠ "" ∧ f.utf8ByteSize ≤ 65535 ∧ '\x00' ∉ f.toList ∧
      ∀ i < (parts f).length, Proper (parts f) i) ∧
    ∀ message, (filterFault? f).map (·.message) = some message ↔
      f = "" ∧ message = "topic filter cannot be empty" ∨
      f ≠ "" ∧ 65535 < f.utf8ByteSize ∧ message = "topic filter exceeds maximum length" ∨
      f ≠ "" ∧ f.utf8ByteSize ≤ 65535 ∧ '\x00' ∈ f.toList ∧
        message = "topic filter cannot contain null character" ∨
      f ≠ "" ∧ f.utf8ByteSize ≤ 65535 ∧ '\x00' ∉ f.toList ∧
        ∃ i level, (parts f)[i]? = some level ∧ ¬ Proper (parts f) i ∧
          (∀ j < i, Proper (parts f) j) ∧
          message =
            if '#' ∈ level.toList ∧ level ≠ "#" then
              "multi-level wildcard must occupy entire level"
            else if level = "#" then "multi-level wildcard must be last level"
            else "single-level wildcard must occupy entire level" := by
  refine ⟨fun _ => isSplit_iff, filterFault?_eq_none_iff, fun message => ?_⟩
  simp only [← message_objection]
  -- Each case rules the other three out.
  rcases filterFault?_cases f with ⟨hempty, hf⟩ | ⟨hne, hlong, hf⟩ | ⟨hne, hshort, hnull, hf⟩ |
    ⟨hne, hshort, hnull, hf⟩
  · rw [hf, Option.map_some, Option.some.injEq, eq_comm]
    simp only [ne_eq, hempty, not_true, false_and, true_and, or_false]
    rfl
  · have hlong' : 65535 < f.utf8ByteSize := hlong
    rw [hf, Option.map_some, Option.some.injEq, eq_comm]
    simp only [ne_eq, hne, hlong', Nat.not_le.2 hlong', not_false_eq_true, false_and, and_false,
      true_and, false_or, or_false]
    rfl
  · have hshort' : f.utf8ByteSize ≤ 65535 := hshort
    rw [hf, Option.map_some, Option.some.injEq, eq_comm]
    simp only [ne_eq, hne, hshort', Nat.not_lt.2 hshort', hnull, not_true, not_false_eq_true,
      false_and, and_false, true_and, false_or, or_false]
    rfl
  · have hshort' : f.utf8ByteSize ≤ 65535 := hshort
    simp only [hf, ne_eq, hne, hshort', Nat.not_lt.2 hshort', hnull, not_false_eq_true, false_and,
      and_false, true_and, false_or, Option.map_eq_some_iff, levelsFault?_eq_some_iff]
    constructor
    · rintro ⟨_, ⟨i, level, hlevel, hnot, hbefore, rfl⟩, rfl⟩
      exact ⟨i, level, hlevel, hnot, hbefore, rfl⟩
    · rintro ⟨i, level, hlevel, hnot, hbefore, rfl⟩
      exact ⟨_, ⟨i, level, hlevel, hnot, hbefore, rfl⟩, rfl⟩

/-- Both signs in one level are laid to the `#`, and a slash after a `#` makes it one before the end. -/
example : filterFault? "a/+#/b+" = some .multiInsideLevel ∧
    filterFault? "+/#/" = some .multiBeforeEnd := by decide

end Audience.Topic
