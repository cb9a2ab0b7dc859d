import Mathlib.Data.List.Induction
import Audience.Note

/-!
# Calls on one filter

The calls on a filter, one holder more (`Turn.first`) or less (`Turn.last`),
as a list of turns. `Turn.tally` is the number of holders that they leave and
`Turn.transitions` are those of them that turn the audience. These always
alternate (`alternates_transitions`), and the latest of them says whether
there is a holder (`getLast?_transitions`).
-/

namespace Audience.Turn

def other : Turn → Turn
  | .first => .last
  | .last => .first

/-- The number of holders after a call. It does not fall below zero. -/
def adjust : Turn → Nat → Nat
  | .first, n => n + 1
  | .last, n => n - 1

/-- Whether a call turns the audience of a filter with `n` holders. -/
def turnsAt : Turn → Nat → Bool
  | .first, n => n == 0
  | .last, n => n == 1

/-- The number of holders after calls on a filter with `n` of them. -/
def tally (n : Nat) (calls : List Turn) : Nat := calls.foldl (fun n turn => turn.adjust n) n

/-- The calls that turn the audience of a filter that starts with `n` holders. -/
def transitions : Nat → List Turn → List Turn
  | _, [] => []
  | n, turn :: calls =>
    if turn.turnsAt n then turn :: transitions (turn.adjust n) calls
    else transitions (turn.adjust n) calls

/-- Whether turns alternate, from the given one on. -/
def AlternatesFrom : Turn → List Turn → Prop
  | _, [] => True
  | turn, t :: ts => t = turn ∧ AlternatesFrom turn.other ts

instance AlternatesFrom.decidable : (turn : Turn) → (ts : List Turn) →
    Decidable (AlternatesFrom turn ts)
  | _, [] => isTrue trivial
  | turn, t :: ts =>
    have := decidable turn.other ts
    inferInstanceAs (Decidable (t = turn ∧ AlternatesFrom turn.other ts))

/-- Whether turns alternate and begin with a first holder. -/
abbrev Alternates (ts : List Turn) : Prop := AlternatesFrom .first ts

@[simp] theorem tally_nil (n : Nat) : tally n [] = n := rfl

@[simp] theorem tally_cons (n : Nat) (turn : Turn) (calls : List Turn) :
    tally n (turn :: calls) = tally (turn.adjust n) calls := rfl

theorem tally_append (n : Nat) (calls more : List Turn) :
    tally n (calls ++ more) = tally (tally n calls) more :=
  List.foldl_append

theorem tally_le_count (n : Nat) (calls : List Turn) : tally n calls ≤ n + calls.count .first := by
  induction calls generalizing n with
  | nil => simp
  | cons turn calls ih =>
    have := ih (turn.adjust n)
    rw [tally_cons, List.count_cons]
    cases turn <;> simp only [adjust, beq_self_eq_true, if_true, reduceCtorEq, beq_iff_eq,
      if_false] at this ⊢ <;> omega

theorem transitions_append (n : Nat) (calls more : List Turn) :
    transitions n (calls ++ more) = transitions n calls ++ transitions (tally n calls) more := by
  induction calls generalizing n with
  | nil => rfl
  | cons turn calls ih =>
    rw [List.cons_append, transitions, transitions, ih, tally_cons]
    split <;> rfl

theorem turnsAt_iff {turn : Turn} {n : Nat} :
    turn.turnsAt n = true ↔ turn = .first ∧ n = 0 ∨ turn = .last ∧ n = 1 := by
  cases turn <;> simp [turnsAt]

/-- Without a turn, there is a holder after a call exactly when there was one before it. -/
theorem adjust_eq_zero_iff {turn : Turn} {n : Nat} (h : ¬ turn.turnsAt n = true) :
    turn.adjust n = 0 ↔ n = 0 := by
  cases turn <;> simp only [turnsAt, beq_iff_eq] at h <;> simp only [adjust] <;> omega

/-- A first holder comes when there is none, a last one goes when there is one. -/
theorem alternatesFrom_transitions (n : Nat) (calls : List Turn) :
    AlternatesFrom (if n = 0 then .first else .last) (transitions n calls) := by
  induction calls generalizing n with
  | nil => trivial
  | cons turn calls ih =>
    have := ih (turn.adjust n)
    rw [transitions]
    by_cases h : turn.turnsAt n = true
    · rw [if_pos h]
      rcases turnsAt_iff.1 h with ⟨rfl, rfl⟩ | ⟨rfl, rfl⟩
      · exact ⟨rfl, this⟩
      · exact ⟨rfl, this⟩
    · simpa only [if_neg h, adjust_eq_zero_iff h] using this

theorem alternates_transitions (calls : List Turn) : Alternates (transitions 0 calls) :=
  alternatesFrom_transitions 0 calls

theorem getLast?_transitions (calls : List Turn) :
    (transitions 0 calls).getLast? = some .first ↔ 0 < tally 0 calls := by
  induction calls using List.reverseRecOn with
  | nil => simp [transitions]
  | append_singleton calls turn ih =>
    rw [transitions_append, tally_append, tally_cons, tally_nil, transitions, transitions]
    by_cases h : turn.turnsAt (tally 0 calls) = true
    · rw [if_pos h, List.getLast?_concat]
      rcases turnsAt_iff.1 h with ⟨rfl, hn⟩ | ⟨rfl, hn⟩ <;> simp [adjust, hn]
    · rw [if_neg h, List.append_nil, ih]
      have := adjust_eq_zero_iff h
      omega

theorem alternatesFrom_concat (turn t : Turn) (ts : List Turn) :
    AlternatesFrom turn (ts ++ [t]) ↔
      AlternatesFrom turn ts ∧ t = (ts.getLast?.map other).getD turn := by
  induction ts generalizing turn with
  | nil => simp [AlternatesFrom]
  | cons u ts ih =>
    rw [List.cons_append, AlternatesFrom, AlternatesFrom, ih, and_assoc]
    refine and_congr_right fun hu => and_congr_right fun _ => ?_
    cases ts with
    | nil => simp [hu]
    | cons v ts => rw [List.getLast?_cons_cons, List.getLast?_cons]; rfl

/-- What may come next after turns that alternate: a first holder unless there is one. -/
theorem alternates_concat (t : Turn) (ts : List Turn) :
    Alternates (ts ++ [t]) ↔ Alternates ts ∧ (t = .first ↔ ts.getLast? ≠ some .first) := by
  rw [Alternates, alternatesFrom_concat]
  refine and_congr_right fun _ => ?_
  rcases ts.getLast? with _ | _ | _ <;> cases t <;> simp [other]

end Audience.Turn
