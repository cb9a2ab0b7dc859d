import Audience.Proofs.Layering

/-!
# Values at paths

`valueAt?` follows a path of keys into nested tables. What is written at a path
is found there (`valueAt?_writeAt_self`), and nothing changes at a path that
stands `Apart` from it, so that neither leads on from the other
(`valueAt?_writeAt_of_apart`). A dotted key of bare keys is the path of those
keys (`pathOfKey_of_keysOf`). A layer of such keys, all at a given path or apart
from it, therefore has a say at that path only by the key that spells it
(`valueAt?_addLayer`).
-/

namespace Audience.Settings

open Toml

/-- What stands at a path of keys, if tables lead there. -/
def valueAt? : List String → Value → Option Value
  | [], v => some v
  | key :: path, v => ((entriesOf v).get? key).bind (valueAt? path)

/-- Neither path is the other one or leads on from it. -/
def Apart (p q : List String) : Prop := ¬ p <+: q ∧ ¬ q <+: p

instance (p q : List String) : Decidable (Apart p q) := inferInstanceAs (Decidable (_ ∧ _))

theorem apart_cons_iff {j k : String} {p q : List String} :
    Apart (j :: p) (k :: q) ↔ j ≠ k ∨ Apart p q := by
  simp only [Apart, List.cons_prefix_cons]
  by_cases h : j = k
  · simp [h]
  · simp [h, Ne.symm h]

/-! ## Writing -/

/-- The keys of a path as steps. -/
def stepsOf (path : List String) : List Step := path.map .key

theorem writeAt_cons (v : Value) (key : String) (path : List String) (base : Value) :
    writeAt v (stepsOf (key :: path)) base =
      .table .implied ((entriesOf base).put key
        (writeAt v (stepsOf path) (((entriesOf base).get? key).getD blank))) := rfl

theorem valueAt?_writeAt_self {v : Value} (h : Solid v) (path : List String) (base : Value) :
    valueAt? path (writeAt v (stepsOf path) base) = some v := by
  induction path generalizing base with
  | nil => exact congrArg some (h base)
  | cons key path ih =>
    rw [writeAt_cons, valueAt?, entriesOf, Entries.get?_put, if_pos rfl]
    exact ih _

theorem valueAt?_writeAt_of_apart (v : Value) {p q : List String} (h : Apart p q) (base : Value) :
    valueAt? q (writeAt v (stepsOf p) base) = valueAt? q base := by
  induction p generalizing q base with
  | nil => exact absurd List.nil_prefix h.1
  | cons j p ih =>
    cases q with
    | nil => exact absurd List.nil_prefix h.2
    | cons k q =>
      rw [writeAt_cons, valueAt?, valueAt?, entriesOf, Entries.get?_put]
      by_cases hkey : j = k
      · have hrest : Apart p q := (apart_cons_iff.1 h).resolve_left fun hne => hne hkey
        rw [if_pos hkey, Option.bind_some, ih hrest, hkey]
        cases (entriesOf base).get? k with
        | some w => rfl
        | none =>
          -- Nothing stood there, and in nothing there is nothing to be found.
          cases q with
          | nil => exact absurd List.nil_prefix hrest.2
          | cons _ _ => rfl
      · rw [if_neg hkey]

/-- Whether a table stands under a key. -/
def HasTable (v : Value) (key : String) : Prop :=
  ∃ origin entries, (entriesOf v).get? key = some (.table origin entries)

/-- A table stays one, unless something is written in its place. -/
theorem hasTable_writeAt (v : Value) {path : List String} {key : String} (h : ¬ path <+: [key])
    {base : Value} (hbase : HasTable base key) : HasTable (writeAt v (stepsOf path) base) key := by
  cases path with
  | nil => exact absurd List.nil_prefix h
  | cons k path =>
    rw [HasTable, writeAt_cons, entriesOf, Entries.get?_put]
    by_cases hkey : k = key
    · cases path with
      | nil => exact absurd (hkey ▸ List.prefix_rfl) h
      | cons next path =>
        rw [if_pos hkey]
        exact ⟨_, _, congrArg some (writeAt_cons ..)⟩
    · rw [if_neg hkey]
      exact hbase

/-! ## Dotted keys -/

/-- The keys that a dotted key is made of. -/
def keysOf (dotted : String) : List String := (Text.split '.' dotted.toList).map String.ofList

theorem isBareKeyChar_dot : isBareKeyChar '.' = false := by decide

/-- A dot and a bare key are a step, up to the next dot. -/
theorem pathSteps?_dot {piece rest : List Char} (hne : piece ≠ [])
    (hbare : ∀ c ∈ piece, isBareKeyChar c = true) (hrest : rest = [] ∨ ∃ cs, rest = '.' :: cs)
    (steps : Nat) :
    pathSteps? (steps + 1) ('.' :: (piece ++ rest)) =
      (pathSteps? steps rest).map (.key (String.ofList piece) :: ·) := by
  have hstop : rest.takeWhile isBareKeyChar = [] ∧ rest.dropWhile isBareKeyChar = rest := by
    rcases hrest with rfl | ⟨cs, rfl⟩
    · exact ⟨rfl, rfl⟩
    · simp [isBareKeyChar_dot]
  have htake : (piece ++ rest).takeWhile isBareKeyChar = piece := by
    rw [List.takeWhile_append_of_pos hbare, hstop.1, List.append_nil]
  have hdrop : (piece ++ rest).dropWhile isBareKeyChar = rest := by
    rw [List.dropWhile_append_of_pos hbare, hstop.2]
  simp only [pathSteps?, htake, hdrop, List.isEmpty_iff, hne, if_false]

theorem pathSteps?_join {pieces : List (List Char)} (hne : pieces ≠ [])
    (hbare : ∀ piece ∈ pieces, piece ≠ [] ∧ ∀ c ∈ piece, isBareKeyChar c = true) {steps : Nat}
    (hsteps : pieces.length ≤ steps) :
    pathSteps? steps ('.' :: Text.join '.' pieces) = some (stepsOf (pieces.map String.ofList)) := by
  induction pieces generalizing steps with
  | nil => exact absurd rfl hne
  | cons piece pieces ih =>
    obtain ⟨steps, rfl⟩ : ∃ n, steps = n + 1 := Nat.exists_eq_add_one.2 (Nat.lt_of_lt_of_le
      (Nat.succ_pos pieces.length) hsteps)
    obtain ⟨⟨hpiece, hchars⟩, hpieces⟩ := List.forall_mem_cons.1 hbare
    cases pieces with
    | nil =>
      have hstep := pathSteps?_dot hpiece hchars (.inl rfl) steps
      rw [List.append_nil] at hstep
      rw [Text.join, hstep]
      cases steps <;> rfl
    | cons next pieces =>
      rw [Text.join, pathSteps?_dot hpiece hchars (.inr ⟨_, rfl⟩),
        ih (List.cons_ne_nil next pieces) hpieces (Nat.le_of_succ_le_succ hsteps)]
      · rfl
      · exact List.cons_ne_nil next pieces

theorem isBare_iff {key : String} :
    isBare key = true ↔ key.toList ≠ [] ∧ ∀ c ∈ key.toList, isBareKeyChar c = true := by
  simp [isBare]

/-- A dotted key of bare keys is the path of those keys. -/
theorem pathOfKey_of_keysOf {dotted : String} (h : ∀ key ∈ keysOf dotted, isBare key = true) :
    pathOfKey dotted = stepsOf (keysOf dotted) := by
  have hbare : ∀ piece ∈ Text.split '.' dotted.toList,
      piece ≠ [] ∧ ∀ c ∈ piece, isBareKeyChar c = true := by
    intro piece hmem
    have hkey := isBare_iff.1 (h _ (List.mem_map_of_mem hmem))
    rwa [String.toList_ofList] at hkey
  have hlength : (Text.split '.' dotted.toList).length ≤ dotted.toList.length + 1 := by
    rw [Text.length_split]
    exact Nat.succ_le_succ List.count_le_length
  have hsteps := pathSteps?_join (Text.split_ne_nil '.' dotted.toList) hbare hlength
  rw [Text.join_split] at hsteps
  rw [pathOfKey, path?, hsteps]
  rfl

/-! ## Layers of dotted keys -/

/-- A layer of dotted keys whose values replace what they are laid over. -/
structure Dotted (layer : Entries) : Prop where
  bare : ∀ e ∈ layer, ∀ key ∈ keysOf e.1, isBare key = true
  solid : ∀ e ∈ layer, Solid e.2

theorem Dotted.of_cons {e : String × Value} {layer : Entries} (h : Dotted (e :: layer)) :
    Dotted layer :=
  ⟨fun e he => h.bare e (List.mem_cons_of_mem _ he), fun e he => h.solid e (List.mem_cons_of_mem _ he)⟩

theorem addLayer_cons_of_dotted {dotted : String} {v : Value} {layer : Entries}
    (h : Dotted ((dotted, v) :: layer)) (base : Value) :
    addLayer ((dotted, v) :: layer) base = addLayer layer (writeAt v (stepsOf (keysOf dotted)) base) := by
  rw [addLayer_cons, pathOfKey_of_keysOf (h.bare _ List.mem_cons_self)]

theorem hasTable_addLayer {layer : Entries} (h : Dotted layer) {key : String}
    (beyond : ∀ e ∈ layer, ¬ keysOf e.1 <+: [key]) {base : Value} (hbase : HasTable base key) :
    HasTable (addLayer layer base) key := by
  induction layer generalizing base with
  | nil => exact hbase
  | cons e layer ih =>
    obtain ⟨hfirst, hrest⟩ := List.forall_mem_cons.1 beyond
    rw [addLayer_cons_of_dotted h]
    exact ih h.of_cons hrest (hasTable_writeAt e.2 hfirst hbase)

/-- At the path of a dotted key a layer puts the value that it has for that key, if it has one, and if
its other keys stand apart. -/
theorem valueAt?_addLayer {layer : Entries} (h : Dotted layer) (dotted : String)
    (apart : ∀ e ∈ layer, e.1 = dotted ∨ Apart (keysOf e.1) (keysOf dotted))
    (once : (layer.map Prod.fst).count dotted ≤ 1) (base : Value) :
    valueAt? (keysOf dotted) (addLayer layer base) =
      (layer.get? dotted).or (valueAt? (keysOf dotted) base) := by
  induction layer generalizing base with
  | nil => rfl
  | cons e layer ih =>
    obtain ⟨hfirst, hrest⟩ := List.forall_mem_cons.1 apart
    rw [List.map_cons, List.count_cons] at once
    rw [addLayer_cons_of_dotted h, ih h.of_cons hrest ((Nat.le_add_right _ _).trans once),
      Entries.get?_cons]
    by_cases hkey : e.1 = dotted
    · have hnone : Entries.get? layer dotted = none := by
        refine Entries.get?_eq_none_iff.2 (List.count_eq_zero.1 ?_)
        rw [hkey, beq_self_eq_true, if_pos rfl] at once
        exact Nat.le_zero.1 (Nat.le_of_succ_le_succ once)
      rw [hnone, Option.none_or, if_pos hkey, hkey, Option.some_or]
      exact valueAt?_writeAt_self (h.solid e List.mem_cons_self) _ _
    · rw [if_neg hkey, valueAt?_writeAt_of_apart e.2 (hfirst.resolve_left hkey)]

end Audience.Settings
