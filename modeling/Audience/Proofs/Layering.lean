import Mathlib.Data.List.TakeWhile
import Audience.Proofs.Documents
import Audience.Settings.Layers

/-!
# Layers by key

What a key has after entries were laid over others is what one of the two
gives it, or both merged: `overlay` of what it had in each
(`get?_mergeEntries`). A layer whose keys are bare is laid over a table in the
same way, since each of its keys is a path of one step
(`entriesOf_addLayer`). Only tables are merged: any other value is `Solid`, it
replaces what it is laid over.
-/

namespace Audience.Settings

open Toml

/-- What is left of two values of a key, where the first is laid over the second. -/
def overlay (top base : Option Value) : Option Value :=
  match top with
  | none => base
  | some v => some (merge v (base.getD blank))

theorem get?_mergeEntries {top : Entries} (distinct : (top.map Prod.fst).Nodup) (base : Entries)
    (k : String) : (mergeEntries top base).get? k = overlay (top.get? k) (base.get? k) := by
  induction top generalizing base with
  | nil => simp [mergeEntries, overlay]
  | cons entry top ih =>
    obtain ⟨key, v⟩ := entry
    rw [List.map_cons, List.nodup_cons] at distinct
    rw [mergeEntries, ih distinct.2, Entries.get?_put, Entries.get?_cons]
    by_cases hk : key = k
    · have hnone : Entries.get? top k = none := Entries.get?_eq_none_iff.2 (hk ▸ distinct.1)
      simp only [hk, hnone, overlay, if_true]
    · simp only [hk, if_false]

theorem merge_table (origin : Origin) (entries : Entries) (base : Value) :
    merge (.table origin entries) base = .table origin (mergeEntries entries (entriesOf base)) := by
  rw [merge]

/-- A value that replaces whatever it is laid over. -/
def Solid (v : Value) : Prop := ∀ base, merge v base = v

theorem solid_of_ne_table {v : Value} (h : ∀ origin entries, v ≠ .table origin entries) :
    Solid v := by
  intro base
  rw [merge]
  exact h

/-! ## Layers with bare keys -/

/-- Whether a key may stand without quotes. -/
def isBare (key : String) : Bool := !key.toList.isEmpty && key.toList.all isBareKeyChar

theorem pathOfKey_of_isBare {key : String} (h : isBare key = true) : pathOfKey key = [.key key] := by
  rw [isBare, Bool.and_eq_true, Bool.not_eq_true', List.all_eq_true] at h
  obtain ⟨hne, hall⟩ := h
  have htake : key.toList.takeWhile isBareKeyChar = key.toList := List.takeWhile_eq_self_iff.2 hall
  have hdrop : key.toList.dropWhile isBareKeyChar = [] := List.dropWhile_eq_nil_iff.2 hall
  rw [pathOfKey, path?, pathSteps?]
  simp [htake, hdrop, hne, pathSteps?]

theorem addLayer_cons (key : String) (v : Value) (layer : Entries) (base : Value) :
    addLayer ((key, v) :: layer) base = addLayer layer (writeAt v (pathOfKey key) base) := rfl

/-- Without paths among its keys a layer is merged like a table. -/
theorem entriesOf_addLayer {layer : Entries} (bare : ∀ e ∈ layer, isBare e.1 = true) (base : Value) :
    entriesOf (addLayer layer base) = mergeEntries layer (entriesOf base) := by
  induction layer generalizing base with
  | nil => rw [mergeEntries]; rfl
  | cons entry layer ih =>
    obtain ⟨key, v⟩ := entry
    obtain ⟨hkey, hrest⟩ := List.forall_mem_cons.1 bare
    rw [addLayer_cons, ih hrest, pathOfKey_of_isBare hkey, mergeEntries]
    rfl

end Audience.Settings
