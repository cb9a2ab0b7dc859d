import Audience.Keeper
import Audience.Proofs.SoundLedger

/-!
# What a sweep takes away

A sweep drops the entries that are `Idle`: those without a holder whose last
one left at least the threshold before the instant that the sweep is as of, an
instant before the loss counting as the loss itself (`Entry.isStale_iff`). All
others stay as they are.

* An entry that is idle stays so at a later instant and for a shorter threshold
  (`Entry.Idle.mono`). So a sweep leaves the same ledger whether or not one as
  of an earlier instant and with a longer threshold came before it
  (`Ledger.sweep_sweep`).
* Every entry is either dropped or left (`Ledger.length_removed`), and a ledger
  that has one entry a filter drops as many filters as entries
  (`Ledger.length_removed_eq_ncard`).
* `Keeper.sweeps_idle` puts this together for the sweep of a keeper.
-/

namespace Audience

/-- Whether an entry has had no holder for `threshold` as of `now`. -/
def Entry.Idle (now : Int) (threshold : Nat) (e : Entry) : Prop :=
  e.holders = 0 ∧ ∃ since : Nat, e.idleSince = some since ∧ (threshold : Int) ≤ max (now - since) 0

theorem Entry.isStale_iff {now : Int} {threshold : Nat} {e : Entry} :
    e.isStale now threshold = true ↔ e.Idle now threshold := by
  unfold isStale Idle
  cases e.idleSince with
  | none => simp
  | some since =>
    have hspan : threshold ≤ (now - since).toNat ↔ (threshold : Int) ≤ max (now - since) 0 := by
      omega
    simp only [Bool.and_eq_true, beq_iff_eq, decide_eq_true_eq, Option.some.injEq, exists_eq_left',
      hspan]

theorem Entry.Idle.mono {n₁ n₂ : Int} {t₁ t₂ : Nat} (later : n₁ ≤ n₂) (shorter : t₂ ≤ t₁)
    {e : Entry} (h : e.Idle n₁ t₁) : e.Idle n₂ t₂ := by
  obtain ⟨hfree, since, hsince, hspan⟩ := h
  exact ⟨hfree, since, hsince, by omega⟩

namespace Ledger

/-- Ledgers that subscriptions, their ends and sweeps have made of an empty one, at whatever
instants. -/
inductive Reachable : Ledger → Prop where
  | empty : Reachable {}
  | subscribe {l : Ledger} (filter : String) : Reachable l → Reachable (l.subscribe filter).1
  | unsubscribe {l : Ledger} (now : Nat) (filter : String) :
    Reachable l → Reachable (l.unsubscribe now filter).1
  | sweep {l : Ledger} (now : Int) (threshold : Nat) :
    Reachable l → Reachable (l.sweep now threshold).1

theorem Reachable.sound {l : Ledger} (h : l.Reachable) : l.Sound := by
  induction h with
  | empty => exact sound_empty
  | subscribe filter _ ih => exact sound_subscribe ih filter
  | unsubscribe now filter _ ih => exact sound_unsubscribe ih now filter
  | sweep now threshold _ ih => exact sound_sweep ih now threshold

variable {l : Ledger} {now : Int} {threshold : Nat}

/-- What is left by a sweep is what was there and is not idle. -/
theorem find?_sweep_eq_some_iff (h : l.Sound) {f : String} {e : Entry} :
    (l.sweep now threshold).1.find? f = some e ↔ l.find? f = some e ∧ ¬ e.Idle now threshold := by
  rw [find?_sweep h, Option.filter_eq_some_iff, ← Entry.isStale_iff, Bool.not_eq_true,
    Bool.not_eq_true']

/-- What a sweep drops is what was there and is idle. -/
theorem mem_removed_iff (h : l.Sound) {f : String} :
    f ∈ (l.sweep now threshold).2 ↔ ∃ e, l.find? f = some e ∧ e.Idle now threshold := by
  simp only [sweep, List.mem_map, List.mem_filter, find?_eq_some_iff h, Entry.isStale_iff]
  constructor
  · rintro ⟨e, ⟨hmem, hidle⟩, hfilter⟩
    exact ⟨e, ⟨hmem, hfilter⟩, hidle⟩
  · rintro ⟨e, ⟨hmem, hfilter⟩, hidle⟩
    exact ⟨e, ⟨hmem, hidle⟩, hfilter⟩

theorem length_removed (l : Ledger) (now : Int) (threshold : Nat) :
    (l.sweep now threshold).2.length + (l.sweep now threshold).1.size = l.size := by
  simp only [sweep, size, List.length_map]
  exact (List.length_eq_length_filter_add _).symm

theorem length_removed_eq_ncard (h : l.Sound) :
    (l.sweep now threshold).2.length = {f | f ∈ (l.sweep now threshold).2}.ncard := by
  simp only [sweep]
  rw [List.length_map, length_eq_ncard (h.unique.sublist (List.filter_sublist.map _))]

/-- A sweep as of a later instant and with a shorter threshold makes up for one that came before. -/
theorem sweep_sweep {n₁ n₂ : Int} {t₁ t₂ : Nat} (later : n₁ ≤ n₂) (shorter : t₂ ≤ t₁)
    (l : Ledger) : ((l.sweep n₁ t₁).1.sweep n₂ t₂).1 = (l.sweep n₂ t₂).1 := by
  simp only [sweep, List.filter_filter]
  congr 1
  refine List.filter_congr fun e _ => ?_
  cases hlate : e.isStale n₂ t₂ with
  | true => rfl
  | false =>
    have hearly : e.isStale n₁ t₁ = false := by
      rw [Bool.eq_false_iff]
      intro hearly
      have hidle := (Entry.isStale_iff.1 hearly).mono later shorter
      rw [Entry.isStale_iff.2 hidle] at hlate
      exact Bool.noConfusion hlate
    rw [hearly]
    rfl

end Ledger

namespace Keeper

variable {k : Keeper}

/-- The filters that a keeper tracks no longer after a sweep. -/
def forgotten (now : Int) (threshold : Nat) (k : Keeper) : Set String :=
  {f | (k.ledger.find? f).isSome ∧ (k.sweepAsOf now threshold).1.ledger.find? f = none}

theorem mem_forgotten_iff (h : k.ledger.Sound) {now : Int} {threshold : Nat} {f : String} :
    f ∈ k.forgotten now threshold ↔ ∃ e, k.ledger.find? f = some e ∧ e.Idle now threshold := by
  show (k.ledger.find? f).isSome ∧ (k.ledger.sweep now threshold).1.find? f = none ↔ _
  rw [Ledger.find?_sweep h]
  cases k.ledger.find? f with
  | none => simp
  | some e => simp [Option.filter, ← Entry.isStale_iff]

theorem removed_add_size (k : Keeper) (now : Int) (threshold : Nat) :
    (k.sweepAsOf now threshold).2.1 + (k.sweepAsOf now threshold).1.ledger.size =
      k.ledger.size := by
  have hlength := k.ledger.length_removed now threshold
  show k.ledger.size - (k.ledger.sweep now threshold).1.size +
    (k.ledger.sweep now threshold).1.size = _
  omega

theorem removed_eq_ncard (h : k.ledger.Sound) (now : Int) (threshold : Nat) :
    (k.sweepAsOf now threshold).2.1 = (k.forgotten now threshold).ncard := by
  have hforgotten : k.forgotten now threshold = {f | f ∈ (k.ledger.sweep now threshold).2} := by
    ext f
    exact (mem_forgotten_iff h).trans (Ledger.mem_removed_iff h).symm
  rw [hforgotten, ← Ledger.length_removed_eq_ncard h]
  have hlength := k.ledger.length_removed now threshold
  have hsize := k.removed_add_size now threshold
  exact Nat.add_right_cancel (hsize.trans hlength.symm)

section Twice

variable {n₁ n₂ : Int} {t₁ t₂ : Nat} (later : n₁ ≤ n₂) (shorter : t₂ ≤ t₁)

include later shorter

theorem forgotten_subset (h : k.ledger.Sound) : k.forgotten n₁ t₁ ⊆ k.forgotten n₂ t₂ := by
  intro f hf
  obtain ⟨e, hfind, hidle⟩ := (mem_forgotten_iff h).1 hf
  exact (mem_forgotten_iff h).2 ⟨e, hfind, hidle.mono later shorter⟩

theorem sweepAsOf_sweepAsOf (k : Keeper) :
    ((k.sweepAsOf n₁ t₁).1.sweepAsOf n₂ t₂).1 = (k.sweepAsOf n₂ t₂).1 :=
  congrArg (fun ledger => { k with ledger }) (Ledger.sweep_sweep later shorter k.ledger)

/-- Two sweeps together remove what the second alone would. -/
theorem removed_add_removed (k : Keeper) :
    (k.sweepAsOf n₁ t₁).2.1 + ((k.sweepAsOf n₁ t₁).1.sweepAsOf n₂ t₂).2.1 =
      (k.sweepAsOf n₂ t₂).2.1 := by
  have hfirst := k.removed_add_size n₁ t₁
  have hsecond := (k.sweepAsOf n₁ t₁).1.removed_add_size n₂ t₂
  have halone := k.removed_add_size n₂ t₂
  rw [sweepAsOf_sweepAsOf later shorter] at hsecond
  omega

end Twice

/-- A sweep forgets exactly the filters whose entry has no holder and lost the last one the threshold
or longer before, leaves every other entry as it was and says how many filters it forgot, which is by
how many entries there are less. One that is as of a later instant and has a shorter threshold forgets
no fewer, and leaves the same and says the same in all whether or not the other came before it. So the
same sweep made again forgets nothing. -/
theorem sweeps_idle (reachable : k.ledger.Reachable) :
    (∀ now threshold,
      (∀ f e, (k.sweepAsOf now threshold).1.ledger.find? f = some e ↔
        k.ledger.find? f = some e ∧ ¬ e.Idle now threshold) ∧
      (∀ f, f ∈ k.forgotten now threshold ↔
        ∃ e, k.ledger.find? f = some e ∧ e.Idle now threshold) ∧
      (k.sweepAsOf now threshold).2.1 = (k.forgotten now threshold).ncard ∧
      (k.sweepAsOf now threshold).2.1 + (k.sweepAsOf now threshold).1.ledger.size =
        k.ledger.size) ∧
    (∀ n₁ n₂ t₁ t₂, n₁ ≤ n₂ → t₂ ≤ t₁ →
      k.forgotten n₁ t₁ ⊆ k.forgotten n₂ t₂ ∧
      ((k.sweepAsOf n₁ t₁).1.sweepAsOf n₂ t₂).1 = (k.sweepAsOf n₂ t₂).1 ∧
      (k.sweepAsOf n₁ t₁).2.1 + ((k.sweepAsOf n₁ t₁).1.sweepAsOf n₂ t₂).2.1 =
        (k.sweepAsOf n₂ t₂).2.1) ∧
    ∀ now threshold,
      ((k.sweepAsOf now threshold).1.sweepAsOf now threshold).1 = (k.sweepAsOf now threshold).1 ∧
      ((k.sweepAsOf now threshold).1.sweepAsOf now threshold).2.1 = 0 := by
  have hsound := reachable.sound
  refine ⟨fun now threshold => ⟨fun f e => ?_, fun f => ?_, ?_, ?_⟩,
    fun n₁ n₂ t₁ t₂ later shorter => ⟨?_, ?_, ?_⟩, fun now threshold => ⟨?_, ?_⟩⟩
  · exact Ledger.find?_sweep_eq_some_iff hsound
  · exact mem_forgotten_iff hsound
  · exact removed_eq_ncard hsound now threshold
  · exact removed_add_size k now threshold
  · exact forgotten_subset later shorter hsound
  · exact sweepAsOf_sweepAsOf later shorter k
  · exact removed_add_removed later shorter k
  · exact sweepAsOf_sweepAsOf (Int.le_refl now) (Nat.le_refl threshold) k
  · exact Nat.left_eq_add.1 (removed_add_removed (Int.le_refl now) (Nat.le_refl threshold) k).symm

/-- Two filters are lost at different instants and a third is held: two sweeps take away one each, and
one that is as of an instant before either loss takes both with no threshold and none with the
least. -/
theorem sweeps_idle_one_by_one :
    let held : Ledger := (((({} : Ledger).subscribe "a").1.subscribe "b").1.subscribe "c").1
    let k : Keeper := { clock := 9, ledger := ((held.unsubscribe 5 "a").1.unsubscribe 9 "b").1 }
    k.ledger.Reachable ∧ k.ledger.size = 3 ∧
      (k.sweepAsOf 7 2).2.1 = 1 ∧ ((k.sweepAsOf 7 2).1.sweepAsOf 12 1).2.1 = 1 ∧
      (k.sweepAsOf 12 1).2.1 = 2 ∧ ((k.sweepAsOf 7 2).1.sweepAsOf 12 1).1 = (k.sweepAsOf 12 1).1 ∧
      (k.forgotten 3 0).ncard = 2 ∧ (k.forgotten 3 1).ncard = 0 := by
  intro held k
  have hheld : held.Reachable := .subscribe "c" (.subscribe "b" (.subscribe "a" .empty))
  have hreachable : k.ledger.Reachable := .unsubscribe 9 "b" (.unsubscribe 5 "a" hheld)
  obtain ⟨hone, htwo, -⟩ := sweeps_idle hreachable
  obtain ⟨-, hsame, hsum⟩ := htwo 7 12 2 1 (by decide) (by decide)
  refine ⟨hreachable, by decide, by decide, by decide, ?_, hsame, ?_, ?_⟩
  · rw [← hsum]
    decide
  · rw [← (hone 3 0).2.2.1]
    decide
  · rw [← (hone 3 1).2.2.1]
    decide

end Keeper

end Audience
