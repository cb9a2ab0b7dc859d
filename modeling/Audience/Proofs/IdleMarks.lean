import Audience.Proofs.Retention
import Audience.Proofs.Sweeping

/-!
# Marks of idle entries

An entry is marked as idle with the instant at which its filter lost its last
holder, and only as long as nobody holds the filter. A keeper's ledger is made
of an empty one by `Operation`s, each at the instant that the clock shows then.

What one operation can do is said once: an entry without a holder was there
before, with the same mark, unless the operation has just taken its last holder
and marked it with the clock (`Keeper.find?_operate`). So the mark is that of
the latest such operation, by induction on the operations from the end
(`Keeper.lostLast_of_find?`), and as the clock does not go back it lies in the
past (`Keeper.LostLast.le_clock`).
-/

namespace Audience

namespace Keeper

/-- What can be done with a ledger on a clock: subscriptions and their ends, sweeps as of any instant,
and waits. -/
inductive Operation where
  | subscribe (filter : String)
  | unsubscribe (filter : String)
  | sweep (now : Int) (threshold : Nat)
  | wait (span : Nat)
deriving DecidableEq, Repr

def operate (k : Keeper) : Operation → Keeper
  | .subscribe filter => (k.subscribe filter).1
  | .unsubscribe filter => (k.unsubscribe filter).1
  | .sweep now threshold => (k.sweepAsOf now threshold).1
  | .wait span => { k with clock := k.clock + span }

/-- Operations in order. -/
def operateAll (operations : List Operation) (k : Keeper) : Keeper := operations.foldl operate k

theorem operateAll_append (operations more : List Operation) (k : Keeper) :
    operateAll (operations ++ more) k = operateAll more (operateAll operations k) :=
  List.foldl_append

theorem operateAll_concat (operations : List Operation) (operation : Operation) (k : Keeper) :
    operateAll (operations ++ [operation]) k = (operateAll operations k).operate operation :=
  operateAll_append operations [operation] k

/-- Whether an operation takes the last holder of a filter. -/
structure Loses (f : String) (k : Keeper) (operation : Operation) : Prop where
  ends : operation = .unsubscribe f
  one : k.ledger.count? f = some 1
  zero : (k.operate operation).ledger.count? f = some 0

/-- Whether a filter lost its last holder at the instant `since`, the latest time that it did. -/
def LostLast (f : String) (k : Keeper) (operations : List Operation) (since : Nat) : Prop :=
  ∃ before loss after, operations = before ++ loss :: after ∧
    Loses f (operateAll before k) loss ∧ (operateAll before k).clock = since ∧
    ∀ between next rest, after = between ++ next :: rest →
      ¬ Loses f (operateAll (before ++ loss :: between) k) next

variable {k : Keeper} {operations : List Operation} {operation : Operation} {f : String}
  {since : Nat}

/-! ## What an operation does -/

theorem sound_operate (h : k.ledger.Sound) (operation : Operation) :
    (k.operate operation).ledger.Sound := by
  cases operation with
  | subscribe filter => exact Ledger.sound_subscribe h filter
  | unsubscribe filter => exact Ledger.sound_unsubscribe h k.clock filter
  | sweep now threshold => exact Ledger.sound_sweep h now threshold
  | wait span => exact h

theorem clock_le_operate (k : Keeper) (operation : Operation) :
    k.clock ≤ (k.operate operation).clock := by
  cases operation with
  | subscribe | unsubscribe | sweep => exact Nat.le_refl _
  | wait span => exact Nat.le_add_right _ _

/-- An entry without a holder has just lost the last one, or was there before. -/
theorem find?_operate (h : k.ledger.Sound) {e : Entry}
    (hfind : (k.operate operation).ledger.find? f = some e) (hfree : e.holders = 0) :
    Loses f k operation ∧ e.idleSince = some k.clock ∨
      ¬ Loses f k operation ∧ k.ledger.find? f = some e := by
  cases operation with
  | subscribe filter =>
    refine .inr ⟨fun hloses => Operation.noConfusion hloses.ends, ?_⟩
    have hentry := (Ledger.find?_subscribe k.ledger filter f).symm.trans hfind
    split at hentry
    · obtain rfl := Option.some.inj hentry
      exact absurd hfree (Nat.succ_ne_zero _)
    · exact hentry
  | unsubscribe filter =>
    have hentry := (Ledger.find?_unsubscribe k.ledger k.clock filter f).symm.trans hfind
    split at hentry
    · next hf =>
      subst hf
      obtain ⟨d, hbefore, rfl⟩ := Option.map_eq_some_iff.1 hentry
      have hcount : k.ledger.count? filter = some d.holders := by
        rw [Ledger.count?, hbefore, Option.map_some]
      by_cases hone : d.holders = 1
      · refine .inl ⟨⟨rfl, hcount.trans (congrArg some hone), ?_⟩, if_pos hone⟩
        rw [Ledger.count?, hfind, Option.map_some, hfree]
      · have hnone : d.holders = 0 := by
          have : d.holders - 1 = 0 := hfree
          omega
        refine .inr ⟨fun hloses => hone (Option.some.inj (hcount.symm.trans hloses.one)), ?_⟩
        rw [Entry.released_of_free hnone, hbefore]
    · next hf => exact .inr ⟨fun hloses => hf (Operation.unsubscribe.inj hloses.ends), hentry⟩
  | sweep now threshold =>
    refine .inr ⟨fun hloses => Operation.noConfusion hloses.ends, ?_⟩
    exact ((Ledger.find?_sweep_eq_some_iff h).1 hfind).1
  | wait span => exact .inr ⟨fun hloses => Operation.noConfusion hloses.ends, hfind⟩

/-! ## What operations do -/

theorem sound_operateAll (h : k.ledger.Sound) (operations : List Operation) :
    (operateAll operations k).ledger.Sound := by
  induction operations generalizing k with
  | nil => exact h
  | cons operation operations ih => exact ih (sound_operate h operation)

theorem clock_le_operateAll (k : Keeper) (operations : List Operation) :
    k.clock ≤ (operateAll operations k).clock := by
  induction operations generalizing k with
  | nil => exact Nat.le_refl _
  | cons operation operations ih => exact (clock_le_operate k operation).trans (ih _)

/-- The latest loss lies in the past. -/
theorem LostLast.le_clock (h : LostLast f k operations since) :
    since ≤ (operateAll operations k).clock := by
  obtain ⟨before, loss, after, rfl, -, rfl, -⟩ := h
  rw [operateAll_append]
  exact clock_le_operateAll _ _

theorem lostLast_of_loses (h : Loses f (operateAll operations k) operation) :
    LostLast f k (operations ++ [operation]) (operateAll operations k).clock :=
  ⟨operations, operation, [], rfl, h, rfl, fun _ _ _ hnil =>
    absurd hnil.symm (List.append_ne_nil_of_right_ne_nil _ (List.cons_ne_nil _ _))⟩

/-- The latest loss stays the latest until the next one. -/
theorem LostLast.concat (h : LostLast f k operations since)
    (hkeeps : ¬ Loses f (operateAll operations k) operation) :
    LostLast f k (operations ++ [operation]) since := by
  obtain ⟨before, loss, after, rfl, hloss, hsince, hlatest⟩ := h
  refine ⟨before, loss, after ++ [operation], by rw [List.append_assoc]; rfl, hloss, hsince,
    fun between next rest hcut => ?_⟩
  rcases concat_eq_append_cons.1 hcut with ⟨rfl, rfl, rfl⟩ | ⟨rest, rfl, hafter⟩
  · exact hkeeps
  · exact hlatest between next rest hafter

/-- An entry without a holder is marked with the latest loss of its last one. -/
theorem lostLast_of_find? {clock : Nat} {e : Entry}
    (hfind : (operateAll operations { clock }).ledger.find? f = some e) (hfree : e.holders = 0) :
    ∃ since, e.idleSince = some since ∧ LostLast f { clock } operations since := by
  induction operations using List.reverseRecOn with
  | nil => exact absurd hfind (by simp [operateAll, Ledger.find?])
  | append_singleton operations operation ih =>
    rw [operateAll_concat] at hfind
    rcases find?_operate (sound_operateAll Ledger.sound_empty operations) hfind hfree with
      ⟨hloses, hmark⟩ | ⟨hkeeps, hbefore⟩
    · exact ⟨_, hmark, lostLast_of_loses hloses⟩
    · obtain ⟨since, hmark, hlast⟩ := ih hbefore
      exact ⟨since, hmark, hlast.concat hkeeps⟩

/-! ## What that comes to -/

theorem mem_sweepAsOf_iff {now : Int} {threshold : Nat} {e : Entry} :
    e ∈ (k.sweepAsOf now threshold).1.ledger.entries ↔
      e ∈ k.ledger.entries ∧ ¬ e.Idle now threshold := by
  rw [← Entry.isStale_iff, Bool.not_eq_true, ← Bool.not_eq_true']
  exact List.mem_filter

/-- The entries of any ledger that operations have made of an empty one, on a clock that does not go
back. No filter has two, and an entry is marked exactly if it has no holder, with the instant of the
latest operation that took its filter's holders from one to none; this lies in the past, and a sweep
as of an instant late enough after it drops the entry, while an entry with a holder stays in every
sweep. So a sweep meets no entry that has a holder and a mark. -/
theorem idleSince_operateAll (clock : Nat) (operations : List Operation) :
    let start : Keeper := { clock }
    let k := operateAll operations start
    (k.ledger.entries.map (·.filter)).Nodup ∧
      (∀ e ∈ k.ledger.entries,
        (e.idleSince = none ↔ 0 < e.holders) ∧
        (e.holders = 0 → ∃ since, e.idleSince = some since ∧
          LostLast e.filter start operations since ∧ since ≤ k.clock ∧
          ∀ (now : Int) (threshold : Nat), since + threshold ≤ now →
            e ∉ (k.sweepAsOf now threshold).1.ledger.entries) ∧
        (0 < e.holders → ∀ now threshold, e ∈ (k.sweepAsOf now threshold).1.ledger.entries)) ∧
      ∀ before now threshold after, operations = before ++ .sweep now threshold :: after →
        ∀ e ∈ (operateAll before start).ledger.entries, 0 < e.holders → e.idleSince = none := by
  intro start k
  have hsound (operations : List Operation) : (operateAll operations start).ledger.Sound :=
    sound_operateAll Ledger.sound_empty operations
  refine ⟨(hsound operations).unique, fun e he => ⟨(hsound operations).idle_iff e he, fun hfree => ?_,
    fun hheld now threshold => ?_⟩, fun before _ _ _ _ e he => ((hsound before).idle_iff e he).2⟩
  · have hfind := (Ledger.find?_eq_some_iff (hsound operations)).2 ⟨he, rfl⟩
    obtain ⟨since, hmark, hlast⟩ := lostLast_of_find? hfind hfree
    refine ⟨since, hmark, hlast, hlast.le_clock, fun now threshold hlate hleft => ?_⟩
    exact (mem_sweepAsOf_iff.1 hleft).2 ⟨hfree, since, hmark, by omega⟩
  · exact mem_sweepAsOf_iff.2 ⟨he, fun hidle => absurd hidle.1 (Nat.ne_of_gt hheld)⟩

/-- A filter that is lost twice has the mark of the second time, also after somebody has gone who was
not there and a sweep has spared it. -/
theorem idleSince_operateAll_lost_twice :
    let operations : List Operation := [.subscribe "a", .unsubscribe "a", .wait 3, .subscribe "b",
      .subscribe "a", .unsubscribe "a", .wait 2, .unsubscribe "a", .sweep 9 100]
    let k := operateAll operations { clock := 5 }
    k.ledger.entries = [⟨"a", 0, some 8⟩, ⟨"b", 1, none⟩] ∧
      LostLast "a" { clock := 5 } operations 8 ∧ (k.sweepAsOf 10 2).1.ledger.size = 1 := by
  intro operations k
  have hentries : k.ledger.entries = [⟨"a", 0, some 8⟩, ⟨"b", 1, none⟩] := by decide
  obtain ⟨-, hmarks, -⟩ := idleSince_operateAll 5 operations
  obtain ⟨-, hfree, -⟩ := hmarks ⟨"a", 0, some 8⟩ (hentries ▸ List.mem_cons_self)
  obtain ⟨since, hmark, hlast, -⟩ := hfree rfl
  obtain rfl := Option.some.inj hmark
  exact ⟨hentries, hlast, by decide⟩

end Keeper

end Audience
