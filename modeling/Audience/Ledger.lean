/-!
# The ledger of holders

A ledger keeps, for each filter, how many subscriptions hold it. A filter that
loses its last holder stays, with the instant of the loss, until a sweep finds
that it has been idle for the grace period. `holders` is the view that
matters; `holders_subscribe` and `holders_unsubscribe` say how it changes.
-/

namespace Audience

/-- What the ledger knows of a filter. -/
structure Entry where
  filter : String
  holders : Nat
  /-- When the last holder left, while there is none. -/
  idleSince : Option Nat
deriving DecidableEq, Repr

/-- Whether nobody has held the filter for `threshold` as of `now`, which may lie before the start
of the clock. -/
def Entry.isStale (now : Int) (threshold : Nat) (e : Entry) : Bool :=
  match e.idleSince with
  | some since => e.holders == 0 && decide (threshold ≤ (now - since).toNat)
  | none => false

/-- The entry with one holder less, marked at `now` if that was the last. -/
def Entry.released (now : Nat) (e : Entry) : Entry :=
  { e with
    holders := e.holders - 1
    idleSince := if e.holders = 1 then some now else e.idleSince }

/-- An entry without a holder has none to lose, and keeps its mark. -/
theorem Entry.released_of_free {e : Entry} (h : e.holders = 0) (now : Nat) : e.released now = e := by
  obtain ⟨filter, holders, idleSince⟩ := e
  obtain rfl : holders = 0 := h
  rfl

/-- Entries in the order in which their filters came in. -/
structure Ledger where
  entries : List Entry := []
deriving DecidableEq, Repr

namespace Ledger

def find? (l : Ledger) (filter : String) : Option Entry :=
  l.entries.find? (·.filter == filter)

/-- The number of holders of a filter that is tracked. -/
def count? (l : Ledger) (filter : String) : Option Nat := (l.find? filter).map (·.holders)

/-- The number of holders of a filter. -/
def holders (l : Ledger) (filter : String) : Nat := (l.count? filter).getD 0

/-- The number of filters tracked, those without a holder included. -/
def size (l : Ledger) : Nat := l.entries.length

/-- The number of filters with a holder. -/
def active (l : Ledger) : Nat := l.entries.countP (0 < ·.holders)

/-- Whether some filter with a holder passes a test. -/
def anyActive (l : Ledger) (test : String → Bool) : Bool :=
  l.entries.any fun e => decide (0 < e.holders) && test e.filter

/-- Writes an entry in place of the one for its filter, or after all others. -/
def putEntry (e : Entry) : List Entry → List Entry
  | [] => [e]
  | d :: rest => if d.filter = e.filter then e :: rest else d :: putEntry e rest

def put (l : Ledger) (e : Entry) : Ledger := ⟨putEntry e l.entries⟩

/-- One more holder; whether it is the first. -/
def subscribe (l : Ledger) (filter : String) : Ledger × Bool :=
  let n := l.holders filter
  (l.put ⟨filter, n + 1, none⟩, n == 0)

/-- One holder less; whether it was the last. Without a holder nothing changes. -/
def unsubscribe (now : Nat) (l : Ledger) (filter : String) : Ledger × Bool :=
  match l.find? filter with
  | some e => if 0 < e.holders then (l.put (e.released now), e.holders == 1) else (l, false)
  | none => (l, false)

/-- Drops the stale filters; also which they were. -/
def sweep (now : Int) (threshold : Nat) (l : Ledger) : Ledger × List String :=
  (⟨l.entries.filter (!·.isStale now threshold)⟩,
    (l.entries.filter (·.isStale now threshold)).map (·.filter))

/-! ## Views -/

theorem find?_putEntry (e : Entry) (es : List Entry) (f : String) :
    (putEntry e es).find? (·.filter == f) =
      if e.filter = f then some e else es.find? (·.filter == f) := by
  induction es with
  | nil => by_cases hf : e.filter = f <;> simp [putEntry, hf]
  | cons d rest ih =>
    by_cases hd : d.filter = e.filter
    · by_cases hf : e.filter = f <;> simp [putEntry, hd, hf]
    · by_cases hf : e.filter = f
      · have : d.filter ≠ f := hf ▸ hd
        simp [putEntry, this, ih, hf]
      · simp [putEntry, hd, List.find?_cons, ih, hf]

theorem find?_put (l : Ledger) (e : Entry) (f : String) :
    (l.put e).find? f = if e.filter = f then some e else l.find? f :=
  find?_putEntry e l.entries f

theorem filter_of_find? {l : Ledger} {f : String} {e : Entry} (h : l.find? f = some e) :
    e.filter = f := by
  simpa using List.find?_some h

theorem holders_put (l : Ledger) (e : Entry) (f : String) :
    (l.put e).holders f = if e.filter = f then e.holders else l.holders f := by
  unfold holders count?
  rw [find?_put]
  split <;> rfl

/-- A filter with a holder is tracked. -/
theorem count?_of_holders_ne_zero {l : Ledger} {f : String} (h : l.holders f ≠ 0) :
    l.count? f = some (l.holders f) := by
  unfold holders at h ⊢
  cases hcount : l.count? f with
  | none => exact absurd (by rw [hcount]; rfl) h
  | some n => rfl

theorem holders_subscribe (l : Ledger) (filter f : String) :
    (l.subscribe filter).1.holders f = if filter = f then l.holders f + 1 else l.holders f := by
  simp only [subscribe, holders_put]
  split
  · next h => rw [h]
  · rfl

/-- The end of a subscription takes a holder from the entry for its filter. -/
theorem find?_unsubscribe (l : Ledger) (now : Nat) (filter f : String) :
    (l.unsubscribe now filter).1.find? f =
      if filter = f then (l.find? f).map (·.released now) else l.find? f := by
  unfold unsubscribe
  by_cases hf : filter = f
  · subst hf
    rw [if_pos rfl]
    cases hfind : l.find? filter with
    | none => exact hfind
    | some e =>
      have hfilter : e.filter = filter := filter_of_find? hfind
      by_cases hheld : 0 < e.holders
      · simp only [if_pos hheld, find?_put, Entry.released, if_pos hfilter, Option.map_some]
      · simp only [if_neg hheld, hfind, Option.map_some,
          Entry.released_of_free (Nat.eq_zero_of_not_pos hheld)]
  · rw [if_neg hf]
    cases hfind : l.find? filter with
    | none => rfl
    | some e =>
      have hother : e.filter ≠ f := filter_of_find? hfind ▸ hf
      by_cases hheld : 0 < e.holders
      · simp only [if_pos hheld, find?_put, Entry.released, if_neg hother]
      · simp only [if_neg hheld]

/-- It was the last if there was one. -/
theorem snd_unsubscribe (now : Nat) (l : Ledger) (filter : String) :
    (l.unsubscribe now filter).2 = (l.holders filter == 1) := by
  unfold unsubscribe holders count?
  cases l.find? filter with
  | none => rfl
  | some e =>
    by_cases hheld : 0 < e.holders
    · simp only [if_pos hheld, Option.map_some, Option.getD_some]
    · simp [Nat.eq_zero_of_not_pos hheld]

theorem count?_unsubscribe (now : Nat) (l : Ledger) (filter f : String) :
    (l.unsubscribe now filter).1.count? f =
      if filter = f then (l.count? f).map (· - 1) else l.count? f := by
  unfold count?
  rw [find?_unsubscribe]
  split
  · rw [Option.map_map, Option.map_map]
    rfl
  · rfl

theorem holders_unsubscribe (now : Nat) (l : Ledger) (filter f : String) :
    (l.unsubscribe now filter).1.holders f =
      if filter = f then l.holders f - 1 else l.holders f := by
  unfold holders
  rw [count?_unsubscribe]
  split
  · cases l.count? f with
    | none => rfl
    | some n => rfl
  · rfl

end Ledger

end Audience
