import Mathlib.Data.Set.Card
import Audience.Ledger

/-!
# Sound ledgers

A ledger that subscriptions, their ends and sweeps have made is `Sound`: no
filter has two entries, and an entry is marked idle exactly when it has no
holder. On a sound ledger the view by filter says everything:

* `find?_eq_some_iff`, `find?_sweep`: which entries there are, and which are
  left by a sweep;
* `size_eq_ncard`, `active_eq_ncard`, `anyActive_iff`: the size, the number of
  filters with a holder and the search among them, by filter;
* `holders_sweep`: a sweep changes no number of holders.
-/

namespace Audience

theorem Entry.isStale_of_idle {now : Int} {threshold since : Nat} {e : Entry}
    (hidle : e.idleSince = some since) (hfree : e.holders = 0) :
    e.isStale now threshold = decide (threshold ≤ (now - since).toNat) := by
  simp [isStale, hidle, hfree]

theorem Entry.holders_of_isStale {now : Int} {threshold : Nat} {e : Entry}
    (h : e.isStale now threshold = true) : e.holders = 0 := by
  unfold isStale at h
  split at h
  · exact beq_iff_eq.1 (Bool.and_eq_true_iff.1 h).1
  · exact absurd h Bool.false_ne_true

namespace Ledger

/-- What every operation keeps of the entries. -/
structure Sound (l : Ledger) : Prop where
  unique : (l.entries.map (·.filter)).Nodup
  idle_iff : ∀ e ∈ l.entries, e.idleSince = none ↔ 0 < e.holders

theorem sound_empty : Sound {} := ⟨List.nodup_nil, fun _ h => absurd h List.not_mem_nil⟩

/-! ## What operations keep -/

theorem mem_of_mem_putEntry {d e : Entry} {es : List Entry} (h : d ∈ putEntry e es) :
    d = e ∨ d ∈ es := by
  induction es with
  | nil => exact .inl (List.mem_singleton.1 h)
  | cons c rest ih =>
    rw [putEntry] at h
    split at h <;> rcases List.mem_cons.1 h with rfl | h
    · exact .inl rfl
    · exact .inr (List.mem_cons_of_mem _ h)
    · exact .inr List.mem_cons_self
    · exact (ih h).imp_right (List.mem_cons_of_mem _)

theorem nodup_putEntry (e : Entry) {es : List Entry} (h : (es.map (·.filter)).Nodup) :
    ((putEntry e es).map (·.filter)).Nodup := by
  induction es with
  | nil => simp [putEntry]
  | cons c rest ih =>
    rw [List.map_cons, List.nodup_cons] at h
    rw [putEntry]
    split
    · next hc => rw [List.map_cons, List.nodup_cons, ← hc]; exact h
    · next hc =>
      rw [List.map_cons, List.nodup_cons]
      refine ⟨fun hmem => ?_, ih h.2⟩
      obtain ⟨d, hd, hdc⟩ := List.mem_map.1 hmem
      rcases mem_of_mem_putEntry hd with rfl | hd
      · exact hc hdc.symm
      · exact h.1 (List.mem_map.2 ⟨d, hd, hdc⟩)

theorem sound_put {l : Ledger} {e : Entry} (h : l.Sound) (he : e.idleSince = none ↔ 0 < e.holders) :
    (l.put e).Sound := by
  refine ⟨nodup_putEntry e h.unique, fun d hd => ?_⟩
  rcases mem_of_mem_putEntry hd with rfl | hd
  · exact he
  · exact h.idle_iff d hd

theorem sound_subscribe {l : Ledger} (h : l.Sound) (filter : String) : (l.subscribe filter).1.Sound :=
  sound_put h (by simp)

theorem sound_unsubscribe {l : Ledger} (h : l.Sound) (now : Nat) (filter : String) :
    (l.unsubscribe now filter).1.Sound := by
  unfold unsubscribe
  split
  · next e hfind =>
    split
    · next hheld =>
      have hidle := h.idle_iff e (List.mem_of_find?_eq_some hfind)
      refine sound_put h ?_
      by_cases hone : e.holders = 1
      · simp [Entry.released, hone]
      · simp only [Entry.released, if_neg hone, hidle]
        omega
    · exact h
  · exact h

theorem sound_sweep {l : Ledger} (h : l.Sound) (now : Int) (threshold : Nat) :
    (l.sweep now threshold).1.Sound :=
  ⟨h.unique.sublist (List.filter_sublist.map _), fun e he => h.idle_iff e (List.mem_of_mem_filter he)⟩

/-! ## The view by filter -/

theorem find?_isSome_iff {l : Ledger} {f : String} :
    (l.find? f).isSome ↔ f ∈ l.entries.map (·.filter) := by
  simp [find?, List.find?_isSome]

theorem find?_eq_some_iff {l : Ledger} (h : l.Sound) {f : String} {e : Entry} :
    l.find? f = some e ↔ e ∈ l.entries ∧ e.filter = f := by
  constructor
  · intro hf
    exact ⟨List.mem_of_find?_eq_some hf, by simpa using List.find?_some hf⟩
  · rintro ⟨hmem, rfl⟩
    obtain ⟨d, hd⟩ := Option.isSome_iff_exists.1 (find?_isSome_iff.2 (List.mem_map_of_mem hmem))
    have hkey : d.filter = e.filter := by simpa using List.find?_some hd
    rw [hd, List.inj_on_of_nodup_map h.unique (List.mem_of_find?_eq_some hd) hmem hkey]

/-- The number of holders of a filter that is tracked is that of its entry. -/
theorem holders_of_find? {l : Ledger} {f : String} {e : Entry} (h : l.find? f = some e) :
    l.holders f = e.holders := by
  simp [holders, count?, h]

theorem holders_of_find?_none {l : Ledger} {f : String} (h : l.find? f = none) :
    l.holders f = 0 := by
  simp [holders, count?, h]

theorem find?_subscribe (l : Ledger) (filter f : String) :
    (l.subscribe filter).1.find? f =
      if filter = f then some ⟨f, l.holders f + 1, none⟩ else l.find? f := by
  rw [subscribe, find?_put]
  split <;> simp_all

/-- The end of a subscription that is not there changes nothing. -/
theorem unsubscribe_of_free {l : Ledger} {filter : String} (h : l.holders filter = 0) (now : Nat) :
    (l.unsubscribe now filter).1 = l := by
  unfold unsubscribe
  split
  · next e hfind => rw [if_neg (by rw [← holders_of_find? hfind, h]; decide)]
  · rfl

/-- A sweep leaves the entries that are not stale. -/
theorem find?_sweep {l : Ledger} (h : l.Sound) (now : Int) (threshold : Nat) (f : String) :
    (l.sweep now threshold).1.find? f = (l.find? f).filter (!·.isStale now threshold) := by
  ext e
  rw [find?_eq_some_iff (sound_sweep h now threshold), Option.filter_eq_some_iff,
    find?_eq_some_iff h]
  simp only [sweep, List.mem_filter]
  tauto

theorem holders_sweep {l : Ledger} (h : l.Sound) (now : Int) (threshold : Nat) (f : String) :
    (l.sweep now threshold).1.holders f = l.holders f := by
  simp only [holders, count?, find?_sweep h]
  cases l.find? f with
  | none => rfl
  | some e =>
    by_cases hs : e.isStale now threshold = true
    · simp [Option.filter, hs, Entry.holders_of_isStale hs]
    · simp [Option.filter, hs]

/-- An entry without a holder says since when. -/
theorem exists_idleSince {l : Ledger} (h : l.Sound) {f : String} {e : Entry}
    (hf : l.find? f = some e) (hfree : e.holders = 0) : ∃ since, e.idleSince = some since := by
  refine Option.ne_none_iff_exists'.1 fun hnone => ?_
  have := (h.idle_iff e ((find?_eq_some_iff h).1 hf).1).1 hnone
  omega

theorem holders_pos_iff {l : Ledger} (h : l.Sound) {f : String} :
    0 < l.holders f ↔ ∃ e ∈ l.entries, 0 < e.holders ∧ e.filter = f := by
  constructor
  · intro hheld
    cases hf : l.find? f with
    | none => rw [holders_of_find?_none hf] at hheld; exact absurd hheld (Nat.lt_irrefl 0)
    | some e =>
      obtain ⟨hmem, hfilter⟩ := (find?_eq_some_iff h).1 hf
      exact ⟨e, hmem, by rwa [holders_of_find? hf] at hheld, hfilter⟩
  · rintro ⟨e, hmem, hheld, rfl⟩
    rwa [holders_of_find? ((find?_eq_some_iff h).2 ⟨hmem, rfl⟩)]

theorem anyActive_iff {l : Ledger} (h : l.Sound) (test : String → Bool) :
    l.anyActive test = true ↔ ∃ f, 0 < l.holders f ∧ test f = true := by
  simp only [anyActive, List.any_eq_true, Bool.and_eq_true, decide_eq_true_eq, holders_pos_iff h]
  constructor
  · rintro ⟨e, hmem, hheld, htest⟩
    exact ⟨e.filter, ⟨e, hmem, hheld, rfl⟩, htest⟩
  · rintro ⟨_, ⟨e, hmem, hheld, rfl⟩, htest⟩
    exact ⟨e, hmem, hheld, htest⟩

/-- A list of entries without a repeated filter is as long as it has filters. -/
theorem length_eq_ncard {es : List Entry} (h : (es.map (·.filter)).Nodup) :
    es.length = {f | f ∈ es.map (·.filter)}.ncard := by
  rw [← List.coe_toFinset, Set.ncard_coe_finset, List.toFinset_card_of_nodup h, List.length_map]

theorem size_eq_ncard {l : Ledger} (h : l.Sound) : l.size = {f | (l.find? f).isSome}.ncard := by
  rw [size, length_eq_ncard h.unique]
  simp only [find?_isSome_iff]

theorem active_eq_ncard {l : Ledger} (h : l.Sound) : l.active = {f | 0 < l.holders f}.ncard := by
  rw [active, List.countP_eq_length_filter,
    length_eq_ncard (h.unique.sublist (List.filter_sublist.map _))]
  simp only [holders_pos_iff h, List.mem_map, List.mem_filter, decide_eq_true_eq, and_assoc]

end Ledger

end Audience
