import Audience.Toml.Document
import Audience.Toml.Wrapped

/-!
# Tables of a document

A table is looked at by key: `get?_put`, `get?_replace` and `get?_append` say
what a key has after a change. A value is `Keyed` if no table in it has a key
twice. Whatever a document adds to its tables keeps them so (`keyed_modifyAt`,
`keyed_insertKey`, `keyed_value?`), and therefore every document that is read
is keyed (`keyed_of_read?`), also once its wrapped moments are taken out
(`keyed_of_unwrapDocument?`).
-/

namespace Audience.Toml

namespace Entries

variable {entries : Entries} {key k : String} {v w : Value}

/-! ## Tables by key -/

@[simp] theorem get?_nil (k : String) : get? [] k = none := rfl

theorem get?_cons (entry : String × Value) (entries : Entries) (k : String) :
    get? (entry :: entries) k = if entry.1 = k then some entry.2 else get? entries k := by
  obtain ⟨name, v⟩ := entry
  rw [get?, List.lookup_cons]
  by_cases h : name = k
  · simp [h]
  · simp [get?, h, beq_eq_false_iff_ne.2 (Ne.symm h)]

theorem get?_append (entries more : Entries) (k : String) :
    get? (entries ++ more) k = (get? entries k).or (get? more k) := by
  induction entries with
  | nil => rfl
  | cons entry entries ih =>
    rw [List.cons_append, get?_cons, get?_cons, ih]
    split <;> rfl

theorem get?_replace (entries : Entries) (key : String) (v : Value) (k : String) :
    (entries.replace key v).get? k =
      if key = k then (entries.get? k).map fun _ => v else entries.get? k := by
  induction entries with
  | nil => simp [replace]
  | cons entry entries ih =>
    obtain ⟨name, old⟩ := entry
    rw [replace, List.map_cons, ← replace, get?_cons, get?_cons, ih]
    by_cases hname : name = key <;> by_cases hk : key = k <;> by_cases hnk : name = k <;>
      simp_all

theorem get?_put (entries : Entries) (key : String) (v : Value) (k : String) :
    (entries.put key v).get? k = if key = k then some v else entries.get? k := by
  rw [put]
  split
  · next h =>
    rw [get?_replace]
    obtain ⟨old, hold⟩ := Option.isSome_iff_exists.1 h
    split
    · next hk => rw [← hk, hold, Option.map_some]
    · rfl
  · next h =>
    rw [Option.not_isSome_iff_eq_none] at h
    rw [get?_append, get?_cons]
    split
    · next hk => rw [← hk, h, Option.none_or]
    · exact Option.or_none

theorem mem_of_get? (h : entries.get? k = some v) : (k, v) ∈ entries := by
  induction entries with
  | nil => cases h
  | cons entry entries ih =>
    rw [get?_cons] at h
    split at h
    · next hk =>
      cases h
      exact hk ▸ List.mem_cons_self
    · exact List.mem_cons_of_mem _ (ih h)

theorem get?_eq_none_iff : entries.get? k = none ↔ k ∉ entries.map Prod.fst := by
  induction entries with
  | nil => simp
  | cons entry entries ih =>
    rw [get?_cons, List.map_cons, List.mem_cons, not_or, ← ih]
    by_cases h : entry.1 = k
    · simp [h]
    · simp [h, Ne.symm h]

theorem keys_replace (entries : Entries) (key : String) (v : Value) :
    (entries.replace key v).map Prod.fst = entries.map Prod.fst := by
  rw [replace, List.map_map]
  refine List.map_congr_left fun entry _ => ?_
  obtain ⟨name, old⟩ := entry
  by_cases h : name = key <;> simp [h]

end Entries

/-! ## Keyed values -/

/-- No table in the value has a key twice. -/
inductive Value.Keyed : Value → Prop where
  | text (s : String) : Keyed (.text s)
  | integer (n : Int) : Keyed (.integer n)
  | float (x : Binary64) : Keyed (.float x)
  | boolean (b : Bool) : Keyed (.boolean b)
  | moment (s : String) : Keyed (.moment s)
  | list (grows : Bool) {items : List Value} (values : ∀ v ∈ items, Keyed v) :
    Keyed (.list grows items)
  | table (origin : Origin) {entries : List (String × Value)}
    (distinct : (entries.map Prod.fst).Nodup) (values : ∀ e ∈ entries, Keyed e.2) :
    Keyed (.table origin entries)

/-- No table among the entries has a key twice, and neither have the entries. -/
structure Entries.Keyed (entries : Entries) : Prop where
  distinct : (entries.map Prod.fst).Nodup
  values : ∀ e ∈ entries, e.2.Keyed

theorem Value.keyed_table_iff {origin : Origin} {entries : Entries} :
    (Value.table origin entries).Keyed ↔ entries.Keyed :=
  ⟨fun | .table _ distinct values => ⟨distinct, values⟩, fun h => .table origin h.distinct h.values⟩

namespace Entries

variable {entries : Entries} {key : String} {v : Value}

theorem keyed_nil : Keyed [] := ⟨List.nodup_nil, fun _ h => absurd h List.not_mem_nil⟩

theorem Keyed.of_get? (h : entries.Keyed) (hget : entries.get? key = some v) : v.Keyed :=
  h.values _ (mem_of_get? hget)

theorem Keyed.append (h : entries.Keyed) (hnew : entries.get? key = none) (hv : v.Keyed) :
    Keyed (entries ++ [(key, v)]) := by
  refine ⟨?_, fun e he => ?_⟩
  · rw [List.map_append]
    refine List.nodup_append.2 ⟨h.distinct, List.pairwise_singleton _ _, fun name hname other hother => ?_⟩
    rw [List.mem_singleton.1 hother]
    exact ne_of_mem_of_not_mem hname (get?_eq_none_iff.1 hnew)
  · rcases List.mem_append.1 he with he | he
    · exact h.values e he
    · rw [List.mem_singleton.1 he]
      exact hv

theorem Keyed.replace (h : entries.Keyed) (hv : v.Keyed) : (entries.replace key v).Keyed := by
  refine ⟨keys_replace entries key v ▸ h.distinct, fun e he => ?_⟩
  obtain ⟨⟨name, old⟩, hmem, rfl⟩ := List.mem_map.1 he
  by_cases hname : name = key
  · simpa [hname] using hv
  · simpa [hname] using h.values _ hmem

/-- A table under a key may be changed for a keyed one. -/
theorem Keyed.replace_table (h : entries.Keyed) {sub : Entries} (origin : Origin)
    (hsub : sub.Keyed) : (entries.replace key (.table origin sub)).Keyed :=
  h.replace (Value.keyed_table_iff.2 hsub)

/-- The last table of a list under a key may be changed for a keyed one. -/
theorem Keyed.replace_last (h : entries.Keyed) {grows : Bool} {items : List Value} {sub : Entries}
    (hget : entries.get? key = some (.list grows items)) (origin : Origin) (hsub : sub.Keyed) :
    (entries.replace key (.list grows (items.dropLast ++ [.table origin sub]))).Keyed := by
  cases h.of_get? hget with
  | list _ values =>
    refine h.replace (.list grows fun v hv => ?_)
    rcases List.mem_append.1 hv with hv | hv
    · exact values v (List.dropLast_subset items hv)
    · rw [List.mem_singleton.1 hv]
      exact Value.keyed_table_iff.2 hsub

theorem Keyed.of_get?_table (h : entries.Keyed) {origin : Origin} {sub : Entries}
    (hget : entries.get? key = some (.table origin sub)) : sub.Keyed :=
  Value.keyed_table_iff.1 (h.of_get? hget)

theorem Keyed.of_getLast? (h : entries.Keyed) {grows : Bool} {items : List Value} {origin : Origin}
    {sub : Entries} (hget : entries.get? key = some (.list grows items))
    (hlast : items.getLast? = some (.table origin sub)) : sub.Keyed := by
  cases h.of_get? hget with
  | list _ values => exact Value.keyed_table_iff.1 (values _ (List.mem_of_getLast? hlast))

end Entries

/-! ## Adding to tables -/

variable {d : Dialect} {v : Value} {entries out : Entries}

theorem keyed_insertDotted (key : String) (hv : v.Keyed) {path : List String}
    (h : entries.Keyed) (hout : insertDotted d key v path entries = some out) : out.Keyed := by
  induction path generalizing entries out with
  | nil =>
    rw [insertDotted] at hout
    split at hout
    · cases hout
    · next hnew =>
      cases hout
      exact h.append (Option.not_isSome_iff_eq_none.1 hnew) hv
  | cons step path ih =>
    rw [insertDotted] at hout
    split at hout
    · next hnew =>
      obtain ⟨sub, hsub, rfl⟩ := Option.map_eq_some_iff.1 hout
      exact h.append hnew (Value.keyed_table_iff.2 (ih Entries.keyed_nil hsub))
    · next origin old hget =>
      have hold := h.of_get?_table hget
      split at hout
      · obtain ⟨sub, hsub, rfl⟩ := Option.map_eq_some_iff.1 hout
        exact h.replace_table origin (ih hold hsub)
      · split at hout
        · obtain ⟨sub, hsub, rfl⟩ := Option.map_eq_some_iff.1 hout
          exact h.replace_table .dotted (ih hold hsub)
        · cases hout
    · next items hget =>
      split at hout
      · next origin old hlast =>
        obtain ⟨sub, hsub, rfl⟩ := Option.map_eq_some_iff.1 hout
        exact h.replace_last hget origin (ih (h.of_getLast? hget hlast) hsub)
      · cases hout
    · cases hout

theorem keyed_insertKey {path : List String} (hv : v.Keyed) (h : entries.Keyed)
    (hout : insertKey d path v entries = some out) : out.Keyed := by
  rw [insertKey] at hout
  split at hout
  · exact keyed_insertDotted _ hv h hout
  · cases hout

/-- A change somewhere below keeps the tables keyed if it does so where it happens. -/
theorem keyed_modifyAt {change : Entries → Option Entries}
    (hchange : ∀ {entries out}, entries.Keyed → change entries = some out → out.Keyed)
    {path : List String} (h : entries.Keyed) (hout : modifyAt change path entries = some out) :
    out.Keyed := by
  induction path generalizing entries out with
  | nil => exact hchange h hout
  | cons step path ih =>
    rw [modifyAt] at hout
    split at hout
    · next hnew =>
      obtain ⟨sub, hsub, rfl⟩ := Option.map_eq_some_iff.1 hout
      exact h.append hnew (Value.keyed_table_iff.2 (ih Entries.keyed_nil hsub))
    · next origin old hget =>
      split at hout
      · cases hout
      · obtain ⟨sub, hsub, rfl⟩ := Option.map_eq_some_iff.1 hout
        exact h.replace_table origin (ih (h.of_get?_table hget) hsub)
    · next items hget =>
      split at hout
      · next origin old hlast =>
        obtain ⟨sub, hsub, rfl⟩ := Option.map_eq_some_iff.1 hout
        exact h.replace_last hget origin (ih (h.of_getLast? hget hlast) hsub)
      · cases hout
    · cases hout

theorem keyed_openTable {key : String} (h : entries.Keyed)
    (hout : openTable key entries = some out) : out.Keyed := by
  rw [openTable] at hout
  split at hout
  · next hnew =>
    cases hout
    exact h.append hnew (Value.keyed_table_iff.2 Entries.keyed_nil)
  · next hget =>
    cases hout
    exact h.replace_table .header (h.of_get?_table hget)
  · cases hout

theorem keyed_openItem {key : String} (h : entries.Keyed)
    (hout : openItem key entries = some out) : out.Keyed := by
  have hitem : (Value.table .header []).Keyed := Value.keyed_table_iff.2 Entries.keyed_nil
  rw [openItem] at hout
  split at hout
  · next hnew =>
    cases hout
    exact h.append hnew (.list true fun v hv => List.mem_singleton.1 hv ▸ hitem)
  · next items hget =>
    cases hout
    cases h.of_get? hget with
    | list _ values =>
      refine h.replace (.list true fun v hv => ?_)
      rcases List.mem_append.1 hv with hv | hv
      · exact values v hv
      · exact List.mem_singleton.1 hv ▸ hitem
  · cases hout

/-! ## Readers -/

/-- A reader whose values are keyed. -/
def ReadsKeyed (value : Reader Value) : Prop :=
  ∀ {cs v rest}, value cs = some (v, rest) → v.Keyed

theorem keyed_scalarValue? {cs : List Char} (h : scalarValue? d cs = some v) : v.Keyed := by
  unfold scalarValue? at h
  split at h
  · cases h
    exact .boolean true
  · split at h
    · cases h
      exact .boolean false
    · split at h
      · cases h
        exact .integer _
      · split at h
        · cases h
          exact .float _
        · obtain ⟨s, -, rfl⟩ := Option.map_eq_some_iff.1 h
          exact .moment s

theorem readsKeyed_scalar? : ReadsKeyed (scalar? d) := by
  intro cs v rest h
  obtain ⟨w, hw, hpair⟩ := Option.map_eq_some_iff.1 h
  cases hpair
  exact keyed_scalarValue? hw

theorem keyed_of_listItems {value : Reader Value} (hvalue : ReadsKeyed value) {steps : Nat}
    {cs rest : List Char} {vs : List Value} (h : listItems value steps cs = some (vs, rest)) :
    ∀ v ∈ vs, v.Keyed := by
  induction steps generalizing cs vs rest with
  | zero => cases h
  | succ steps ih =>
    rw [listItems] at h
    split at h
    · cases h
      exact fun _ hv => absurd hv List.not_mem_nil
    · split at h
      · cases h
      · next hread =>
        split at h
        · obtain ⟨⟨more, rest⟩, hmore, hpair⟩ := Option.map_eq_some_iff.1 h
          cases hpair
          exact List.forall_mem_cons.2 ⟨hvalue hread, ih hmore⟩
        · cases h
          exact List.forall_mem_singleton.2 (hvalue hread)
        · cases h

/-- The value that a key is given was read as one. -/
theorem keyed_of_keyValue? {skip : List Char → List Char} {value : Reader Value}
    (hvalue : ReadsKeyed value) {cs rest : List Char} {path : List String}
    (h : keyValue? d skip value cs = some ((path, v), rest)) : v.Keyed := by
  simp only [keyValue?, Option.bind_eq_bind, Option.bind_eq_some_iff] at h
  obtain ⟨_, -, h⟩ := h
  split at h
  · rw [Option.bind_eq_some_iff] at h
    obtain ⟨_, hread, hpair⟩ := h
    cases hpair
    exact hvalue hread
  · cases h

theorem keyed_of_inlineEntries {value : Reader Value} (hvalue : ReadsKeyed value) {steps : Nat}
    {cs rest : List Char} (h : entries.Keyed)
    (hread : inlineEntries d value steps entries cs = some (out, rest)) : out.Keyed := by
  induction steps generalizing entries cs with
  | zero => cases hread
  | succ steps ih =>
    rw [inlineEntries] at hread
    split at hread
    · cases hread
    · next hkey =>
      split at hread
      · cases hread
      · next added hinsert =>
        have hadded : added.Keyed := keyed_insertKey (keyed_of_keyValue? hvalue hkey) h hinsert
        split at hread
        · split at hread
          · cases hread
            exact hadded
          · exact ih hadded hread
        · cases hread
          exact hadded
        · cases hread

/-- A value is keyed if those are that may stand in it. -/
theorem keyed_of_value? {room : Nat} (inner : ∀ below < room, ReadsKeyed (value? d below))
    {cs rest : List Char} (h : value? d room cs = some (v, rest)) : v.Keyed := by
  fun_induction value? d room cs generalizing v rest with
  | case1 | case2 | case3 => cases h
  | case4 room cs =>
    obtain ⟨⟨vs, more⟩, hitems, hpair⟩ := Option.map_eq_some_iff.1 h
    cases hpair
    exact .list false (keyed_of_listItems (inner room (Nat.lt_succ_self room)) hitems)
  | case5 =>
    cases h
    exact Value.keyed_table_iff.2 Entries.keyed_nil
  | case6 room cs =>
    obtain ⟨⟨entries, more⟩, hentries, hpair⟩ := Option.map_eq_some_iff.1 h
    cases hpair
    exact Value.keyed_table_iff.2
      (keyed_of_inlineEntries (inner room (Nat.lt_succ_self room)) Entries.keyed_nil hentries)
  | case7 | case8 =>
    obtain ⟨⟨s, more⟩, -, hpair⟩ := Option.map_eq_some_iff.1 h
    cases hpair
    exact .text s
  | case9 => exact readsKeyed_scalar? h

theorem readsKeyed_value? (room : Nat) : ReadsKeyed (value? d room) := by
  induction room using Nat.strongRecOn with
  | ind room ih => exact fun h => keyed_of_value? ih h

/-! ## Documents -/

variable {draft next : Draft} {cs rest : List Char}

theorem keyed_of_header? (h : draft.root.Keyed) (hread : header? d draft cs = some (next, rest)) :
    next.root.Keyed := by
  simp only [header?, Option.bind_eq_bind, Option.bind_eq_some_iff] at hread
  obtain ⟨_, -, key, -, _, -, root, hroot, hpair⟩ := hread
  cases hpair
  exact keyed_modifyAt keyed_openTable h hroot

theorem keyed_of_itemHeader? (h : draft.root.Keyed)
    (hread : itemHeader? d draft cs = some (next, rest)) : next.root.Keyed := by
  simp only [itemHeader?, Option.bind_eq_bind, Option.bind_eq_some_iff] at hread
  obtain ⟨_, -, key, -, _, -, _, -, root, hroot, hpair⟩ := hread
  cases hpair
  exact keyed_modifyAt keyed_openItem h hroot

theorem keyed_of_assignment? (h : draft.root.Keyed)
    (hread : assignment? d draft cs = some (next, rest)) : next.root.Keyed := by
  simp only [assignment?, Option.bind_eq_bind, Option.bind_eq_some_iff] at hread
  obtain ⟨⟨⟨path, v⟩, _⟩, hkey, root, hroot, hpair⟩ := hread
  cases hpair
  exact keyed_modifyAt (keyed_insertKey (keyed_of_keyValue? (readsKeyed_value? _) hkey)) h hroot

theorem keyed_of_line? (h : draft.root.Keyed) (hread : line? d draft cs = some (next, rest)) :
    next.root.Keyed := by
  unfold line? at hread
  split at hread
  · cases hread
    exact h
  · exact keyed_of_itemHeader? h hread
  · exact keyed_of_header? h hread
  · split at hread
    · cases hread
      exact h
    · exact keyed_of_assignment? h hread

theorem keyed_of_lines? {steps : Nat} (h : draft.root.Keyed)
    (hread : lines? d steps draft cs = some out) : out.Keyed := by
  fun_induction lines? d steps draft cs with
  | case1 =>
    cases hread
    exact h
  | case2 | case3 | case4 => cases hread
  | case5 _ _ _ _ _ _ hline _ _ ih => exact ih (keyed_of_line? h hline) hread

/-- No table of a document has a key twice. -/
theorem keyed_of_read? {s : String} (h : read? d s = some out) : out.Keyed :=
  keyed_of_lines? Entries.keyed_nil h

/-! ## Wrapped moments -/

mutual

theorem keyed_of_unwrap? {v w : Value} (hv : v.Keyed) (h : unwrap? v = some w) : w.Keyed := by
  match v, hv with
  | .text _, hv | .integer _, hv | .float _, hv | .boolean _, hv | .moment _, hv =>
    cases h
    exact hv
  | .list grows items, .list _ values =>
    obtain ⟨out, hout, rfl⟩ := Option.map_eq_some_iff.1 h
    exact .list grows (keyed_of_unwrapItems? values hout)
  | .table origin entries, .table _ distinct values =>
    rw [unwrap?] at h
    split at h
    · next text _ =>
      cases text with
      | text s =>
        obtain ⟨moment, -, rfl⟩ := Option.map_eq_some_iff.1 h
        exact .moment moment
      | _ => cases h
    · obtain ⟨out, hout, rfl⟩ := Option.map_eq_some_iff.1 h
      obtain ⟨hkeys, hvalues⟩ := keyed_of_unwrapEntries? values hout
      exact .table origin (hkeys ▸ distinct) hvalues

theorem keyed_of_unwrapItems? {items out : List Value} (values : ∀ v ∈ items, v.Keyed)
    (h : unwrapItems? items = some out) : ∀ v ∈ out, v.Keyed := by
  match items with
  | [] =>
    cases h
    exact values
  | v :: items =>
    obtain ⟨hv, hitems⟩ := List.forall_mem_cons.1 values
    rw [unwrapItems?] at h
    split at h
    · next hfirst hrest =>
      cases h
      exact List.forall_mem_cons.2 ⟨keyed_of_unwrap? hv hfirst, keyed_of_unwrapItems? hitems hrest⟩
    · cases h

/-- The keys stay what they are. -/
theorem keyed_of_unwrapEntries? {entries out : List (String × Value)}
    (values : ∀ e ∈ entries, e.2.Keyed) (h : unwrapEntries? entries = some out) :
    out.map Prod.fst = entries.map Prod.fst ∧ ∀ e ∈ out, e.2.Keyed := by
  match entries with
  | [] =>
    cases h
    exact ⟨rfl, values⟩
  | (key, v) :: entries =>
    obtain ⟨hv, hentries⟩ := List.forall_mem_cons.1 values
    rw [unwrapEntries?] at h
    split at h
    · next hfirst hrest =>
      cases h
      obtain ⟨hkeys, hvalues⟩ := keyed_of_unwrapEntries? hentries hrest
      exact ⟨congrArg (key :: ·) hkeys,
        List.forall_mem_cons.2 ⟨keyed_of_unwrap? hv hfirst, hvalues⟩⟩
    · cases h

end

/-- A document whose wrapped moments are taken out has no key twice in a table, as before. -/
theorem keyed_of_unwrapDocument? (h : entries.Keyed) (hout : unwrapDocument? entries = some out) :
    out.Keyed := by
  unfold unwrapDocument? at hout
  split at hout
  · cases hout
  · obtain ⟨hkeys, hvalues⟩ := keyed_of_unwrapEntries? h.values hout
    exact ⟨hkeys ▸ h.distinct, hvalues⟩

end Audience.Toml
