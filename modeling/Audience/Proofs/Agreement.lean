import Audience.Proofs.Layering

/-!
# Strict and layered settings agree

Settings are read in two ways, each with conversions and defaults of its own:
`parse` reads a document alone, and `load` lays it over a table of defaults.
Where both read the same document, with bare keys and without placeholders,
`load` gives what `parse` gave, settings or fault (`load_of_parse`).

* `Extends`: what a strict conversion takes, the lenient one takes alike.
* `Laid`: what the fields of a section are once it lies over its defaults.
* `level_laid`, `broker_laid`, `cleanup_laid`, `settings_laid`: section by
  section the layered settings are the strict ones.

The exception is a moment in place of a whole section. To `parse` it is a
section with nothing in it, to `load` no section (`moment_section_differs`).
-/

namespace Audience.Settings

open Toml

/-! ## Conversions -/

/-- What the strict conversion takes, the lenient one takes alike; it is no table. -/
def Extends {α : Type} (lenient strict : Value → Option α) : Prop :=
  ∀ {v x}, strict v = some x → Solid v ∧ lenient v = some x

theorem extends_boolean : Extends Lenient.boolean Strict.boolean := by
  intro v x h
  unfold Strict.boolean at h
  split at h
  · exact ⟨solid_of_ne_table nofun, h⟩
  · cases h

theorem extends_size : Extends Lenient.size Strict.size := by
  intro v x h
  unfold Strict.size at h
  split at h
  · exact ⟨solid_of_ne_table nofun, h⟩
  · cases h

theorem extends_text : Extends Lenient.text Strict.text := by
  intro v x h
  unfold Strict.text at h
  split at h
  · exact ⟨solid_of_ne_table nofun, h⟩
  · cases h

theorem extends_span : Extends Lenient.conversions.span Strict.conversions.span := by
  intro v x h
  obtain ⟨s, htext, hspan⟩ := Option.bind_eq_some_iff.1 h
  obtain ⟨hsolid, hlenient⟩ := extends_text htext
  exact ⟨hsolid, Option.bind_eq_some_iff.2 ⟨s, hlenient, hspan⟩⟩

/-! ## Sections -/

/-- A lookup is another laid over defaults: what the other gives and is no table it gives too, and
for what the other leaves out it gives nothing or the default. -/
structure Laid (lookup defaults laid : String → Option Value) : Prop where
  given : ∀ {name v}, lookup name = some v → Solid v → laid name = some v
  left : ∀ {name}, lookup name = none → laid name = none ∨ laid name = defaults name

/-- A section that is a table is merged into its defaults; one that is a list takes their place. -/
theorem laid_of_record {names : List String} {v base : Value} {lookup : String → Option Value}
    (keyed : v.Keyed) (dateless : ∀ s, v ≠ .moment s)
    (h : Strict.record names v = some lookup) :
    ∃ laid, fields names (merge v base) = some laid ∧
      Laid lookup (Entries.get? (entriesOf base)) laid := by
  cases v with
  | table origin entries =>
    cases h
    rw [merge_table]
    refine ⟨_, rfl, fun {name v} hget hsolid => ?_, fun {name} hget => .inr ?_⟩
    · rw [get?_mergeEntries (Value.keyed_table_iff.1 keyed).distinct, hget, overlay, hsolid]
    · rw [get?_mergeEntries (Value.keyed_table_iff.1 keyed).distinct, hget, overlay]
  | list grows items =>
    have hsolid : Solid (.list grows items) := solid_of_ne_table fun _ _ => Value.noConfusion
    rw [hsolid base]
    exact ⟨lookup, h, fun hget _ => hget, .inl⟩
  | moment s => exact absurd rfl (dateless s)
  | _ => cases h

theorem field_laid {α : Type} {lookup defaults laid : String → Option Value}
    {lenient strict : Value → Option α} {name : String} {fallback x : α}
    (hlaid : Laid lookup defaults laid) (hextends : Extends lenient strict)
    (hdefault : (defaults name).bind lenient = some fallback)
    (h : field lookup strict name fallback = some x) :
    field laid lenient name fallback = some x := by
  cases hget : lookup name with
  | some v =>
    rw [field_of_some hget] at h
    obtain ⟨hsolid, hlenient⟩ := hextends h
    rw [field_of_some (hlaid.given hget hsolid), hlenient]
  | none =>
    rw [field_of_none hget] at h
    rcases hlaid.left hget with hnone | hsame
    · rw [field_of_none hnone, h]
    · obtain ⟨w, hw, hconverted⟩ := Option.bind_eq_some_iff.1 hdefault
      rw [field_of_some (hsame.trans hw), hconverted, h]

/-- The defaults of a section. -/
def defaultSection (name : String) : Value := ((entriesOf defaults).get? name).getD blank

theorem level_laid {v : Value} {level : String} (keyed : v.Keyed) (dateless : ∀ s, v ≠ .moment s)
    (h : Strict.conversions.level v = some level) :
    Lenient.conversions.level (merge v (defaultSection "log")) = some level := by
  obtain ⟨lookup, hrecord, hlevel⟩ := Option.bind_eq_some_iff.1 h
  obtain ⟨laid, hfields, hlaid⟩ := laid_of_record keyed dateless hrecord
  exact Option.bind_eq_some_iff.2 ⟨laid, hfields, field_laid hlaid extends_text rfl hlevel⟩

theorem broker_laid {v : Value} {o : ListenOptions} (keyed : v.Keyed)
    (dateless : ∀ s, v ≠ .moment s) (h : Strict.conversions.broker v = some o) :
    Lenient.conversions.broker (merge v (defaultSection "broker")) = some o := by
  simp only [Conversions.broker, Option.bind_eq_bind, Option.bind_eq_some_iff, Option.pure_def,
    Option.some.injEq] at h ⊢
  obtain ⟨lookup, hrecord, enabled, henabled, address, haddress, tcp, htcp, tcpAddress, htcpAddress,
    size, hsize, block, hblock, rfl⟩ := h
  obtain ⟨laid, hfields, hlaid⟩ := laid_of_record keyed dateless hrecord
  exact ⟨laid, hfields,
    enabled, field_laid hlaid extends_boolean rfl henabled,
    address, field_laid hlaid extends_text rfl haddress,
    tcp, field_laid hlaid extends_boolean rfl htcp,
    tcpAddress, field_laid hlaid extends_text rfl htcpAddress,
    size, field_laid hlaid extends_size rfl hsize,
    block, field_laid hlaid extends_size rfl hblock, rfl⟩

theorem cleanup_laid {v : Value} {o : CleanupOptions} (keyed : v.Keyed)
    (dateless : ∀ s, v ≠ .moment s) (h : Strict.conversions.cleanup v = some o) :
    Lenient.conversions.cleanup (merge v (defaultSection "topics")) = some o := by
  simp only [Conversions.cleanup, Option.bind_eq_bind, Option.bind_eq_some_iff, Option.pure_def,
    Option.some.injEq] at h ⊢
  obtain ⟨lookup, hrecord, interval, hinterval, threshold, hthreshold, rfl⟩ := h
  obtain ⟨laid, hfields, hlaid⟩ := laid_of_record keyed dateless hrecord
  exact ⟨laid, hfields,
    interval, field_laid hlaid extends_span rfl hinterval,
    threshold, field_laid hlaid extends_span rfl hthreshold, rfl⟩

/-- A section that is given agrees if it agrees once laid over its defaults, and one that is left
out is its defaults. -/
theorem section_laid {α : Type} {entries : Entries} {lenient strict : Value → Option α}
    {name : String} {fallback x : α} (keyed : entries.Keyed)
    (given : ∀ {v}, entries.get? name = some v → strict v = some x →
      lenient (merge v (defaultSection name)) = some x)
    (hdefault : ((entriesOf defaults).get? name).bind lenient = some fallback)
    (h : field entries.get? strict name fallback = some x) :
    field (mergeEntries entries (entriesOf defaults)).get? lenient name fallback = some x := by
  have hmerged := get?_mergeEntries keyed.distinct (entriesOf defaults) name
  cases hget : entries.get? name with
  | some v =>
    rw [field_of_some hget] at h
    rw [hget, overlay] at hmerged
    rw [field_of_some hmerged]
    exact given hget h
  | none =>
    rw [field_of_none hget] at h
    obtain ⟨w, hw, hconverted⟩ := Option.bind_eq_some_iff.1 hdefault
    rw [hget, overlay, hw] at hmerged
    rw [field_of_some hmerged, hconverted, h]

/-- No section is given as a moment. -/
def Dateless (entries : Entries) : Prop :=
  ∀ name ∈ ["log", "broker", "topics"], ∀ s, entries.get? name ≠ some (.moment s)

theorem settings_laid {entries : Entries} {s : Settings} (keyed : entries.Keyed)
    (bare : ∀ e ∈ entries, isBare e.1 = true) (dateless : Dateless entries)
    (h : Strict.conversions.settings entries = some s) :
    Lenient.conversions.settings (entriesOf (addLayer entries defaults)) = some s := by
  rw [entriesOf_addLayer bare]
  simp only [Conversions.settings, Option.bind_eq_bind, Option.bind_eq_some_iff, Option.pure_def,
    Option.some.injEq] at h ⊢
  obtain ⟨level, hlevel, broker, hbroker, cleanup, hcleanup, rfl⟩ := h
  refine ⟨level, section_laid keyed (fun hget => ?_) rfl hlevel,
    broker, section_laid keyed (fun hget => ?_) rfl hbroker,
    cleanup, section_laid keyed (fun hget => ?_) rfl hcleanup, rfl⟩
  · exact level_laid (keyed.of_get? hget) fun s hs => dateless "log" (by simp) s (hs ▸ hget)
  · exact broker_laid (keyed.of_get? hget) fun s hs => dateless "broker" (by simp) s (hs ▸ hget)
  · exact cleanup_laid (keyed.of_get? hget) fun s hs => dateless "topics" (by simp) s (hs ▸ hget)

/-! ## Whole documents -/

/-- A file that holds a text is loaded as that text. -/
theorem load_toUTF8 (env : Environment) (content : String) :
    load env (.bytes content.toUTF8) = ofText env content := by
  have hread : String.fromUTF8? content.toUTF8 = some content := dif_pos content.isValidUTF8
  rw [load, hread]

theorem fileLayer?_of_plain (env : Environment) {content : String}
    (plain : ¬ ['$', '{'] <:+: content.toList) :
    fileLayer? env content = (read? .second content).bind unwrapDocument? := by
  rw [fileLayer?, expand_eq_self _ plain, String.ofList_toList]

theorem layered_eq_checked {entries : Entries} {s : Settings} (keyed : entries.Keyed)
    (bare : ∀ e ∈ entries, isBare e.1 = true) (dateless : Dateless entries)
    (h : Strict.conversions.settings entries = some s) : layered [] entries = checked s := by
  have hlenient : Lenient.conversions.settings
      (entriesOf (addLayer (environmentLayer []) (addLayer entries defaults))) = some s :=
    settings_laid keyed bare dateless h
  simp only [layered, hlenient]

/-- A document without placeholders that both dialects read alike, with bare keys and no section
given as a moment, is loaded without an environment as the settings that it parses as, and with the
fault that it parses with. For what a document leaves out the two have the same defaults. -/
theorem load_of_parse {content : String} {entries : Entries}
    (read : read? .first content = some entries)
    (same : (read? .second content).bind unwrapDocument? = some entries)
    (plain : ¬ ['$', '{'] <:+: content.toList) (bare : ∀ e ∈ entries, isBare e.1 = true)
    (dateless : Dateless entries) :
    (∀ s, parse content = .ok s → load [] (.bytes content.toUTF8) = .ok s) ∧
      (∀ fault, parse content = .error (.invalid fault) →
        load [] (.bytes content.toUTF8) = .error (.invalid fault)) ∧
      Lenient.conversions.settings (entriesOf defaults) = some {} := by
  have hload : load [] (.bytes content.toUTF8) = layered [] entries := by
    rw [load_toUTF8, ofText, fileLayer?_of_plain [] plain, same]
  have hagree : parse content ≠ .error .malformed →
      load [] (.bytes content.toUTF8) = parse content := by
    rw [hload, parse, read, Option.bind_some]
    cases hstrict : Strict.conversions.settings entries with
    | none => exact fun hmalformed => absurd rfl hmalformed
    | some s => exact fun _ => layered_eq_checked (keyed_of_read? read) bare dateless hstrict
  refine ⟨fun s h => ?_, fun fault h => ?_, rfl⟩
  · exact (hagree (h ▸ nofun)).trans h
  · exact (hagree (h ▸ nofun)).trans h

/-- A document that gives one listener and one span, and leaves out everything else. -/
theorem load_of_partial_document :
    let content := "topics.cleanup_interval = \"30s\"\n[broker]\ntcp_enabled = true\n"
    let entries : Entries := [
      ("topics", .table .dotted [("cleanup_interval", .text "30s")]),
      ("broker", .table .header [("tcp_enabled", .boolean true)])]
    read? .first content = some entries ∧
      (read? .second content).bind unwrapDocument? = some entries ∧
      load [] (.bytes content.toUTF8) =
        .ok { broker := { tcpEnabled := true }, cleanup := { interval := 30 * 1000000000 } } := by
  intro content entries
  have hfirst : read? .first content = some entries := by unfold content entries; rfl
  have hsecond : read? .second content = some entries := by unfold content entries; rfl
  have hunwrap : unwrapDocument? entries = some entries := by unfold entries; rfl
  have hsame : (read? .second content).bind unwrapDocument? = some entries :=
    Option.bind_eq_some_iff.2 ⟨entries, hsecond, hunwrap⟩
  have hdateless : Dateless entries := by
    intro name hname s
    simp only [List.mem_cons, List.not_mem_nil, or_false] at hname
    rcases hname with rfl | rfl | rfl <;> simp [entries, Entries.get?_cons]
  have hparse : parse content =
      .ok { broker := { tcpEnabled := true }, cleanup := { interval := 30 * 1000000000 } } := by
    rw [parse, hfirst]
    rfl
  exact ⟨hfirst, hsame,
    (load_of_parse hfirst hsame (by decide +kernel) (by decide +kernel) hdateless).1 _ hparse⟩

/-- A moment in place of a section is a section with nothing in it to one reader, and no section to
the other. -/
theorem moment_section_differs :
    let content := "log = 1979-05-27"
    let entries : Entries := [("log", .moment "1979-05-27")]
    read? .first content = some entries ∧
      (read? .second content).bind unwrapDocument? = some entries ∧
      ¬ ['$', '{'] <:+: content.toList ∧ (∀ e ∈ entries, isBare e.1 = true) ∧
      parse content = .ok {} ∧ load [] (.bytes content.toUTF8) = .error .unusable := by
  intro content entries
  have hfirst : read? .first content = some entries := by unfold content entries; rfl
  have hsecond : read? .second content = some entries := by unfold content entries; rfl
  have hunwrap : unwrapDocument? entries = some entries := by unfold entries; rfl
  have hsame : (read? .second content).bind unwrapDocument? = some entries :=
    Option.bind_eq_some_iff.2 ⟨entries, hsecond, hunwrap⟩
  have hplain : ¬ ['$', '{'] <:+: content.toList := by decide +kernel
  refine ⟨hfirst, hsame, hplain, by decide +kernel, ?_, ?_⟩
  · rw [parse, hfirst]
    rfl
  · rw [load_toUTF8, ofText, fileLayer?_of_plain [] hplain, hsame]
    rfl

end Audience.Settings
