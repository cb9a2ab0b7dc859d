import Audience.Proofs.Paths

/-!
# Precedence of layers

Settings are loaded from defaults, a file over them and the environment over
both. Each of the nine is a `Setting` with a dotted key of its own, and is read
by its own conversion from what the uppermost layer gives that says anything of
it (`Setting.given?`); with no layer that does it has its default
(`Setting.choose`).

* `Setting.convert_merge`: a value of a file is converted as it stands there,
  although it is merged into the defaults.
* `settings_eq_some_iff`: sections that are tables are read setting by setting.
* `section_addLayer_defaults`, `Orderly.valueAt?_addLayer`: what a file and an
  environment change at the path of a setting.
* `choose_valueAt?`: what the layers leave at the path of a setting is read as
  what the uppermost of them gives.
* `load_eq_ok_iff` puts them together for files and environments that are
  `Regular`: tables for sections, and variables that spell settings or stand
  apart from them.
-/

namespace Audience.Settings

open Toml

/-- A single one of the settings. -/
inductive Setting where
  | level
  | websocketEnabled
  | websocketAddress
  | tcpEnabled
  | tcpAddress
  | bufferSize
  | bufferBlockSize
  | interval
  | threshold
deriving DecidableEq, Repr

namespace Setting

/-- The section that the setting belongs to. -/
def group : Setting → String
  | .level => "log"
  | .interval | .threshold => "topics"
  | _ => "broker"

/-- The key of the setting in its section. -/
def name : Setting → String
  | .level => "level"
  | .websocketEnabled => "websocket_enabled"
  | .websocketAddress => "websocket_bind_address"
  | .tcpEnabled => "tcp_enabled"
  | .tcpAddress => "tcp_bind_address"
  | .bufferSize => "buffer_size"
  | .bufferBlockSize => "buffer_block_size"
  | .interval => "cleanup_interval"
  | .threshold => "cleanup_threshold"

def path (p : Setting) : List String := [p.group, p.name]

/-- The dotted key that spells the setting. -/
def key (p : Setting) : String := p.group ++ "." ++ p.name

/-- What the setting is a value of. -/
def Kind : Setting → Type
  | .level | .websocketAddress | .tcpAddress => String
  | .websocketEnabled | .tcpEnabled => Bool
  | .bufferSize | .bufferBlockSize | .interval | .threshold => Nat

/-- The setting among others. -/
def get : (p : Setting) → Settings → p.Kind
  | .level, s => s.level
  | .websocketEnabled, s => s.broker.websocketEnabled
  | .websocketAddress, s => s.broker.websocketAddress
  | .tcpEnabled, s => s.broker.tcpEnabled
  | .tcpAddress, s => s.broker.tcpAddress
  | .bufferSize, s => s.broker.bufferSize
  | .bufferBlockSize, s => s.broker.bufferBlockSize
  | .interval, s => s.cleanup.interval
  | .threshold, s => s.cleanup.threshold

/-- The lenient conversion to what the setting is a value of. -/
def convert : (p : Setting) → Value → Option p.Kind
  | .level | .websocketAddress | .tcpAddress => Lenient.text
  | .websocketEnabled | .tcpEnabled => Lenient.boolean
  | .bufferSize | .bufferBlockSize => Lenient.size
  | .interval | .threshold => Lenient.conversions.span

/-- The setting that comes of a value, or of none. -/
def choose (p : Setting) : Option Value → Option p.Kind
  | some v => p.convert v
  | none => some (p.get {})

/-! ## Where a setting is given -/

/-- The value of the variable that is the setting, as its text looks. -/
def inEnvironment? (env : Environment) (p : Setting) : Option Value :=
  (env.find? fun (name, _) => keyOfVariable? name == some p.key).map fun (_, text) => guess text

/-- The value of the setting in its section of a file. -/
def inFile? (file : Entries) (p : Setting) : Option Value :=
  (file.get? p.group).bind fun v => (entriesOf v).get? p.name

/-- What the uppermost layer gives that says anything of the setting. -/
def given? (env : Environment) (file : Entries) (p : Setting) : Option Value :=
  (p.inEnvironment? env).or (p.inFile? file)

theorem keysOf_key (p : Setting) : keysOf p.key = p.path := by
  cases p <;> decide +kernel

theorem path_injective {p q : Setting} (h : p.path = q.path) : p = q := by
  cases p <;> cases q <;> first | rfl | simp [path, group, name] at h

/-- No setting is part of another. -/
theorem apart_path {p q : Setting} (h : p ≠ q) : Apart p.path q.path :=
  ⟨fun hleads => h (path_injective (hleads.eq_of_length rfl)),
    fun hleads => h (path_injective (hleads.eq_of_length rfl)).symm⟩

/-! ## Conversions -/

/-- Merged into what it is laid over a value converts as it did before: only tables are changed, and
they convert to nothing. -/
theorem convert_merge (p : Setting) (v base : Value) : p.convert (merge v base) = p.convert v := by
  cases v with
  | table origin entries =>
    rw [merge_table]
    cases p <;> rfl
  | _ => exact congrArg p.convert (solid_of_ne_table (fun _ _ => Value.noConfusion) base)

theorem convert_default (p : Setting) :
    (valueAt? p.path defaults).bind p.convert = some (p.get {}) := by
  cases p <;> rfl

end Setting

/-! ## Sections that are tables -/

/-- Whether the entries of a section give a setting as it is. -/
def Setting.ReadFrom (p : Setting) (entries : Entries) (s : Settings) : Prop :=
  field entries.get? p.convert p.name (p.get {}) = some (p.get s)

variable {origin : Origin} {entries : Entries} {s : Settings}

theorem record_table (names : List String) :
    Lenient.conversions.record names (.table origin entries) = some entries.get? := rfl

theorem level_table_iff : Lenient.conversions.level (.table origin entries) = some s.level ↔
    ∀ p : Setting, p.group = "log" → p.ReadFrom entries s := by
  refine ⟨fun h p hgroup => ?_, fun h => h .level rfl⟩
  cases p with
  | level => exact h
  | _ => simp [Setting.group] at hgroup

theorem broker_table_iff : Lenient.conversions.broker (.table origin entries) = some s.broker ↔
    ∀ p : Setting, p.group = "broker" → p.ReadFrom entries s := by
  obtain ⟨level, broker, cleanup⟩ := s
  simp only [Conversions.broker, record_table, Option.bind_eq_bind, Option.bind_some,
    Option.bind_eq_some_iff, Option.pure_def, Option.some.injEq]
  constructor
  · rintro ⟨_, henabled, _, haddress, _, htcp, _, htcpAddress, _, hsize, _, hblock, rfl⟩
    intro p hgroup
    cases p with
    | websocketEnabled => exact henabled
    | websocketAddress => exact haddress
    | tcpEnabled => exact htcp
    | tcpAddress => exact htcpAddress
    | bufferSize => exact hsize
    | bufferBlockSize => exact hblock
    | _ => simp [Setting.group] at hgroup
  · intro h
    exact ⟨_, h .websocketEnabled rfl, _, h .websocketAddress rfl, _, h .tcpEnabled rfl,
      _, h .tcpAddress rfl, _, h .bufferSize rfl, _, h .bufferBlockSize rfl, rfl⟩

theorem cleanup_table_iff : Lenient.conversions.cleanup (.table origin entries) = some s.cleanup ↔
    ∀ p : Setting, p.group = "topics" → p.ReadFrom entries s := by
  obtain ⟨level, broker, cleanup⟩ := s
  simp only [Conversions.cleanup, record_table, Option.bind_eq_bind, Option.bind_some,
    Option.bind_eq_some_iff, Option.pure_def, Option.some.injEq]
  constructor
  · rintro ⟨_, hinterval, _, hthreshold, rfl⟩
    intro p hgroup
    cases p with
    | interval => exact hinterval
    | threshold => exact hthreshold
    | _ => simp [Setting.group] at hgroup
  · intro h
    exact ⟨_, h .interval rfl, _, h .threshold rfl, rfl⟩

/-- What a section that is a table has for a setting. -/
theorem valueAt?_of_get? {value : Value} {p : Setting}
    (h : (entriesOf value).get? p.group = some (.table origin entries)) :
    valueAt? p.path value = entries.get? p.name := by
  rw [Setting.path, valueAt?, h, Option.bind_some, valueAt?, entriesOf]
  cases entries.get? p.name <;> rfl

theorem choose_valueAt?_iff {value : Value} {p : Setting}
    (h : (entriesOf value).get? p.group = some (.table origin entries)) :
    p.choose (valueAt? p.path value) = some (p.get s) ↔ p.ReadFrom entries s := by
  rw [valueAt?_of_get? h, Setting.ReadFrom, field]
  cases entries.get? p.name <;> rfl

theorem Setting.group_cases (p : Setting) :
    p.group = "log" ∨ p.group = "broker" ∨ p.group = "topics" := by
  cases p <;> simp [group]

/-- Sections that are tables are read setting by setting. -/
theorem settings_eq_some_iff {value : Value} (tables : ∀ p : Setting, HasTable value p.group) :
    Lenient.conversions.settings (entriesOf value) = some s ↔
      ∀ p : Setting, p.choose (valueAt? p.path value) = some (p.get s) := by
  obtain ⟨logOrigin, log, hlog⟩ : HasTable value "log" := tables .level
  obtain ⟨brokerOrigin, broker, hbroker⟩ : HasTable value "broker" := tables .tcpEnabled
  obtain ⟨topicsOrigin, topics, htopics⟩ : HasTable value "topics" := tables .interval
  have hsections : Lenient.conversions.settings (entriesOf value) = some s ↔
      Lenient.conversions.level (.table logOrigin log) = some s.level ∧
        Lenient.conversions.broker (.table brokerOrigin broker) = some s.broker ∧
        Lenient.conversions.cleanup (.table topicsOrigin topics) = some s.cleanup := by
    simp only [Conversions.settings, field_of_some hlog, field_of_some hbroker,
      field_of_some htopics, Option.bind_eq_bind, Option.bind_eq_some_iff, Option.pure_def,
      Option.some.injEq]
    constructor
    · rintro ⟨level, hlevel, listen, hlisten, cleanup, hcleanup, rfl⟩
      exact ⟨hlevel, hlisten, hcleanup⟩
    · rintro ⟨hlevel, hlisten, hcleanup⟩
      exact ⟨_, hlevel, _, hlisten, _, hcleanup, rfl⟩
  rw [hsections, level_table_iff, broker_table_iff, cleanup_table_iff]
  constructor
  · rintro ⟨hlevel, hlisten, hcleanup⟩ p
    rcases p.group_cases with hgroup | hgroup | hgroup
    · exact (choose_valueAt?_iff (hgroup ▸ hlog)).2 (hlevel p hgroup)
    · exact (choose_valueAt?_iff (hgroup ▸ hbroker)).2 (hlisten p hgroup)
    · exact (choose_valueAt?_iff (hgroup ▸ htopics)).2 (hcleanup p hgroup)
  · intro h
    exact ⟨fun p hgroup => (choose_valueAt?_iff (hgroup ▸ hlog)).1 (h p),
      fun p hgroup => (choose_valueAt?_iff (hgroup ▸ hbroker)).1 (h p),
      fun p hgroup => (choose_valueAt?_iff (hgroup ▸ htopics)).1 (h p)⟩

/-! ## The file over the defaults -/

/-- A file whose keys are bare and whose sections are tables. -/
structure Sectioned (file : Entries) : Prop where
  keyed : file.Keyed
  bare : ∀ e ∈ file, isBare e.1 = true
  tables : ∀ p : Setting, ∀ v, file.get? p.group = some v →
    ∃ origin entries, v = .table origin entries

variable {file : Entries} {env : Environment}

theorem hasTable_defaults (p : Setting) : HasTable defaults p.group := by
  cases p <;> exact ⟨_, _, rfl⟩

theorem get?_addLayer_defaults (h : Sectioned file) (key : String) :
    (entriesOf (addLayer file defaults)).get? key =
      overlay (file.get? key) ((entriesOf defaults).get? key) := by
  rw [entriesOf_addLayer h.bare, get?_mergeEntries h.keyed.distinct]

/-- Laid over the defaults a section is a table again, which has what the file gives or else what the
defaults give. -/
theorem section_addLayer_defaults (h : Sectioned file) (p : Setting) :
    HasTable (addLayer file defaults) p.group ∧
      valueAt? p.path (addLayer file defaults) =
        overlay (p.inFile? file) (valueAt? p.path defaults) := by
  obtain ⟨origin, base, hbase⟩ := hasTable_defaults p
  have hmerged := get?_addLayer_defaults h p.group
  rw [hbase] at hmerged
  rw [valueAt?_of_get? hbase, Setting.inFile?]
  cases hfile : file.get? p.group with
  | none =>
    rw [hfile, overlay] at hmerged
    exact ⟨⟨_, _, hmerged⟩, valueAt?_of_get? hmerged⟩
  | some v =>
    obtain ⟨origin, sub, rfl⟩ := h.tables p v hfile
    rw [hfile, overlay, merge_table, Option.getD_some, entriesOf] at hmerged
    refine ⟨⟨_, _, hmerged⟩, ?_⟩
    rw [valueAt?_of_get? hmerged, get?_mergeEntries (h.keyed.of_get?_table hfile).distinct]
    rfl

/-! ## The environment over both -/

/-- The dotted keys that variables spell. -/
def spelled (env : Environment) : List String := env.filterMap fun (name, _) => keyOfVariable? name

/-- An environment whose variables spell paths of bare keys: each a setting, or a path apart from all
settings, and no two the same setting. -/
structure Orderly (env : Environment) : Prop where
  bare : ∀ dotted ∈ spelled env, ∀ key ∈ keysOf dotted, isBare key = true
  apart : ∀ dotted ∈ spelled env,
    (∃ p : Setting, dotted = p.key) ∨ ∀ p : Setting, Apart (keysOf dotted) p.path
  once : ∀ p : Setting, (spelled env).count p.key ≤ 1

theorem solid_guess (text : String) : Solid (guess text) := by
  refine solid_of_ne_table fun origin entries h => ?_
  simp only [guess] at h
  split at h
  · cases h
  · split at h
    · cases h
    · split at h
      · cases h
      · split at h <;> cases h

theorem environmentLayer_cons_of_none {name : String} (h : keyOfVariable? name = none) (text : String)
    (env : Environment) : environmentLayer ((name, text) :: env) = environmentLayer env := by
  simp [environmentLayer, h]

theorem environmentLayer_cons_of_some {name dotted : String} (h : keyOfVariable? name = some dotted)
    (text : String) (env : Environment) :
    environmentLayer ((name, text) :: env) = (dotted, guess text) :: environmentLayer env := by
  simp [environmentLayer, h]

theorem keys_environmentLayer (env : Environment) :
    (environmentLayer env).map Prod.fst = spelled env := by
  induction env with
  | nil => rfl
  | cons entry env ih =>
    obtain ⟨name, text⟩ := entry
    rw [spelled] at ih ⊢
    cases hkey : keyOfVariable? name with
    | none => simp [environmentLayer_cons_of_none hkey, hkey, ih]
    | some dotted => simp [environmentLayer_cons_of_some hkey, hkey, ih]

theorem solid_of_mem_environmentLayer {e : String × Value} (h : e ∈ environmentLayer env) :
    Solid e.2 := by
  obtain ⟨⟨name, text⟩, -, hkey⟩ := List.mem_filterMap.1 h
  obtain ⟨dotted, -, rfl⟩ := Option.map_eq_some_iff.1 hkey
  exact solid_guess text

theorem get?_environmentLayer (env : Environment) (p : Setting) :
    (environmentLayer env).get? p.key = p.inEnvironment? env := by
  induction env with
  | nil => rfl
  | cons entry env ih =>
    obtain ⟨name, text⟩ := entry
    rw [Setting.inEnvironment?] at ih ⊢
    cases hkey : keyOfVariable? name with
    | none => simp [environmentLayer_cons_of_none hkey, hkey, ih]
    | some dotted =>
      rw [environmentLayer_cons_of_some hkey, Entries.get?_cons, ih]
      by_cases hsame : dotted = p.key <;> simp [hkey, hsame]

namespace Orderly

theorem dotted (h : Orderly env) : Dotted (environmentLayer env) :=
  ⟨fun _ he => h.bare _ (keys_environmentLayer env ▸ List.mem_map_of_mem he),
    fun _ he => solid_of_mem_environmentLayer he⟩

/-- Of the paths that variables spell each is that of a given setting or stands apart from it. -/
theorem apart_of_mem (h : Orderly env) (p : Setting) {e : String × Value}
    (he : e ∈ environmentLayer env) : e.1 = p.key ∨ Apart (keysOf e.1) p.path := by
  rcases h.apart e.1 (keys_environmentLayer env ▸ List.mem_map_of_mem he) with ⟨q, hq⟩ | hapart
  · by_cases hsame : q = p
    · exact .inl (hsame ▸ hq)
    · rw [hq, Setting.keysOf_key]
      exact .inr (Setting.apart_path hsame)
  · exact .inr (hapart p)

theorem valueAt?_addLayer (h : Orderly env) (p : Setting) (base : Value) :
    valueAt? p.path (addLayer (environmentLayer env) base) =
      (p.inEnvironment? env).or (valueAt? p.path base) := by
  have hvalue := Settings.valueAt?_addLayer h.dotted p.key
    (fun e he => p.keysOf_key ▸ h.apart_of_mem p he) (keys_environmentLayer env ▸ h.once p) base
  rwa [p.keysOf_key, get?_environmentLayer] at hvalue

/-- No variable is written in place of a section. -/
theorem hasTable_addLayer (h : Orderly env) (p : Setting) {base : Value}
    (hbase : HasTable base p.group) : HasTable (addLayer (environmentLayer env) base) p.group := by
  refine Settings.hasTable_addLayer h.dotted (fun e he hleads => ?_) hbase
  have hpath : [p.group] <+: p.path := ⟨[p.name], rfl⟩
  rcases h.apart_of_mem p he with hkey | hapart
  · rw [hkey, Setting.keysOf_key] at hleads
    exact absurd hleads.length_le (Nat.not_succ_le_self 1)
  · exact hapart.1 (hleads.trans hpath)

end Orderly

/-! ## All layers -/

/-- What the layers leave at the path of a setting is read as what the uppermost of them gives. -/
theorem choose_valueAt? (hfile : Sectioned file) (henv : Orderly env) (p : Setting) :
    p.choose (valueAt? p.path (addLayer (environmentLayer env) (addLayer file defaults))) =
      p.choose (p.given? env file) := by
  rw [henv.valueAt?_addLayer, (section_addLayer_defaults hfile p).2, Setting.given?]
  obtain ⟨v, hv, hdefault⟩ := Option.bind_eq_some_iff.1 p.convert_default
  rw [hv]
  cases p.inEnvironment? env with
  | some w => rfl
  | none =>
    cases p.inFile? file with
    | some w => exact p.convert_merge w v
    | none => exact hdefault

theorem layered_eq_ok_iff (hfile : Sectioned file) (henv : Orderly env) :
    layered env file = .ok s ↔
      (∀ p : Setting, p.choose (p.given? env file) = some (p.get s)) ∧ s.fault? = none := by
  have hread := settings_eq_some_iff (s := s) fun p =>
    henv.hasTable_addLayer p (section_addLayer_defaults hfile p).1
  simp only [choose_valueAt? hfile henv] at hread
  rw [← hread, layered]
  cases Lenient.conversions.settings
      (entriesOf (addLayer (environmentLayer env) (addLayer file defaults))) with
  | none => simp
  | some t =>
    show checked t = .ok s ↔ _
    rw [checked_eq_ok_iff, Option.some.injEq]
    constructor
    · rintro ⟨rfl, hvalid⟩
      exact ⟨rfl, hvalid⟩
    · rintro ⟨rfl, hvalid⟩
      exact ⟨rfl, hvalid⟩

/-- The layer of a settings file, unless it cannot be read or is malformed. -/
def layer? (env : Environment) : FileContent → Option Entries
  | .missing => some []
  | .unreadable => none
  | .bytes data => (String.fromUTF8? data).bind (fileLayer? env)

theorem load_eq_layered {content : FileContent} (h : layer? env content = some file) :
    load env content = layered env file := by
  cases content with
  | missing =>
    cases h
    rfl
  | unreadable => cases h
  | bytes data =>
    obtain ⟨text, htext, hlayer⟩ := Option.bind_eq_some_iff.1 h
    simp only [load, htext, ofText, hlayer]

theorem keyed_of_layer? {content : FileContent} (h : layer? env content = some file) :
    file.Keyed := by
  cases content with
  | missing =>
    cases h
    exact Entries.keyed_nil
  | unreadable => cases h
  | bytes data =>
    obtain ⟨text, -, hlayer⟩ := Option.bind_eq_some_iff.1 h
    obtain ⟨read, hread, hunwrap⟩ := Option.bind_eq_some_iff.1 hlayer
    exact keyed_of_unwrapDocument? (keyed_of_read? hread) hunwrap

/-- A file, with what is read of it, and an environment that are laid over the defaults setting by
setting. -/
structure Regular (env : Environment) (content : FileContent) (file : Entries) : Prop where
  layer : layer? env content = some file
  bare : ∀ e ∈ file, isBare e.1 = true
  tables : ∀ p : Setting, ∀ v, file.get? p.group = some v →
    ∃ origin entries, v = .table origin entries
  orderly : Orderly env

theorem Regular.sectioned {content : FileContent} (h : Regular env content file) : Sectioned file :=
  ⟨keyed_of_layer? h.layer, h.bare, h.tables⟩

/-- Settings are loaded exactly if what is given of each converts and they are free of faults. Each is
then what the environment gives of it, or else the file, or else its default; so the same is loaded
of a setting whatever is given of the others. -/
theorem load_eq_ok_iff {content : FileContent} (regular : Regular env content file) :
    (∀ s, load env content = .ok s ↔
      (∀ p : Setting, p.choose (p.given? env file) = some (p.get s)) ∧ s.fault? = none) ∧
    ∀ {other : Environment} {content' : FileContent} {file' : Entries},
      Regular other content' file' → ∀ {s t : Settings},
        load env content = .ok s → load other content' = .ok t →
          ∀ p : Setting, p.given? env file = p.given? other file' → p.get s = p.get t := by
  have hload {env : Environment} {content : FileContent} {file : Entries}
      (h : Regular env content file) (s : Settings) : load env content = .ok s ↔
        (∀ p : Setting, p.choose (p.given? env file) = some (p.get s)) ∧ s.fault? = none := by
    rw [load_eq_layered h.layer, layered_eq_ok_iff h.sectioned h.orderly]
  refine ⟨hload regular, ?_⟩
  intro other content' file' regular' s t hs ht p hsame
  have hp := ((hload regular s).1 hs).1 p
  rw [hsame, ((hload regular' t).1 ht).1 p] at hp
  exact (Option.some.inj hp).symm

/-- Two variables in mixed case give a listener, which the file turned off, and a span; a third spells
no setting. What else the file gives stays. -/
theorem load_of_two_variables :
    let content := "[broker]\ntcp_enabled = false\ntcp_bind_address = \":1\"\n\n[topics]\nkeep = true\n"
    let file : Entries := [
      ("broker", .table .header [("tcp_enabled", .boolean false), ("tcp_bind_address", .text ":1")]),
      ("topics", .table .header [("keep", .boolean true)])]
    let env : Environment := [("HOME", "/"), ("SUBWATCH__BROKER__TCP_ENABLED", "on"),
      ("Subwatch__Topics__Cleanup_Threshold", "10m"), ("SUBWATCH__BROKER__TCP__PORT", "1")]
    Regular env (.bytes content.toUTF8) file ∧
      load env (.bytes content.toUTF8) = .ok {
        broker := { tcpEnabled := true, tcpAddress := ":1" }
        cleanup := { threshold := 600 * 1000000000 } } := by
  intro content file env
  have hlayer : layer? env (.bytes content.toUTF8) = some file := by
    have hdecoded : String.fromUTF8? content.toUTF8 = some content := dif_pos content.isValidUTF8
    have hplain : ¬ ['$', '{'] <:+: content.toList := by decide +kernel
    have hread : read? .second content = some file := by unfold content file; rfl
    rw [layer?, hdecoded, Option.bind_some, fileLayer?, expand_eq_self _ hplain,
      String.ofList_toList, hread]
    unfold file
    rfl
  have hspelled : spelled env =
      ["broker.tcp_enabled", "topics.cleanup_threshold", "broker.tcp.port"] := by
    unfold env
    decide +kernel
  have horderly : Orderly env := by
    refine ⟨?_, ?_, ?_⟩ <;> rw [hspelled]
    · decide +kernel
    · intro dotted hmem
      simp only [List.mem_cons, List.not_mem_nil, or_false] at hmem
      rcases hmem with rfl | rfl | rfl
      · exact .inl ⟨.tcpEnabled, by decide⟩
      · exact .inl ⟨.threshold, by decide⟩
      · exact .inr fun p => by cases p <;> decide +kernel
    · intro p
      cases p <;> decide +kernel
  have hregular : Regular env (.bytes content.toUTF8) file := by
    refine ⟨hlayer, by decide +kernel, fun p v h => ?_, horderly⟩
    have hmem := Entries.mem_of_get? h
    simp only [file, List.mem_cons, List.not_mem_nil, or_false, Prod.mk.injEq] at hmem
    rcases hmem with ⟨-, rfl⟩ | ⟨-, rfl⟩ <;> exact ⟨_, _, rfl⟩
  refine ⟨hregular, ((load_eq_ok_iff hregular).1 _).2 ⟨fun p => ?_, rfl⟩⟩
  cases p <;> rfl

end Audience.Settings
