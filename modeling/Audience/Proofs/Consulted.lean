import Mathlib.Data.List.Perm.Basic
import Mathlib.Data.List.Sort
import Mathlib.Data.String.Basic
import Audience.Settings.Layers

/-!
# Variables that settings depend on

Loading settings asks the environment for two things: the variables that are
settings (`Environment.settings`), all of them and in their order, and the
values of the names in the placeholders of the file (`consulted`). The names
are those of the file's own text, since what is put in for a placeholder is not
looked at again (`expand_congr`). So environments that agree on these load the
same (`load_of_agreement`), whatever else is set in them.
-/

namespace Audience.Settings

open Toml

/-! ## Names in placeholders -/

/-- The placeholders that `expand` replaces. -/
def placeholders (cs : List Char) : List Placeholder :=
  match h : takePlaceholder? cs with
  | some (p, rest) =>
    have := length_lt_of_takePlaceholder? h
    p :: placeholders rest
  | none => match cs with
    | [] => []
    | _ :: cs => placeholders cs
termination_by cs.length

/-- The names that the placeholders of a text ask for. -/
def consulted (content : String) : List String :=
  (placeholders content.toList).map fun p => String.ofList p.name

/-- The names that the placeholders of a file ask for. -/
def FileContent.consulted : FileContent → List String
  | .missing | .unreadable => []
  | .bytes data => ((String.fromUTF8? data).map Settings.consulted).getD []

theorem Placeholder.value_congr {lookup other : String → Option String} {p : Placeholder}
    (h : lookup (String.ofList p.name) = other (String.ofList p.name)) :
    p.value lookup = p.value other := by
  rw [value, value, h]

/-- A text is expanded the same where its placeholders have the same values. -/
theorem expand_congr {lookup other : String → Option String} {cs : List Char}
    (h : ∀ p ∈ placeholders cs, lookup (String.ofList p.name) = other (String.ofList p.name)) :
    expand lookup cs = expand other cs := by
  -- On what is left of the text once a placeholder or a character has been taken off it.
  fun_induction placeholders cs with
  | case1 cs p rest htake _ ih =>
    obtain ⟨hfirst, hrest⟩ := List.forall_mem_cons.1 h
    rw [expand_of_takePlaceholder? lookup htake, expand_of_takePlaceholder? other htake,
      Placeholder.value_congr hfirst, ih hrest]
  | case2 => rw [expand_nil, expand_nil]
  | case3 c cs hnone ih =>
    rw [expand_cons_of_none lookup hnone, expand_cons_of_none other hnone, ih h]

/-! ## Variables that are settings -/

/-- Whether a variable is a setting. -/
def isSettingName (name : String) : Bool :=
  variableMark.isPrefixOf (Text.lowercase name).toList

namespace Environment

/-- The variables that are settings, in their order. -/
def settings (env : Environment) : Environment := env.filter fun v => isSettingName v.1

/-- Whether every variable is listed once, in the order of the names. -/
def Listed (env : Environment) : Prop := env.Pairwise fun v w => v.1 < w.1

instance (env : Environment) : Decidable env.Listed :=
  inferInstanceAs (Decidable (env.Pairwise fun v w => v.1 < w.1))

theorem mem_iff_get? {env : Environment} (listed : env.Listed) {name value : String} :
    (name, value) ∈ env ↔ env.get? name = some value := by
  rw [get?, List.lookup_eq_some_iff]
  constructor
  · intro hmem
    obtain ⟨before, after, rfl⟩ := List.append_of_mem hmem
    refine ⟨before, after, rfl, fun v hv => ?_⟩
    have hlt := (List.pairwise_append.1 listed).2.2 v hv (name, value) List.mem_cons_self
    simpa using hlt.ne'
  · rintro ⟨before, after, rfl, -⟩
    exact List.mem_append_right _ List.mem_cons_self

theorem Listed.nodup {env : Environment} (h : env.Listed) : env.Nodup := by
  refine List.Pairwise.imp ?_ h
  rintro v w hlt rfl
  exact lt_irrefl _ hlt

/-- Environments that are listed in the order of the names have the same variables for settings, in
the same order, if each of these has the same value in both. -/
theorem settings_eq_of_get?_eq {env other : Environment} (listed : env.Listed)
    (listed' : other.Listed)
    (h : ∀ name, isSettingName name = true → env.get? name = other.get? name) :
    env.settings = other.settings := by
  have hsub {env : Environment} (listed : env.Listed) : env.settings.Listed :=
    listed.sublist List.filter_sublist
  have hperm : env.settings.Perm other.settings := by
    rw [List.perm_ext_iff_of_nodup (hsub listed).nodup (hsub listed').nodup]
    intro ⟨name, value⟩
    simp only [settings, List.mem_filter, mem_iff_get? listed, mem_iff_get? listed']
    exact and_congr_left fun hname => by rw [h name hname]
  exact hperm.eq_of_pairwise (fun v w _ _ hlt hgt => absurd hgt hlt.asymm) (hsub listed)
    (hsub listed')

end Environment

/-- The layer of the environment is that of the variables that are settings. -/
theorem environmentLayer_settings (env : Environment) :
    environmentLayer env.settings = environmentLayer env := by
  rw [environmentLayer, Environment.settings, List.filterMap_filter]
  refine List.filterMap_congr fun ⟨name, value⟩ _ => ?_
  split
  · rfl
  · next hname =>
    have hnone : keyOfVariable? name = none := if_neg hname
    simp only [hnone, Option.map_none]

/-! ## What that comes to -/

variable {env other : Environment}

theorem layered_congr (h : env.settings = other.settings) (file : Entries) :
    layered env file = layered other file := by
  rw [layered, layered, ← environmentLayer_settings env, h, environmentLayer_settings]

theorem fileLayer?_congr {content : String}
    (h : ∀ name ∈ consulted content, env.get? name = other.get? name) :
    fileLayer? env content = fileLayer? other content := by
  rw [fileLayer?, fileLayer?, expand_congr fun p hp => h _ (List.mem_map_of_mem hp)]

theorem ofText_congr (h : env.settings = other.settings) {content : String}
    (hnames : ∀ name ∈ consulted content, env.get? name = other.get? name) :
    ofText env content = ofText other content := by
  rw [ofText, ofText, fileLayer?_congr hnames]
  cases fileLayer? other content with
  | none => rfl
  | some file => exact layered_congr h file

theorem load_congr (h : env.settings = other.settings) {file : FileContent}
    (hnames : ∀ name ∈ file.consulted, env.get? name = other.get? name) :
    load env file = load other file := by
  cases file with
  | missing => exact layered_congr h []
  | unreadable => rfl
  | bytes data =>
    rw [load, load]
    rw [FileContent.consulted] at hnames
    cases hcontent : String.fromUTF8? data with
    | none => rfl
    | some content =>
      rw [hcontent] at hnames
      exact ofText_congr h hnames

end Audience.Settings
