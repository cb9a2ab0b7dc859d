import Mathlib.Data.Set.Function
import Audience.Proofs.Covering

/-!
# Texts and their levels

Every text is the written form of one list of levels. Not every list of levels
has a written form: a literal with a slash in it would be read as several
levels, and a literal that is a sign as a wildcard (`Level.Legible`).

* `Level.text_ofText`, `Level.ofText_text`: a single text is the text of the
  level read from it, and a legible level is read from its text;
* `ofLevels_levels`: so the levels of a text, written with slashes between them,
  give the text, its parts being what stands between its slashes;
* `levels_ofLevels`: and legible levels are read from the text they give, since
  their texts hold no slash and are its parts (`parts_ofLevels`). There has to be
  one level at least, for the empty text has one, the empty literal.

`levels_bijective` puts the two together.
-/

namespace Audience.Topic

/-! ## One level -/

namespace Level

/-- Whether a level is what its text is read as when slashes stand around it. -/
def Legible : Level → Prop
  | .literal text => '/' ∉ text.toList ∧ text ≠ "+" ∧ text ≠ "#"
  | .single | .multi => True

instance : DecidablePred Legible
  | .literal text => inferInstanceAs (Decidable ('/' ∉ text.toList ∧ text ≠ "+" ∧ text ≠ "#"))
  | .single | .multi => inferInstanceAs (Decidable True)

theorem text_ofText (s : String) : (ofText s).text = s := by
  unfold ofText
  split_ifs with hsingle hmulti
  · exact hsingle.symm
  · exact hmulti.symm
  · rfl

theorem ofText_text {level : Level} (legible : level.Legible) : ofText level.text = level := by
  cases level with
  | literal text =>
    obtain ⟨-, hsingle, hmulti⟩ := legible
    show ofText text = .literal text
    rw [ofText, if_neg hsingle, if_neg hmulti]
  | single => rfl
  | multi => rfl

theorem slashless_text {level : Level} (legible : level.Legible) : '/' ∉ level.text.toList := by
  cases level with
  | literal text => exact legible.1
  | single => decide
  | multi => decide

/-- What is read from a text without a slash is a literal only if the text is no sign. -/
theorem legible_ofText {s : String} (slashless : '/' ∉ s.toList) : (ofText s).Legible := by
  unfold ofText
  split_ifs with hsingle hmulti
  · trivial
  · trivial
  · exact ⟨slashless, hsingle, hmulti⟩

end Level

/-! ## Levels of a text -/

theorem ofLevels_eq_intercalate (ls : List Level) :
    ofLevels ls = "/".intercalate (ls.map Level.text) := by
  rw [← String.toList_inj, ofLevels, String.toList_ofList, toList_intercalate_slash, List.map_map]
  rfl

theorem map_text_levels (s : String) : (levels s).map Level.text = parts s := by
  rw [levels, List.map_map]
  exact List.map_id'' Level.text_ofText (parts s)

theorem ofLevels_levels (s : String) : ofLevels (levels s) = s := by
  rw [ofLevels_eq_intercalate, map_text_levels, (isSplit_parts s).joined]

theorem length_levels (s : String) : (levels s).length = s.toList.count '/' + 1 := by
  rw [levels, List.length_map, parts, List.length_map, Text.length_split]

theorem levels_ne_nil (s : String) : levels s ≠ [] := by
  rw [levels, ne_eq, List.map_eq_nil_iff]
  exact (isSplit_parts s).ne_nil

theorem legible_of_mem_levels {s : String} {level : Level} (h : level ∈ levels s) :
    level.Legible := by
  obtain ⟨p, hp, rfl⟩ := List.mem_map.1 h
  exact Level.legible_ofText ((isSplit_parts s).slashless p hp)

/-! ## Levels written out -/

section

variable {ls : List Level} (ne : ls ≠ []) (legible : ∀ level ∈ ls, level.Legible)

include ne legible

/-- The slashes between the levels are all there are. -/
theorem parts_ofLevels : parts (ofLevels ls) = ls.map Level.text := by
  refine (isSplit_iff.1 ⟨?_, fun p hp => ?_, (ofLevels_eq_intercalate ls).symm⟩).symm
  · rwa [ne_eq, List.map_eq_nil_iff]
  · obtain ⟨level, hlevel, rfl⟩ := List.mem_map.1 hp
    exact Level.slashless_text (legible level hlevel)

theorem levels_ofLevels : levels (ofLevels ls) = ls := by
  rw [levels, parts_ofLevels ne legible, List.map_map]
  calc ls.map (Level.ofText ∘ Level.text) = ls.map id :=
        List.map_congr_left fun level hlevel => Level.ofText_text (legible level hlevel)
    _ = ls := List.map_id ls

end

/-- Reading the levels of a text and writing levels with slashes between them undo each other. The
levels of a text give the text, are one more than its slashes and are legible; and the lists of
levels that are read back from what they give are the non-empty ones of legible levels. -/
theorem levels_bijective :
    (∀ ls, ofLevels ls = "/".intercalate (ls.map Level.text)) ∧
    (∀ s, ofLevels (levels s) = s ∧ (levels s).length = s.toList.count '/' + 1 ∧
      ∀ level ∈ levels s, level.Legible) ∧
    (∀ ls, levels (ofLevels ls) = ls ↔ ls ≠ [] ∧ ∀ level ∈ ls, level.Legible) ∧
    Set.BijOn levels Set.univ {ls | ls ≠ [] ∧ ∀ level ∈ ls, level.Legible} := by
  have hlegible : ∀ s, levels s ≠ [] ∧ ∀ level ∈ levels s, level.Legible := fun s =>
    ⟨levels_ne_nil s, fun _ => legible_of_mem_levels⟩
  have hinverse : Set.InvOn ofLevels levels Set.univ
      {ls | ls ≠ [] ∧ ∀ level ∈ ls, level.Legible} :=
    ⟨fun s _ => ofLevels_levels s, fun ls h => levels_ofLevels h.1 h.2⟩
  refine ⟨ofLevels_eq_intercalate, fun s => ⟨ofLevels_levels s, length_levels s, (hlegible s).2⟩,
    fun ls => ⟨fun h => ?_, fun h => levels_ofLevels h.1 h.2⟩, ?_⟩
  · -- What is read back is what is read from some text.
    rw [← h]
    exact hlegible (ofLevels ls)
  · exact hinverse.bijOn (fun s _ => hlegible s) fun _ _ => Set.mem_univ _

/-- A slash at either end, or two in a row, has an empty literal beside it, and a sign that does not
fill its level is part of a literal. A literal that is a sign is read back as a wildcard. -/
theorem levels_with_empty_literals :
    (∀ level ∈ [.literal "", .literal "a+", .literal "", .multi, .literal ""],
      Level.Legible level) ∧
    levels (ofLevels [.literal "", .literal "a+", .literal "", .multi, .literal ""]) =
      [.literal "", .literal "a+", .literal "", .multi, .literal ""] ∧
    (levels "/a+//#/").length = "/a+//#/".toList.count '/' + 1 ∧
    ofLevels (levels "/a+//#/") = "/a+//#/" ∧
    levels (ofLevels [.single, .literal "+"]) ≠ [.single, .literal "+"] := by
  obtain ⟨-, hread, hback, -⟩ := levels_bijective
  have hlegible : ∀ level ∈ [.literal "", .literal "a+", .literal "", .multi, .literal ""],
      Level.Legible level := by decide
  refine ⟨hlegible, (hback _).2 ⟨List.cons_ne_nil _ _, hlegible⟩, (hread _).2.1, (hread _).1, ?_⟩
  intro h
  exact absurd (((hback _).1 h).2 (.literal "+") (by decide)) (by decide)

end Audience.Topic
