import Mathlib.Data.List.Forall2
import Audience.Topic

/-!
# What a filter covers

The walk of `Topic.covers` goes through the levels of a filter and the parts of
a topic side by side. What it comes to, without a walk:

* `isSplit_iff`: the parts of a text are the one list of texts without a slash
  that gives the text when slashes are put between them;
* `walk_append_iff`: levels in front of which there is no `#` are walked past
  exactly if the topic begins with parts that they fit, one for one, and the
  rest of the walk goes on from there;
* `covers_iff_levels`: so a filter without a `#` covers the topics that have as
  many parts as it has levels and fit them all, and one with a `#` those that
  fit the levels before the first `#`, whatever comes after it.
-/

namespace Audience.Topic

/-! ## Splitting at slashes -/

/-- Whether texts are what stands between the slashes of a text. -/
structure IsSplit (ps : List String) (s : String) : Prop where
  ne_nil : ps ≠ []
  slashless : ∀ p ∈ ps, '/' ∉ p.toList
  joined : "/".intercalate ps = s

/-- Texts with slashes between them, by their characters. -/
theorem toList_intercalate_slash (ps : List String) :
    ("/".intercalate ps).toList = Text.join '/' (ps.map String.toList) := by
  rw [String.toList_intercalate, Text.join_eq_intercalate]
  rfl

theorem map_toList_parts (s : String) : (parts s).map String.toList = Text.split '/' s.toList := by
  simp [parts, Function.comp_def]

theorem isSplit_parts (s : String) : IsSplit (parts s) s where
  ne_nil := by simpa [parts] using Text.split_ne_nil '/' s.toList
  slashless := by
    intro p hp
    have hmem : p.toList ∈ (parts s).map String.toList := List.mem_map_of_mem hp
    rw [map_toList_parts] at hmem
    exact Text.notMem_of_mem_split hmem
  joined := by
    rw [← String.toList_inj, toList_intercalate_slash, map_toList_parts, Text.join_split]

/-- No other texts are. -/
theorem isSplit_iff {ps : List String} {s : String} : IsSplit ps s ↔ ps = parts s := by
  constructor
  · rintro ⟨hne, hslashless, rfl⟩
    rw [parts, toList_intercalate_slash, Text.split_join (by simpa using hne)]
    · simp [Function.comp_def]
    · intro piece hpiece
      obtain ⟨p, hp, rfl⟩ := List.mem_map.1 hpiece
      exact hslashless p hp
  · rintro rfl
    exact isSplit_parts s

/-! ## Walking side by side -/

/-- Whether a level of a filter that is no `#` stands for a part of a topic: any part, or itself. -/
def Fits (level part : String) : Prop := level = "+" ∨ level = part

theorem walk_cons_iff {level : String} (plain : level ≠ "#") (filter : List Level)
    (topic : List String) :
    walk (Level.ofText level :: filter) topic = true ↔
      ∃ part rest, topic = part :: rest ∧ Fits level part ∧ walk filter rest = true := by
  unfold Level.ofText Fits
  by_cases hsingle : level = "+"
  · cases topic with
    | nil => simp [hsingle, walk]
    | cons part rest => simp [hsingle, walk]
  · cases topic with
    | nil => simp [hsingle, plain, walk]
    | cons part rest => simp [hsingle, plain, walk]

/-- Levels without a `#` take a part each off the front of the topic. -/
theorem walk_append_iff {levels : List String} (plain : "#" ∉ levels) (filter : List Level)
    (topic : List String) :
    walk (levels.map Level.ofText ++ filter) topic = true ↔
      ∃ front rest, topic = front ++ rest ∧ List.Forall₂ Fits levels front ∧
        walk filter rest = true := by
  induction levels generalizing topic with
  | nil => simp
  | cons level levels ih =>
    obtain ⟨hlevel, hlevels⟩ : "#" ≠ level ∧ "#" ∉ levels := by simpa using plain
    rw [List.map_cons, List.cons_append, walk_cons_iff (Ne.symm hlevel)]
    constructor
    · rintro ⟨part, rest, rfl, hfits, hwalk⟩
      obtain ⟨front, left, rfl, hfront, hleft⟩ := (ih hlevels rest).1 hwalk
      exact ⟨part :: front, left, rfl, .cons hfits hfront, hleft⟩
    · rintro ⟨_, left, rfl, hfront, hleft⟩
      cases hfront with
      | cons hfits hfront =>
        exact ⟨_, _, rfl, hfits, (ih hlevels _).2 ⟨_, left, rfl, hfront, hleft⟩⟩

theorem walk_iff_of_notMem {levels : List String} (plain : "#" ∉ levels) (topic : List String) :
    walk (levels.map Level.ofText) topic = true ↔ List.Forall₂ Fits levels topic := by
  have hwalk := walk_append_iff plain [] topic
  rw [List.append_nil] at hwalk
  rw [hwalk]
  constructor
  · rintro ⟨front, rest, rfl, hfront, hrest⟩
    obtain rfl : rest = [] := by
      cases rest with
      | nil => rfl
      | cons => cases hrest
    rwa [List.append_nil]
  · intro hfits
    exact ⟨topic, [], (List.append_nil topic).symm, hfits, rfl⟩

theorem walk_iff_of_multi {levels : List String} (plain : "#" ∉ levels) (more : List Level)
    (topic : List String) :
    walk (levels.map Level.ofText ++ .multi :: more) topic = true ↔
      ∃ front rest, topic = front ++ rest ∧ List.Forall₂ Fits levels front := by
  rw [walk_append_iff plain]
  simp only [walk, and_true]

/-! ## Level by level -/

/-- Levels fit as many parts if each fits the part at its place. -/
theorem forall₂_fits_iff {levels front : List String} :
    List.Forall₂ Fits levels front ↔ front.length = levels.length ∧
      ∀ i < levels.length, levels[i]? = some "+" ∨ levels[i]? = front[i]? := by
  rw [List.forall₂_iff_get]
  constructor
  · rintro ⟨hlength, hfits⟩
    refine ⟨hlength.symm, fun i hi => ?_⟩
    have hi' : i < front.length := hlength ▸ hi
    rw [List.getElem?_eq_getElem hi, List.getElem?_eq_getElem hi']
    exact (hfits i hi hi').imp (congrArg some) (congrArg some)
  · rintro ⟨hlength, hfits⟩
    refine ⟨hlength.symm, fun i hi hi' => ?_⟩
    have hplace := hfits i hi
    rw [List.getElem?_eq_getElem hi, List.getElem?_eq_getElem hi'] at hplace
    exact hplace.imp Option.some.inj Option.some.inj

/-- Levels fit the front of a topic if it has a part for each and each fits the part at its place. -/
theorem exists_front_iff {levels topic : List String} :
    (∃ front rest, topic = front ++ rest ∧ List.Forall₂ Fits levels front) ↔
      levels.length ≤ topic.length ∧
        ∀ i < levels.length, levels[i]? = some "+" ∨ levels[i]? = topic[i]? := by
  constructor
  · rintro ⟨front, rest, rfl, hfront⟩
    obtain ⟨hlength, hfits⟩ := forall₂_fits_iff.1 hfront
    refine ⟨by rw [List.length_append]; omega, fun i hi => ?_⟩
    rw [List.getElem?_append_left (hlength.symm ▸ hi)]
    exact hfits i hi
  · rintro ⟨hle, hfits⟩
    refine ⟨topic.take levels.length, topic.drop levels.length, (List.take_append_drop ..).symm,
      forall₂_fits_iff.2 ⟨List.length_take_of_le hle, fun i hi => ?_⟩⟩
    rw [List.getElem?_take_of_lt hi]
    exact hfits i hi

/-- A filter covers a topic exactly if the levels before its first `#` fit the parts of the topic at
their places, each being a `+` or the same text, and the topic has that many parts at least; without
a `#`, if all levels do and the topic has just as many parts. The levels of the one and the parts of
the other are what stands between the slashes, empty texts included. -/
theorem covers_iff_levels (filter topic : String) :
    (∀ ps, IsSplit ps filter ↔ ps = parts filter) ∧ (∀ ps, IsSplit ps topic ↔ ps = parts topic) ∧
      let F := parts filter
      let T := parts topic
      let k := F.idxOf "#"
      (covers filter topic = true ↔
        if "#" ∈ F then k ≤ T.length ∧ ∀ i < k, F[i]? = some "+" ∨ F[i]? = T[i]?
        else T.length = F.length ∧ ∀ i < F.length, F[i]? = some "+" ∨ F[i]? = T[i]?) := by
  refine ⟨fun _ => isSplit_iff, fun _ => isSplit_iff, ?_⟩
  intro F T k
  show walk (F.map Level.ofText) T = true ↔ _
  split
  · next hmulti =>
    have hk : k < F.length := List.idxOf_lt_length_iff.2 hmulti
    -- The filter is cut at its first `#`.
    have hcut : F = F.take k ++ "#" :: F.drop (k + 1) := by
      conv_lhs => rw [← List.take_append_drop k F, List.drop_eq_getElem_cons hk]
      rw [List.getElem_idxOf hk]
    have hplain : "#" ∉ F.take k := fun hmem =>
      Nat.lt_irrefl k ((List.mem_take_iff_idxOf_lt hmulti).1 hmem)
    have hlength : (F.take k).length = k := List.length_take_of_le (Nat.le_of_lt hk)
    rw [hcut, List.map_append, List.map_cons]
    rw [show Level.ofText "#" = .multi from rfl, walk_iff_of_multi hplain, exists_front_iff,
      hlength, ← hcut]
    refine and_congr_right fun _ => forall₂_congr fun i hi => ?_
    rw [List.getElem?_take_of_lt hi]
  · next hplain => rw [walk_iff_of_notMem hplain, forall₂_fits_iff]

/-- A `#` covers the level above it, a `+` does not, and a leading slash sets off an empty level. -/
example : covers "a/#/b" "a" = true ∧ covers "a/+" "a" = false ∧ covers "/a" "a" = false := by decide

end Audience.Topic
