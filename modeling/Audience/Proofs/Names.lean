import Audience.Proofs.Grammar

/-!
# Names, and filters that fail the check

What the checks of names and filters have to do with what filters cover.

* `nameFault?_iff_filterFault?`: the names are the filters that pass the check
  and hold no sign of a wildcard. Such a filter covers the topic that it is
  itself and no other (`covers_iff_of_plain`), since a text is determined by its
  parts (`parts_inj`).
* `covers_upToMulti`: what comes after the first `#` of a filter makes no
  difference. The levels before it are walked one for one with parts of the
  topic (`fits_front_of_covers`), so where the topic is a name each of them is a
  `+` or has no more in it than a name may have (`level_of_covers`).
* `clean_of_covers`, `malformed_covers_no_name`: hence a filter that covers a
  name has nothing wrong with it up to its first `#`, but that it may be longer
  than a filter should be.
-/

namespace Audience.Topic

/-! ## Texts and their parts -/

theorem parts_inj {s t : String} : parts s = parts t ↔ s = t := by
  refine ⟨fun h => ?_, congrArg parts⟩
  rw [← (isSplit_parts s).joined, h, (isSplit_parts t).joined]

theorem toList_eq_join (s : String) : s.toList = Text.join '/' ((parts s).map String.toList) := by
  rw [map_toList_parts, Text.join_split]

/-- A character other than the slash is in a text if it is in a part of it. -/
theorem mem_toList_iff {c : Char} (h : c ≠ '/') (s : String) :
    c ∈ s.toList ↔ ∃ p ∈ parts s, c ∈ p.toList := by
  rw [toList_eq_join, Text.mem_join h]
  simp

/-! ## Names -/

/-- Whether a text holds neither sign of a wildcard. -/
abbrev Plain (s : String) : Prop := '+' ∉ s.toList ∧ '#' ∉ s.toList

theorem plain_of_mem_parts {s p : String} (h : Plain s) (hp : p ∈ parts s) : Plain p :=
  ⟨fun hmem => h.1 ((mem_toList_iff (by decide) s).2 ⟨p, hp, hmem⟩),
    fun hmem => h.2 ((mem_toList_iff (by decide) s).2 ⟨p, hp, hmem⟩)⟩

theorem nameFault?_eq_none_iff {s : String} :
    nameFault? s = none ↔
      s ≠ "" ∧ s.utf8ByteSize ≤ maxBytes ∧ '\x00' ∉ s.toList ∧ Plain s := by
  constructor
  · intro h
    unfold nameFault? at h
    split_ifs at h with hempty hlong hnull hwildcard
    exact ⟨mt String.isEmpty_iff.2 hempty, Nat.not_lt.1 hlong, hnull, not_or.1 hwildcard⟩
  · rintro ⟨hne, hshort, hnull, hplain⟩
    rw [nameFault?, if_neg (mt String.isEmpty_iff.1 hne), if_neg (Nat.not_lt.2 hshort),
      if_neg hnull, if_neg (not_or.2 hplain)]

/-- Levels without a sign of a wildcard may stand anywhere. -/
theorem proper_of_plain {s : String} (h : Plain s) : ∀ i < (parts s).length, Proper (parts s) i := by
  intro i hi
  have hlevel := plain_of_mem_parts h (List.getElem_mem hi)
  exact ⟨(parts s)[i], List.getElem?_eq_getElem hi, .inr (.inr hlevel)⟩

/-- A filter without a sign of a wildcard covers the one topic that it is itself. -/
theorem covers_iff_of_plain {s : String} (h : Plain s) (t : String) :
    covers s t = true ↔ t = s := by
  have hmulti : "#" ∉ parts s := fun hmem => (plain_of_mem_parts h hmem).2 (by decide)
  have hsingle : "+" ∉ parts s := fun hmem => (plain_of_mem_parts h hmem).1 (by decide)
  show walk ((parts s).map Level.ofText) (parts t) = true ↔ _
  rw [walk_iff_of_notMem hmulti, forall₂_fits_iff, ← parts_inj]
  constructor
  · rintro ⟨hlength, hfits⟩
    refine List.ext_getElem? fun i => ?_
    by_cases hi : i < (parts s).length
    · exact ((hfits i hi).resolve_left fun hplus => hsingle (List.mem_of_getElem? hplus)).symm
    · rw [List.getElem?_eq_none (Nat.not_lt.1 hi), List.getElem?_eq_none (hlength ▸ Nat.not_lt.1 hi)]
  · intro heq
    rw [heq]
    exact ⟨rfl, fun _ _ => .inr rfl⟩

/-- The names are the filters without a sign of a wildcard, and as a filter each covers itself alone. -/
theorem nameFault?_iff_filterFault? (s : String) :
    (nameFault? s = none ↔ filterFault? s = none ∧ '+' ∉ s.toList ∧ '#' ∉ s.toList) ∧
    (nameFault? s = none → ∀ t, covers s t = true ↔ t = s) := by
  refine ⟨?_, fun hname => covers_iff_of_plain (nameFault?_eq_none_iff.1 hname).2.2.2⟩
  rw [nameFault?_eq_none_iff, filterFault?_eq_none_iff]
  constructor
  · rintro ⟨hne, hshort, hnull, hplain⟩
    exact ⟨⟨hne, hshort, hnull, proper_of_plain hplain⟩, hplain⟩
  · rintro ⟨⟨hne, hshort, hnull, -⟩, hplain⟩
    exact ⟨hne, hshort, hnull, hplain⟩

/-- Empty levels count, in a name as in a filter. -/
theorem name_with_empty_levels :
    nameFault? "/a//b" = none ∧ filterFault? "/a//b" = none ∧ covers "/a//b" "/a//b" = true ∧
      covers "/a//b" "/a/b" = false := by
  have hname : nameFault? "/a//b" = none := by decide
  obtain ⟨hiff, hcovers⟩ := nameFault?_iff_filterFault? "/a//b"
  refine ⟨hname, (hiff.1 hname).1, (hcovers hname _).2 rfl, Bool.eq_false_iff.2 fun h => ?_⟩
  exact absurd ((hcovers hname _).1 h) (by decide)

/-! ## Filters cut off after their first `#` -/

/-- A filter up to its first level that is a `#`, that one included. -/
def upToMulti (f : String) : String :=
  "/".intercalate ((parts f).take ((parts f).idxOf "#" + 1))

/-- The levels of a filter before its first `#`. -/
def front (f : String) : List String := (parts f).take ((parts f).idxOf "#")

theorem parts_upToMulti (f : String) :
    parts (upToMulti f) = (parts f).take ((parts f).idxOf "#" + 1) := by
  refine (isSplit_iff.1 ⟨?_, fun p hp => ?_, rfl⟩).symm
  · rw [ne_eq, List.take_eq_nil_iff]
    simpa using (isSplit_parts f).ne_nil
  · exact (isSplit_parts f).slashless p (List.mem_of_mem_take hp)

/-- Either a filter has no `#` among its levels, or the first is followed by whatever is cut off. -/
theorem parts_cases (f : String) :
    parts f = front f ∧ parts (upToMulti f) = front f ∨
      ∃ more, parts f = front f ++ "#" :: more ∧ parts (upToMulti f) = front f ++ ["#"] := by
  by_cases hmulti : "#" ∈ parts f
  · right
    have hk : (parts f).idxOf "#" < (parts f).length := List.idxOf_lt_length_iff.2 hmulti
    have hat : (parts f)[(parts f).idxOf "#"] = "#" := List.getElem_idxOf hk
    refine ⟨(parts f).drop ((parts f).idxOf "#" + 1), ?_, ?_⟩
    · conv_lhs => rw [← List.take_append_drop ((parts f).idxOf "#") (parts f),
        List.drop_eq_getElem_cons hk, hat]
      rfl
    · rw [parts_upToMulti, List.take_add_one, List.getElem?_eq_getElem hk, hat]
      rfl
  · left
    have hall : ∀ n, (parts f).length ≤ n → (parts f).take n = parts f := fun _ => List.take_of_length_le
    have hk : (parts f).idxOf "#" = (parts f).length := List.idxOf_eq_length hmulti
    rw [parts_upToMulti, front, hk, hall _ (Nat.le_refl _), hall _ (Nat.le_succ _)]
    exact ⟨rfl, rfl⟩

theorem multi_notMem_front (f : String) : "#" ∉ front f := by
  intro hmem
  have hmulti : "#" ∈ parts f := List.mem_of_mem_take hmem
  exact Nat.lt_irrefl _ ((List.mem_take_iff_idxOf_lt hmulti).1 hmem)

/-- What is left has the levels before the first `#`, and a `#` only at the end. -/
theorem mem_front_of_getElem? {f level : String} {i : Nat}
    (h : (parts (upToMulti f))[i]? = some level) :
    level ∈ front f ∨ level = "#" ∧ i + 1 = (parts (upToMulti f)).length := by
  rcases parts_cases f with ⟨-, hcut⟩ | ⟨more, -, hcut⟩
  · rw [hcut] at h
    exact .inl (List.mem_of_getElem? h)
  · rw [hcut, List.getElem?_append] at h
    split at h
    · exact .inl (List.mem_of_getElem? h)
    · next hi =>
      obtain ⟨hlast, hmulti⟩ := List.getElem?_eq_some_iff.1 h
      have hzero : i - (front f).length = 0 := Nat.lt_one_iff.1 hlast
      refine .inr ⟨by simpa [hzero] using hmulti.symm, ?_⟩
      rw [hcut, List.length_append, List.length_singleton]
      omega

/-- What is cut off stands at the end of the text. -/
theorem exists_upToMulti_append (f : String) : ∃ rest, f = upToMulti f ++ rest := by
  rcases parts_cases f with ⟨hparts, hcut⟩ | ⟨more, hparts, hcut⟩
  · have heq : f = upToMulti f := parts_inj.1 (hparts.trans hcut.symm)
    exact ⟨"", by rw [← heq, String.append_empty]⟩
  · rw [List.append_cons, ← hcut] at hparts
    by_cases hmore : more = []
    · rw [hmore, List.append_nil] at hparts
      exact ⟨"", by rw [← parts_inj.1 hparts, String.append_empty]⟩
    · refine ⟨String.ofList ('/' :: Text.join '/' (more.map String.toList)), ?_⟩
      rw [← String.toList_inj, String.toList_append, String.toList_ofList, toList_eq_join f, hparts,
        List.map_append, Text.join_append '/' _ (by simpa using hmore), ← toList_eq_join]
      simpa using (isSplit_parts (upToMulti f)).ne_nil

/-- A filter covers what it covers when it is cut off after its first `#`. -/
theorem covers_upToMulti (f t : String) : covers f t = covers (upToMulti f) t := by
  rw [covers, covers, levels, levels]
  rcases parts_cases f with ⟨hparts, hcut⟩ | ⟨more, hparts, hcut⟩
  · rw [hparts, hcut]
  · have hplain := multi_notMem_front f
    rw [hparts, hcut, List.map_append, List.map_append, List.map_cons, List.map_cons,
      show Level.ofText "#" = .multi from rfl, Bool.eq_iff_iff, walk_iff_of_multi hplain,
      walk_iff_of_multi hplain]

/-- The levels before the first `#` fit parts that the topic begins with. -/
theorem fits_front_of_covers {f t : String} (h : covers f t = true) :
    ∃ ps rest, parts t = ps ++ rest ∧ List.Forall₂ Fits (front f) ps := by
  rw [covers, levels] at h
  have hplain := multi_notMem_front f
  rcases parts_cases f with ⟨hparts, -⟩ | ⟨more, hparts, -⟩
  · rw [hparts, walk_iff_of_notMem hplain] at h
    exact ⟨parts t, [], (List.append_nil _).symm, h⟩
  · rw [hparts, List.map_append, List.map_cons] at h
    exact (walk_iff_of_multi hplain _ _).1 h

theorem mem_of_fits {ls ps : List String} (h : List.Forall₂ Fits ls ps) {level : String}
    (hlevel : level ∈ ls) : level = "+" ∨ level ∈ ps := by
  induction h with
  | nil => exact absurd hlevel List.not_mem_nil
  | cons hfits _ ih =>
    rcases List.mem_cons.1 hlevel with rfl | hlevel
    · rcases hfits with hplus | rfl
      · exact .inl hplus
      · exact .inr List.mem_cons_self
    · exact (ih hlevel).imp_right (List.mem_cons_of_mem _)

/-- Where a filter covers a name, a level before its first `#` is a `+` or as clean as the name. -/
theorem level_of_covers {f t : String} (name : nameFault? t = none) (h : covers f t = true)
    {level : String} (hlevel : level ∈ front f) :
    level = "+" ∨ '\x00' ∉ level.toList ∧ Plain level := by
  obtain ⟨-, -, hnull, hplain⟩ := nameFault?_eq_none_iff.1 name
  obtain ⟨ps, rest, hparts, hfits⟩ := fits_front_of_covers h
  refine (mem_of_fits hfits hlevel).imp_right fun hmem => ?_
  have hpart : level ∈ parts t := hparts ▸ List.mem_append_left rest hmem
  exact ⟨fun hc => hnull ((mem_toList_iff (by decide) t).2 ⟨level, hpart, hc⟩),
    plain_of_mem_parts hplain hpart⟩

/-- The empty filter covers no name. -/
theorem ne_empty_of_covers {f t : String} (name : nameFault? t = none) (h : covers f t = true) :
    f ≠ "" := by
  rintro rfl
  have ht : t = "" := (covers_iff_of_plain (by decide) t).1 h
  exact (nameFault?_eq_none_iff.1 name).1 ht

/-- A filter that covers a name has nothing wrong with it up to its first `#`, whatever its
length. -/
theorem clean_of_covers {f t : String} (name : nameFault? t = none) (h : covers f t = true) :
    upToMulti f ≠ "" ∧ '\x00' ∉ (upToMulti f).toList ∧
      ∀ i < (parts (upToMulti f)).length, Proper (parts (upToMulti f)) i := by
  refine ⟨ne_empty_of_covers name (covers_upToMulti f t ▸ h), ?_, fun i hi => ?_⟩
  · rw [mem_toList_iff (by decide)]
    rintro ⟨level, hlevel, hc⟩
    obtain ⟨i, hi⟩ := List.mem_iff_getElem?.1 hlevel
    rcases mem_front_of_getElem? hi with hfront | ⟨rfl, -⟩
    · rcases level_of_covers name h hfront with rfl | ⟨hclean, -⟩
      · exact absurd hc (by decide)
      · exact hclean hc
    · exact absurd hc (by decide)
  · have hlevel := List.getElem?_eq_getElem hi
    refine ⟨_, hlevel, ?_⟩
    rcases mem_front_of_getElem? hlevel with hfront | hmulti
    · exact (level_of_covers name h hfront).imp_right fun hclean => .inr hclean.2
    · exact .inr (.inl hmulti)

/-- A filter covers what it covers when it is cut off after its first level that is a `#`. Where it
covers a name, what is left of it passes the check or is too long, and nothing else is wrong with it.
So the empty filter, and one with a null character or a sign of a wildcard that does not fill its level
before the first `#`, cover no name. -/
theorem malformed_covers_no_name (f : String) :
    (∃ rest, f = upToMulti f ++ rest) ∧
    parts (upToMulti f) = (parts f).take ((parts f).idxOf "#" + 1) ∧
    (∀ t, covers f t = covers (upToMulti f) t) ∧
    (∀ t, nameFault? t = none → covers f t = true →
      (filterFault? (upToMulti f) = none ∨ filterFault? (upToMulti f) = some .tooLong) ∧
      upToMulti f ≠ "" ∧ '\x00' ∉ (upToMulti f).toList ∧
      ∀ i < (parts (upToMulti f)).length, Proper (parts (upToMulti f)) i) ∧
    ((f = "" ∨ ∃ level ∈ front f, '\x00' ∈ level.toList ∨ '+' ∈ level.toList ∧ level ≠ "+" ∨
        '#' ∈ level.toList ∧ level ≠ "#") →
      ∀ t, nameFault? t = none → covers f t = false) := by
  refine ⟨exists_upToMulti_append f, parts_upToMulti f, covers_upToMulti f, fun t name h => ?_,
    fun malformed t name => ?_⟩
  · have hclean := clean_of_covers name h
    refine ⟨?_, hclean⟩
    obtain ⟨hne, hnull, hproper⟩ := hclean
    rcases filterFault?_cases (upToMulti f) with ⟨hempty, -⟩ | ⟨-, -, hlong⟩ | ⟨-, -, hmem, -⟩ |
      ⟨-, -, -, hlevels⟩
    · exact absurd hempty hne
    · exact .inr hlong
    · exact absurd hmem hnull
    · exact .inl (hlevels.trans ((levelsFault?_eq_none_iff _).2 hproper))
  · rw [Bool.eq_false_iff]
    intro h
    rcases malformed with hempty | ⟨level, hlevel, hbad⟩
    · exact ne_empty_of_covers name h hempty
    · rcases level_of_covers name h hlevel with rfl | ⟨hnull, hsingle, hmulti⟩
      · revert hbad
        decide
      · rcases hbad with hc | ⟨hc, -⟩ | ⟨hc, -⟩
        · exact hnull hc
        · exact hsingle hc
        · exact hmulti hc

/-- Levels after a `#` do not count, a sign inside a level before it does. -/
theorem malformed_before_and_after_multi :
    nameFault? "a/x/y" = none ∧ covers "a/+/#/b#" "a/x/y" = true ∧
      covers "a/+/#/b#" "a/x/y" = covers "a/+/#" "a/x/y" ∧
      (filterFault? "a/+/#" = none ∨ filterFault? "a/+/#" = some .tooLong) ∧
      "a+" ∈ front "a+/#" ∧ covers "a+/#" "a/x/y" = false := by
  have hname : nameFault? "a/x/y" = none := by decide
  have hcovers : covers "a/+/#/b#" "a/x/y" = true := by decide
  have hcut : upToMulti "a/+/#/b#" = "a/+/#" := by decide
  have hfront : "a+" ∈ front "a+/#" := by decide
  obtain ⟨-, -, hsame, hpasses, -⟩ := malformed_covers_no_name "a/+/#/b#"
  obtain ⟨-, -, -, -, hnone⟩ := malformed_covers_no_name "a+/#"
  refine ⟨hname, hcovers, ?_, ?_, hfront, ?_⟩
  · rw [hsame, hcut]
  · rw [← hcut]
    exact (hpasses _ hname hcovers).1
  · exact hnone (.inr ⟨"a+", hfront, .inr (.inl (by decide))⟩) _ hname

end Audience.Topic
