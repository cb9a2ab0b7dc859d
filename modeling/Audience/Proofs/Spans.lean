import Mathlib.Data.List.TakeWhile
import Audience.Proofs.Rounding
import Audience.Proofs.Scripts

/-!
# Spans of time written out

A script has a span of time in seconds to nine places, and what it is read as
goes through a double. Its digits stand for the span in nanoseconds
(`digitsValue_toDigits`, `digitsValue_padded`), so the numeral is read as the
double nearest to that many billionths (`ofText?_secondsText`), and a span below
`2^23` seconds comes back from there (`Time.ofSeconds?_rounded`).
`Command.sleep_reads_back` has this for whole lines.
-/

namespace Audience

/-! ## Digits -/

theorem digitsValue_eq_ofDigitChars (cs : List Char) :
    digitsValue cs = Nat.ofDigitChars 10 cs 0 :=
  Nat.ofDigitChars_eq_foldl.symm

theorem digitsValue_append (cs ds : List Char) :
    digitsValue (cs ++ ds) = 10 ^ ds.length * digitsValue cs + digitsValue ds := by
  simp only [digitsValue_eq_ofDigitChars]
  rw [Nat.ofDigitChars_append, Nat.ofDigitChars_eq_ofDigitChars_zero]

theorem digitsValue_toDigits (n : Nat) : digitsValue (Nat.toDigits 10 n) = n := by
  rw [digitsValue_eq_ofDigitChars, Nat.ofDigitChars_ten_toDigits]

theorem isDigit_of_mem_toDigits {n : Nat} {c : Char} (h : c ∈ Nat.toDigits 10 n) :
    c.isDigit = true :=
  Nat.isDigit_of_mem_toDigits (by decide) (by decide) h

theorem isBlank_of_isDigit {c : Char} (h : c.isDigit = true) : Text.isBlank c = false := by
  obtain ⟨hlow, hhigh⟩ : 48 ≤ c.toNat ∧ c.toNat ≤ 57 := Char.isDigit_iff_toNat.1 h
  simp only [Text.isBlank, Bool.or_eq_false_iff, Bool.and_eq_false_iff, decide_eq_false_iff_not,
    beq_eq_false_iff_ne]
  omega

theorem toLower_of_isDigit {c : Char} (h : c.isDigit = true) : c.toLower = c := by
  obtain ⟨hlow, hhigh⟩ := Char.isDigit_iff_toNat.1 h
  refine dif_neg fun ⟨hupper, _⟩ => ?_
  have hle : 'A'.toNat ≤ c.toNat := UInt32.le_iff_toNat_le.1 hupper
  exact absurd (Nat.le_trans hle hhigh) (by decide)

namespace Time

theorem digitsValue_padded (width n : Nat) : digitsValue (padded width n) = n := by
  rw [padded, digitsValue_append, digitsValue_toDigits, digitsValue_eq_ofDigitChars,
    Nat.ofDigitChars_replicate_zero]
  simp

theorem length_padded {width n : Nat} (hwidth : 0 < width) (h : n < 10 ^ width) :
    (padded width n).length = width := by
  have hlength := (Nat.length_toDigits_le_iff (by decide) hwidth).2 h
  simp only [padded, List.length_append, List.length_replicate]
  omega

theorem isDigit_of_mem_padded {width n : Nat} {c : Char} (h : c ∈ padded width n) :
    c.isDigit = true := by
  rcases List.mem_append.1 h with hzero | hdigit
  · rw [List.eq_of_mem_replicate hzero]
    rfl
  · exact isDigit_of_mem_toDigits hdigit

end Time

/-! ## Numerals -/

theorem takeSign_of_isDigit {c : Char} (h : c.isDigit = true) (cs : List Char) :
    takeSign (c :: cs) = (false, c :: cs) := by
  unfold takeSign
  split
  · next hcons =>
    rw [(List.cons.inj hcons).1] at h
    cases h
  · next hcons =>
    rw [(List.cons.inj hcons).1] at h
    cases h
  · rfl

namespace Binary64

/-- A numeral of digits with a point among them is the double nearest to what they stand for. -/
theorem ofText?_of_digits {whole places : List Char} (hwhole : ∀ c ∈ whole, c.isDigit = true)
    (hne : whole ≠ []) (hplaces : ∀ c ∈ places, c.isDigit = true) :
    ofText? (whole ++ '.' :: places) =
      some (ofDecimal false (digitsValue (whole ++ places)) (-places.length)) := by
  have hsign : takeSign (whole ++ '.' :: places) = (false, whole ++ '.' :: places) := by
    cases whole with
    | nil => exact absurd rfl hne
    | cons d ds => exact takeSign_of_isDigit (hwhole d List.mem_cons_self) _
  have hword (word : String) (hfirst : word.toList.head?.any Char.isDigit = false) :
      String.ofList ((whole ++ '.' :: places).map Char.toLower) ≠ word := by
    rintro rfl
    cases whole with
    | nil => exact hne rfl
    | cons d ds =>
      have hd := hwhole d List.mem_cons_self
      have hlower : d.toLower.isDigit = false := by simpa using hfirst
      rw [toLower_of_isDigit hd, hd] at hlower
      cases hlower
  have htake : (whole ++ '.' :: places).takeWhile Char.isDigit = whole := by
    rw [List.takeWhile_append_of_pos hwhole, List.takeWhile_cons_of_neg (by decide),
      List.append_nil]
  have hdrop : (whole ++ '.' :: places).dropWhile Char.isDigit = '.' :: places := by
    rw [List.dropWhile_append_of_pos hwhole, List.dropWhile_cons_of_neg (by decide)]
  have htake' : places.takeWhile Char.isDigit = places := List.takeWhile_eq_self_iff.2 hplaces
  have hdrop' : places.dropWhile Char.isDigit = [] := List.dropWhile_eq_nil_iff.2 hplaces
  rw [ofText?, hsign]
  simp only [hword "inf" (by decide), hword "infinity" (by decide), hword "nan" (by decide),
    or_self, if_false]
  simp only [ofDigits?, htake, hdrop, htake', hdrop', exponentOfText?, Option.map_some]
  simp [hne]

/-- So many billionths, if they are less than `2 ^ 23` seconds. -/
theorem ofDecimal_billionths {n : Nat} (hpos : 0 < n) (small : n < 2 ^ 23 * Time.perSecond) :
    ofDecimal false n (-9) = rounded false n Time.perSecond := by
  have hlength : (Nat.toDigits 10 n).length ≤ 16 :=
    (Nat.length_toDigits_le_iff (by decide) (by decide)).2 (Nat.lt_trans small (by decide))
  simp only [ofDecimal]
  rw [if_neg (Nat.ne_of_gt hpos), if_neg (by omega), if_neg (by omega), if_neg (by decide)]
  rfl

end Binary64

/-! ## Spans in seconds -/

namespace Time

theorem toList_secondsText (span : Nat) :
    (secondsText span).toList =
      Nat.toDigits 10 (span / perSecond) ++ '.' :: padded 9 (span % perSecond) :=
  String.toList_ofList

/-- What is written of a span is read as the double nearest to it in seconds. -/
theorem ofText?_secondsText (span : Nat) :
    Binary64.ofText? (secondsText span).toList = some (Binary64.ofDecimal false span (-9)) := by
  have hlength : (padded 9 (span % perSecond)).length = 9 :=
    length_padded (by decide) (Nat.mod_lt span (by decide))
  have hvalue : digitsValue (Nat.toDigits 10 (span / perSecond) ++ padded 9 (span % perSecond)) =
      span := by
    rw [digitsValue_append, digitsValue_toDigits, digitsValue_padded, hlength]
    exact Nat.div_add_mod span perSecond
  rw [toList_secondsText, Binary64.ofText?_of_digits (fun _ => isDigit_of_mem_toDigits)
    Nat.toDigits_ne_nil (fun _ => isDigit_of_mem_padded), hvalue, hlength]
  rfl

theorem ofSeconds?_ofDecimal {span : Nat} (short : span < 2 ^ 23 * perSecond) :
    ofSeconds? (Binary64.ofDecimal false span (-9)) = some span := by
  rcases Nat.eq_zero_or_pos span with rfl | hpos
  · exact ofSeconds?_zero
  · rw [Binary64.ofDecimal_billionths hpos short, ofSeconds?_rounded hpos short]

end Time

namespace Command

theorem isArgument_secondsText (span : Nat) : IsArgument (Time.secondsText span) := by
  have hsolid : ∀ c ∈ (Time.secondsText span).toList, Text.isBlank c = false := by
    rw [Time.toList_secondsText, List.forall_mem_append, List.forall_mem_cons]
    exact ⟨fun c hc => isBlank_of_isDigit (isDigit_of_mem_toDigits hc), by decide,
      fun c hc => isBlank_of_isDigit (Time.isDigit_of_mem_padded hc)⟩
  refine ⟨fun hempty => ?_, Text.trim_eq_self_iff.2 ⟨fun c hc => ?_, fun c hc => ?_⟩,
    fun hmem => ?_⟩
  · have hnil := Time.toList_secondsText span
    rw [hempty] at hnil
    exact List.append_ne_nil_of_right_ne_nil _ (List.cons_ne_nil _ _) hnil.symm
  · exact hsolid c (List.mem_of_mem_head? hc)
  · exact hsolid c (List.mem_of_getLast? hc)
  · cases hsolid '\n' hmem

/-- A line for a short sleep is read as that sleep. -/
theorem parse_written_sleep {span : Nat} (short : span < 2 ^ 23 * Time.perSecond) :
    parse (written (.sleep span)) = .ok (some (.sleep span)) := by
  have hargument := isArgument_secondsText span
  have hread : ofSeconds (Time.secondsText span) = .ok (.sleep span) := by
    rw [ofSeconds, Time.ofText?_secondsText, Option.bind_some, Time.ofSeconds?_ofDecimal short]
  have hline : (written (.sleep span)).toList =
      ['s', 'l', 'e', 'e', 'p'] ++ ' ' :: (Time.secondsText span).toList := by
    simp [written]
  rw [parse, hline]
  refine ofChars_append (by decide) (by decide) hargument ?_
  simp [ofVerb, withArgument, hargument.nonempty, hread]

/-- A sleep below `2 ^ 23` seconds that is written in seconds to nine places, the nanoseconds padded
to nine digits, is read as it was, to the nanosecond. -/
theorem sleep_reads_back {seconds nanos : Nat} (short : seconds < 2 ^ 23)
    (part : nanos < Time.perSecond) :
    let span := seconds * Time.perSecond + nanos
    let places := Time.padded 9 nanos
    (places.length = 9 ∧ (∀ c ∈ places, c.isDigit = true) ∧ digitsValue places = nanos) ∧
      written (.sleep span) = "sleep " ++ toString seconds ++ "." ++ String.ofList places ∧
      parse (written (.sleep span)) = .ok (some (.sleep span)) := by
  intro span places
  have hseconds : span / Time.perSecond = seconds := by
    unfold span Time.perSecond at *
    omega
  have hnanos : span % Time.perSecond = nanos := by
    unfold span Time.perSecond at *
    omega
  have hshort : span < 2 ^ 23 * Time.perSecond := by
    unfold span Time.perSecond at *
    omega
  refine ⟨⟨Time.length_padded (by decide) part, fun c hc => Time.isDigit_of_mem_padded hc,
    Time.digitsValue_padded 9 nanos⟩, ?_, parse_written_sleep hshort⟩
  rw [written, ← String.toList_inj]
  simp [Time.toList_secondsText, hseconds, hnanos, places]

/-- The longest of them. -/
theorem sleep_reads_back_longest :
    8388607 < 2 ^ 23 ∧ 999999999 < Time.perSecond ∧
      written (.sleep 8388607999999999) = "sleep 8388607.999999999" ∧
      parse "sleep 8388607.999999999" = .ok (some (.sleep 8388607999999999)) := by
  have hshort : 8388607 < 2 ^ 23 := by decide
  have hpart : 999999999 < Time.perSecond := by decide
  obtain ⟨-, htext, hread⟩ := sleep_reads_back hshort hpart
  have hspan : 8388607 * Time.perSecond + 999999999 = 8388607999999999 := by decide
  have hline : "sleep " ++ toString 8388607 ++ "." ++ String.ofList (Time.padded 9 999999999) =
      "sleep 8388607.999999999" := by decide
  rw [hspan] at htext hread
  rw [htext, hline] at hread
  exact ⟨hshort, hpart, htext.trans hline, hread⟩

/-- From there on a double has a unit of more than a nanosecond. -/
example : parse "sleep 8388608.000000001" = .ok (some (.sleep 8388608000000002)) := by
  decide +kernel

end Command

end Audience
