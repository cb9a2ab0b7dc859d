import Audience.Settings.Basic
import Mathlib.Data.Set.Subsingleton

/-!
# The grammar of addresses

What a text is read as, said without reading it. A text is an address if it is
written with the host in brackets (`InBrackets`) or without (`Bare`), and else
one of four things is wrong with it (`Unclosed`, `Portless`, `Overfull`,
`Stray`). `Verdict` puts these together:

* `ofText_of_verdict`: each settles what the text is read as;
* `exists_verdict`: one of them is true of any text;
* `ofText_grammar`: so each is true exactly of the texts that are read so, and
  no text is written for two addresses.

A host without colons and brackets can be written either way. With some ports
that makes a difference (`forms_agree_iff`), since the form with brackets does not
look for brackets in the port.
-/

namespace Audience.Address

/-! ## The two forms -/

/-- A text that starts with a bracket is read by the bracketed form. -/
theorem ofText_of_head {text : String} {cs : List Char} (h : text.toList = '[' :: cs) :
    ofText text = ofBracketed cs := by
  rw [ofText, h]
  rfl

theorem ofText_of_not_head {text : String} (h : text.toList.head? ≠ some '[') :
    ofText text = ofPlain text.toList := by
  unfold ofText
  split
  · next hcons => exact absurd (by rw [hcons]; rfl) h
  · rfl

theorem ofBracketed_of_notMem {cs : List Char} (h : ']' ∉ cs) :
    ofBracketed cs = .error .missingBracket := by
  rw [ofBracketed, Text.cut?_eq_none_iff.2 h]

theorem ofBracketed_append_port {host : List Char} (h : ']' ∉ host) (port : List Char) :
    ofBracketed (host ++ ']' :: ':' :: port) =
      if ':' ∈ port then .error .tooManyColons else .ok (ofChars host port) := by
  rw [ofBracketed, Text.cut?_eq_some_iff.2 ⟨rfl, h⟩]
  rfl

theorem ofBracketed_append {host after : List Char} (h : ']' ∉ host)
    (hafter : after.head? ≠ some ':') :
    ofBracketed (host ++ ']' :: after) = .error .missingPort := by
  rw [ofBracketed, Text.cut?_eq_some_iff.2 ⟨rfl, h⟩]
  split
  · next hnone => cases hnone
  · next hcons =>
    obtain ⟨-, rfl⟩ := Prod.mk.inj (Option.some.inj hcons)
    exact absurd rfl hafter
  · rfl

theorem ofPlain_of_notMem {cs : List Char} (h : ':' ∉ cs) : ofPlain cs = .error .missingPort := by
  rw [ofPlain, Text.cutLast?_eq_none_iff.2 h]

theorem ofPlain_append (host : List Char) {port : List Char} (h : ':' ∉ port) :
    ofPlain (host ++ ':' :: port) =
      if ':' ∈ host then .error .tooManyColons
      else if '[' ∈ host ∨ ']' ∈ host ∨ ']' ∈ port then .error .unexpectedBracket
      else .ok (ofChars host port) := by
  rw [ofPlain, Text.cutLast?_eq_some_iff.2 ⟨rfl, h⟩]

theorem exists_last_of_mem {c : Char} {cs : List Char} (h : c ∈ cs) :
    ∃ before after, cs = before ++ c :: after ∧ c ∉ after := by
  cases hcut : Text.cutLast? c cs with
  | none => exact absurd h (Text.cutLast?_eq_none_iff.1 hcut)
  | some parts => exact ⟨parts.1, parts.2, Text.cutLast?_eq_some_iff.1 hcut⟩

/-! ## What is read -/

/-- Whether a text is an address with its host in brackets. -/
structure InBrackets (a : Address) (text : String) : Prop where
  written : text = "[" ++ a.host ++ "]:" ++ a.port
  host : ']' ∉ a.host.toList
  port : ':' ∉ a.port.toList

/-- Whether a text is an address with its host as it is. -/
structure Bare (a : Address) (text : String) : Prop where
  written : text = a.host ++ ":" ++ a.port
  host : ':' ∉ a.host.toList ∧ '[' ∉ a.host.toList ∧ ']' ∉ a.host.toList
  port : ':' ∉ a.port.toList ∧ ']' ∉ a.port.toList

/-- Whether this is what comes after the first bracket that closes. -/
def Closes (cs after : List Char) : Prop := ∃ before, cs = before ++ ']' :: after ∧ ']' ∉ before

/-- Whether a bracket is opened at the start and none closes. -/
def Unclosed (cs : List Char) : Prop := cs.head? = some '[' ∧ ']' ∉ cs

/-- Whether no colon stands where the host ends. -/
def Portless (cs : List Char) : Prop :=
  cs.head? = some '[' ∧ (∃ after, Closes cs after ∧ after.head? ≠ some ':') ∨
    cs.head? ≠ some '[' ∧ ':' ∉ cs

/-- Whether there is a colon more than the one where the host ends. -/
def Overfull (cs : List Char) : Prop :=
  cs.head? = some '[' ∧ (∃ port, Closes cs (':' :: port) ∧ ':' ∈ port) ∨
    cs.head? ≠ some '[' ∧ 2 ≤ cs.count ':'

/-- Whether a bracket stands somewhere else than at the start, and there is no other fault. -/
def Stray (cs : List Char) : Prop :=
  cs.head? ≠ some '[' ∧ ∃ host port, cs = host ++ ':' :: port ∧ ':' ∉ host ∧ ':' ∉ port ∧
    ('[' ∈ host ∨ ']' ∈ host ∨ ']' ∈ port)

/-- What must be true of a text for it to be read with a result. -/
def Verdict (text : String) : Except AddressFault Address → Prop
  | .ok a => a.InBrackets text ∨ a.Bare text
  | .error .missingBracket => Unclosed text.toList
  | .error .missingPort => Portless text.toList
  | .error .tooManyColons => Overfull text.toList
  | .error .unexpectedBracket => Stray text.toList

/-! ### Each verdict settles the result -/

theorem ofChars_toList (a : Address) : ofChars a.host.toList a.port.toList = a := by
  rw [ofChars, String.ofList_toList, String.ofList_toList]

theorem toList_inBrackets (host port : String) :
    ("[" ++ host ++ "]:" ++ port).toList = '[' :: (host.toList ++ ']' :: ':' :: port.toList) := by
  simp

theorem toList_bare (host port : String) :
    (host ++ ":" ++ port).toList = host.toList ++ ':' :: port.toList := by
  simp

theorem head_ne_of_notMem {c d : Char} {cs rest : List Char} (hne : d ≠ c) (h : c ∉ cs) :
    (cs ++ d :: rest).head? ≠ some c := by
  cases cs with
  | nil => exact fun heq => hne (Option.some.inj heq)
  | cons x cs =>
    intro heq
    obtain rfl : x = c := Option.some.inj heq
    exact h List.mem_cons_self

theorem closes_cons_iff {c : Char} {cs after : List Char} (h : c ≠ ']') :
    Closes (c :: cs) after ↔ Closes cs after := by
  constructor
  · rintro ⟨before, heq, hbefore⟩
    cases before with
    | nil => exact absurd (List.cons.inj heq).1 h
    | cons x before =>
      exact ⟨before, (List.cons.inj heq).2, fun hmem => hbefore (List.mem_cons_of_mem _ hmem)⟩
  · rintro ⟨before, rfl, hbefore⟩
    exact ⟨c :: before, rfl, by simp [h.symm, hbefore]⟩

/-- Where a text starts with a bracket, what comes after the first that closes it is read. -/
theorem ofText_of_closes {text : String} {after : List Char}
    (hhead : text.toList.head? = some '[') (h : Closes text.toList after) :
    ∃ host, ']' ∉ host ∧ ofText text = ofBracketed (host ++ ']' :: after) := by
  obtain ⟨rest, hrest⟩ := List.head?_eq_some_iff.1 hhead
  rw [hrest, closes_cons_iff (by decide)] at h
  obtain ⟨host, rfl, hhost⟩ := h
  exact ⟨host, hhost, ofText_of_head hrest⟩

theorem ofText_inBrackets {host : String} (h : ']' ∉ host.toList) (port : String) :
    ofText ("[" ++ host ++ "]:" ++ port) =
      if ':' ∈ port.toList then .error .tooManyColons else .ok ⟨host, port⟩ := by
  rw [ofText_of_head (toList_inBrackets host port), ofBracketed_append_port h,
    ofChars_toList ⟨host, port⟩]

theorem ofText_bare {host port : String} (hopen : '[' ∉ host.toList) (hport : ':' ∉ port.toList) :
    ofText (host ++ ":" ++ port) =
      if ':' ∈ host.toList then .error .tooManyColons
      else if ']' ∈ host.toList ∨ ']' ∈ port.toList then .error .unexpectedBracket
      else .ok ⟨host, port⟩ := by
  have hstart : (host ++ ":" ++ port).toList.head? ≠ some '[' :=
    toList_bare host port ▸ head_ne_of_notMem (by decide) hopen
  rw [ofText_of_not_head hstart, toList_bare, ofPlain_append _ hport, ofChars_toList ⟨host, port⟩]
  simp only [hopen, false_or]

theorem ofText_of_inBrackets {a : Address} {text : String} (h : a.InBrackets text) :
    ofText text = .ok a := by
  rw [h.written, ofText_inBrackets h.host, if_neg h.port]

theorem ofText_of_bare {a : Address} {text : String} (h : a.Bare text) : ofText text = .ok a := by
  obtain ⟨hcolon, hopen, hclose⟩ := h.host
  rw [h.written, ofText_bare hopen h.port.1, if_neg hcolon, if_neg (not_or.2 ⟨hclose, h.port.2⟩)]

theorem ofText_of_unclosed {text : String} (h : Unclosed text.toList) :
    ofText text = .error .missingBracket := by
  obtain ⟨hhead, hnone⟩ := h
  obtain ⟨rest, hrest⟩ := List.head?_eq_some_iff.1 hhead
  rw [hrest] at hnone
  rw [ofText_of_head hrest, ofBracketed_of_notMem fun hmem => hnone (List.mem_cons_of_mem _ hmem)]

theorem ofText_of_portless {text : String} (h : Portless text.toList) :
    ofText text = .error .missingPort := by
  rcases h with ⟨hhead, after, hcloses, hafter⟩ | ⟨hstart, hnone⟩
  · obtain ⟨host, hhost, hread⟩ := ofText_of_closes hhead hcloses
    rw [hread, ofBracketed_append hhost hafter]
  · rw [ofText_of_not_head hstart, ofPlain_of_notMem hnone]

theorem ofText_of_overfull {text : String} (h : Overfull text.toList) :
    ofText text = .error .tooManyColons := by
  rcases h with ⟨hhead, port, hcloses, hport⟩ | ⟨hstart, htwo⟩
  · obtain ⟨host, hhost, hread⟩ := ofText_of_closes hhead hcloses
    rw [hread, ofBracketed_append_port hhost, if_pos hport]
  · have hmem : ':' ∈ text.toList := List.count_pos_iff.1 (by omega)
    obtain ⟨host, port, heq, hport⟩ := exists_last_of_mem hmem
    -- The last colon is one of two at least, so the host has another.
    have hhost : ':' ∈ host := by
      rw [heq, List.count_append, List.count_cons_self, List.count_eq_zero.2 hport] at htwo
      exact List.count_pos_iff.1 (by omega)
    rw [ofText_of_not_head hstart, heq, ofPlain_append host hport, if_pos hhost]

theorem ofText_of_stray {text : String} (h : Stray text.toList) :
    ofText text = .error .unexpectedBracket := by
  obtain ⟨hstart, host, port, heq, hhost, hport, hbracket⟩ := h
  rw [ofText_of_not_head hstart, heq, ofPlain_append host hport, if_neg hhost, if_pos hbracket]

theorem ofText_of_verdict {text : String} {result : Except AddressFault Address}
    (h : Verdict text result) : ofText text = result := by
  match result with
  | .ok a => exact h.elim ofText_of_inBrackets ofText_of_bare
  | .error .missingBracket => exact ofText_of_unclosed h
  | .error .missingPort => exact ofText_of_portless h
  | .error .tooManyColons => exact ofText_of_overfull h
  | .error .unexpectedBracket => exact ofText_of_stray h

/-! ### There is a verdict on every text -/

theorem exists_verdict_of_head {text : String} {cs : List Char} (h : text.toList = '[' :: cs) :
    ∃ result, Verdict text result := by
  have hhead : text.toList.head? = some '[' := by rw [h]; rfl
  by_cases hclose : ']' ∈ cs
  · obtain ⟨host, after, rfl, hhost⟩ := List.eq_append_cons_of_mem hclose
    have hcloses : Closes text.toList after := by
      rw [h, closes_cons_iff (by decide)]
      exact ⟨host, rfl, hhost⟩
    by_cases hafter : after.head? = some ':'
    · obtain ⟨port, rfl⟩ := List.head?_eq_some_iff.1 hafter
      by_cases hport : ':' ∈ port
      · exact ⟨.error .tooManyColons, .inl ⟨hhead, port, hcloses, hport⟩⟩
      · refine ⟨.ok (ofChars host port), .inl ⟨?_, ?_, ?_⟩⟩
        · rw [← String.toList_inj, h, toList_inBrackets]
          simp [ofChars]
        · simpa [ofChars] using hhost
        · simpa [ofChars] using hport
    · exact ⟨.error .missingPort, .inl ⟨hhead, after, hcloses, hafter⟩⟩
  · exact ⟨.error .missingBracket, hhead, by simpa [h] using hclose⟩

theorem exists_verdict_of_not_head {text : String} (h : text.toList.head? ≠ some '[') :
    ∃ result, Verdict text result := by
  by_cases hcolon : ':' ∈ text.toList
  · obtain ⟨host, port, heq, hport⟩ := exists_last_of_mem hcolon
    by_cases hhost : ':' ∈ host
    · have hcount := List.count_pos_iff.2 hhost
      refine ⟨.error .tooManyColons, .inr ⟨h, ?_⟩⟩
      rw [heq, List.count_append, List.count_cons_self]
      omega
    · by_cases hbracket : '[' ∈ host ∨ ']' ∈ host ∨ ']' ∈ port
      · exact ⟨.error .unexpectedBracket, h, host, port, heq, hhost, hport, hbracket⟩
      · obtain ⟨hopen, hclose, hclose'⟩ : '[' ∉ host ∧ ']' ∉ host ∧ ']' ∉ port := by
          simpa using hbracket
        refine ⟨.ok (ofChars host port), .inr ⟨?_, ?_, ?_⟩⟩
        · rw [← String.toList_inj, heq, toList_bare]
          simp [ofChars]
        · simpa [ofChars] using ⟨hhost, hopen, hclose⟩
        · simpa [ofChars] using ⟨hport, hclose'⟩
  · exact ⟨.error .missingPort, .inr ⟨h, hcolon⟩⟩

theorem exists_verdict (text : String) : ∃ result, Verdict text result := by
  by_cases h : text.toList.head? = some '['
  · obtain ⟨cs, hcs⟩ := List.head?_eq_some_iff.1 h
    exact exists_verdict_of_head hcs
  · exact exists_verdict_of_not_head h

theorem verdict_unique {text : String} {one other : Except AddressFault Address}
    (h : Verdict text one) (h' : Verdict text other) : one = other :=
  (ofText_of_verdict h).symm.trans (ofText_of_verdict h')

/-- A text is read with a result exactly if that is the verdict on it. -/
theorem ofText_eq_iff {text : String} {result : Except AddressFault Address} :
    ofText text = result ↔ Verdict text result := by
  refine ⟨fun h => ?_, ofText_of_verdict⟩
  obtain ⟨found, hfound⟩ := exists_verdict text
  rw [← h, ofText_of_verdict hfound]
  exact hfound

/-- What is wrong with a bracket in a text is said if there is nothing else to say. -/
theorem verdict_unexpectedBracket_iff {text : String} :
    Verdict text (.error .unexpectedBracket) ↔
      (∀ a, ¬ Verdict text (.ok a)) ∧ ¬ Verdict text (.error .missingBracket) ∧
        ¬ Verdict text (.error .missingPort) ∧ ¬ Verdict text (.error .tooManyColons) := by
  constructor
  · intro h
    have hno {result : Except AddressFault Address} (hne : .error .unexpectedBracket ≠ result) :
        ¬ Verdict text result :=
      fun h' => hne (verdict_unique h h')
    exact ⟨fun a => hno (by simp), hno (by simp), hno (by simp), hno (by simp)⟩
  · rintro ⟨hok, hbracket, hport, hcolons⟩
    obtain ⟨result, h⟩ := exists_verdict text
    match result with
    | .ok a => exact absurd h (hok a)
    | .error .missingBracket => exact absurd h hbracket
    | .error .missingPort => exact absurd h hport
    | .error .tooManyColons => exact absurd h hcolons
    | .error .unexpectedBracket => exact h

/-! ## The grammar -/

theorem message_injective : Function.Injective AddressFault.message := by
  intro fault other h
  cases fault <;> cases other <;> simp_all [AddressFault.message]

theorem mapError_message_eq_iff {text : String} {fault : AddressFault} :
    (ofText text).mapError (·.message) = .error fault.message ↔ Verdict text (.error fault) := by
  rw [← ofText_eq_iff]
  cases ofText text with
  | error found =>
    simp only [Except.mapError, Except.error.injEq]
    exact message_injective.eq_iff
  | ok a => simp [Except.mapError]

/-- A text is read as a host and a port exactly if it is written for them in one of the two forms,
which it is for one host and one port at most. Any other text is refused: because the bracket at its
start is not closed, because no port comes after the host, because of a colon too many, or if it is
none of these because of a bracket where none should be. -/
theorem ofText_grammar (text : String) :
    (∀ a, ofText text = .ok a ↔ a.InBrackets text ∨ a.Bare text) ∧
    {a : Address | a.InBrackets text ∨ a.Bare text}.Subsingleton ∧
    let said := (ofText text).mapError (·.message)
    (said = .error "missing ']' in address" ↔ Unclosed text.toList) ∧
    (said = .error "missing port in address" ↔ Portless text.toList) ∧
    (said = .error "too many colons in address" ↔ Overfull text.toList) ∧
    (said = .error "unexpected bracket in address" ↔
      (∀ a : Address, ¬ (a.InBrackets text ∨ a.Bare text)) ∧
        ¬ Unclosed text.toList ∧ ¬ Portless text.toList ∧ ¬ Overfull text.toList) := by
  have hsaid (fault : AddressFault) := @mapError_message_eq_iff text fault
  refine ⟨fun a => ofText_eq_iff, fun a ha b hb => ?_, hsaid .missingBracket, hsaid .missingPort,
    hsaid .tooManyColons, (hsaid .unexpectedBracket).trans verdict_unexpectedBracket_iff⟩
  exact Except.ok.inj (@verdict_unique text (.ok a) (.ok b) ha hb)

/-- A host with colons in it needs its brackets. -/
example : ofText "[::1]:1883" = .ok ⟨"::1", "1883"⟩ ∧
    ofText "::1:1883" = .error .tooManyColons := by decide

/-! ## One host in both forms -/

theorem ofText_bare_of_mem {host port : String} (hopen : '[' ∉ host.toList)
    (hport : ':' ∈ port.toList) : ofText (host ++ ":" ++ port) = .error .tooManyColons := by
  have htext := toList_bare host port
  refine ofText_of_overfull (.inr ⟨htext ▸ head_ne_of_notMem (by decide) hopen, ?_⟩)
  have hcount := List.count_pos_iff.2 hport
  rw [htext, List.count_append, List.count_cons_self]
  omega

/-- A host that could be written either way is taken with the same ports in both forms, but for
those with a bracket that closes and no colon: they pass if the host is in brackets and not if it
is bare. -/
theorem forms_agree_iff {host : String}
    (plain : ':' ∉ host.toList ∧ '[' ∉ host.toList ∧ ']' ∉ host.toList) (port : String) :
    (ofText ("[" ++ host ++ "]:" ++ port) =
      if ':' ∈ port.toList then .error .tooManyColons else .ok ⟨host, port⟩) ∧
    (ofText (host ++ ":" ++ port) =
      if ':' ∈ port.toList then .error .tooManyColons
      else if ']' ∈ port.toList then .error .unexpectedBracket else .ok ⟨host, port⟩) ∧
    (ofText ("[" ++ host ++ "]:" ++ port) = ofText (host ++ ":" ++ port) ↔
      ':' ∈ port.toList ∨ ']' ∉ port.toList) := by
  obtain ⟨hcolon, hopen, hclose⟩ := plain
  rw [ofText_inBrackets hclose port]
  by_cases hport : ':' ∈ port.toList
  · rw [ofText_bare_of_mem hopen hport]
    simp [hport]
  · rw [ofText_bare hopen hport]
    simp [hport, hcolon, hclose]

/-- A bracket that opens passes in the port of either form. -/
theorem forms_agree_on_opening_bracket :
    let host := "localhost"
    let port := "[80"
    (':' ∉ host.toList ∧ '[' ∉ host.toList ∧ ']' ∉ host.toList) ∧
      ofText ("[" ++ host ++ "]:" ++ port) = ofText (host ++ ":" ++ port) ∧
      ofText (host ++ ":" ++ port) = .ok ⟨host, port⟩ := by
  intro host port
  have hplain : ':' ∉ host.toList ∧ '[' ∉ host.toList ∧ ']' ∉ host.toList := by decide
  obtain ⟨-, hbare, hagree⟩ := forms_agree_iff hplain port
  exact ⟨hplain, hagree.2 (.inr (by decide)), hbare.trans (by decide)⟩

/-- A bracket that closes does not, so that options with one in the port of their address pass the
check or not, as the host is written. -/
theorem closing_bracket_in_port :
    let host := "a"
    let port := "]"
    let options (address : String) : ListenOptions := { tcpEnabled := true, tcpAddress := address }
    (':' ∉ host.toList ∧ '[' ∉ host.toList ∧ ']' ∉ host.toList) ∧
      ofText ("[" ++ host ++ "]:" ++ port) = .ok ⟨host, port⟩ ∧
      ofText (host ++ ":" ++ port) = .error .unexpectedBracket ∧
      Settings.optionsFault? (options ("[" ++ host ++ "]:" ++ port)) = none ∧
      Settings.optionsFault? (options (host ++ ":" ++ port)) =
        some (.tcpAddress "a:]" .unexpectedBracket) := by
  decide

end Audience.Address
