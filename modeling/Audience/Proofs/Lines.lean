import Audience.CommandLine
import Audience.Proofs.Scripts
import Mathlib.Data.List.Forall2

/-!
# Scripts line by line

A script is read a line after the other, so one that is put together of two is
read as the first and then the second (`parse_append`): the commands of both, or
the fault of the first, or that of the second with its line counted on
(`ofLines_add`). The fault is that of the first line that is no command
(`parse_eq_error_iff`). Since blanks at the end of a line say nothing, a carriage
return before every line end changes nothing (`parse_withReturns`).

All of the script is read before anything is done (`Invocation.outcome_of_isBad`).
`parse_by_lines` has these together.
-/

namespace Audience

/-! ## Text -/

namespace Text

/-- A text with a carriage return before every line end. -/
def withReturns (cs : List Char) : List Char :=
  cs.flatMap fun c => if c = '\n' then ['\r', '\n'] else [c]

theorem withReturns_cons_lineEnd (cs : List Char) :
    withReturns ('\n' :: cs) = '\r' :: '\n' :: withReturns cs := rfl

theorem withReturns_cons_of_ne {c : Char} (h : c ≠ '\n') (cs : List Char) :
    withReturns (c :: cs) = c :: withReturns cs := by
  simp [withReturns, h]

/-- Line by line the carriage returns stand at the end. -/
theorem forall₂_split_withReturns (cs : List Char) :
    List.Forall₂ (fun returned line => returned = line ∨ returned = line ++ ['\r'])
      (split '\n' (withReturns cs)) (split '\n' cs) := by
  induction cs with
  | nil => exact .cons (.inl rfl) .nil
  | cons c cs ih =>
    by_cases h : c = '\n'
    · subst h
      rw [withReturns_cons_lineEnd, split_cons_self]
      exact .cons (.inr rfl) ih
    · obtain ⟨line, lines, hlines, hcons⟩ := split_cons_of_ne h cs
      obtain ⟨returned, rest, hrest, hcons'⟩ := split_cons_of_ne h (withReturns cs)
      rw [hlines, hrest] at ih
      cases ih with
      | cons hfirst hlater =>
        rw [withReturns_cons_of_ne h, hcons, hcons']
        exact .cons (hfirst.imp (congrArg (c :: ·)) (congrArg (c :: ·))) hlater

end Text

/-! ## One line -/

namespace Command

/-- A carriage return at the end of a line says nothing. -/
theorem ofChars_concat_return (line : List Char) : ofChars (line ++ ['\r']) = ofChars line := by
  rw [ofChars, ofChars, Text.trim_concat_of_isBlank (by decide)]

theorem parse_ofList (line : List Char) : parse (String.ofList line) = ofChars line := by
  rw [parse, String.toList_ofList]

end Command

/-! ## All lines -/

/-- A fault with its line counted on by so many. -/
def ScriptFault.after (lines : Nat) (f : ScriptFault) : ScriptFault :=
  { f with line := f.line + lines }

namespace Script

section

variable {number : Nat} {line : List Char} {lines more : List (List Char)}

theorem ofLines_cons_of_error {fault : CommandFault} (h : Command.ofChars line = .error fault) :
    ofLines number (line :: lines) = .error ⟨number, fault⟩ := by
  rw [ofLines, h]

theorem ofLines_cons_of_ok {said : Option Command} (h : Command.ofChars line = .ok said) :
    ofLines number (line :: lines) = (ofLines (number + 1) lines).map (said.toList ++ ·) := by
  rw [ofLines, h]
  cases said with
  | none => cases ofLines (number + 1) lines <;> rfl
  | some command => rfl

/-- The number that lines are counted from tells in the line of their fault only. -/
theorem ofLines_add (count : Nat) :
    ofLines (number + count) lines = (ofLines number lines).mapError (·.after count) := by
  induction lines generalizing number with
  | nil => rfl
  | cons line lines ih =>
    cases h : Command.ofChars line with
    | error fault =>
      rw [ofLines_cons_of_error h, ofLines_cons_of_error h]
      rfl
    | ok said =>
      rw [ofLines_cons_of_ok h, ofLines_cons_of_ok h, Nat.add_right_comm, ih]
      cases ofLines (number + 1) lines <;> rfl

/-- Lines are read up to the first that is bad, and what comes after them if there is none. -/
theorem ofLines_append :
    ofLines number (lines ++ more) = (ofLines number lines).bind fun commands =>
      (ofLines (number + lines.length) more).map (commands ++ ·) := by
  induction lines generalizing number with
  | nil => cases h : ofLines number more <;> simp [ofLines, h, Except.bind, Except.map]
  | cons line lines ih =>
    rw [List.cons_append]
    cases h : Command.ofChars line with
    | error fault =>
      rw [ofLines_cons_of_error h, ofLines_cons_of_error h]
      rfl
    | ok said =>
      rw [ofLines_cons_of_ok h, ofLines_cons_of_ok h, ih, List.length_cons,
        Nat.add_right_comm number 1, Nat.add_assoc]
      cases ofLines (number + 1) lines with
      | error fault => rfl
      | ok commands =>
        cases ofLines (number + (lines.length + 1)) more with
        | error fault => rfl
        | ok later => simp [Except.bind, Except.map]

/-- Lines that say the same one for one are read alike. -/
theorem ofLines_congr
    (same : List.Forall₂ (fun line other => Command.ofChars line = Command.ofChars other)
      lines more) :
    ofLines number lines = ofLines number more := by
  induction same generalizing number with
  | nil => rfl
  | cons hfirst _ ih => rw [ofLines, ofLines, hfirst, ih]

theorem map_eq_error_iff {ε α β : Type} {x : Except ε α} {f : α → β} {e : ε} :
    x.map f = .error e ↔ x = .error e := by
  cases x <;> simp [Except.map]

/-- The fault of lines is that of the first that is bad. -/
theorem ofLines_eq_error_iff {fault : ScriptFault} :
    ofLines number lines = .error fault ↔
      ∃ i line, lines[i]? = some line ∧ fault.line = number + i ∧
        Command.ofChars line = .error fault.fault ∧
        ∀ earlier ∈ lines.take i, ∀ other, Command.ofChars earlier ≠ .error other := by
  induction lines generalizing number with
  | nil => simp [ofLines]
  | cons line lines ih =>
    cases h : Command.ofChars line with
    | error first =>
      rw [ofLines_cons_of_error h]
      constructor
      · rintro ⟨⟩
        exact ⟨0, line, rfl, rfl, h, fun _ hmem => absurd hmem List.not_mem_nil⟩
      · rintro ⟨i, bad, hbad, hline, hfault, hgood⟩
        cases i with
        | zero =>
          obtain rfl := Option.some.inj hbad
          rw [h] at hfault
          obtain ⟨number', fault'⟩ := fault
          obtain rfl : number' = number := hline
          rw [Except.error.inj hfault]
        | succ i => exact absurd h (hgood line List.mem_cons_self first)
    | ok said =>
      rw [ofLines_cons_of_ok h, map_eq_error_iff, ih]
      constructor
      · rintro ⟨i, bad, hbad, hline, hfault, hgood⟩
        refine ⟨i + 1, bad, hbad, by omega, hfault, ?_⟩
        rw [List.take_succ_cons, List.forall_mem_cons]
        refine ⟨fun other hother => ?_, hgood⟩
        rw [h] at hother
        cases hother
      · rintro ⟨i, bad, hbad, hline, hfault, hgood⟩
        cases i with
        | zero =>
          obtain rfl := Option.some.inj hbad
          rw [h] at hfault
          cases hfault
        | succ i =>
          rw [List.take_succ_cons, List.forall_mem_cons] at hgood
          exact ⟨i, bad, hbad, by omega, hfault, hgood.2⟩

/-- Where a line is bad there is a fault. -/
theorem exists_fault_of_mem (hmem : line ∈ lines) {fault : CommandFault}
    (h : Command.ofChars line = .error fault) : ∃ found, ofLines number lines = .error found := by
  obtain ⟨before, after, rfl⟩ := List.append_of_mem hmem
  rw [ofLines_append, ofLines_cons_of_error h]
  cases ofLines number before with
  | error found => exact ⟨found, rfl⟩
  | ok commands => exact ⟨_, rfl⟩

end

/-! ## Scripts -/

/-- The lines of a script. -/
def lines (script : String) : List String := (Text.split '\n' script.toList).map String.ofList

/-- Whether a line is no command, and does not say nothing either. -/
def IsBad (line : String) : Prop := ∃ fault, Command.parse line = .error fault

/-- A script with a carriage return before every line end. -/
def withReturns (script : String) : String := String.ofList (Text.withReturns script.toList)

/-- A script is read as its first part and then its second, the lines of which come after those of
the first. -/
theorem parse_append (a b : String) :
    parse (a ++ "\n" ++ b) = (parse a).bind fun commands =>
      ((parse b).mapError (·.after (a.toList.count '\n' + 1))).map (commands ++ ·) := by
  have hlines : Text.split '\n' (a ++ "\n" ++ b).toList =
      Text.split '\n' a.toList ++ Text.split '\n' b.toList := by
    rw [← Text.split_append]
    simp
  rw [parse, hlines, ofLines_append, Text.length_split, ofLines_add]
  rfl

theorem parse_withReturns (script : String) : parse (withReturns script) = parse script := by
  rw [parse, parse, withReturns, String.toList_ofList]
  refine ofLines_congr ((Text.forall₂_split_withReturns script.toList).imp ?_)
  intro returned line h
  rcases h with rfl | rfl
  · rfl
  · exact Command.ofChars_concat_return line

theorem parse_eq_error_iff {script : String} {fault : ScriptFault} :
    parse script = .error fault ↔
      ∃ i line, (lines script)[i]? = some line ∧ fault.line = i + 1 ∧
        Command.parse line = .error fault.fault ∧
        ∀ earlier ∈ (lines script).take i, ¬ IsBad earlier := by
  rw [parse, ofLines_eq_error_iff]
  simp only [lines, IsBad, List.getElem?_map, Option.map_eq_some_iff, ← List.map_take,
    List.forall_mem_map, Command.parse_ofList, not_exists]
  constructor
  · rintro ⟨i, line, hline, hnumber, hfault, hgood⟩
    exact ⟨i, _, ⟨line, hline, rfl⟩, by omega, by rwa [Command.parse_ofList], hgood⟩
  · rintro ⟨i, _, ⟨line, hline, rfl⟩, hnumber, hfault, hgood⟩
    exact ⟨i, line, hline, by omega, by rwa [Command.parse_ofList] at hfault, hgood⟩

theorem exists_fault_of_isBad {script line : String} (hmem : line ∈ lines script)
    (h : IsBad line) : ∃ fault, parse script = .error fault := by
  obtain ⟨cs, hcs, rfl⟩ := List.mem_map.1 hmem
  obtain ⟨fault, hfault⟩ := h
  exact exists_fault_of_mem hcs (by rwa [Command.parse_ofList] at hfault)

end Script

/-! ## The program -/

/-- A script with a bad line is not replayed. The program writes nothing but what is wrong, with the
script or with the settings, which it reads first. -/
theorem Invocation.outcome_of_isBad {i : Invocation} {a : Arguments} {text line : String}
    (run : Arguments.parse {} i.arguments = .run a) (script : i.script? a = some text)
    (hmem : line ∈ Script.lines text) (bad : Script.IsBad line) :
    ∃ refusal, i.job a = .error refusal ∧
      i.outcome.refusal = some refusal ∧ i.outcome.code = 1 ∧ i.outcome.output = "" ∧
      ∀ s, i.settings a = .ok s →
        ∃ fault, Script.parse text = .error fault ∧ refusal = .badScript fault := by
  have houtcome {refusal : Refusal} (hjob : i.job a = .error refusal) :
      i.outcome.refusal = some refusal ∧ i.outcome.code = 1 ∧ i.outcome.output = "" := by
    simp only [outcome, run, hjob, and_self]
  cases hsettings : i.settings a with
  | error failure =>
    have hjob : i.job a = .error (.settings failure) := by simp only [job, hsettings]
    obtain ⟨hrefusal, hcode, houtput⟩ := houtcome hjob
    refine ⟨_, hjob, hrefusal, hcode, houtput, fun s hok => ?_⟩
    cases hok
  | ok s =>
    obtain ⟨fault, hfault⟩ := Script.exists_fault_of_isBad hmem bad
    have hjob : i.job a = .error (.badScript fault) := by simp only [job, hsettings, script, hfault]
    obtain ⟨hrefusal, hcode, houtput⟩ := houtcome hjob
    exact ⟨_, hjob, hrefusal, hcode, houtput, fun _ _ => ⟨fault, hfault, rfl⟩⟩

/-- Scripts are read line by line: one put together of two as the first and then the second, with
the fault of the first bad line, whatever the line ends, and all of it before anything is done. -/
theorem Script.parse_by_lines :
    (∀ a b fault, parse a = .error fault → parse (a ++ "\n" ++ b) = .error fault) ∧
    (∀ a b commands more, parse a = .ok commands → parse b = .ok more →
      parse (a ++ "\n" ++ b) = .ok (commands ++ more)) ∧
    (∀ a b commands fault, parse a = .ok commands → parse b = .error fault →
      parse (a ++ "\n" ++ b) = .error (fault.after (a.toList.count '\n' + 1))) ∧
    (∀ script fault, parse script = .error fault ↔
      ∃ i line, (lines script)[i]? = some line ∧ fault.line = i + 1 ∧
        Command.parse line = .error fault.fault ∧
        ∀ earlier ∈ (lines script).take i, ¬ IsBad earlier) ∧
    (∀ script, parse (withReturns script) = parse script) ∧
    (∀ (i : Invocation) (a : Arguments) (text line : String),
      Arguments.parse {} i.arguments = .run a → i.script? a = some text →
      line ∈ lines text → IsBad line →
      ∃ refusal, i.job a = .error refusal ∧
        i.outcome.refusal = some refusal ∧ i.outcome.code = 1 ∧ i.outcome.output = "" ∧
        ∀ s, i.settings a = .ok s →
          ∃ fault, parse text = .error fault ∧ refusal = .badScript fault) := by
  refine ⟨fun a b fault ha => ?_, fun a b commands more ha hb => ?_,
    fun a b commands fault ha hb => ?_, fun _ _ => parse_eq_error_iff, parse_withReturns,
    fun _ _ _ _ => Invocation.outcome_of_isBad⟩
  · rw [parse_append, ha]
    rfl
  · rw [parse_append, ha, hb]
    rfl
  · rw [parse_append, ha, hb]
    rfl

/-- A part with a carriage return and a note, and one whose second line is bad. -/
theorem Script.parse_by_lines_of_two_parts :
    let a := "sub x\r\n\n# note"
    let b := "size\nfrob 1\nsub"
    let i : Invocation := ⟨[], [], fun _ => .missing, (a ++ "\n" ++ b).toUTF8⟩
    parse a = .ok [.subscribe "x"] ∧ parse b = .error ⟨2, .unknownVerb "frob"⟩ ∧
      parse (a ++ "\n" ++ a) = .ok [.subscribe "x", .subscribe "x"] ∧
      parse (a ++ "\n" ++ b) = .error ⟨5, .unknownVerb "frob"⟩ ∧
      parse (b ++ "\n" ++ a) = .error ⟨2, .unknownVerb "frob"⟩ ∧
      parse (withReturns a) = .ok [.subscribe "x"] ∧
      i.outcome.code = 1 ∧ i.outcome.output = "" := by
  intro a b i
  obtain ⟨hfirst, hboth, hsecond, -, hreturns, hprogram⟩ := parse_by_lines
  have ha : parse a = .ok [.subscribe "x"] := by unfold a; rfl
  have hb : parse b = .error ⟨2, .unknownVerb "frob"⟩ := by unfold b; rfl
  have hbefore : a.toList.count '\n' + 1 = 3 := by unfold a; rfl
  have hlater : parse (a ++ "\n" ++ b) = .error ⟨5, .unknownVerb "frob"⟩ := by
    rw [hsecond a b _ _ ha hb, hbefore]
    rfl
  have hscript : i.script? {} = some (a ++ "\n" ++ b) := dif_pos (a ++ "\n" ++ b).isValidUTF8
  have hmem : "frob 1" ∈ lines (a ++ "\n" ++ b) := by unfold a b; decide
  have hbad : IsBad "frob 1" := ⟨.unknownVerb "frob", rfl⟩
  obtain ⟨-, -, -, hcode, houtput, -⟩ := hprogram i {} _ _ rfl hscript hmem hbad
  exact ⟨ha, hb, hboth a a _ _ ha ha, hlater, hfirst b a _ hb,
    (hreturns a).trans ha, hcode, houtput⟩

end Audience
