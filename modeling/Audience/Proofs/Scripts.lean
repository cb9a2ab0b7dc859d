import Audience.Script

/-!
# Scripts written out

A command is written as its verb and, where it has one, its argument after a
space (`Command.written`), and a script as its commands a line each
(`Script.written`). What is written is read as it was (`parse_written`), if
every argument can stand on a line: it is not empty, has no blank at either end
and no line end inside. Nothing else is asked of it; blanks inside, carriage
returns and hashes stay what they are. And arguments that have been read are
like that (`hasArguments_of_parse`).

Spans of time are left out of this: they are read as binary fractions of a
second.
-/

namespace Audience

/-! ## Trimmed text -/

namespace Text

/-- Text without a blank at either end. -/
structure Trimmed (cs : List Char) : Prop where
  first : ∀ c ∈ cs.head?, isBlank c = false
  last : ∀ c ∈ cs.getLast?, isBlank c = false

theorem trimStart_eq_self {cs : List Char} (h : ∀ c ∈ cs.head?, isBlank c = false) :
    trimStart cs = cs := by
  cases cs with
  | nil => rfl
  | cons c cs => exact List.dropWhile_cons_of_neg (by simp [h c rfl])

theorem trimStart_cons_of_isBlank {c : Char} (h : isBlank c = true) (cs : List Char) :
    trimStart (c :: cs) = trimStart cs := List.dropWhile_cons_of_pos h

theorem isBlank_of_mem_head?_trimStart {cs : List Char} {c : Char}
    (h : c ∈ (trimStart cs).head?) : isBlank c = false := by
  have hfirst := List.head?_dropWhile_not isBlank cs
  rw [← trimStart, Option.mem_def.1 h] at hfirst
  exact hfirst

theorem reverse_trimEnd (cs : List Char) : (trimEnd cs).reverse = trimStart cs.reverse :=
  List.reverse_reverse _

theorem trimEnd_isPrefix (cs : List Char) : trimEnd cs <+: cs := by
  rw [← List.reverse_suffix, reverse_trimEnd]
  exact List.dropWhile_suffix isBlank

theorem trimmed_trim (cs : List Char) : Trimmed (trim cs) where
  first := by
    intro c hc
    obtain ⟨rest, hrest⟩ := trimEnd_isPrefix (trimStart cs)
    have hfirst : c ∈ (trimStart cs).head? := by
      rw [← hrest, List.head?_append, ← trim, Option.mem_def.1 hc]
      rfl
    exact isBlank_of_mem_head?_trimStart hfirst
  last := by
    intro c hc
    rw [← List.head?_reverse, trim, reverse_trimEnd] at hc
    exact isBlank_of_mem_head?_trimStart hc

theorem Trimmed.trim_eq_self {cs : List Char} (h : Trimmed cs) : trim cs = cs := by
  have hreverse : trimStart cs.reverse = cs.reverse :=
    trimStart_eq_self (by rw [List.head?_reverse]; exact h.last)
  rw [trim, trimStart_eq_self h.first, ← List.reverse_inj, reverse_trimEnd, hreverse]

/-- Trimming leaves what has no blank at either end, and nothing else. -/
theorem trim_eq_self_iff {cs : List Char} : trim cs = cs ↔ Trimmed cs :=
  ⟨fun h => h ▸ trimmed_trim cs, Trimmed.trim_eq_self⟩

theorem trim_cons_of_isBlank {c : Char} (h : isBlank c = true) (cs : List Char) :
    trim (c :: cs) = trim cs := by
  rw [trim, trimStart_cons_of_isBlank h, ← trim]

theorem trimEnd_concat_of_isBlank {c : Char} (h : isBlank c = true) (cs : List Char) :
    trimEnd (cs ++ [c]) = trimEnd cs := by
  rw [trimEnd, List.reverse_concat, List.dropWhile_cons_of_pos h, ← trimEnd]

/-- A blank at the end is trimmed. -/
theorem trim_concat_of_isBlank {c : Char} (h : isBlank c = true) (cs : List Char) :
    trim (cs ++ [c]) = trim cs := by
  rw [trim, trim, trimStart, List.dropWhile_append]
  split
  · next hnil =>
    rw [List.dropWhile_cons_of_pos h, trimStart, List.isEmpty_iff.1 hnil]
    rfl
  · exact trimEnd_concat_of_isBlank h _

theorem mem_of_mem_trim {cs : List Char} {c : Char} (h : c ∈ trim cs) : c ∈ cs :=
  (List.dropWhile_suffix isBlank).subset ((trimEnd_isPrefix _).subset h)

end Text

/-! ## Commands -/

namespace Command

/-- The text that a command has as its argument. -/
def argument? : Command → Option String
  | .subscribe text | .unsubscribe text | .query text => some text
  | .size | .sweep | .sleep _ => none

def isSleep : Command → Bool
  | .sleep _ => true
  | .subscribe _ | .unsubscribe _ | .query _ | .size | .sweep => false

/-- A command as a line of a script. -/
def written : Command → String
  | .subscribe filter => "sub " ++ filter
  | .unsubscribe filter => "unsub " ++ filter
  | .query topic => "has " ++ topic
  | .size => "size"
  | .sweep => "sweep"
  | .sleep span => "sleep " ++ Time.secondsText span

/-- A text that can stand on a line as an argument. -/
structure IsArgument (text : String) : Prop where
  nonempty : text ≠ ""
  trimmed : Text.trim text.toList = text.toList
  oneLine : '\n' ∉ text.toList

/-- A line of a verb, a space and an argument is read as the command of the two. -/
theorem ofChars_append {v : Char} {verb : List Char} {text : String} {command : Command}
    (hhash : v ≠ '#') (hsolid : (v :: verb).all (!Text.isBlank ·) = true) (htext : IsArgument text)
    (h : ofVerb (v :: verb) text.toList = .ok command) :
    ofChars (v :: verb ++ ' ' :: text.toList) = .ok (some command) := by
  have hverb : ∀ c ∈ v :: verb, (!Text.isBlank c) = true := List.all_eq_true.1 hsolid
  have hspace : Text.isBlank ' ' = true := by decide
  have hne : text.toList ≠ [] := by simpa using htext.nonempty
  have hlast : (v :: verb ++ ' ' :: text.toList).getLast? = text.toList.getLast? := by
    rw [List.getLast?_append, List.getLast?_cons_of_ne_nil hne,
      List.getLast?_eq_some_getLast hne, Option.some_or]
  have hline : Text.trim (v :: verb ++ ' ' :: text.toList) = v :: verb ++ ' ' :: text.toList := by
    refine Text.trim_eq_self_iff.2 ⟨fun c hc => ?_, ?_⟩
    · obtain rfl : v = c := Option.some.inj hc
      simpa using hverb v List.mem_cons_self
    · rw [hlast]
      exact (Text.trim_eq_self_iff.1 htext.trimmed).last
  have htake : (v :: verb ++ ' ' :: text.toList).takeWhile (!Text.isBlank ·) = v :: verb := by
    rw [List.takeWhile_append_of_pos hverb,
      List.takeWhile_cons_of_neg (by simp [hspace]), List.append_nil]
  have hdrop : (v :: verb ++ ' ' :: text.toList).dropWhile (!Text.isBlank ·) =
      ' ' :: text.toList := by
    rw [List.dropWhile_append_of_pos hverb,
      List.dropWhile_cons_of_neg (by simp [hspace])]
  rw [ofChars, hline]
  split
  · next hnil => cases hnil
  · next hcons => exact absurd (List.cons.inj hcons).1 hhash
  · simp only [htake, hdrop, Text.trim_cons_of_isBlank hspace, htext.trimmed, h]
    rfl

/-- What is written is read as it was. -/
theorem ofChars_written {command : Command} (awake : command.isSleep = false)
    (h : ∀ text ∈ command.argument?, IsArgument text) :
    ofChars command.written.toList = .ok (some command) := by
  match command with
  | .subscribe filter =>
    have htext := h filter rfl
    have hline : ("sub " ++ filter).toList = ['s', 'u', 'b'] ++ ' ' :: filter.toList := by simp
    rw [written, hline]
    exact ofChars_append (by decide) (by decide) htext
      (by simp [ofVerb, withArgument, htext.nonempty])
  | .unsubscribe filter =>
    have htext := h filter rfl
    have hline : ("unsub " ++ filter).toList =
      ['u', 'n', 's', 'u', 'b'] ++ ' ' :: filter.toList := by simp
    rw [written, hline]
    exact ofChars_append (by decide) (by decide) htext
      (by simp [ofVerb, withArgument, htext.nonempty])
  | .query topic =>
    have htext := h topic rfl
    have hline : ("has " ++ topic).toList = ['h', 'a', 's'] ++ ' ' :: topic.toList := by simp
    rw [written, hline]
    exact ofChars_append (by decide) (by decide) htext
      (by simp [ofVerb, withArgument, htext.nonempty])
  | .size | .sweep => rfl

theorem notMem_written {command : Command} (awake : command.isSleep = false)
    (h : ∀ text ∈ command.argument?, IsArgument text) : '\n' ∉ command.written.toList := by
  match command with
  | .subscribe text | .unsubscribe text | .query text =>
    simpa [written] using (h text rfl).oneLine
  | .size | .sweep => decide

/-! ## Commands that have been read -/

theorem exists_of_map_eq_ok {ε α β : Type} {x : Except ε α} {f : α → β} {b : β}
    (h : x.map f = .ok b) : ∃ a, x = .ok a ∧ f a = b := by
  cases x with
  | error fault => cases h
  | ok a => exact ⟨a, rfl, Except.ok.inj h⟩

theorem withArgument_eq_ok {verb argument : List Char} {make : String → Except CommandFault Command}
    {command : Command} (h : withArgument verb argument make = .ok command) :
    argument ≠ [] ∧ make (String.ofList argument) = .ok command := by
  unfold withArgument at h
  split at h
  · cases h
  · next hne => exact ⟨by simpa using hne, h⟩

/-- The argument of a command that has been read is what stood after the verb. -/
theorem argument?_of_ofVerb {verb argument : List Char} {command : Command}
    (h : ofVerb verb argument = .ok command) {text : String} (htext : text ∈ command.argument?) :
    argument ≠ [] ∧ text = String.ofList argument := by
  unfold ofVerb at h
  split at h
  case h_1 | h_2 | h_3 =>
    obtain ⟨hne, hmade⟩ := withArgument_eq_ok h
    cases hmade
    exact ⟨hne, (Option.some.inj htext).symm⟩
  case h_4 | h_5 =>
    cases h
    cases htext
  case h_6 =>
    obtain ⟨-, hspan⟩ := withArgument_eq_ok h
    unfold ofSeconds at hspan
    split at hspan
    · cases hspan
      cases htext
    · cases hspan
  case h_7 => cases h

/-- The argument that a line is read with could be written on a line. -/
theorem isArgument_of_ofChars {line : List Char} (hline : '\n' ∉ line) {command : Command}
    (h : ofChars line = .ok (some command)) {text : String} (htext : text ∈ command.argument?) :
    IsArgument text := by
  have hread : ∃ verb argument, ofVerb verb (Text.trim argument) = .ok command ∧
      argument <:+ Text.trim line := by
    unfold ofChars at h
    split at h
    · cases h
    · cases h
    · obtain ⟨read, hverb, hsome⟩ := exists_of_map_eq_ok h
      rw [Option.some.inj hsome] at hverb
      exact ⟨_, _, hverb, List.dropWhile_suffix _⟩
  obtain ⟨verb, argument, hread, hsuffix⟩ := hread
  obtain ⟨hne, rfl⟩ := argument?_of_ofVerb hread htext
  have htext : (String.ofList (Text.trim argument)).toList = Text.trim argument :=
    String.toList_ofList
  refine ⟨by simpa using hne, ?_, ?_⟩
  · rw [htext, (Text.trimmed_trim argument).trim_eq_self]
  · rw [htext]
    exact fun hmem => hline (Text.mem_of_mem_trim (hsuffix.subset (Text.mem_of_mem_trim hmem)))

end Command

/-! ## Scripts -/

namespace Script

/-- Commands as a script, a line each. -/
def written (commands : List Command) : String :=
  String.ofList (Text.join '\n' (commands.map (·.written.toList)))

theorem ofLines_map_written {number : Nat} {commands : List Command}
    (h : ∀ command ∈ commands, Command.ofChars command.written.toList = .ok (some command)) :
    ofLines number (commands.map (·.written.toList)) = .ok commands := by
  induction commands generalizing number with
  | nil => rfl
  | cons command commands ih =>
    obtain ⟨hcommand, hcommands⟩ := List.forall_mem_cons.1 h
    simp only [List.map_cons, ofLines, hcommand, ih hcommands]
    rfl

/-- A script that is read has a line for each of its commands. -/
theorem exists_line_of_mem {number : Nat} {lines : List (List Char)} {commands : List Command}
    (h : ofLines number lines = .ok commands) {command : Command} (hmem : command ∈ commands) :
    ∃ line ∈ lines, Command.ofChars line = .ok (some command) := by
  induction lines generalizing number commands with
  | nil =>
    cases h
    cases hmem
  | cons line lines ih =>
    unfold ofLines at h
    split at h
    · cases h
    · obtain ⟨found, hfound, hread⟩ := ih h hmem
      exact ⟨found, List.mem_cons_of_mem _ hfound, hread⟩
    · next first hfirst =>
      obtain ⟨rest, hrest, rfl⟩ := Command.exists_of_map_eq_ok h
      rcases List.mem_cons.1 hmem with rfl | hmem
      · exact ⟨line, List.mem_cons_self, hfirst⟩
      · obtain ⟨found, hfound, hread⟩ := ih hrest hmem
        exact ⟨found, List.mem_cons_of_mem _ hfound, hread⟩

/-- Whether each argument of commands could stand on a line. -/
def HasArguments (commands : List Command) : Prop :=
  ∀ command ∈ commands, ∀ text ∈ command.argument?, Command.IsArgument text

theorem parse_written {commands : List Command}
    (awake : ∀ command ∈ commands, command.isSleep = false) (h : HasArguments commands) :
    parse (written commands) = .ok commands := by
  by_cases hnil : commands = []
  · rw [hnil]
    rfl
  · have hlines : commands.map (·.written.toList) ≠ [] := by simpa using hnil
    have hunbroken : ∀ line ∈ commands.map (·.written.toList), '\n' ∉ line :=
      List.forall_mem_map.2 fun command hmem =>
        Command.notMem_written (awake command hmem) (h command hmem)
    rw [parse, written, String.toList_ofList, Text.split_join hlines hunbroken]
    exact ofLines_map_written fun command hmem =>
      Command.ofChars_written (awake command hmem) (h command hmem)

theorem hasArguments_of_parse {script : String} {commands : List Command}
    (h : parse script = .ok commands) : HasArguments commands := by
  intro command hmem text htext
  obtain ⟨line, hline, hread⟩ := exists_line_of_mem h hmem
  exact Command.isArgument_of_ofChars (Text.notMem_of_mem_split hline) hread htext

/-- Commands without a span of time whose arguments can stand on a line are read from their script as
they were. The arguments that any script is read with can stand on a line, so if it has no span of
time it can be written out again. -/
theorem written_reads_back :
    (∀ commands : List Command, (∀ command ∈ commands, command.isSleep = false) →
      HasArguments commands → parse (written commands) = .ok commands) ∧
    ∀ (script : String) (commands : List Command), parse script = .ok commands →
      HasArguments commands ∧
        ((∀ command ∈ commands, command.isSleep = false) →
          parse (written commands) = .ok commands) :=
  ⟨fun _ => parse_written, fun _ _ h =>
    ⟨hasArguments_of_parse h, fun awake => parse_written awake (hasArguments_of_parse h)⟩⟩

/-- Arguments with blanks, a carriage return, a hash or a wide space inside, and a script that is
not written as it would be written out. -/
theorem written_reads_back_blanks :
    let commands : List Command :=
      [.subscribe "#", .size, .unsubscribe "a \t b", .query "a\rb", .query "x\u3000#"]
    let script := " sub\t# \r\nsize now\n\n# unsub a\nunsub   a \t b\nhas a\rb\r\nhas x\u3000#"
    HasArguments commands ∧ parse (written commands) = .ok commands ∧
      parse script = .ok commands ∧ written commands ≠ script := by
  intro commands script
  have hparse : parse script = .ok commands := by unfold script commands; rfl
  have hawake : ∀ command ∈ commands, command.isSleep = false := by decide
  obtain ⟨harguments, hback⟩ := written_reads_back.2 script commands hparse
  exact ⟨harguments, written_reads_back.1 commands hawake harguments, hparse, by decide⟩

end Script

end Audience
