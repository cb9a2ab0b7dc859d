import Audience.Proofs.Scripts
import Mathlib.Data.List.Basic
import Mathlib.Data.List.Induction
import Mathlib.Data.List.TakeWhile

/-!
# The grammar of command lines

What a line of a script is read as, said without reading it. A line is `Silent`
if it has nothing but blanks, or a hash as the first that is none; every other
line `Says` one verb and one argument, with blanks around and between them, and
the two have a meaning (`Means`), a command or the text of what is wrong with
them.

* `says_iff`: unless it is silent, a line says its first word and what is left
  when the rest is trimmed, and nothing else;
* `ofChars_of_said`: that is the verb and the argument that it is read as;
* `means_iff`: every verb and argument has one meaning;
* `parse_grammar`: so a line is read as the meaning of what it says, whatever the
  blanks.
-/

namespace Audience

/-! ## Words and blanks -/

namespace Text

/-- Text with nothing but blanks in it, if anything. -/
def AllBlank (cs : List Char) : Prop := ∀ c ∈ cs, isBlank c = true

/-- Text without blanks. -/
def Solid (cs : List Char) : Prop := ∀ c ∈ cs, isBlank c = false

-- Decided along the text: there are too many characters to try them all.
instance (cs : List Char) : Decidable (AllBlank cs) :=
  decidable_of_iff (cs.all isBlank = true) List.all_eq_true

instance (cs : List Char) : Decidable (Solid cs) :=
  decidable_of_iff (cs.all (!isBlank ·) = true) (by simp [Solid])

/-- The characters up to the first blank. -/
def firstWord (cs : List Char) : List Char := cs.takeWhile (!isBlank ·)

/-- What comes from the first blank on. -/
def afterWord (cs : List Char) : List Char := cs.dropWhile (!isBlank ·)

variable {before after word rest cs : List Char}

theorem trim_append_left (h : AllBlank before) (cs : List Char) : trim (before ++ cs) = trim cs := by
  rw [trim, trimStart, List.dropWhile_append_of_pos h]
  rfl

theorem trim_append_right (h : AllBlank after) (cs : List Char) : trim (cs ++ after) = trim cs := by
  induction after using List.reverseRecOn with
  | nil => rw [List.append_nil]
  | append_singleton after c ih =>
    obtain ⟨hafter, hc⟩ := List.forall_mem_append.1 h
    rw [← List.append_assoc, trim_concat_of_isBlank (hc c (List.mem_singleton_self c)), ih hafter]

theorem exists_trimEnd_append (cs : List Char) : ∃ after, cs = trimEnd cs ++ after ∧ AllBlank after := by
  refine ⟨(cs.reverse.takeWhile isBlank).reverse, ?_, ?_⟩
  · rw [trimEnd, ← List.reverse_append, List.takeWhile_append_dropWhile, List.reverse_reverse]
  · exact fun c hc => List.mem_takeWhile_imp (List.mem_reverse.1 hc)

theorem trim_trimEnd (cs : List Char) : trim (trimEnd cs) = trim cs := by
  obtain ⟨after, hcs, hafter⟩ := exists_trimEnd_append cs
  rw [← trim_append_right hafter, ← hcs]

/-- A text is what is left of it when it is trimmed, and blanks. -/
theorem exists_blanks_around (cs : List Char) :
    ∃ before after, cs = before ++ trim cs ++ after ∧ AllBlank before ∧ AllBlank after := by
  obtain ⟨after, hcs, hafter⟩ := exists_trimEnd_append (trimStart cs)
  refine ⟨cs.takeWhile isBlank, after, ?_, fun c hc => List.mem_takeWhile_imp hc, hafter⟩
  rw [List.append_assoc, trim, ← hcs, trimStart, List.takeWhile_append_dropWhile]

/-- Trimming does not reach past a word. -/
theorem trim_append_of_solid (hne : word ≠ []) (hword : Solid word) (rest : List Char) :
    trim (word ++ rest) = word ++ trimEnd rest := by
  have htrimmed : Trimmed (word ++ trimEnd rest) := by
    constructor
    · intro c hc
      rw [List.head?_append_of_ne_nil _ hne] at hc
      exact hword c (List.mem_of_mem_head? hc)
    · intro c hc
      rw [List.getLast?_append, Option.mem_def, Option.or_eq_some_iff] at hc
      rcases hc with hc | ⟨-, hc⟩
      · rw [← List.head?_reverse, reverse_trimEnd] at hc
        exact isBlank_of_mem_head?_trimStart hc
      · exact hword c (List.mem_of_getLast? hc)
  obtain ⟨after, hrest, hafter⟩ := exists_trimEnd_append rest
  calc trim (word ++ rest)
      = trim (word ++ trimEnd rest ++ after) := by rw [List.append_assoc, ← hrest]
    _ = trim (word ++ trimEnd rest) := trim_append_right hafter _
    _ = word ++ trimEnd rest := htrimmed.trim_eq_self

theorem firstWord_append (hword : Solid word) (hrest : ∀ c ∈ rest.head?, isBlank c = true) :
    firstWord (word ++ rest) = word := by
  rw [firstWord, List.takeWhile_append_of_pos fun c hc => by simp [hword c hc]]
  cases rest with
  | nil => rw [List.takeWhile_nil, List.append_nil]
  | cons c rest => rw [List.takeWhile_cons_of_neg (by simp [hrest c rfl]), List.append_nil]

theorem afterWord_append (hword : Solid word) (hrest : ∀ c ∈ rest.head?, isBlank c = true) :
    afterWord (word ++ rest) = rest := by
  rw [afterWord, List.dropWhile_append_of_pos fun c hc => by simp [hword c hc]]
  cases rest with
  | nil => rfl
  | cons c rest => exact List.dropWhile_cons_of_neg (by simp [hrest c rfl])

theorem head?_trimEnd (hrest : ∀ c ∈ rest.head?, isBlank c = true) :
    ∀ c ∈ (trimEnd rest).head?, isBlank c = true := by
  intro c hc
  obtain ⟨after, hcut⟩ := trimEnd_isPrefix rest
  refine hrest c ?_
  rw [← hcut, List.head?_append, Option.mem_def.1 hc]
  rfl

end Text

namespace Command

/-! ## What a line says -/

/-- A word that can be a verb: it does not start with a hash. -/
structure IsVerb (word : List Char) : Prop where
  nonempty : word ≠ []
  solid : Text.Solid word
  unhashed : word.head? ≠ some '#'

/-- Whether a line says nothing: there is nothing but blanks in it, or the first that is none is a
hash. -/
def Silent (line : List Char) : Prop :=
  Text.AllBlank line ∨ ∃ before after, line = before ++ '#' :: after ∧ Text.AllBlank before

/-- Whether a line says a verb and an argument. The argument is empty if it has none, and else apart
from the verb. -/
def Says (line verb argument : List Char) : Prop :=
  IsVerb verb ∧ Text.Trimmed argument ∧
    ∃ before gap after, line = before ++ verb ++ gap ++ argument ++ after ∧
      Text.AllBlank before ∧ Text.AllBlank gap ∧ Text.AllBlank after ∧ (argument ≠ [] → gap ≠ [])

variable {line other before verb rest gap argument : List Char}

/-- What a line says is its first word and what the rest is trimmed to. -/
theorem says_iff_exists_rest : Says line verb argument ↔ IsVerb verb ∧
    ∃ before rest, line = before ++ (verb ++ rest) ∧ Text.AllBlank before ∧
      (∀ c ∈ rest.head?, Text.isBlank c = true) ∧ Text.trim rest = argument := by
  constructor
  · rintro ⟨hverb, htrimmed, before, gap, after, rfl, hbefore, hgap, hafter, happart⟩
    refine ⟨hverb, before, gap ++ argument ++ after, by simp, hbefore, fun c hc => ?_, ?_⟩
    · cases gap with
      | nil =>
        obtain rfl : argument = [] := by
          by_contra hne
          exact happart hne rfl
        exact hafter c (List.mem_of_mem_head? hc)
      | cons d gap =>
        obtain rfl : d = c := Option.some.inj hc
        exact hgap d List.mem_cons_self
    · rw [Text.trim_append_right hafter, Text.trim_append_left hgap, htrimmed.trim_eq_self]
  · rintro ⟨hverb, before, rest, rfl, hbefore, hhead, rfl⟩
    obtain ⟨gap, after, hrest, hgap, hafter⟩ := Text.exists_blanks_around rest
    refine ⟨hverb, Text.trimmed_trim rest, before, gap, after, ?_, hbefore, hgap, hafter, ?_⟩
    · rw [List.append_assoc, List.append_assoc, List.append_assoc, ← List.append_assoc gap, ← hrest]
    · rintro hne rfl
      -- Without a gap the argument would start with the blank that ends the verb.
      obtain ⟨c, cs, hcons⟩ := List.exists_cons_of_ne_nil hne
      have hfirst : c ∈ rest.head? := by rw [hrest, hcons]; rfl
      have hsolid : Text.isBlank c = false := (Text.trimmed_trim rest).first c (by rw [hcons]; rfl)
      rw [hhead c hfirst] at hsolid
      cases hsolid

theorem trim_of_said (h : Says line verb argument) :
    ∃ rest, Text.trim line = verb ++ rest ∧ (∀ c ∈ rest.head?, Text.isBlank c = true) ∧
      Text.trim rest = argument := by
  obtain ⟨hverb, before, rest, rfl, hbefore, hhead, rfl⟩ := says_iff_exists_rest.1 h
  refine ⟨Text.trimEnd rest, ?_, Text.head?_trimEnd hhead, Text.trim_trimEnd rest⟩
  rw [Text.trim_append_left hbefore, Text.trim_append_of_solid hverb.nonempty hverb.solid]

theorem trim_of_silent (h : Silent line) :
    Text.trim line = [] ∨ (Text.trim line).head? = some '#' := by
  rcases h with hblank | ⟨before, after, rfl, hbefore⟩
  · left
    have hnil := Text.trim_append_right hblank []
    exact hnil
  · right
    have hhash : Text.Solid ['#'] := by
      intro c hc
      obtain rfl := List.mem_singleton.1 hc
      rfl
    rw [Text.trim_append_left hbefore, ← List.singleton_append,
      Text.trim_append_of_solid (List.cons_ne_nil _ _) hhash]
    rfl

/-- Every line says nothing or something. -/
theorem silent_or_said (line : List Char) : Silent line ∨ ∃ verb argument, Says line verb argument := by
  have hline : line.takeWhile Text.isBlank ++ Text.trimStart line = line :=
    List.takeWhile_append_dropWhile
  have hbefore : Text.AllBlank (line.takeWhile Text.isBlank) := fun c hc => List.mem_takeWhile_imp hc
  cases hstart : Text.trimStart line with
  | nil =>
    rw [hstart, List.append_nil] at hline
    exact .inl (.inl (hline ▸ hbefore))
  | cons c cs =>
    rw [hstart] at hline
    have hc : Text.isBlank c = false := Text.isBlank_of_mem_head?_trimStart (by rw [hstart]; rfl)
    by_cases hhash : c = '#'
    · exact .inl (.inr ⟨_, cs, by rw [← hhash, hline], hbefore⟩)
    · have hcut : Text.firstWord (c :: cs) ++ Text.afterWord (c :: cs) = c :: cs :=
        List.takeWhile_append_dropWhile
      have hfirst : Text.firstWord (c :: cs) = c :: Text.firstWord cs :=
        List.takeWhile_cons_of_pos (by simp [hc])
      refine .inr ⟨Text.firstWord (c :: cs), _, says_iff_exists_rest.2 ⟨⟨?_, ?_, ?_⟩, _,
        Text.afterWord (c :: cs), by rw [hcut, hline], hbefore, ?_, rfl⟩⟩
      · rw [hfirst]
        exact List.cons_ne_nil _ _
      · intro d hd
        have := List.mem_takeWhile_imp hd
        simpa using this
      · rw [hfirst]
        simpa using hhash
      · intro d hd
        have := List.head?_dropWhile_not (!Text.isBlank ·) (c :: cs)
        rw [← Text.afterWord, Option.mem_def.1 hd] at this
        simpa using this

theorem not_silent_of_said (h : Says line verb argument) : ¬ Silent line := by
  intro hsilent
  obtain ⟨rest, htrim, -⟩ := trim_of_said h
  obtain ⟨⟨hne, -, hhash⟩, -⟩ := h
  rcases trim_of_silent hsilent with hnil | hhead
  · rw [hnil] at htrim
    exact hne (List.append_eq_nil_iff.1 htrim.symm).1
  · rw [htrim, List.head?_append_of_ne_nil _ hne] at hhead
    exact hhash hhead

/-- Unless it is silent, a line says the first word of what it is trimmed to and what the rest of that
is trimmed to, and nothing else. -/
theorem says_iff : Says line verb argument ↔ ¬ Silent line ∧
    verb = Text.firstWord (Text.trim line) ∧
    argument = Text.trim (Text.afterWord (Text.trim line)) := by
  have hread {verb argument} (h : Says line verb argument) :
      verb = Text.firstWord (Text.trim line) ∧
        argument = Text.trim (Text.afterWord (Text.trim line)) := by
    obtain ⟨rest, htrim, hhead, hrest⟩ := trim_of_said h
    rw [htrim, Text.firstWord_append h.1.solid hhead, Text.afterWord_append h.1.solid hhead]
    exact ⟨rfl, hrest.symm⟩
  constructor
  · exact fun h => ⟨not_silent_of_said h, hread h⟩
  · rintro ⟨hsilent, rfl, rfl⟩
    obtain ⟨verb, argument, hsaid⟩ := (silent_or_said line).resolve_left hsilent
    obtain ⟨rfl, rfl⟩ := hread hsaid
    exact hsaid

/-! ## What that means -/

/-- The verbs of commands. -/
def verbs : List String := ["sub", "unsub", "has", "size", "sweep", "sleep"]

/-- The verbs that need an argument. -/
def needy : List String := ["sub", "unsub", "has", "sleep"]

/-- What a verb and an argument mean: a command, or the text of what is wrong with them. A span is
what the argument is as a double, in seconds. -/
inductive Means : String → String → Except String Command → Prop where
  | subscribe {filter : String} (given : filter ≠ "") : Means "sub" filter (.ok (.subscribe filter))
  | unsubscribe {filter : String} (given : filter ≠ "") :
    Means "unsub" filter (.ok (.unsubscribe filter))
  | query {topic : String} (given : topic ≠ "") : Means "has" topic (.ok (.query topic))
  | size (argument : String) : Means "size" argument (.ok .size)
  | sweep (argument : String) : Means "sweep" argument (.ok .sweep)
  | sleep {argument : String} {seconds : Binary64} {span : Nat}
    (numeral : Binary64.ofText? argument.toList = some seconds)
    (fits : Time.ofSeconds? seconds = some span) : Means "sleep" argument (.ok (.sleep span))
  | badSpan {argument : String} (given : argument ≠ "")
    (unfit : ∀ seconds, Binary64.ofText? argument.toList = some seconds →
      Time.ofSeconds? seconds = none) :
    Means "sleep" argument (.error s!"invalid sleep duration '{argument}'")
  | needsArgument {verb : String} (needs : verb ∈ needy) :
    Means verb "" (.error s!"'{verb}' needs an argument")
  | unknownVerb {verb : String} (argument : String) (unknown : verb ∉ verbs) :
    Means verb argument (.error s!"unknown command '{verb}'")

theorem withArgument_nil (verb : List Char) (make : String → Except CommandFault Command) :
    withArgument verb [] make = .error (.needsArgument (String.ofList verb)) := rfl

theorem withArgument_of_ne (verb : List Char) {text : String} (h : text ≠ "")
    (make : String → Except CommandFault Command) : withArgument verb text.toList make = make text := by
  rw [withArgument, if_neg (by simpa using h), String.ofList_toList]

theorem ofSeconds_eq_sleep {text : String} {seconds : Binary64} {span : Nat}
    (numeral : Binary64.ofText? text.toList = some seconds)
    (fits : Time.ofSeconds? seconds = some span) : ofSeconds text = .ok (.sleep span) := by
  rw [ofSeconds, numeral, Option.bind_some, fits]

theorem ofSeconds_eq_badSpan {text : String}
    (unfit : ∀ seconds, Binary64.ofText? text.toList = some seconds →
      Time.ofSeconds? seconds = none) : ofSeconds text = .error (.badSpan text) := by
  rw [ofSeconds, Option.bind_eq_none_iff.2 unfit]

/-- A verb and an argument are read as something that they mean. -/
theorem means_ofVerb (verb argument : String) :
    Means verb argument ((ofVerb verb.toList argument.toList).mapError CommandFault.message) := by
  have hneeds {verb : String} (hverb : verb ∈ needy) (make : String → Except CommandFault Command)
      (given : argument ≠ "" → Means verb argument ((make argument).mapError CommandFault.message)) :
      Means verb argument
        ((withArgument verb.toList argument.toList make).mapError CommandFault.message) := by
    by_cases hempty : argument = ""
    · subst hempty
      rw [String.toList_empty, withArgument_nil, String.ofList_toList]
      exact .needsArgument hverb
    · rw [withArgument_of_ne _ hempty]
      exact given hempty
  unfold ofVerb
  rw [String.ofList_toList]
  split
  · exact hneeds (by decide) _ .subscribe
  · exact hneeds (by decide) _ .unsubscribe
  · exact hneeds (by decide) _ .query
  · exact .size argument
  · exact .sweep argument
  · refine hneeds (by decide) _ fun given => ?_
    by_cases hspan : ∃ seconds, Binary64.ofText? argument.toList = some seconds ∧
        ∃ span, Time.ofSeconds? seconds = some span
    · obtain ⟨seconds, numeral, span, fits⟩ := hspan
      rw [ofSeconds_eq_sleep numeral fits]
      exact .sleep numeral fits
    · have unfit : ∀ seconds, Binary64.ofText? argument.toList = some seconds →
          Time.ofSeconds? seconds = none := fun seconds numeral =>
        Option.eq_none_iff_forall_not_mem.2 fun span fits => hspan ⟨seconds, numeral, span, fits⟩
      rw [ofSeconds_eq_badSpan unfit]
      exact .badSpan given unfit
  · refine .unknownVerb argument ?_
    simp only [verbs, List.mem_cons, List.not_mem_nil, or_false, not_or]
    exact ⟨‹_›, ‹_›, ‹_›, ‹_›, ‹_›, ‹_›⟩

/-- What a verb and an argument mean is what they are read as. -/
theorem ofVerb_of_means {verb argument : String} {said : Except String Command}
    (h : Means verb argument said) :
    (ofVerb verb.toList argument.toList).mapError CommandFault.message = said := by
  cases h with
  | subscribe given | unsubscribe given | query given =>
    simp only [ofVerb, String.ofList_toList, withArgument_of_ne _ given]
    rfl
  | size | sweep => rfl
  | sleep numeral fits =>
    have given : argument ≠ "" := by
      rintro rfl
      cases numeral
    simp only [ofVerb, String.ofList_toList, withArgument_of_ne _ given,
      ofSeconds_eq_sleep numeral fits]
    rfl
  | badSpan given unfit =>
    simp only [ofVerb, String.ofList_toList, withArgument_of_ne _ given, ofSeconds_eq_badSpan unfit]
    rfl
  | needsArgument needs =>
    simp only [needy, List.mem_cons, List.not_mem_nil, or_false] at needs
    rcases needs with rfl | rfl | rfl | rfl <;> rfl
  | unknownVerb _ unknown =>
    unfold ofVerb
    rw [String.ofList_toList]
    split
    case h_7 => rfl
    all_goals exact absurd unknown (by decide)

theorem means_iff {verb argument : String} {said : Except String Command} :
    Means verb argument said ↔
      (ofVerb verb.toList argument.toList).mapError CommandFault.message = said :=
  ⟨ofVerb_of_means, fun h => h ▸ means_ofVerb verb argument⟩

/-! ## What a line is read as -/

theorem ofChars_congr (h : Text.trim line = Text.trim other) : ofChars line = ofChars other := by
  rw [ofChars, ofChars, h]

theorem ofChars_of_silent (h : Silent line) : ofChars line = .ok none := by
  rw [ofChars]
  rcases trim_of_silent h with hnil | hhash
  · rw [hnil]
  · obtain ⟨cs, hcs⟩ := List.head?_eq_some_iff.1 hhash
    rw [hcs]
    rfl

/-- A line is read as the verb and the argument that it says. -/
theorem ofChars_of_said (h : Says line verb argument) :
    ofChars line = (ofVerb verb argument).map some := by
  obtain ⟨rest, htrim, hhead, hrest⟩ := trim_of_said h
  obtain ⟨⟨hne, hsolid, hhash⟩, -⟩ := h
  have hfirst := Text.firstWord_append hsolid hhead
  have hafter := Text.afterWord_append hsolid hhead
  rw [ofChars, htrim]
  split
  · next hnil => exact absurd (List.append_eq_nil_iff.1 hnil).1 hne
  · next hcons =>
    have hhead' := congrArg List.head? hcons
    rw [List.head?_append_of_ne_nil _ hne] at hhead'
    exact absurd hhead' hhash
  · rw [← Text.firstWord, ← Text.afterWord, hfirst, hafter, hrest]

theorem parse_of_said {line verb argument : String}
    (h : Says line.toList verb.toList argument.toList) :
    parse line = (ofVerb verb.toList argument.toList).map some :=
  ofChars_of_said h

theorem parse_eq_none_iff {line : String} : parse line = .ok none ↔ Silent line.toList := by
  refine ⟨fun h => ?_, ofChars_of_silent⟩
  refine (silent_or_said line.toList).resolve_right fun ⟨verb, argument, hsaid⟩ => ?_
  rw [parse, ofChars_of_said hsaid] at h
  cases hread : ofVerb verb argument with
  | error fault => rw [hread] at h; cases h
  | ok command => rw [hread] at h; cases h

/-- Every line that is not silent is read as what a verb and an argument mean that it says. -/
theorem parse_eq_iff {line : String} {said : Except String Command} :
    (parse line).mapError CommandFault.message = said.map some ↔
      ∃ verb argument : String, Says line.toList verb.toList argument.toList ∧
        Means verb argument said := by
  have hmap (read : Except CommandFault Command) :
      (read.map some).mapError CommandFault.message =
        (read.mapError CommandFault.message).map some := by
    cases read <;> rfl
  have hinj {read said : Except String Command} (h : read.map some = said.map some) :
      read = said := by
    cases read <;> cases said <;> cases h <;> rfl
  constructor
  · intro h
    rcases silent_or_said line.toList with hsilent | ⟨verb, argument, hsaid⟩
    · rw [parse, ofChars_of_silent hsilent] at h
      cases said <;> cases h
    · refine ⟨String.ofList verb, String.ofList argument, by simpa using hsaid, means_iff.2 ?_⟩
      rw [String.toList_ofList, String.toList_ofList]
      rw [parse, ofChars_of_said hsaid, hmap] at h
      exact hinj h
  · rintro ⟨verb, argument, hsaid, hmeans⟩
    rw [parse_of_said hsaid, hmap, means_iff.1 hmeans]

/-! ## Blanks -/

/-- Blanks around a line say nothing. -/
theorem parse_blanks_around {line before after : String} (hbefore : Text.AllBlank before.toList)
    (hafter : Text.AllBlank after.toList) : parse (before ++ line ++ after) = parse line := by
  refine ofChars_congr ?_
  rw [String.toList_append, String.toList_append, Text.trim_append_right hafter,
    Text.trim_append_left hbefore]

/-- Which blanks end the first word of a line does not matter, nor how many. -/
theorem ofChars_blanks_between {gap' : List Char} (hbefore : Text.AllBlank before)
    (hword : Text.Solid verb) (hgap : Text.AllBlank gap) (hgap' : Text.AllBlank gap')
    (hne : gap ≠ []) (hne' : gap' ≠ []) (rest : List Char) :
    ofChars (before ++ verb ++ gap ++ rest) = ofChars (before ++ verb ++ gap' ++ rest) := by
  have hhead {blanks : List Char} (hblank : Text.AllBlank blanks) (hne : blanks ≠ []) :
      ∀ c ∈ (blanks ++ rest).head?, Text.isBlank c = true := by
    intro c hc
    rw [List.head?_append_of_ne_nil _ hne] at hc
    exact hblank c (List.mem_of_mem_head? hc)
  by_cases hnone : verb = []
  · subst hnone
    refine ofChars_congr ?_
    rw [List.append_nil, List.append_assoc, List.append_assoc, Text.trim_append_left hbefore,
      Text.trim_append_left hbefore, Text.trim_append_left hgap, Text.trim_append_left hgap']
  · by_cases hhash : verb.head? = some '#'
    · obtain ⟨word, rfl⟩ := List.head?_eq_some_iff.1 hhash
      have hsilent (blanks : List Char) : Silent (before ++ '#' :: word ++ blanks ++ rest) :=
        .inr ⟨before, word ++ blanks ++ rest, by simp, hbefore⟩
      rw [ofChars_of_silent (hsilent gap), ofChars_of_silent (hsilent gap')]
    · have hsaid {blanks : List Char} (hblank : Text.AllBlank blanks) (hne : blanks ≠ []) :
          Says (before ++ verb ++ blanks ++ rest) verb (Text.trim rest) :=
        says_iff_exists_rest.2 ⟨⟨hnone, hword, hhash⟩, before, blanks ++ rest, by simp, hbefore,
          hhead hblank hne, Text.trim_append_left hblank rest⟩
      rw [ofChars_of_said (hsaid hgap hne), ofChars_of_said (hsaid hgap' hne')]

/-- A line that is blank or a comment is read as nothing. Every other line says one verb and one
argument, its first word and what is left when the rest is trimmed, and is read as what they mean:
the command, or the text of what is wrong. So it is read the same whatever the blanks are around it
and whatever blanks end its first word. -/
theorem parse_grammar :
    (∀ line : String, parse line = .ok none ↔ Silent line.toList) ∧
    (∀ line verb argument : String, Says line.toList verb.toList argument.toList ↔
      ¬ Silent line.toList ∧ verb.toList = Text.firstWord (Text.trim line.toList) ∧
        argument.toList = Text.trim (Text.afterWord (Text.trim line.toList))) ∧
    (∀ (line : String) (said : Except String Command),
      (parse line).mapError CommandFault.message = said.map some ↔
        ∃ verb argument : String, Says line.toList verb.toList argument.toList ∧
          Means verb argument said) ∧
    (∀ line before after : String,
      Text.AllBlank before.toList → Text.AllBlank after.toList →
        parse (before ++ line ++ after) = parse line) ∧
    ∀ before word gap gap' rest : String,
      Text.AllBlank before.toList → Text.Solid word.toList →
      Text.AllBlank gap.toList → gap ≠ "" → Text.AllBlank gap'.toList → gap' ≠ "" →
        parse (before ++ word ++ gap ++ rest) = parse (before ++ word ++ gap' ++ rest) := by
  refine ⟨fun _ => parse_eq_none_iff, fun _ _ _ => says_iff, fun _ _ => parse_eq_iff,
    fun _ _ _ => parse_blanks_around, ?_⟩
  intro before word gap gap' rest hbefore hword hgap hne hgap' hne'
  simp only [parse, String.toList_append]
  exact ofChars_blanks_between hbefore hword hgap hgap' (by simpa using hne) (by simpa using hne') _

/-- A no-break space in front, a wide space after the verb, and an argument that looks like a comment
and ends before a carriage return; and a verb that is not lower-case. -/
theorem parse_grammar_of_wide_blanks :
    let line := "\u00A0sub\u3000# \t+ \r"
    let other := "  Sub x"
    Says line.toList "sub".toList "# \t+".toList ∧ parse line = .ok (some (.subscribe "# \t+")) ∧
      parse "sub\t# \t+" = .ok (some (.subscribe "# \t+")) ∧
      (parse other).mapError CommandFault.message = .error "unknown command 'Sub'" := by
  intro line other
  obtain ⟨hnone, hsaid, hread, haround, hbetween⟩ := parse_grammar
  have hline : Says line.toList "sub".toList "# \t+".toList :=
    (hsaid line "sub" "# \t+").2 ⟨mt (hnone line).2 (by decide), by decide, by decide⟩
  have hother : Says other.toList "Sub".toList "x".toList :=
    (hsaid other "Sub" "x").2 ⟨mt (hnone other).2 (by decide), by decide, by decide⟩
  have hsub : parse "sub\u3000# \t+" = .ok (some (.subscribe "# \t+")) := by decide
  have haround' := haround "sub\u3000# \t+" "\u00A0" " \r" (by decide) (by decide)
  have hbetween' := hbetween "" "sub" "\u3000" "\t" "# \t+" (by decide) (by decide) (by decide)
    (by decide) (by decide) (by decide)
  refine ⟨hline, haround'.trans hsub, hbetween'.symm.trans hsub, ?_⟩
  exact (hread other (.error "unknown command 'Sub'")).2
    ⟨"Sub", "x", hother, .unknownVerb "x" (by decide)⟩

end Command

end Audience
