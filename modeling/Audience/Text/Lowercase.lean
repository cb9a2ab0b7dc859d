import Audience.Text.CaseTable

/-!
# Lower case

`lowercase` is the full Unicode lower-case mapping of a text. Two characters
need more than the simple mapping: a dotted capital I becomes two code points,
and a capital sigma takes its final form at the end of a word, which is where
a cased letter stands before it and none after it, case-ignorable characters
passed over.
-/

namespace Audience.Text

/-- The lower case of a character regardless of its neighbours. -/
def lowerChar (c : Char) : List Char :=
  if c.toNat < 0x80 then [c.toLower]
  else if c = '\u0130' then ['i', '\u0307']
  else match lowerRuns.find? fun r =>
      r.first ≤ c.toNat && c.toNat ≤ r.last && (c.toNat - r.first) % r.step == 0 with
    | some r => [Char.ofNat (c.toNat + r.offset).toNat]
    | none => [c]

def isCaseIgnorable (c : Char) : Bool := inRanges caseIgnorableRanges c.toNat

def isCased (c : Char) : Bool := inRanges casedRanges c.toNat

/-- Whether the first character that is not case-ignorable is cased. -/
def startsCased (cs : List Char) : Bool := (cs.dropWhile isCaseIgnorable).head?.any isCased

/-- The lower case of `cs` where `before` stands in front of it, last character first. -/
def lowercaseAfter (before : List Char) : List Char → List Char
  | [] => []
  | c :: cs =>
    (if c = '\u03A3' then
      [if startsCased before && !startsCased cs then '\u03C2' else '\u03C3']
    else lowerChar c) ++ lowercaseAfter (c :: before) cs

/-- The full lower case of a text. -/
def lowercase (s : String) : String := String.ofList (lowercaseAfter [] s.toList)

end Audience.Text
