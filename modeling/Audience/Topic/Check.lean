import Audience.Topic

/-!
# Well-formed names and filters

A name is where a message goes and holds no wildcard; a filter may hold
wildcards, each a level of its own and `#` the last. Both are non-empty, at
most 65535 bytes long and free of the null character. The checks never take
part in matching: a filter that fails them covers what its levels say.
-/

namespace Audience.Topic

/-- The longest a name or filter may be, in bytes of UTF-8. -/
def maxBytes : Nat := 65535

/-- What is wrong with a name. -/
inductive NameFault where
  | empty
  | tooLong
  | null
  | wildcard
deriving DecidableEq, Repr

def NameFault.message : NameFault → String
  | .empty => "topic name cannot be empty"
  | .tooLong => "topic name exceeds maximum length"
  | .null => "topic name cannot contain null character"
  | .wildcard => "topic name cannot contain wildcards"

/-- The first fault of a name. -/
def nameFault? (s : String) : Option NameFault :=
  if s.isEmpty then some .empty
  else if s.utf8ByteSize > maxBytes then some .tooLong
  else if '\x00' ∈ s.toList then some .null
  else if '+' ∈ s.toList ∨ '#' ∈ s.toList then some .wildcard
  else none

/-- What is wrong with a filter. -/
inductive FilterFault where
  | empty
  | tooLong
  | null
  | multiInsideLevel
  | multiBeforeEnd
  | singleInsideLevel
deriving DecidableEq, Repr

def FilterFault.message : FilterFault → String
  | .empty => "topic filter cannot be empty"
  | .tooLong => "topic filter exceeds maximum length"
  | .null => "topic filter cannot contain null character"
  | .multiInsideLevel => "multi-level wildcard must occupy entire level"
  | .multiBeforeEnd => "multi-level wildcard must be last level"
  | .singleInsideLevel => "single-level wildcard must occupy entire level"

/-- The fault of one level, which is the last one or not. -/
def levelFault? (level : List Char) (last : Bool) : Option FilterFault :=
  if '#' ∈ level then
    if level ≠ ['#'] then some .multiInsideLevel
    else if last then none else some .multiBeforeEnd
  else if '+' ∈ level ∧ level ≠ ['+'] then some .singleInsideLevel
  else none

/-- The fault of the leftmost level that has one. -/
def levelsFault? : List (List Char) → Option FilterFault
  | [] => none
  | level :: rest => match levelFault? level rest.isEmpty with
    | some fault => some fault
    | none => levelsFault? rest

/-- The first fault of a filter. -/
def filterFault? (s : String) : Option FilterFault :=
  if s.isEmpty then some .empty
  else if s.utf8ByteSize > maxBytes then some .tooLong
  else if '\x00' ∈ s.toList then some .null
  else levelsFault? (Text.split '/' s.toList)

end Audience.Topic
