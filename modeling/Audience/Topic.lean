import Audience.Text.Split

/-!
# Topics and filters

A topic is a text of levels separated by slashes. A filter is one too, and a
level of it may be a wildcard: `+` stands for any one level, `#` for all the
levels that are left, none included. Levels are compared character by
character; empty levels count.
-/

namespace Audience.Topic

/-- A level of a filter. -/
inductive Level where
  | literal (text : String)
  | single
  | multi
deriving DecidableEq, Repr

/-- Only a level that is nothing but the sign is a wildcard. -/
def Level.ofText (s : String) : Level :=
  if s = "+" then .single else if s = "#" then .multi else .literal s

def Level.text : Level → String
  | .literal s => s
  | .single => "+"
  | .multi => "#"

/-- The texts between the slashes. -/
def parts (s : String) : List String := (Text.split '/' s.toList).map String.ofList

/-- The levels of a filter. -/
def levels (s : String) : List Level := (parts s).map Level.ofText

/-- The filter of the given levels. -/
def ofLevels (ls : List Level) : String :=
  String.ofList (Text.join '/' (ls.map fun l => l.text.toList))

/-- Walks the levels of a filter and the parts of a topic together. -/
def walk : List Level → List String → Bool
  | .multi :: _, _ => true
  | .single :: filter, _ :: topic => walk filter topic
  | .literal text :: filter, part :: topic => text == part && walk filter topic
  | [], [] => true
  | _, _ => false

/-- Whether a message to `topic` goes to the holders of `filter`. -/
def covers (filter topic : String) : Bool := walk (levels filter) (parts topic)

end Audience.Topic
