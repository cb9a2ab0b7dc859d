import Audience.Number.Binary64

/-!
# Values of a TOML document

A document is a table. Tables keep their keys in the order of writing, and
remember how they came to be, since that decides what may still be added to
them; a reader of the finished document does not look at it.
-/

namespace Audience.Toml

/-- How a table came to be: by its own header, by the header of a table inside it, by a dotted key
through it, or between braces. -/
inductive Origin where
  | header
  | implied
  | dotted
  | inline
deriving DecidableEq, Repr

/-- A value. A list grows by headers in double brackets if it was made by one. -/
inductive Value where
  | text (s : String)
  | integer (n : Int)
  | float (x : Binary64)
  | boolean (b : Bool)
  | moment (s : String)
  | list (grows : Bool) (items : List Value)
  | table (origin : Origin) (entries : List (String × Value))
deriving Repr

/-- The keys of a table with their values. -/
abbrev Entries := List (String × Value)

/-- The value of a key. -/
def Entries.get? (entries : Entries) (key : String) : Option Value := List.lookup key entries

/-- Gives a key that is there another value. -/
def Entries.replace (entries : Entries) (key : String) (v : Value) : Entries :=
  entries.map fun (k, old) => if k = key then (k, v) else (k, old)

/-- Gives a key a value, after the others if it is new. -/
def Entries.put (entries : Entries) (key : String) (v : Value) : Entries :=
  if (entries.get? key).isSome then entries.replace key v else entries ++ [(key, v)]

end Audience.Toml
