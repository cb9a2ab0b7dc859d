import Audience.Toml.Moment
import Audience.Toml.Value

/-!
# Moments wrapped in tables

Where there are no moments they are passed on as tables with their text under
a key that says so, `momentKey`. `unwrap?` reads such tables as moments again,
anywhere in a value. A table wraps a moment if that key is the least of its
keys; the text has to be that of a moment then, and the rest of the table is
not looked at.
-/

namespace Audience.Toml

/-- The key that the text of a wrapped moment stands under. -/
def momentKey : String := "$__toml_private_datetime"

/-- The value of a key that is the least of a table. -/
def Entries.least? (entries : Entries) (key : String) : Option Value :=
  if entries.all fun (k, _) => key ≤ k then entries.get? key else none

/-- A text read as a moment. -/
def momentOfText? : Value → Option Value
  | .text s => (moment? .second s.toList).map .moment
  | _ => none

mutual

/-- A value with its wrapped moments as moments. -/
def unwrap? : Value → Option Value
  | .list grows items => (unwrapItems? items).map (.list grows)
  | .table origin entries => match Entries.least? entries momentKey with
    | some text => momentOfText? text
    | none => (unwrapEntries? entries).map (.table origin)
  | v => some v

/-- The items of a list with their wrapped moments as moments. -/
def unwrapItems? : List Value → Option (List Value)
  | [] => some []
  | v :: items => match unwrap? v, unwrapItems? items with
    | some v, some items => some (v :: items)
    | _, _ => none

/-- The entries of a table with their wrapped moments as moments. -/
def unwrapEntries? : Entries → Option Entries
  | [] => some []
  | (key, v) :: entries => match unwrap? v, unwrapEntries? entries with
    | some v, some entries => some ((key, v) :: entries)
    | _, _ => none

end

/-- The entries of a document with its wrapped moments as moments; a document is none itself. -/
def unwrapDocument? (entries : Entries) : Option Entries :=
  match entries.least? momentKey with
  | some _ => none
  | none => unwrapEntries? entries

end Audience.Toml
