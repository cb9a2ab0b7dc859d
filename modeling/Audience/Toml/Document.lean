import Audience.Toml.Scalar

/-!
# Documents

`read?` reads a document as the entries of its root table, or refuses it as
malformed. A table is written once: a header may not name a table that a
header or a dotted key has made already, a dotted key may not enter a table
that has a header, and an inline table is closed.
-/

namespace Audience.Toml

/-! ## Adding to tables -/

/-- Sets the value of the dotted key `path ++ [key]`, which must be new. The tables on the way are
made when missing. A table that is there has to have been made by dotted keys. A key may pass
through one that only headers of tables inside it have made, and one that ends there makes it its
own, if the dialect allows that. -/
def insertDotted (d : Dialect) (key : String) (v : Value) : (path : List String) → Entries → Option Entries
  | [], entries => if (entries.get? key).isSome then none else some (entries ++ [(key, v)])
  | step :: path, entries =>
    match entries.get? step with
    | none => (insertDotted d key v path []).map fun sub => entries ++ [(step, .table .dotted sub)]
    | some (.table origin sub) =>
      if origin = .dotted ∨ (origin = .implied ∧ path ≠ []) then
        (insertDotted d key v path sub).map fun sub => entries.replace step (.table origin sub)
      else if d.entersImplied ∧ origin = .implied then
        (insertDotted d key v path sub).map fun sub => entries.replace step (.table .dotted sub)
      else none
    | some (.list true items) =>
      match path, items.getLast? with
      | _ :: _, some (.table origin sub) =>
        (insertDotted d key v path sub).map fun sub =>
          entries.replace step (.list true (items.dropLast ++ [.table origin sub]))
      | _, _ => none
    | some _ => none

/-- Changes the table at `path`, where the last item of a growing list stands for the list. Tables
on the way are made when missing. -/
def modifyAt (change : Entries → Option Entries) : (path : List String) → Entries → Option Entries
  | [], entries => change entries
  | step :: path, entries =>
    match entries.get? step with
    | none => (modifyAt change path []).map fun sub => entries ++ [(step, .table .implied sub)]
    | some (.table origin sub) =>
      if origin = .inline then none
      else (modifyAt change path sub).map fun sub => entries.replace step (.table origin sub)
    | some (.list true items) =>
      match items.getLast? with
      | some (.table origin sub) =>
        (modifyAt change path sub).map fun sub =>
          entries.replace step (.list true (items.dropLast ++ [.table origin sub]))
      | _ => none
    | some _ => none

/-- Opens the table of a header. -/
def openTable (key : String) (entries : Entries) : Option Entries :=
  match entries.get? key with
  | none => some (entries ++ [(key, .table .header [])])
  | some (.table .implied sub) => some (entries.replace key (.table .header sub))
  | some _ => none

/-- Opens the next item of the list of a header in double brackets. -/
def openItem (key : String) (entries : Entries) : Option Entries :=
  match entries.get? key with
  | none => some (entries ++ [(key, .list true [.table .header []])])
  | some (.list true items) =>
    some (entries.replace key (.list true (items ++ [.table .header []])))
  | some _ => none

/-- Sets the value of a dotted key. -/
def insertKey (d : Dialect) (path : List String) (v : Value) (entries : Entries) : Option Entries :=
  match path.getLast? with
  | some key => insertDotted d key v path.dropLast entries
  | none => none

/-! ## Values -/

/-- A dotted key, an equals sign and a value, with a gap around the equals sign. -/
def keyValue? (d : Dialect) (skip : List Char → List Char) (value : Reader Value) :
    Reader (List String × Value)
  | cs => do
    let (path, rest) ← dottedKey? d cs
    match skip rest with
    | '=' :: tail =>
      let (v, rest) ← value (skip tail)
      some ((path, v), rest)
    | _ => none

/-- The items of a list, its bracket taken. Every item takes at least one character, so `steps` is
the length of the text. -/
def listItems (value : Reader Value) : (steps : Nat) → Reader (List Value)
  | 0, _ => none
  | steps + 1, cs => match skipLayout false cs with
    | ']' :: rest => some ([], rest)
    | cs => match value cs with
      | none => none
      | some (v, rest) => match skipLayout false rest with
        | ',' :: rest => (listItems value steps rest).map fun (vs, rest) => (v :: vs, rest)
        | ']' :: rest => some ([v], rest)
        | _ => none

/-- The end of an inline table after a comma, where the dialect lets a comma stand there. -/
def closeOpenTable? (d : Dialect) (cs : List Char) : Option (List Char) :=
  if d.openTables then skipChar? '}' (skipGap d cs) else none

/-- The entries of an inline table after a brace or a comma, added to those before. -/
def inlineEntries (d : Dialect) (value : Reader Value) : (steps : Nat) → Entries → Reader Entries
  | 0, _, _ => none
  | steps + 1, entries, cs => match keyValue? d (skipGap d) value (skipGap d cs) with
    | none => none
    | some ((path, v), rest) => match insertKey d path v entries with
      | none => none
      | some entries => match skipGap d rest with
        | ',' :: rest => match closeOpenTable? d rest with
          | some rest => some (entries, rest)
          | none => inlineEntries d value steps entries rest
        | '}' :: rest => some (entries, rest)
        | _ => none

/-- A value in which lists and inline tables nest up to `room` deep. -/
def value? (d : Dialect) : (room : Nat) → Reader Value
  | _, [] => none
  | 0, '[' :: _ => none
  | 0, '{' :: _ => none
  | room + 1, '[' :: cs =>
    (listItems (value? d room) (cs.length + 1) cs).map fun (vs, rest) => (.list false vs, rest)
  | room + 1, '{' :: cs => match skipGap d cs with
    | '}' :: rest => some (.table .inline [], rest)
    | cs => (inlineEntries d (value? d room) (cs.length + 1) [] cs).map fun (entries, rest) =>
      (.table .inline entries, rest)
  | _, '"' :: cs => (quoted? d ('"' :: cs)).map fun (s, rest) => (.text s, rest)
  | _, '\x27' :: cs => (quoted? d ('\x27' :: cs)).map fun (s, rest) => (.text s, rest)
  | _, cs => scalar? d cs

/-! ## Lines -/

/-- A document part way through: the root table, and the table that keys go to. -/
structure Draft where
  root : Entries := []
  current : List String := []

/-- The header of a table, its bracket taken. -/
def header? (d : Dialect) (draft : Draft) (cs : List Char) : Option (Draft × List Char) := do
  let (path, rest) ← dottedKey? d (skipSpaces cs)
  let key ← path.getLast?
  let rest ← skipChar? ']' (skipSpaces rest)
  let root ← modifyAt (openTable key) path.dropLast draft.root
  some (⟨root, path⟩, rest)

/-- The header of an item of a list of tables, its brackets taken. -/
def itemHeader? (d : Dialect) (draft : Draft) (cs : List Char) : Option (Draft × List Char) := do
  let (path, rest) ← dottedKey? d (skipSpaces cs)
  let key ← path.getLast?
  let rest ← skipChar? ']' (← skipChar? ']' (skipSpaces rest))
  let root ← modifyAt (openItem key) path.dropLast draft.root
  some (⟨root, path⟩, rest)

/-- A key and its value in the current table. -/
def assignment? (d : Dialect) (draft : Draft) (cs : List Char) : Option (Draft × List Char) := do
  let ((path, v), rest) ← keyValue? d skipSpaces (value? d d.nestingLimit) cs
  let root ← modifyAt (insertKey d path v) draft.current draft.root
  some ({ draft with root }, rest)

/-- What one line adds, blanks and comments apart. -/
def line? (d : Dialect) (draft : Draft) (cs : List Char) : Option (Draft × List Char) :=
  match skipSpaces cs with
  | [] => some (draft, [])
  | '[' :: '[' :: rest => itemHeader? d draft rest
  | '[' :: rest => header? d draft rest
  | c :: rest =>
    if c = '#' ∨ c = '\n' ∨ c = '\r' then some (draft, c :: rest) else assignment? d draft (c :: rest)

/-- Reads lines to the end. Every line takes at least one character, so `steps` is the length of
the text. -/
def lines? (d : Dialect) : (steps : Nat) → Draft → List Char → Option Entries
  | _, draft, [] => some draft.root
  | 0, _, _ => none
  | steps + 1, draft, cs => match line? d draft cs with
    | none => none
    | some (draft, rest) => match endLine? rest with
      | none => none
      | some rest => lines? d steps draft rest

/-- The entries of a document. A byte order mark in front is passed over. -/
def read? (d : Dialect) (s : String) : Option Entries :=
  let cs := match s.toList with
    | '\uFEFF' :: cs => cs
    | cs => cs
  lines? d (cs.length + 1) {} cs

end Audience.Toml
