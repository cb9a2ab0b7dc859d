import Audience.Number.Numeral
import Audience.Toml.Token

/-!
# Paths into settings

A path is a key followed by `.key` and `[index]` steps. `Path.ofKey` reads a
top-level key as the path it spells, and as a single step where it spells
none. Writing at a path makes a table or a list of whatever stands on the way
(`writeAt`), and merges a table into the table that is there (`merge`).
-/

namespace Audience.Settings

open Toml

/-- A step into a table or a list. A negative index counts from the end. -/
inductive Step where
  | key (name : String)
  | index (i : Int)
deriving DecidableEq, Repr

/-- The index between brackets: digits with an optional minus sign, spaces and tabs around both. -/
def indexOfText? (cs : List Char) : Option Int :=
  let (negative, body) := match skipSpaces cs with
    | '-' :: body => (true, body)
    | body => (false, body)
  let digits := body.takeWhile Char.isDigit
  if digits.isEmpty || !(skipSpaces (body.dropWhile Char.isDigit)).isEmpty then none
  else signedWord? (if negative then -(digitsValue digits : Int) else digitsValue digits)

/-- The steps after the first, each of at least two characters. -/
def pathSteps? : (steps : Nat) → List Char → Option (List Step)
  | _, [] => some []
  | 0, _ => none
  | steps + 1, '.' :: cs =>
    let name := cs.takeWhile isBareKeyChar
    if name.isEmpty then none
    else (pathSteps? steps (cs.dropWhile isBareKeyChar)).map (.key (String.ofList name) :: ·)
  | steps + 1, '[' :: cs =>
    match indexOfText? (cs.takeWhile (· != ']')), cs.dropWhile (· != ']') with
    | some i, _ :: rest => (pathSteps? steps rest).map (.index i :: ·)
    | _, _ => none
  | _, _ => none

/-- The path that a key spells. -/
def path? (key : String) : Option (List Step) :=
  pathSteps? (key.toList.length + 1) ('.' :: key.toList)

/-- The path of a top-level key. -/
def pathOfKey (key : String) : List Step := (path? key).getD [.key key]

/-- What stands where nothing has been written: a list without items. -/
def blank : Value := .list false []

/-- The entries of a table, none of anything else. -/
def entriesOf : Value → Entries
  | .table _ entries => entries
  | _ => []

/-- The items of a list, none of anything else. -/
def itemsOf : Value → List Value
  | .list _ items => items
  | _ => []

mutual

/-- Merges a value over another: a table key by key, anything else in its place. -/
def merge : (top base : Value) → Value
  | .table origin entries, base => .table origin (mergeEntries entries (entriesOf base))
  | v, _ => v

/-- Merges entries over others one after another. -/
def mergeEntries : (top base : Entries) → Entries
  | [], base => base
  | (key, v) :: top, base =>
    mergeEntries top (base.put key (merge v ((base.get? key).getD blank)))

end

/-- Makes room for an index: blanks after the last item, or in front of the first. -/
def reach (i : Int) (items : List Value) : Nat × List Value :=
  if 0 ≤ i then (i.toNat, items ++ List.replicate (i.toNat + 1 - items.length) blank)
  else
    let back := (-i).toNat
    (items.length - back, List.replicate (back - items.length) blank ++ items)

/-- Merges a value over what stands at a path. -/
def writeAt (v : Value) : List Step → Value → Value
  | [], base => merge v base
  | .key name :: path, base =>
    let entries := entriesOf base
    .table .implied (entries.put name (writeAt v path ((entries.get? name).getD blank)))
  | .index i :: path, base =>
    let (n, items) := reach i (itemsOf base)
    .list false (items.set n (writeAt v path (items[n]?.getD blank)))

/-- Merges the top-level keys of a layer over a table. -/
def addLayer (layer : Entries) (base : Value) : Value :=
  layer.foldl (fun base (key, v) => writeAt v (pathOfKey key) base) base

end Audience.Settings
