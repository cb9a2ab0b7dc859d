import Audience.Number.Shortest
import Audience.Settings.Path
import Audience.Settings.Placeholder
import Audience.Settings.Strict
import Audience.Toml.Wrapped

/-!
# Settings from layers

`Settings.load` lays a file over the defaults and the environment over both,
and reads the result with conversions that take what can be meant: numbers and
words for booleans, booleans and texts for sizes, numbers and booleans for
texts. Placeholders in the file are replaced first, and the result is read as
the second edition of TOML. A variable whose name starts with `subwatch__` in
any case is the setting that the rest of its name spells, two underscores for
a dot, and its value is guessed from its text.
-/

namespace Audience.Settings

open Toml

namespace Lenient

/-- The largest size there is. -/
def maxSize : Nat := Nat.pow 2 64 - 1

def boolean : Value → Option Bool
  | .boolean b => some b
  | .integer n => some (n != 0)
  | .float x => some x.isNonzero
  | .text s =>
    let word := Text.lowercase s
    if word ∈ ["1", "true", "on", "yes"] then some true
    else if word ∈ ["0", "false", "off", "no"] then some false
    else none
  | _ => none

def size : Value → Option Nat
  | .boolean b => some b.toNat
  | .integer n => if 0 ≤ n then some n.toNat else none
  | .float x => some (x.toNatUpTo maxSize)
  | .text s =>
    let word := Text.lowercase s
    if word ∈ ["true", "on", "yes"] then some 1
    else if word ∈ ["false", "off", "no"] then some 0
    else match natOfText? s.toList with
      | some n => if n ≤ maxSize then some n else none
      | none => none
  | _ => none

def text : Value → Option String
  | .text s => some s
  | .boolean b => some (if b then "true" else "false")
  | .integer n => some (toString n)
  | .float x => some x.text
  | .moment s => some s
  | _ => none

def conversions : Conversions := ⟨boolean, size, text, fields⟩

end Lenient

/-- The settings with nothing laid over them. -/
def defaults : Value := .table .inline [
  ("log", .table .inline [("level", .text "info")]),
  ("broker", .table .inline [
    ("websocket_enabled", .boolean true),
    ("websocket_bind_address", .text "localhost:1888"),
    ("tcp_enabled", .boolean false),
    ("tcp_bind_address", .text "localhost:1883"),
    ("buffer_size", .integer 0),
    ("buffer_block_size", .integer 0)]),
  ("topics", .table .inline [
    ("cleanup_interval", .text "1m"),
    ("cleanup_threshold", .text "5m")])]

/-! ## The environment -/

/-- Variables and their values. -/
abbrev Environment := List (String × String)

def Environment.get? (env : Environment) (name : String) : Option String := List.lookup name env

/-- The text in front of the names of variables that are settings, in lower case. -/
def variableMark : List Char := ['s', 'u', 'b', 'w', 'a', 't', 'c', 'h', '_', '_']

/-- Reads two underscores as a dot, from left to right. -/
def foldUnderscores : List Char → List Char
  | '_' :: '_' :: cs => '.' :: foldUnderscores cs
  | c :: cs => c :: foldUnderscores cs
  | [] => []

/-- The key that a variable's name spells, if it is a setting. -/
def keyOfVariable? (name : String) : Option String :=
  let lowered := (Text.lowercase name).toList
  if variableMark.isPrefixOf lowered then
    some (String.ofList (foldUnderscores (lowered.drop variableMark.length)))
  else none

/-- The value that a variable's text looks like. -/
def guess (s : String) : Value :=
  let word := Text.lowercase s
  if word = "true" then .boolean true
  else if word = "false" then .boolean false
  else match (intOfText? s.toList).bind signedWord? with
    | some n => .integer n
    | none => match Binary64.ofText? s.toList with
      | some x => .float x
      | none => .text s

/-- The layer of the variables that are settings. -/
def environmentLayer (env : Environment) : Entries :=
  env.filterMap fun (name, value) => (keyOfVariable? name).map fun key => (key, guess value)

/-! ## Loading -/

/-- What stands at the path of a settings file. -/
inductive FileContent where
  | missing
  | unreadable
  | bytes (data : ByteArray)

/-- The layer of a file's text, its placeholders replaced from the environment. -/
def fileLayer? (env : Environment) (content : String) : Option Entries :=
  (read? .second (String.ofList (expand env.get? content.toList))).bind unwrapDocument?

/-- Settings from the defaults, the layer of a file and the environment. -/
def layered (env : Environment) (file : Entries) : Except Failure Settings :=
  let value := addLayer (environmentLayer env) (addLayer file defaults)
  match Lenient.conversions.settings (entriesOf value) with
  | some s => checked s
  | none => .error .unusable

/-- Settings from the environment alone. -/
def ofEnvironment (env : Environment) : Except Failure Settings := layered env []

/-- Settings from the text of a file and the environment. -/
def ofText (env : Environment) (content : String) : Except Failure Settings :=
  match fileLayer? env content with
  | some file => layered env file
  | none => .error .unusable

/-- Settings from a file and the environment. A file that is not there adds nothing. -/
def load (env : Environment) : FileContent → Except Failure Settings
  | .missing => ofEnvironment env
  | .unreadable => .error .unreadable
  | .bytes data => match String.fromUTF8? data with
    | some content => ofText env content
    | none => .error .unreadable

end Audience.Settings
