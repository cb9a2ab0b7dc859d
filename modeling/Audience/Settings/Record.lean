import Audience.Settings.Basic
import Audience.Time.Spoken
import Audience.Toml.Value

/-!
# Settings from values

`Settings` are made of three records, each given as a table of its fields or as
a list of them in a fixed order. What a field takes is a `Conversions`; a
field that is not given keeps its default, a key that names no field is passed
over.
-/

namespace Audience.Settings

open Toml

/-- What values are taken for the types of the fields, and which values are records. -/
structure Conversions where
  boolean : Value → Option Bool
  size : Value → Option Nat
  text : Value → Option String
  record : List String → Value → Option (String → Option Value)

/-- The fields of a table by key, of a list by position. -/
def fields (names : List String) : Value → Option (String → Option Value)
  | .table _ entries => some (Entries.get? entries)
  | .list _ items => some fun name => List.lookup name (names.zip items)
  | _ => none

/-- A field that is given has to convert. -/
def field {α : Type} (lookup : String → Option Value) (convert : Value → Option α) (name : String)
    (fallback : α) : Option α :=
  match lookup name with
  | some v => convert v
  | none => some fallback

theorem field_of_some {α : Type} {lookup : String → Option Value} {convert : Value → Option α}
    {name : String} {fallback : α} {v : Value} (h : lookup name = some v) :
    field lookup convert name fallback = convert v := by
  rw [field, h]

theorem field_of_none {α : Type} {lookup : String → Option Value} {convert : Value → Option α}
    {name : String} {fallback : α} (h : lookup name = none) :
    field lookup convert name fallback = some fallback := by
  rw [field, h]

def listenFields : List String :=
  ["websocket_enabled", "websocket_bind_address", "tcp_enabled", "tcp_bind_address",
    "buffer_size", "buffer_block_size"]

def cleanupFields : List String := ["cleanup_interval", "cleanup_threshold"]

def logFields : List String := ["level"]

namespace Conversions

/-- A span is spoken. -/
def span (c : Conversions) (v : Value) : Option Nat := (c.text v).bind Time.ofSpoken?

def level (c : Conversions) (v : Value) : Option String := do
  let lookup ← c.record logFields v
  field lookup c.text "level" ({} : Settings).level

def broker (c : Conversions) (v : Value) : Option ListenOptions := do
  let lookup ← c.record listenFields v
  let d : ListenOptions := {}
  return {
    websocketEnabled := ← field lookup c.boolean "websocket_enabled" d.websocketEnabled
    websocketAddress := ← field lookup c.text "websocket_bind_address" d.websocketAddress
    tcpEnabled := ← field lookup c.boolean "tcp_enabled" d.tcpEnabled
    tcpAddress := ← field lookup c.text "tcp_bind_address" d.tcpAddress
    bufferSize := ← field lookup c.size "buffer_size" d.bufferSize
    bufferBlockSize := ← field lookup c.size "buffer_block_size" d.bufferBlockSize }

def cleanup (c : Conversions) (v : Value) : Option CleanupOptions := do
  let lookup ← c.record cleanupFields v
  let d : CleanupOptions := {}
  return {
    interval := ← field lookup c.span "cleanup_interval" d.interval
    threshold := ← field lookup c.span "cleanup_threshold" d.threshold }

/-- Settings from the sections of a document. -/
def settings (c : Conversions) (sections : Entries) : Option Settings := do
  let d : Settings := {}
  return {
    level := ← field (Entries.get? sections) c.level "log" d.level
    broker := ← field (Entries.get? sections) c.broker "broker" d.broker
    cleanup := ← field (Entries.get? sections) c.cleanup "topics" d.cleanup }

end Conversions

end Audience.Settings
