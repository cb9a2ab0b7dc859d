import Audience.Settings.Record
import Audience.Toml.Document

/-!
# Settings from a document alone

`Settings.parse` reads a document of the first edition of TOML in which every
setting has exactly its type, and checks the result. Spans are spoken texts.
-/

namespace Audience.Settings

open Toml

/-- Why settings could not be had: the file cannot be read, a document is no TOML or has a value of
a wrong type, the layers are no TOML or have a value without a meaning, or the settings have a
fault. -/
inductive Failure where
  | unreadable
  | malformed
  | unusable
  | invalid (fault : Fault)
deriving DecidableEq, Repr

def Failure.message : Failure → String
  | .unreadable => "IO error"
  | .malformed => "Parse error"
  | .unusable => "Config error"
  | .invalid fault => s!"Validation error: {fault.message}"

/-- Settings that are free of faults. -/
def checked (s : Settings) : Except Failure Settings :=
  match s.fault? with
  | none => .ok s
  | some fault => .error (.invalid fault)

theorem checked_eq_ok_iff {s t : Settings} : checked t = .ok s ↔ t = s ∧ t.fault? = none := by
  unfold checked
  cases t.fault? <;> simp

namespace Strict

def boolean : Value → Option Bool
  | .boolean b => some b
  | _ => none

def size : Value → Option Nat
  | .integer n => if 0 ≤ n then some n.toNat else none
  | _ => none

def text : Value → Option String
  | .text s => some s
  | _ => none

/-- A moment is a record of none of the fields. -/
def record (names : List String) : Value → Option (String → Option Value)
  | .moment _ => some fun _ => none
  | v => fields names v

def conversions : Conversions := ⟨boolean, size, text, record⟩

end Strict

/-- The settings that a document gives. -/
def parse (content : String) : Except Failure Settings :=
  match (Toml.read? .first content).bind Strict.conversions.settings with
  | some s => checked s
  | none => .error .malformed

end Audience.Settings
