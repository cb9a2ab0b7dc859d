import Audience.Text.Split

/-!
# Listener addresses

An address is `host:port`, or `[host]:port` for a host with colons in it. The
bracketed form ends its host at the first closing bracket, the plain form at
the last colon. Host and port are taken as they are and may be empty.
-/

namespace Audience

/-- A host and a port. -/
structure Address where
  host : String
  port : String
deriving DecidableEq, Repr

/-- What is wrong with the text of an address. -/
inductive AddressFault where
  | missingBracket
  | missingPort
  | tooManyColons
  | unexpectedBracket
deriving DecidableEq, Repr

def AddressFault.message : AddressFault → String
  | .missingBracket => "missing ']' in address"
  | .missingPort => "missing port in address"
  | .tooManyColons => "too many colons in address"
  | .unexpectedBracket => "unexpected bracket in address"

namespace Address

def ofChars (host port : List Char) : Address := ⟨String.ofList host, String.ofList port⟩

/-- The bracketed form, its opening bracket taken off. -/
def ofBracketed (cs : List Char) : Except AddressFault Address :=
  match Text.cut? ']' cs with
  | none => .error .missingBracket
  | some (host, ':' :: port) =>
    if ':' ∈ port then .error .tooManyColons else .ok (ofChars host port)
  | some _ => .error .missingPort

/-- The plain form. -/
def ofPlain (cs : List Char) : Except AddressFault Address :=
  match Text.cutLast? ':' cs with
  | none => .error .missingPort
  | some (host, port) =>
    if ':' ∈ host then .error .tooManyColons
    else if '[' ∈ host ∨ ']' ∈ host ∨ ']' ∈ port then .error .unexpectedBracket
    else .ok (ofChars host port)

/-- The address that a text spells. -/
def ofText (s : String) : Except AddressFault Address :=
  match s.toList with
  | '[' :: cs => ofBracketed cs
  | cs => ofPlain cs

/-- What is wrong with a text that spells no address. -/
def fault? (s : String) : Option AddressFault :=
  match ofText s with
  | .ok _ => none
  | .error fault => some fault

end Address

end Audience
