import Audience.Toml.Dialect
import Audience.Toml.Value

/-!
# Tokens of TOML

Readers of the smallest parts of a document: blanks, line ends, comments,
quoted texts and keys. A reader takes characters off the front of a text and
returns what they stand for with the text that is left, or nothing.
-/

namespace Audience.Toml

/-- A reader of `α`. -/
abbrev Reader (α : Type) := List Char → Option (α × List Char)

def isSpace (c : Char) : Bool := c == ' ' || c == '\t'

def skipSpaces (cs : List Char) : List Char := cs.dropWhile isSpace

/-- A character that may stand in a comment or a text: a tab, or no control. -/
def isPlain (c : Char) : Bool := c == '\t' || (c.toNat ≥ 0x20 && c.toNat ≠ 0x7F)

/-- Takes the end of a line, which the end of the document is too, blanks and a comment before
it. -/
def endLine? (cs : List Char) : Option (List Char) :=
  let rest := match skipSpaces cs with
    | '#' :: tail => tail.dropWhile isPlain
    | rest => rest
  match rest with
  | [] => some []
  | '\n' :: tail => some tail
  | '\r' :: '\n' :: tail => some tail
  | _ => none

/-- Skips blanks, line ends and comments. -/
def skipLayout (inComment : Bool) : List Char → List Char
  | '\n' :: cs => skipLayout false cs
  | '\r' :: '\n' :: cs => skipLayout false cs
  | c :: cs =>
    if inComment then if isPlain c then skipLayout true cs else c :: cs
    else if isSpace c then skipLayout false cs
    else if c = '#' then skipLayout true cs
    else c :: cs
  | [] => []

/-- Skips what may stand between the parts of an inline table. -/
def skipGap (d : Dialect) (cs : List Char) : List Char :=
  if d.openTables then skipLayout false cs else skipSpaces cs

/-! ## Quoted texts -/

/-- The value of a hexadecimal digit. -/
def hexValue? (c : Char) : Option Nat :=
  if c.isDigit then some (c.toNat - '0'.toNat)
  else if 'a' ≤ c ∧ c ≤ 'f' then some (c.toNat - 'a'.toNat + 10)
  else if 'A' ≤ c ∧ c ≤ 'F' then some (c.toNat - 'A'.toNat + 10)
  else none

/-- The character of a code point in hexadecimal, surrogates refused. -/
def charOfHex? (digits : List Char) : Option Char := do
  let values ← digits.mapM hexValue?
  let n := values.foldl (fun n d => 16 * n + d) 0
  if h : n.isValidChar then some (Char.ofNatAux n h) else none

/-- The character of a one-letter escape. -/
def escaped? (d : Dialect) : Char → Option Char
  | 'b' => some '\x08'
  | 't' => some '\t'
  | 'n' => some '\n'
  | 'f' => some '\x0c'
  | 'r' => some '\r'
  | '"' => some '"'
  | '\\' => some '\\'
  | 'e' => if d.shortEscapes then some '\x1b' else none
  | _ => none

/-- The character of an escape of two digits. -/
def shortEscape? (d : Dialect) (a b : Char) : Option Char :=
  if d.shortEscapes then charOfHex? [a, b] else none

/-- Puts a character in front of what is read next. -/
def consRead (c : Option Char) (next : Option (List Char × List Char)) :
    Option (List Char × List Char) :=
  match c, next with
  | some c, some (text, rest) => some (c :: text, rest)
  | _, _ => none

/-- Puts a line end of two characters in front of what is read next. -/
def consLineEnd (d : Dialect) (next : Option (List Char × List Char)) :
    Option (List Char × List Char) :=
  if d.keepsLineEnds then consRead (some '\r') (consRead (some '\n') next)
  else consRead (some '\n') next

/-- A text with escapes on one line, its opening quote taken. -/
def basicText (d : Dialect) : Reader (List Char)
  | '"' :: cs => some ([], cs)
  | '\\' :: 'x' :: a :: b :: cs => consRead (shortEscape? d a b) (basicText d cs)
  | '\\' :: 'u' :: a₁ :: a₂ :: a₃ :: a₄ :: cs =>
    consRead (charOfHex? [a₁, a₂, a₃, a₄]) (basicText d cs)
  | '\\' :: 'U' :: a₁ :: a₂ :: a₃ :: a₄ :: a₅ :: a₆ :: a₇ :: a₈ :: cs =>
    consRead (charOfHex? [a₁, a₂, a₃, a₄, a₅, a₆, a₇, a₈]) (basicText d cs)
  | '\\' :: c :: cs => consRead (escaped? d c) (basicText d cs)
  | c :: cs => if isPlain c then consRead (some c) (basicText d cs) else none
  | [] => none

/-- A text without escapes on one line, its opening quote taken. -/
def literalText : Reader (List Char)
  | '\x27' :: cs => some ([], cs)
  | c :: cs => if isPlain c then consRead (some c) (literalText cs) else none
  | [] => none

/-- Whether only blanks stand before the end of the line. -/
def blankToLineEnd (cs : List Char) : Bool :=
  match skipSpaces cs with
  | '\n' :: _ => true
  | '\r' :: '\n' :: _ => true
  | _ => false

/-- A text with escapes on many lines, its opening quotes taken. While `folding`, blanks and line
ends are passed over: a backslash at the end of a line folds it. Up to two quotes may stand before
the closing three. -/
def basicLines (d : Dialect) (folding : Bool) : Reader (List Char)
  | '"' :: '"' :: '"' :: '"' :: '"' :: cs => some (['"', '"'], cs)
  | '"' :: '"' :: '"' :: '"' :: cs => some (['"'], cs)
  | '"' :: '"' :: '"' :: cs => some ([], cs)
  | '\\' :: 'x' :: a :: b :: cs => consRead (shortEscape? d a b) (basicLines d false cs)
  | '\\' :: 'u' :: a₁ :: a₂ :: a₃ :: a₄ :: cs =>
    consRead (charOfHex? [a₁, a₂, a₃, a₄]) (basicLines d false cs)
  | '\\' :: 'U' :: a₁ :: a₂ :: a₃ :: a₄ :: a₅ :: a₆ :: a₇ :: a₈ :: cs =>
    consRead (charOfHex? [a₁, a₂, a₃, a₄, a₅, a₆, a₇, a₈]) (basicLines d false cs)
  | '\\' :: c :: cs =>
    if blankToLineEnd (c :: cs) then basicLines d true (c :: cs)
    else consRead (escaped? d c) (basicLines d false cs)
  | '\r' :: '\n' :: cs =>
    if folding then basicLines d true cs else consLineEnd d (basicLines d false cs)
  | '\n' :: cs => if folding then basicLines d true cs else consRead (some '\n') (basicLines d false cs)
  | c :: cs =>
    if folding && isSpace c then basicLines d true cs
    else if isPlain c then consRead (some c) (basicLines d false cs)
    else none
  | [] => none

/-- A text without escapes on many lines, its opening quotes taken. -/
def literalLines (d : Dialect) : Reader (List Char)
  | '\x27' :: '\x27' :: '\x27' :: '\x27' :: '\x27' :: cs => some (['\x27', '\x27'], cs)
  | '\x27' :: '\x27' :: '\x27' :: '\x27' :: cs => some (['\x27'], cs)
  | '\x27' :: '\x27' :: '\x27' :: cs => some ([], cs)
  | '\r' :: '\n' :: cs => consLineEnd d (literalLines d cs)
  | '\n' :: cs => consRead (some '\n') (literalLines d cs)
  | c :: cs => if isPlain c then consRead (some c) (literalLines d cs) else none
  | [] => none

/-- A line end right after the opening quotes is no part of the text. -/
def dropLineEnd : List Char → List Char
  | '\n' :: cs => cs
  | '\r' :: '\n' :: cs => cs
  | cs => cs

/-- A quoted text as a value. -/
def quoted? (d : Dialect) (cs : List Char) : Option (String × List Char) :=
  let read := match cs with
    | '"' :: '"' :: '"' :: cs => basicLines d false (dropLineEnd cs)
    | '"' :: cs => basicText d cs
    | '\x27' :: '\x27' :: '\x27' :: cs => literalLines d (dropLineEnd cs)
    | '\x27' :: cs => literalText cs
    | _ => none
  read.map fun (text, rest) => (String.ofList text, rest)

/-! ## Keys -/

def isBareKeyChar (c : Char) : Bool := c.isAlphanum || c == '_' || c == '-'

/-- A bare or quoted key. -/
def simpleKey? (d : Dialect) : Reader String
  | '"' :: cs => (basicText d cs).map fun (text, rest) => (String.ofList text, rest)
  | '\x27' :: cs => (literalText cs).map fun (text, rest) => (String.ofList text, rest)
  | cs =>
    let key := cs.takeWhile isBareKeyChar
    if key.isEmpty then none else some (String.ofList key, cs.dropWhile isBareKeyChar)

/-- Keys with dots between them, at most `limit` of them. -/
def keyPath? (d : Dialect) : (limit : Nat) → Reader (List String)
  | 0, _ => none
  | limit + 1, cs => match simpleKey? d cs with
    | none => none
    | some (key, rest) => match skipSpaces rest with
      | '.' :: tail =>
        (keyPath? d limit (skipSpaces tail)).map fun (keys, rest) => (key :: keys, rest)
      | _ => some ([key], rest)

/-- A dotted key. -/
def dottedKey? (d : Dialect) : Reader (List String) := keyPath? d d.nestingLimit

end Audience.Toml
