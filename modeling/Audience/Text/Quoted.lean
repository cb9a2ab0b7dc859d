import Audience.Text.CaseTable
import Audience.Text.EscapeTable

/-!
# Quoted text

`quote` writes a text between double quotes so that every character can be
seen: quotes and backslashes are escaped, line breaks, tabs and the null
character have their short escapes, and a character without a shape of its
own is written by its number in hexadecimal.
-/

namespace Audience.Text

/-- A number in lower-case hexadecimal. -/
def hexadecimal (n : Nat) : String := String.ofList (Nat.toDigits 16 n)

/-- How a character stands inside quotes. -/
def escapeChar (c : Char) : String :=
  match c with
  | '\x00' => "\\0"
  | '\t' => "\\t"
  | '\n' => "\\n"
  | '\r' => "\\r"
  | '"' => "\\\""
  | '\\' => "\\\\"
  | c => if inRanges shapelessRanges c.toNat then "\\u\x7b" ++ hexadecimal c.toNat ++ "\x7d"
    else c.toString

/-- A text between double quotes, escaped. -/
def quote (s : String) : String :=
  "\"" ++ s.toList.foldl (fun out c => out ++ escapeChar c) "" ++ "\""

end Audience.Text
