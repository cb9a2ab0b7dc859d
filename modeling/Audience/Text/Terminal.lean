import Audience.Text.Quoted

/-!
# Text for a terminal

`forTerminal` writes a text so that a terminal which shows it obeys none of
it: the characters that can begin a command to a terminal, or take back what
it has shown, are written by their numbers. Line breaks and the other control
characters stay as they are.
-/

namespace Audience.Text

/-- How a character is written for a terminal. -/
def terminalChar (c : Char) : String :=
  match c with
  | '\x07' => "\\x07"
  | '\x08' => "\\x08"
  | '\x0c' => "\\x0c"
  | '\x1b' => "\\x1b"
  | '\x7f' => "\\x7f"
  | c => if 0x80 ≤ c.toNat ∧ c.toNat ≤ 0x9F then "\\u\x7b" ++ hexadecimal c.toNat ++ "\x7d"
    else c.toString

/-- A text that a terminal obeys none of. -/
def forTerminal (s : String) : String :=
  s.toList.foldl (fun out c => out ++ terminalChar c) ""

end Audience.Text
