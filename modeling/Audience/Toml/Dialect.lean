/-!
# Dialects of TOML

A document is read in one of two dialects. `Dialect.first` is the first
edition of the language and `Dialect.second` the edition after it, which lets
inline tables run over lines and adds short escapes and short times. The
dialects also differ where both editions leave the choice to the reader: how
deep a document may nest, whether line ends inside texts are made alike, and
what becomes of numbers that are too large.
-/

namespace Audience.Toml

/-- What a reader of TOML takes. -/
structure Dialect where
  /-- Lists and inline tables may nest, and keys may be dotted, up to this many. -/
  nestingLimit : Nat
  /-- Inline tables may run over lines and end with a comma. -/
  openTables : Bool
  /-- The escape character has an escape of its own, and so has a code point of two digits. -/
  shortEscapes : Bool
  /-- A line end of two characters inside a text stays as it is, and is not read as one. -/
  keepsLineEnds : Bool
  /-- A time of day may leave its seconds out. -/
  shortTimes : Bool
  /-- A dotted key may add to a table that only the headers of tables inside it have made. -/
  entersImplied : Bool
  /-- A negative number that overflows is minus infinity. -/
  overflowsDown : Bool
deriving DecidableEq, Repr

/-- The first edition. -/
def Dialect.first : Dialect where
  nestingLimit := 79
  openTables := false
  shortEscapes := false
  keepsLineEnds := false
  shortTimes := false
  entersImplied := false
  overflowsDown := true

/-- The second edition. -/
def Dialect.second : Dialect where
  nestingLimit := 80
  openTables := true
  shortEscapes := true
  keepsLineEnds := true
  shortTimes := true
  entersImplied := true
  overflowsDown := false

end Audience.Toml
