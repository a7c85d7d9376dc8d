/-!
# Pattern options

What the caller and the pattern itself may set about how the pattern is read. Some options can be
changed inside the pattern for the rest of a group; those are in `Options`. Settings at the start of
a pattern hold for all of it; those are in `Settings`.
-/
namespace BoundedRegex.Pattern

/-- Options that groups may change. -/
structure Options where
  /-- Letters match in either case. -/
  caseless : Bool := false
  /-- `^` and `$` match at every line. -/
  multiline : Bool := false
  /-- A dot matches newlines too. -/
  dotAll : Bool := false
  /-- White space and comments are ignored. -/
  extended : Bool := false
  /-- Blanks and tabs are ignored in classes too. -/
  extendedMore : Bool := false
  /-- Plain parentheses do not capture. -/
  noAutoCapture : Bool := false
  /-- Quantifiers are lazy unless marked greedy. -/
  ungreedy : Bool := false
  /-- Several groups may share a name. -/
  duplicateNames : Bool := false
  /-- Case variants do not mix ASCII with other characters. -/
  restrictCase : Bool := false
  /-- `\d` knows ASCII digits only. -/
  asciiDigit : Bool := false
  /-- `\s` knows ASCII space only. -/
  asciiSpace : Bool := false
  /-- `\w` knows ASCII words only. -/
  asciiWord : Bool := false
  asciiDigitClass : Bool := false
  /-- Named classes know ASCII only. -/
  asciiClass : Bool := false
  deriving DecidableEq, Repr

/-- What ends a line. -/
inductive Newline where
  /-- Carriage return. -/
  | cr
  /-- Line feed. -/
  | lf
  /-- Carriage return with line feed. -/
  | crlf
  /-- Either of these or both in order. -/
  | anyCrlf
  /-- Any vertical white space. -/
  | any
  /-- The zero character. -/
  | nul
  deriving DecidableEq, Repr

/-- What holds for a whole pattern. -/
structure Settings where
  /-- Pattern and subject are characters in UTF-8, not bytes. -/
  utf : Bool := false
  /-- Classes follow character properties. -/
  ucp : Bool := false
  /-- What ends a line. -/
  newline : Newline := .lf
  /-- `\R` is limited to carriage return and line feed. -/
  narrowNewlineSequence : Bool := false
  /-- An empty match does not count. -/
  notEmpty : Bool := false
  /-- An empty match does not count at the start offset. -/
  notEmptyAtStart : Bool := false
  /-- Repeats are made possessive where nothing is lost. -/
  autoPossess : Bool := true
  /-- A leading `.*` anchors the pattern. -/
  dotStarAnchor : Bool := true
  /-- What a match must begin with or contain is checked ahead. -/
  startOptimize : Bool := true
  /-- The bound on entries that the pattern asks for. -/
  matchLimit : Option Nat := none
  /-- The bound on nested entries that the pattern asks for. -/
  nestingLimit : Option Nat := none
  /-- The bound on memory for nested entries, in units of 1024 bytes, that the pattern asks for. -/
  heapLimit : Option Nat := none
  deriving DecidableEq, Repr

end BoundedRegex.Pattern
