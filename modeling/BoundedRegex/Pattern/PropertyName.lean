import BoundedRegex.Pattern.CharKind

/-!
# Names of properties

A property escape names its set loosely: case, blanks, hyphens and underscores do not matter. A name
may be qualified, as in `script=greek`, which then tells a script from its extensions.
-/
namespace BoundedRegex.Pattern
open Unicode

def Property.ofSpecialName? : String → Option Property
  | "any" => some .any
  | "l&" => some .casedLetter
  | "lc" => some .casedLetter
  | "xan" => some .alnum
  | "xps" => some .space
  | "xsp" => some .space
  | "xuc" => some .universal
  | "xwd" => some .word
  | _ => none

/-- The groups of general categories have one letter. -/
def Property.ofGroupName? (name : String) : Option Property :=
  match name.toList with
  | [letter] => if "clmnpsz".contains letter then some (.group letter) else none
  | _ => none

/-- The property of a bidirectional class, under its code after `bidi`. -/
def Property.ofBidiName? (name : String) : Option Property :=
  (bidiClassCodes.find? (fun code => "bidi" ++ code == name)).map .bidi

/-- The property of a plain name in lower case without separators. Scripts stand for their
extended sets. -/
def Property.ofName? (name : String) : Option Property :=
  (Property.ofSpecialName? name)
    <|> (Property.ofGroupName? name)
    <|> ((Category.ofCode? name).map .category)
    <|> ((Script.ofName? name).map .scriptExtended)
    <|> (Property.ofBidiName? name)
    <|> ((binaryProperty? name).map .binary)

def Property.ofQualified? (qualifier name : String) : Option Property :=
  if qualifier == "bidiclass" || qualifier == "bc" then Property.ofName? ("bidi" ++ name)
  else if qualifier == "script" || qualifier == "sc" then (Script.ofName? name).map .script
  else if qualifier == "scriptextensions" || qualifier == "scx" then
    (Script.ofName? name).map .scriptExtended
  else none

/-- Splits a name at its first `:` or `=`. -/
def splitQualifier (name : List Char) : Option (List Char × List Char) :=
  match name.span (fun c => c != ':' && c != '=') with
  | (_, []) => none
  | (before, _ :: after) => some (before, after)

/-- The property of a name as an escape gives it, qualifier and all. -/
def Property.find? (name : List Char) : Option Property :=
  match splitQualifier name with
  | some (qualifier, value) => Property.ofQualified? (String.ofList qualifier) (String.ofList value)
  | none => Property.ofName? (String.ofList name)

end BoundedRegex.Pattern
