import BoundedRegex.Text.Quoted

/-!
# Showing values

How values are shown to people: by name, with their fields, on one line or spread over several. Spread
out, each field has a line of its own, which is indented by four blanks and ends in a comma.
-/
namespace BoundedRegex.Text

inductive Shown where
  | word (text : String)
  /-- A name and values in parentheses. -/
  | tuple (name : String) (items : List Shown)
  | record (name : String) (fields : List (String × Shown))

namespace Shown

def number (n : Nat) : Shown := .word (toString n)

def truth (b : Bool) : Shown := .word (if b then "true" else "false")

def text (s : String) : Shown := .word (quoted s)

/-- A value that may be missing. -/
def option : Option Shown → Shown
  | none => .word "None"
  | some s => .tuple "Some" [s]

mutual

/-- On one line. -/
def inline : Shown → String
  | .word text => text
  | .tuple name items => name ++ "(" ++ ", ".intercalate (inlineItems items) ++ ")"
  | .record name fields =>
    name ++ " \x7b " ++ ", ".intercalate (inlineFields fields) ++ " \x7d"

def inlineItems : List Shown → List String
  | [] => []
  | s :: rest => s.inline :: inlineItems rest

def inlineFields : List (String × Shown) → List String
  | [] => []
  | (name, s) :: rest => (name ++ ": " ++ s.inline) :: inlineFields rest

end

/-- So many times four blanks. -/
def indent (depth : Nat) : String := String.ofList (List.replicate (4 * depth) ' ')

mutual

def spread (depth : Nat) : Shown → String
  | .word text => text
  | .tuple name items => name ++ "(\n" ++ spreadItems (depth + 1) items ++ indent depth ++ ")"
  | .record name fields =>
    name ++ " \x7b\n" ++ spreadFields (depth + 1) fields ++ indent depth ++ "\x7d"

def spreadItems (depth : Nat) : List Shown → String
  | [] => ""
  | s :: rest => indent depth ++ s.spread depth ++ ",\n" ++ spreadItems depth rest

def spreadFields (depth : Nat) : List (String × Shown) → String
  | [] => ""
  | (name, s) :: rest =>
    indent depth ++ name ++ ": " ++ s.spread depth ++ ",\n" ++ spreadFields depth rest

end

/-- On one line, or spread over lines. -/
def render (spreadOut : Bool) (s : Shown) : String :=
  if spreadOut then s.spread 0 else s.inline

end Shown

end BoundedRegex.Text
