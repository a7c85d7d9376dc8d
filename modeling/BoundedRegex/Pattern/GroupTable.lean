import BoundedRegex.Pattern.Syntax

/-!
# The groups of a pattern

References and calls name groups by number or by name. A `GroupTable` is what a pattern says about
its groups as a whole, so that a reference can be followed wherever it stands.
-/
namespace BoundedRegex.Pattern

/-- All capturing groups in the order of their opening parentheses, with their bodies. -/
def Node.captures : Node → List (Nat × Node)
  | .seq first rest => first.captures ++ rest.captures
  | .alt first rest => first.captures ++ rest.captures
  | .group (.capture n) body => (n, body) :: body.captures
  | .group _ body => body.captures
  | .repeated item _ => item.captures
  | _ => []

/-- The numbers of all references with the offsets to report, in order. -/
def Node.references : Node → List (Nat × Nat)
  | .seq first rest => first.references ++ rest.references
  | .alt first rest => first.references ++ rest.references
  | .group _ body => body.references
  | .repeated item _ => item.references
  | .backref n _ offset => [(n, offset)]
  | _ => []

/-- What is known of the groups of a pattern. -/
structure GroupTable where
  /-- The greatest number of a group. -/
  count : Nat
  bodies : List (Nat × Node)
  names : List NamedGroup
  sharedNumbers : Bool
  /-- References by number, in order. -/
  references : List (Nat × Nat)

def Parsed.table (p : Parsed) : GroupTable where
  count := p.groups
  bodies := p.body.captures
  names := p.names
  sharedNumbers := p.sharedNumbers
  references := p.body.references

namespace GroupTable

def body? (t : GroupTable) (n : Nat) : Option Node := t.bodies.lookup n

def numbersOf (t : GroupTable) (name : List Char) : List Nat :=
  (t.names.filter (·.name == name)).map (·.number)

/-- Where a reference to a missing group is reported: references to a single digit all point to the
first of them. -/
def referenceOffset (t : GroupTable) (n offset : Nat) : Nat :=
  if n < 10 then (t.references.lookup n).getD offset else offset

end GroupTable

end BoundedRegex.Pattern
