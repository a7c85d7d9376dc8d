import BoundedRegex.Unicode.Property.Case
import BoundedRegex.Unicode.Property.Identifier
import BoundedRegex.Unicode.Property.Letter
import BoundedRegex.Unicode.Property.Symbol

/-!
# Binary properties

The properties that a code point has or lacks, under their long and short names without separators
and in lower case.
-/
namespace BoundedRegex.Unicode

/-- The first 128 code points. -/
def asciiPoints : PointSet := ⟨#[0, 0x80]⟩

def binaryProperties : List (List String × PointSet) :=
  (["ascii"], asciiPoints) ::
    (caseProperties ++ identifierProperties ++ letterProperties ++ symbolProperties)

def binaryProperty? (name : String) : Option PointSet :=
  (binaryProperties.find? (·.1.contains name)).map (·.2)

end BoundedRegex.Unicode
