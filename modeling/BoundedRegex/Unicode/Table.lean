/-!
# Tables over code points

The tables of character properties are written as text: code points in hexadecimal, in increasing
order, separated by blanks and line breaks. A set is written as the points where membership changes; a map is
written as runs, each a first code point and the name of the value that holds from there on. Both
are searched by bisection.
-/
namespace BoundedRegex.Unicode

/-- The value of a hexadecimal digit; any other character counts as nothing. -/
def hexDigitValue (c : Char) : Nat :=
  if '0' ≤ c ∧ c ≤ '9' then c.toNat - '0'.toNat
  else if 'A' ≤ c ∧ c ≤ 'F' then c.toNat - 'A'.toNat + 10
  else 0

def hexNumber (text : String) : Nat :=
  text.foldl (fun n c => 16 * n + hexDigitValue c) 0

/-- The words of a text, which blanks and line breaks separate. -/
def words (text : String) : List String :=
  let close (word : List Char) (done : List String) : List String :=
    if word.isEmpty then done else String.ofList word :: done
  let (word, done) := text.toList.foldr (fun c (word, done) =>
    if c == ' ' || c == '\n' then ([], close word done) else (c :: word, done)) ([], [])
  close word done

/-- How many entries of an increasing array are at most `c`, searched between two counts. -/
def countUpTo (entries : Array Nat) (c lo hi : Nat) : Nat :=
  if lo < hi then
    let mid := (lo + hi) / 2
    if entries.getD mid 0 ≤ c then countUpTo entries c (mid + 1) hi
    else countUpTo entries c lo mid
  else lo
termination_by hi - lo

/-- A set of code points, held as the points at which membership changes. -/
structure PointSet where
  changes : Array Nat
  deriving Repr

namespace PointSet

/-- Reads the written form of a set. -/
def ofText (text : String) : PointSet :=
  ⟨(words text).toArray.map hexNumber⟩

/-- Membership has changed an odd number of times. -/
def contains (s : PointSet) (c : Nat) : Bool :=
  countUpTo s.changes c 0 s.changes.size % 2 == 1

end PointSet

/-- A map from code points that is constant on runs; before the first run it has no value. -/
structure RunMap (α : Type) where
  starts : Array Nat
  values : Array α
  deriving Repr

namespace RunMap

/-- Pairs up a list of words: a start, then the name of its value. -/
def pairs : List String → List (Nat × String)
  | start :: name :: rest => (hexNumber start, name) :: pairs rest
  | _ => []

/-- Reads the written form of a map, naming values by `value`. -/
def ofText {α : Type} (value : String → α) (text : String) : RunMap α :=
  let runs := (pairs (words text)).toArray
  ⟨runs.map (·.1), runs.map (fun r => value r.2)⟩

/-- The value of the run that holds `c`. -/
def get? {α : Type} (m : RunMap α) (c : Nat) : Option α :=
  match countUpTo m.starts c 0 m.starts.size with
  | 0 => none
  | n + 1 => m.values[n]?

end RunMap

end BoundedRegex.Unicode
