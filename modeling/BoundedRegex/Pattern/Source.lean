import BoundedRegex.Text.Utf8
import BoundedRegex.Unicode.Category
import BoundedRegex.Pattern.Fault

/-!
# Pattern text

The bytes of a pattern with a way to read them: as single bytes, or as characters where the pattern
is text in UTF-8. Positions are byte offsets. Readers take a position and return what they read with
the position behind it, or the fault that stops them.
-/
namespace BoundedRegex.Pattern
open Text Unicode

/-- A pattern to be read. -/
structure Source where
  bytes : ByteArray
  utf : Bool

/-- Stops reading for a cause at a position. -/
def failAt {α : Type} (cause : Cause) (i : Nat) : Except Fault α := .error ⟨cause, i⟩

namespace Source

def size (s : Source) : Nat := s.bytes.size

/-- The byte at a position, as a character; none at the end. -/
def at? (s : Source) (i : Nat) : Option Char :=
  if i < s.size then some (Char.ofNat (byteAt s.bytes i)) else none

/-- Whether the byte at a position is the given character. -/
def isAt (s : Source) (i : Nat) (c : Char) : Bool := s.at? i == some c

/-- Whether the bytes from a position on start with the given ASCII text. -/
def startsAt (s : Source) (i : Nat) (text : List Char) : Bool :=
  match text with
  | [] => true
  | c :: rest => s.isAt i c && s.startsAt (i + 1) rest

/-- The character at a position that is not the end. -/
def charAt (s : Source) (i : Nat) : Nat :=
  if s.utf then decodeAt s.bytes i else byteAt s.bytes i

/-- The position behind the character at a position. -/
def afterChar (s : Source) (i : Nat) : Nat :=
  if s.utf then i + widthOf (byteAt s.bytes i) else i + 1

/-- The start of the character before a position. -/
def beforeChar (s : Source) (i : Nat) : Nat :=
  if s.utf then previousChar s.bytes i else i - 1

/-- The first position from `i` on where the test fails, the end at the latest. -/
def skipWhile (s : Source) (test : Char → Bool) (i : Nat) : Nat :=
  if i < s.size then
    match s.at? i with
    | some c => if test c then skipWhile s test (i + 1) else i
    | none => i
  else i
termination_by s.size - i

/-- The characters between two positions. -/
def slice (s : Source) (lo hi : Nat) : List Char :=
  (List.range (hi - lo)).map fun k => Char.ofNat (byteAt s.bytes (lo + k))

end Source

def isBlank (c : Char) : Bool := c == ' ' || c == '\t'

/-- Characters of names in ASCII. -/
def isWordChar (c : Char) : Bool := c.isAlphanum || c == '_'

/-- The greatest group number. -/
def maxGroup : Nat := 65535

/-- The greatest count of a quantifier. -/
def maxCount : Nat := 65535

/-- The most bytes of a group name. -/
def maxNameLength : Nat := 128

def maxVerbName : Nat := 255

/-- The most distinct group names. -/
def maxNames : Nat := 10000

def decimal (digits : List Char) : Nat :=
  digits.foldl (fun n c => 10 * n + (c.toNat - '0'.toNat)) 0

/-- Reads a run of digits; none if there is no digit. A number above `limit` is a fault if `tooBig`
names one, and otherwise counts as no number. -/
def readDigits (s : Source) (limit : Nat) (tooBig : Option Cause) (i : Nat) : Except Fault (Option Nat × Nat) :=
  let j := s.skipWhile Char.isDigit i
  if j == i then .ok (none, i)
  else
    let n := decimal (s.slice i j)
    if n > limit then
      match tooBig with
      | some cause => failAt cause j
      | none => .ok (none, i)
    else .ok (some n, j)

/-- Reads a group number, which a sign makes relative to the groups opened so far. -/
def readGroupNumber (s : Source) (groups : Nat) (i : Nat) : Except Fault (Option Nat × Nat) := do
  let signed := s.isAt i '+' || s.isAt i '-'
  let (number, j) ← readDigits s
    (if s.isAt i '+' then maxGroup - groups else maxGroup) (some .groupNumberTooLarge)
    (if signed then i + 1 else i)
  match number with
  | none => .ok (none, i)
  | some n =>
    if !signed then .ok (some n, j)
    else if n == 0 then failAt .relativeZero j
    else if s.isAt i '+' then .ok (some (groups + n), j)
    else if n > groups then failAt .unknownGroup j
    else .ok (some (groups - n + 1), j)

/-- The position behind a group name that starts at `i`: letters, digits and underscores. -/
def nameEnd (s : Source) (i : Nat) : Nat :=
  if i < s.size then
    if s.utf then
      let c := decodeAt s.bytes i
      if isLetter c || isDecimalDigit c || c == '_'.toNat then
        nameEnd s (i + widthOf (byteAt s.bytes i))
      else i
    else s.skipWhile isWordChar i
  else i
termination_by s.size - i
decreasing_by
  simp only [widthOf]
  split <;> (try split) <;> (try split) <;> omega

/-- A group name: where it starts and its bytes. -/
structure Name where
  offset : Nat
  /-- The bytes of the name, each as the character of that code. -/
  bytes : List Char
  deriving DecidableEq, Repr

def byteChars (text : String) : List Char := text.toUTF8.toList.map fun b => Char.ofNat b.toNat

/-- Whether the character at a position is a digit that no group name may start with. -/
def digitAt (s : Source) (i : Nat) : Bool :=
  if s.utf then isDecimalDigit (decodeAt s.bytes i)
  else (s.at? i).any Char.isDigit

/-- Reads a group name from `i` up to its terminator, if it has one. Blanks may stand inside
braces. -/
def readName (s : Source) (terminator : Option Char) (i : Nat) : Except Fault (Name × Nat) := do
  let braced := terminator == some '}'
  let start := if braced then s.skipWhile isBlank i else i
  if s.size ≤ start then failAt .nameExpected start
  else if digitAt s start then failAt .nameStartsWithDigit start
  else
    let stop := nameEnd s start
    if stop > start + maxNameLength then failAt .nameTooLong stop
    else if stop == start then failAt .nameExpected stop
    else
      let name : Name := ⟨start, s.slice start stop⟩
      match terminator with
      | none => .ok (name, stop)
      | some c =>
        let stop := if braced then s.skipWhile isBlank stop else stop
        if s.isAt stop c then .ok (name, stop + 1) else failAt .unclosedName stop

/-- The counts of a quantifier in braces; no greatest count means no bound. -/
structure Counts where
  lo : Nat
  hi : Option Nat
  deriving DecidableEq, Repr

/-- The position behind a quantifier in braces whose inside starts at `i`, if the form is right. -/
def countsEnd? (s : Source) (i : Nat) : Option Nat :=
  let i := s.skipWhile isBlank i
  let j := s.skipWhile Char.isDigit i
  let hasLeast := j != i
  let j := s.skipWhile isBlank j
  match s.at? j with
  | some '}' => if hasLeast then some (j + 1) else none
  | some ',' =>
    let j := s.skipWhile isBlank (j + 1)
    let k := s.skipWhile Char.isDigit j
    if k == j && !hasLeast then none
    else
      let k := s.skipWhile isBlank k
      if s.isAt k '}' then some (k + 1) else none
  | _ => none

/-- Reads the inside and the closing brace of a quantifier. What has not the form of one is none. -/
def readCounts (s : Source) (i : Nat) : Except Fault (Option Counts × Nat) := do
  match countsEnd? s i with
  | none => .ok (none, i)
  | some stop =>
    let i := s.skipWhile isBlank i
    let (least, j) ← readDigits s maxCount (some .countTooLarge) i
    let j := s.skipWhile isBlank j
    if s.isAt j '}' then .ok (some ⟨least.getD 0, some (least.getD 0)⟩, stop)
    else
      let (greatest, k) ← readDigits s maxCount (some .countTooLarge) (s.skipWhile isBlank (j + 1))
      match greatest with
      | some n =>
        if n < least.getD 0 then failAt .countsOutOfOrder k
        else .ok (some ⟨least.getD 0, some n⟩, stop)
      | none => .ok (some ⟨least.getD 0, none⟩, stop)

end BoundedRegex.Pattern
