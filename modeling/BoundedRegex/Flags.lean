import BoundedRegex.Text.Shown
import BoundedRegex.Unicode.Property.Symbol

/-!
# Flags

Sets of flags that say how a pattern is to be read. A set is a word of 32 bits. Six of them have a
name; a set keeps the others as they are. The text of a set lists the names of its flags and then the
remaining bits as one number, and can be read back.
-/
namespace BoundedRegex
open Text

inductive Flag where
  /-- Letters match in either case. -/
  | caseless
  /-- Lines have starts and ends of their own. -/
  | multiline
  /-- Patterns and subjects are characters, not bytes. -/
  | utf8
  /-- A dot matches newlines too. -/
  | dotAll
  /-- White space in patterns is ignored. -/
  | extended
  /-- Classes follow character properties. -/
  | ucp
  deriving DecidableEq, Repr

namespace Flag

def all : List Flag := [.caseless, .multiline, .utf8, .dotAll, .extended, .ucp]

def bit : Flag → UInt32
  | .caseless => 1
  | .multiline => 2
  | .utf8 => 4
  | .dotAll => 8
  | .extended => 16
  | .ucp => 32

def name : Flag → String
  | .caseless => "CASELESS"
  | .multiline => "MULTILINE"
  | .utf8 => "UTF8"
  | .dotAll => "DOTALL"
  | .extended => "EXTENDED"
  | .ucp => "UCP"

end Flag

structure Flags where
  bits : UInt32
  deriving DecidableEq, Repr

namespace Flags

def empty : Flags := ⟨0⟩

/-- The bits that have a name. -/
def known : UInt32 := 63

def all : Flags := ⟨known⟩

/-- A set of named flags only. -/
def ofBits? (bits : UInt32) : Option Flags := if bits &&& ~~~known == 0 then some ⟨bits⟩ else none

def truncate (bits : UInt32) : Flags := ⟨bits &&& known⟩

def ofName? (name : String) : Option Flags :=
  (Flag.all.find? (·.name == name)).map fun f => ⟨f.bit⟩

/-- The flags of either set. -/
def union (f g : Flags) : Flags := ⟨f.bits ||| g.bits⟩

/-- The flags of both sets. -/
def inter (f g : Flags) : Flags := ⟨f.bits &&& g.bits⟩

/-- The flags of the first set that the second one lacks. -/
def diff (f g : Flags) : Flags := ⟨f.bits &&& ~~~g.bits⟩

/-- The flags of exactly one of the sets. -/
def symmDiff (f g : Flags) : Flags := ⟨f.bits ^^^ g.bits⟩

/-- The named flags that a set lacks. -/
def compl (f : Flags) : Flags := truncate (~~~f.bits)

/-- Whether all flags of another set are in a set. -/
def contains (f g : Flags) : Bool := f.bits &&& g.bits == g.bits

def has (f : Flags) (x : Flag) : Bool := f.contains ⟨x.bit⟩

/-- Whether two sets have a flag in common. -/
def intersects (f g : Flags) : Bool := f.bits &&& g.bits != 0

def isEmpty (f : Flags) : Bool := f.bits == 0

/-- Whether a set has all named flags. -/
def isAll (f : Flags) : Bool := f.contains all

/-- The named flags of a set. -/
def flags (f : Flags) : List Flag := Flag.all.filter f.has

/-- The bits of a set that have no name. -/
def rest (f : Flags) : UInt32 := f.bits &&& ~~~known

/-- The bits of each named flag of a set, and then the rest, if there is one. -/
def parts (f : Flags) : List UInt32 :=
  f.flags.map Flag.bit ++ if f.rest == 0 then [] else [f.rest]

/-! ## Text -/

/-- A number with the mark of base sixteen. -/
def hexText (bits : UInt32) : String := "0x" ++ String.ofList (hexDigits bits.toNat)

def text (f : Flags) : String :=
  " | ".intercalate (f.flags.map Flag.name ++ if f.rest == 0 then [] else [hexText f.rest])

def shown (f : Flags) : Shown :=
  .tuple "Flags" [.word (if f.isEmpty then "0x0" else f.text)]

def isBlank (c : Char) : Bool := Unicode.whiteSpacePoints.contains c.toNat

/-- Text without the white space around it. -/
def trim (cs : List Char) : List Char :=
  ((cs.dropWhile isBlank).reverse.dropWhile isBlank).reverse

/-- The value of a digit in base sixteen. -/
def hexValue? (c : Char) : Option Nat :=
  if '0' ≤ c ∧ c ≤ '9' then some (c.toNat - '0'.toNat)
  else if 'a' ≤ c ∧ c ≤ 'f' then some (c.toNat - 'a'.toNat + 10)
  else if 'A' ≤ c ∧ c ≤ 'F' then some (c.toNat - 'A'.toNat + 10)
  else none

/-- The number of some digits in base sixteen, after others. It must fit into 32 bits. -/
def hexNumber? : Nat → List Char → Option Nat
  | n, [] => some n
  | n, c :: cs => do
    let m := 16 * n + (← hexValue? c)
    if m < 0x100000000 then hexNumber? m cs else none

/-- Some bits in base sixteen. A plus sign may come first, and a digit must follow. -/
def bits? (cs : List Char) : Option UInt32 :=
  let digits :=
    match cs with
    | '+' :: rest => rest
    | _ => cs
  if digits.isEmpty then none else (hexNumber? 0 digits).map UInt32.ofNat

/-- A part of a text of flags: a name, or a number with the mark of base sixteen. -/
def part? (cs : List Char) : Option Flags :=
  match cs with
  | '0' :: 'x' :: digits => (bits? digits).map Flags.mk
  | _ => ofName? (String.ofList cs)

def splitAtBars : List Char → List (List Char)
  | [] => [[]]
  | '|' :: rest => [] :: splitAtBars rest
  | c :: rest =>
    match splitAtBars rest with
    | first :: others => (c :: first) :: others
    | [] => [[c]]

/-- Reads a text of flags. White space may surround each part, and no part may be empty unless the
whole text is. -/
def ofText? (text : String) : Option Flags :=
  let cs := text.toList
  if cs.all isBlank then some empty
  else
    (splitAtBars cs).foldlM (fun f part => (part? (trim part)).map f.union) empty

end Flags

end BoundedRegex
