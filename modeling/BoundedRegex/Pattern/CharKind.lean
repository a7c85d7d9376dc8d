import BoundedRegex.Unicode.Category
import BoundedRegex.Unicode.Script
import BoundedRegex.Unicode.CaseVariants
import BoundedRegex.Unicode.BidiClass
import BoundedRegex.Unicode.Property

/-!
# Kinds of characters

The sets of characters that escapes and named classes stand for. `CharKind` holds the fixed sets,
most of them within ASCII; `Property` holds the sets given by character properties.
-/
namespace BoundedRegex.Pattern
open Unicode

/-- A fixed set of characters. -/
inductive CharKind where
  | alpha | lower | upper | alnum | ascii | blank | cntrl | digit | graph | print | punct
  | space | word | xdigit
  /-- Horizontal white space of any script. -/
  | horizontal
  /-- Vertical white space of any script. -/
  | vertical
  deriving DecidableEq, Repr

/-- Whether `c` lies between two characters. -/
def between (lo hi : Nat) (c : Nat) : Bool := decide (lo ≤ c) && decide (c ≤ hi)

/-- Blanks and tabs of all scripts. -/
def isHorizontal (c : Nat) : Bool :=
  c == 0x09 || c == 0x20 || c == 0xA0 || c == 0x1680 || c == 0x180E || between 0x2000 0x200A c ||
    c == 0x202F || c == 0x205F || c == 0x3000

/-- Line and page ends of all scripts. -/
def isVertical (c : Nat) : Bool :=
  between 0x0A 0x0D c || c == 0x85 || c == 0x2028 || c == 0x2029

/-- Whether a character is in a fixed set. -/
def CharKind.contains (k : CharKind) (c : Nat) : Bool :=
  match k with
  | .lower => between 0x61 0x7A c
  | .upper => between 0x41 0x5A c
  | .alpha => between 0x41 0x5A c || between 0x61 0x7A c
  | .digit => between 0x30 0x39 c
  | .alnum => between 0x30 0x39 c || between 0x41 0x5A c || between 0x61 0x7A c
  | .ascii => decide (c < 0x80)
  | .blank => c == 0x09 || c == 0x20
  | .cntrl => decide (c < 0x20) || c == 0x7F
  | .graph => between 0x21 0x7E c
  | .print => between 0x20 0x7E c
  | .punct =>
    between 0x21 0x2F c || between 0x3A 0x40 c || between 0x5B 0x60 c || between 0x7B 0x7E c
  | .space => between 0x09 0x0D c || c == 0x20
  | .word => between 0x30 0x39 c || between 0x41 0x5A c || between 0x61 0x7A c || c == 0x5F
  | .xdigit => between 0x30 0x39 c || between 0x41 0x46 c || between 0x61 0x66 c
  | .horizontal => isHorizontal c
  | .vertical => isVertical c

/-- A set of characters given by their properties. -/
inductive Property where
  /-- All characters. -/
  | any
  | casedLetter
  | category (c : Category)
  | group (letter : Char)
  | script (s : Script)
  /-- The characters of one script and those it shares. -/
  | scriptExtended (s : Script)
  | binary (points : PointSet)
  /-- A bidirectional class, by its code. -/
  | bidi (code : String)
  /-- Letters and numbers. -/
  | alnum
  | space
  /-- Letters, numbers, marks and connectors. -/
  | word
  /-- Characters that universal names can write. -/
  | universal
  /-- Visible characters. -/
  | graph
  /-- Visible characters and blanks. -/
  | print
  /-- Punctuation, and ASCII symbols. -/
  | punct
  /-- Hexadecimal digits of either width. -/
  | xdigit
  deriving Repr

/-- Format characters that leave something to see. -/
def isVisibleFormat (c : Nat) : Bool :=
  categoryOf c == .cf && c != 0x061C && !between 0x2066 0x2069 c

def Property.contains (p : Property) (c : Nat) : Bool :=
  match p with
  | .any => true
  | .casedLetter => (categoryOf c).isCasedLetter
  | .category k => categoryOf c == k
  | .group letter => (categoryOf c).group == letter
  | .script s => scriptOf c == s
  | .scriptExtended s => scriptOf c == s || (scriptExtensions c).contains s
  | .binary points => points.contains c
  | .bidi code => bidiClassOf c == code
  | .alnum => isLetter c || isNumber c
  | .space => isHorizontal c || isVertical c || (categoryOf c).group == 'z'
  | .word =>
    let k := categoryOf c
    k.group == 'l' || k.group == 'n' || k == .mn || k == .pc
  | .universal =>
    c == 0x24 || c == 0x40 || c == 0x60 || between 0xA0 0xD7FF c || decide (0xE000 ≤ c)
  | .graph =>
    let g := (categoryOf c).group
    g != 'z' && (g != 'c' || (isVisibleFormat c && c != 0x180E))
  | .print =>
    let k := categoryOf c
    k != .zl && k != .zp && (k.group != 'c' || isVisibleFormat c)
  | .punct =>
    let g := (categoryOf c).group
    g == 'p' || (decide (c < 0x80) && g == 's')
  | .xdigit =>
    CharKind.xdigit.contains c || between 0xFF10 0xFF19 c || between 0xFF21 0xFF26 c ||
      between 0xFF41 0xFF46 c

def asciiVariants (c : Nat) : List Nat :=
  if between 0x41 0x5A c then [c + 32]
  else if between 0x61 0x7A c then [c - 32]
  else []

/-- Which case variants caseless matching knows. -/
inductive CaseRule where
  /-- Those of ASCII letters. -/
  | ascii
  /-- Those of all characters. -/
  | full
  /-- Those of all characters, but never between ASCII and others. -/
  | restricted
  deriving DecidableEq, Repr

/-- The characters that differ from `c` in case only. -/
def CaseRule.variants (rule : CaseRule) (c : Nat) : List Nat :=
  match rule with
  | .ascii => asciiVariants c
  | .full => caseVariants c
  | .restricted => (caseVariants c).filter (fun d => decide (d < 0x80) == decide (c < 0x80))

end BoundedRegex.Pattern
