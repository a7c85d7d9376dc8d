import BoundedRegex.Pattern.PropertyName
import BoundedRegex.Pattern.Syntax

/-!
# Escapes

What follows a backslash: a character written by its code, a set of characters, a reference to a
group, or a place in the subject. The reader is the same inside and outside classes, except that
digits are never references inside.
-/
namespace BoundedRegex.Pattern
open Text

inductive Escape where
  /-- A character. -/
  | literal (c : Nat)
  /-- What a group matched. -/
  | backref (n : Nat)
  /-- `\g` before a name or a bracketed number. -/
  | groupName
  /-- `\k`, or `\g` in braces without a number. -/
  | backrefName
  | letter (c : Char)
  deriving DecidableEq, Repr

/-- The value of a hexadecimal digit of either case. -/
def hexValue? (c : Char) : Option Nat :=
  if '0' ≤ c ∧ c ≤ '9' then some (c.toNat - '0'.toNat)
  else if 'a' ≤ c ∧ c ≤ 'f' then some (c.toNat - 'a'.toNat + 10)
  else if 'A' ≤ c ∧ c ≤ 'F' then some (c.toNat - 'A'.toNat + 10)
  else none

def octalValue? (c : Char) : Option Nat :=
  if '0' ≤ c ∧ c ≤ '7' then some (c.toNat - '0'.toNat) else none

/-- The letters whose escapes stand for themselves, to be understood by the caller. -/
def meaningfulLetters : List Char := "ABCDEGHKNPQRSVWXZbdhpsvwz".toList

/-- The letters that write a control character. -/
def controlLetter? : Char → Option Nat
  | 'a' => some 7
  | 'e' => some 27
  | 'f' => some 12
  | 'n' => some 10
  | 'r' => some 13
  | 't' => some 9
  | _ => none

/-- The greatest code point that a pattern can hold. -/
def Source.maxPoint (s : Source) : Nat := if s.utf then 0x10FFFF else 0xFF

/-- Code points that no character has. -/
def isSurrogate (c : Nat) : Bool := between 0xD800 0xDFFF c

/-- The digits from `i` on, at most `room` of them, added to `n`; stops behind the digit that takes
the number past `limit`. Returns the number, the position, and whether it is past the limit. -/
def readPoint (s : Source) (value? : Char → Option Nat) (base limit : Nat) (n i : Nat) :
    Nat × Nat × Bool :=
  if i < s.size then
    match (s.at? i).bind value? with
    | some d =>
      let m := base * n + d
      if m > limit then (m, i + 1, true) else readPoint s value? base limit m (i + 1)
    | none => (n, i, false)
  else (n, i, false)
termination_by s.size - i

/-- Reads a code point in braces, from behind the opening one. -/
def readBraced (s : Source) (value? : Char → Option Nat) (base : Nat) (notDigit : Cause) (i : Nat) :
    Except Fault (Escape × Nat) :=
  let i := s.skipWhile isBlank i
  if s.size ≤ i || s.isAt i '}' then failAt .digitsMissing i
  else
    let (c, j, tooLarge) := readPoint s value? base s.maxPoint 0 i
    let j := s.skipWhile isBlank j
    if tooLarge then failAt .codePointTooLarge (s.skipWhile (fun c => (value? c).isSome) j)
    else if s.isAt j '}' then
      if s.utf && isSurrogate c then failAt .surrogate j else .ok (.literal c, j + 1)
    else if j < s.size then failAt notDigit j
    else failAt notDigit (j - 1)

/-- Reads `\x` from behind the letter. -/
def readHexEscape (s : Source) (i : Nat) : Except Fault (Escape × Nat) :=
  if s.isAt i '{' then readBraced s hexValue? 16 .notHexadecimal (i + 1)
  else
    match (s.at? i).bind hexValue? with
    | none => failAt .digitsMissing i
    | some d =>
      match (s.at? (i + 1)).bind hexValue? with
      | none => .ok (.literal d, i + 1)
      | some e => .ok (.literal (16 * d + e), i + 2)

/-- Reads `\o` from behind the letter. -/
def readOctalEscape (s : Source) (i : Nat) : Except Fault (Escape × Nat) :=
  if s.isAt i '{' then readBraced s octalValue? 8 .notOctal (i + 1)
  else failAt .octalWithoutBrace (if i < s.size then i else i - 1)

/-- Reads `\c` from behind the letter. -/
def readControlEscape (s : Source) (i : Nat) : Except Fault (Escape × Nat) :=
  match s.at? i with
  | none => failAt .trailingControl i
  | some c =>
    let c := c.toUpper.toNat
    if c < 32 || c > 126 then failAt .unprintableControl i
    else .ok (.literal (c ^^^ 64), i + 1)

def readOctalDigits (s : Source) (first : Nat) (i : Nat) : Except Fault (Escape × Nat) :=
  let (c, j) :=
    match (s.at? i).bind octalValue? with
    | none => (first, i)
    | some d =>
      match (s.at? (i + 1)).bind octalValue? with
      | none => (8 * first + d, i + 1)
      | some e => (64 * first + 8 * d + e, i + 2)
  if c > s.maxPoint then failAt .octalTooLarge j else .ok (.literal c, j)

/-- Reads an escape of the digit `d` from behind it. Outside classes a number is a reference if it
has one digit, starts with eight or nine, or is that of a group opened before. -/
def readDigitEscape (s : Source) (groups : Nat) (inClass : Bool) (d : Nat) (i : Nat) :
    Except Fault (Escape × Nat) := do
  let asCharacter : Except Fault (Escape × Nat) :=
    if d ≥ 8 then .ok (.literal (d + '0'.toNat), i) else readOctalDigits s d i
  if d == 0 || inClass then asCharacter
  else
    match ← readDigits s 214748363 none (i - 1) with
    | (some n, j) =>
      if n < 10 || d ≥ 8 || n ≤ groups then
        if n > maxGroup then failAt .groupNumberTooLarge j else .ok (.backref n, j)
      else asCharacter
    | (none, _) => asCharacter

/-- Moves the offset of a fault. -/
def faultAt {α : Type} (i : Nat) : Except Fault α → Except Fault α
  | .ok a => .ok a
  | .error e => .error { e with offset := i }

/-- Reads `\g` from behind the letter. -/
def readGroupEscape (s : Source) (groups : Nat) (i : Nat) : Except Fault (Escape × Nat) := do
  match s.at? i with
  | none => failAt .malformedGroupEscape i
  | some '<' => .ok (.groupName, i)
  | some '\'' => .ok (.groupName, i)
  | some '{' =>
    match ← faultAt i (readGroupNumber s groups (s.skipWhile isBlank (i + 1))) with
    | (none, _) => .ok (.backrefName, i)
    | (some n, j) =>
      let j := s.skipWhile isBlank j
      if !s.isAt j '}' then failAt .malformedGroupEscape i
      else if n == 0 then failAt .unknownGroup (j + 1)
      else .ok (.backref n, j + 1)
  | some _ =>
    match ← readGroupNumber s groups i with
    | (none, _) => failAt .malformedGroupEscape i
    | (some n, j) => if n == 0 then failAt .unknownGroup j else .ok (.backref n, j)

/-- Reads `\N` from behind the letter: a code point, or all but newlines, which a quantifier may
follow. -/
def readNotNewline (s : Source) (inClass : Bool) (i : Nat) : Except Fault (Escape × Nat) := do
  if !s.isAt i '{' then .ok (.letter 'N', i)
  else
    let j := s.skipWhile isBlank (i + 1)
    if s.startsAt j ['U', '+'] then
      if s.utf then readBraced s hexValue? 16 .notHexadecimal (j + 2)
      else failAt .namedPointInBytes i
    else if inClass then failAt .unsupportedEscape i
    else
      match ← faultAt i (readCounts s (i + 1)) with
      | (some _, _) => .ok (.letter 'N', i)
      | (none, _) => failAt .unsupportedEscape i

def readEscape (s : Source) (groups : Nat) (inClass : Bool) (i : Nat) :
    Except Fault (Escape × Nat) :=
  match s.at? i with
  | none => failAt .trailingBackslash i
  | some c =>
    if !c.isAlphanum then .ok (.literal (s.charAt i), s.afterChar i)
    else
      let j := i + 1
      match controlLetter? c with
      | some n => .ok (.literal n, j)
      | none =>
        if c.isDigit then readDigitEscape s groups inClass (c.toNat - '0'.toNat) j
        else
          match c with
          | 'x' => readHexEscape s j
          | 'o' => readOctalEscape s j
          | 'c' => readControlEscape s j
          | 'N' => readNotNewline s inClass j
          | 'k' => .ok (.backrefName, j)
          | 'g' => if inClass then .ok (.literal c.toNat, j) else readGroupEscape s groups j
          | 'F' | 'L' | 'l' | 'U' | 'u' => failAt .unsupportedEscape j
          | _ => if meaningfulLetters.contains c then .ok (.letter c, j) else failAt .unknownEscape i

/-- Characters that a property name may hold without meaning. -/
def isNameFiller (c : Char) : Bool :=
  c == '_' || c == '-' || c == ' ' || between 9 13 c.toNat

/-- The longest property name, in characters that count. -/
def maxPropertyName : Nat := 49

/-- Reads a property name inside braces up to the closing one: whether it is negated, and its
characters in lower case. -/
def readPropertyName (s : Source) (negated : Bool) (name : List Char) (i : Nat) :
    Except Fault ((Bool × List Char) × Nat) :=
  if i < s.size then
    match s.at? i with
    | none => failAt .malformedProperty i
    | some c =>
      if name.length ≥ maxPropertyName then failAt .malformedProperty i
      else if isNameFiller c then readPropertyName s negated name (i + 1)
      else if c == '^' && name.isEmpty && !negated then readPropertyName s true name (i + 1)
      else if c == '}' then .ok ((negated, name.reverse), i + 1)
      else if c < '&' || c > 'z' then failAt .malformedProperty (s.afterChar i)
      else readPropertyName s negated (c.toLower :: name) (i + 1)
  else failAt .malformedProperty i
termination_by s.size - i

/-- Reads what follows `\p` or `\P`. -/
def readProperty (s : Source) (negated : Bool) (i : Nat) : Except Fault (CharTest × Nat) := do
  match s.at? i with
  | none => failAt .malformedProperty i
  | some '{' =>
    let ((caret, name), j) ← readPropertyName s false [] (i + 1)
    match Property.find? name with
    | some p => .ok (.property p (negated != caret), j)
    | none => failAt .unknownProperty j
  | some c =>
    if c.isAlpha then
      match Property.find? [c.toLower] with
      | some p => .ok (.property p negated, i + 1)
      | none => failAt .unknownProperty (i + 1)
    else failAt .malformedProperty (s.afterChar i)

/-- In caseless matching the cased categories stand for one another. -/
def CharTest.underCase (caseless : Bool) : CharTest → CharTest
  | .property (.category k) negated =>
    if caseless && k.isCasedLetter then .property .casedLetter negated
    else .property (.category k) negated
  | t => t

/-- The set that a letter's escape stands for, if it stands for one of its own. -/
def setOfLetter? (settings : Settings) (o : Options) : Char → Option CharTest
  | 'd' => some (digit false)
  | 'D' => some (digit true)
  | 's' => some (space false)
  | 'S' => some (space true)
  | 'w' => some (word false)
  | 'W' => some (word true)
  | 'h' => some (.kind .horizontal false)
  | 'H' => some (.kind .horizontal true)
  | 'v' => some (.kind .vertical false)
  | 'V' => some (.kind .vertical true)
  | _ => none
where
  digit (negated : Bool) : CharTest :=
    if settings.ucp && !o.asciiDigit then .property (.category .nd) negated
    else .kind .digit negated
  space (negated : Bool) : CharTest :=
    if settings.ucp && !o.asciiSpace then .property .space negated else .kind .space negated
  word (negated : Bool) : CharTest :=
    if settings.ucp && !o.asciiWord then .property .word negated else .kind .word negated

def caseRule? (settings : Settings) (o : Options) : Option CaseRule :=
  if !o.caseless then none
  else if !(settings.utf || settings.ucp) then some .ascii
  else if o.restrictCase then some .restricted
  else some .full

end BoundedRegex.Pattern
