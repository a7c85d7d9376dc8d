import BoundedRegex.Program.Code
import BoundedRegex.Text.Utf8
import BoundedRegex.Pattern.Options
import BoundedRegex.Unicode.GraphemeBreak

/-!
# Subjects

The bytes that are searched, read as characters or as bytes. Positions are byte offsets. This module
says which stretch an item matches at a position and whether an anchor holds there.
-/
namespace BoundedRegex.Search
open Text Unicode Pattern Program

/-- What is searched. -/
structure Subject where
  bytes : ByteArray
  /-- The bytes are characters in UTF-8. -/
  utf : Bool
  newline : Newline
  start : Nat
  /-- Characters from here on have been checked; nothing looks at those before. -/
  checked : Nat

namespace Subject

def size (s : Subject) : Nat := s.bytes.size

/-- The character at a position before the end. -/
@[inline] def charAt (s : Subject) (p : Nat) : Nat :=
  if s.utf then decodeAt s.bytes p else byteAt s.bytes p

/-- The position behind the character at a position before the end. -/
@[inline] def afterChar (s : Subject) (p : Nat) : Nat :=
  if s.utf then p + widthOf (byteAt s.bytes p) else p + 1

/-- The start of the character before a position. -/
def beforeChar (s : Subject) (p : Nat) : Nat :=
  if s.utf then previousChar s.bytes p else p - 1

/-- Whether a byte stands at a position. -/
def isByte (s : Subject) (p b : Nat) : Bool :=
  decide (p < s.size) && byteAt s.bytes p == b

/-! ## Newlines -/

/-- The width of the newline that starts at a position, if one does. -/
def newlineAt? (s : Subject) (p : Nat) : Option Nat :=
  if s.size ≤ p then none
  else
    let c := s.charAt p
    let carriage := if s.isByte (p + 1) 10 then 2 else 1
    match s.newline with
    | .cr => if c == 13 then some 1 else none
    | .lf => if c == 10 then some 1 else none
    | .nul => if c == 0 then some 1 else none
    | .crlf => if c == 13 && s.isByte (p + 1) 10 then some 2 else none
    | .anyCrlf => if c == 13 then some carriage else if c == 10 then some 1 else none
    | .any =>
      if c == 13 then some carriage
      else if isVertical c then some (s.afterChar p - p)
      else none

/-- Whether a newline ends at a position. -/
def isAfterNewline (s : Subject) (p : Nat) : Bool :=
  if p == 0 then false
  else
    let c := s.charAt (s.beforeChar p)
    match s.newline with
    | .cr => c == 13
    | .lf => c == 10
    | .nul => c == 0
    | .crlf => p ≥ 2 && s.isByte (p - 2) 13 && s.isByte (p - 1) 10
    | .anyCrlf => c == 13 || c == 10
    | .any => isVertical c

/-! ## Grapheme clusters -/

/-- How many regional indicators stand in a row before a position. -/
def indicatorsBefore (s : Subject) : Nat → Nat → Nat
  | 0, _ => 0
  | fuel + 1, p =>
    if p == 0 then 0
    else
      let q := s.beforeChar p
      if graphemeBreakOf (s.charAt q) == .regionalIndicator then s.indicatorsBefore fuel q + 1
      else 0

/-- The position behind a cluster that reaches to `p`. `left` is the class that counts for what comes
before, and `joined` tells that a pictograph and a joiner came last. -/
def clusterEnd (s : Subject) (left : GraphemeBreak) (joined : Bool) (p : Nat) : Nat → Nat
  | 0 => p
  | fuel + 1 =>
    if s.size ≤ p then p
    else
      let right := graphemeBreakOf (s.charAt p)
      if !left.joins right then p
      else if left == .joiner && right == .pictograph && !joined then p
      else if left == .regionalIndicator && right == .regionalIndicator &&
          s.indicatorsBefore p (s.beforeChar p) % 2 == 1 then p
      else
        let next := if right == .extend && left == .pictograph then left else right
        s.clusterEnd next (left == .pictograph && right == .joiner) (max (p + 1) (s.afterChar p)) fuel

/-! ## Items -/

/-- Whether a character is a newline of some form by itself; the narrow forms are two only. -/
def isNewlineChar (narrow : Bool) (c : Nat) : Bool :=
  c == 10 || c == 13 || (!narrow && isVertical c)

/-- The position behind what an item matches at a position, if it matches there. -/
def after? (s : Subject) (i : Item) (p : Nat) : Option Nat :=
  if s.size ≤ p then none
  else
    match i with
    | .literal c _ variants =>
      let d := s.charAt p
      if c == d || variants.contains d then some (s.afterChar p) else none
    | .notLiteral c _ variants =>
      let d := s.charAt p
      if c == d || variants.contains d then none else some (s.afterChar p)
    | .variantOf cs negated =>
      if cs.contains (s.charAt p) != negated then some (s.afterChar p) else none
    | .dot newlines =>
      if newlines || (s.newlineAt? p).isNone then some (s.afterChar p) else none
    | .unit => some (p + 1)
    | .test t => if t.accepts (s.charAt p) then some (s.afterChar p) else none
    | .cls k => if k.accepts (s.charAt p) then some (s.afterChar p) else none
    | .newlineSequence narrow =>
      let c := s.charAt p
      if c == 13 && s.isByte (p + 1) 10 then some (p + 2)
      else if isNewlineChar narrow c then some (s.afterChar p)
      else none
    | .cluster =>
      let q := s.afterChar p
      some (s.clusterEnd (graphemeBreakOf (s.charAt p)) false q (s.size - q))

/-! ## References -/

/-- The position behind a copy of the stretch from `p` to `stop` that starts at `q`, if there is one.
Under a case rule characters are compared, else bytes. Each round reads at least one byte, which
`fuel` counts. -/
def copyEnd? (s : Subject) (rule : Option CaseRule) (stop : Nat) : Nat → Nat → Nat → Option Nat
  | 0, _, q => some q
  | fuel + 1, p, q =>
    if stop ≤ p then some q
    else if s.size ≤ q then none
    else
      match rule with
      | none =>
        if byteAt s.bytes p == byteAt s.bytes q then s.copyEnd? rule stop fuel (p + 1) (q + 1)
        else none
      | some r =>
        let c := s.charAt p
        let d := s.charAt q
        if c == d || (r.variants c).contains d then
          s.copyEnd? rule stop fuel (s.afterChar p) (s.afterChar q)
        else none

/-! ## Anchors -/

/-- Whether a word character stands at a position before the end. -/
def isWordAt (s : Subject) (ucp : Bool) (p : Nat) : Bool :=
  let c := s.charAt p
  if ucp then Property.word.contains c else CharKind.word.contains c

def holds (s : Subject) (a : Anchor) (p : Nat) : Bool :=
  match a with
  | .textStart => p == 0
  | .start => p == 0
  | .lineStart => p == 0 || (p != s.size && s.isAfterNewline p)
  | .textEnd => p == s.size
  | .nearEnd => p == s.size || (s.newlineAt? p).any (fun width => p + width == s.size)
  | .lineEnd => p == s.size || (s.newlineAt? p).isSome
  | .searchStart => p == s.start
  | .wordBoundary negated ucp =>
    let before := p != s.checked && s.isWordAt ucp (s.beforeChar p)
    let behind := decide (p < s.size) && s.isWordAt ucp p
    (before != behind) != negated

end Subject

end BoundedRegex.Search
