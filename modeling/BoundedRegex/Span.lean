import BoundedRegex.Text.Shown

/-!
# Spans

A span is a stretch of a subject, by offset and length. Offsets are words of 64 bits, and the end of a
span is an offset too. One span stands for no stretch at all.
-/
namespace BoundedRegex
open Text

def maxOffset : Nat := 0xFFFFFFFFFFFFFFFF

/-- A stretch of a subject. -/
structure Span where
  offset : Nat
  length : Nat
  fits : offset + length ≤ maxOffset
  deriving DecidableEq, Repr

namespace Span

/-- No stretch. -/
def unset : Span := ⟨maxOffset, 0, Nat.le_refl _⟩

/-- A stretch whose end is an offset. -/
def make? (offset length : Nat) : Option Span :=
  if h : offset + length ≤ maxOffset then some ⟨offset, length, h⟩ else none

/-- The offset behind a stretch. -/
def stop (s : Span) : Nat := s.offset + s.length

/-- Whether a span stands for no stretch. -/
def isUnset (s : Span) : Bool := s == unset

def shown (s : Span) : Shown :=
  .record "Span" [("offset", .number s.offset), ("length", .number s.length)]

end Span

end BoundedRegex
