import BoundedRegex.Flags

/-!
# Engines

What a matcher needs of a regex engine. An engine compiles patterns, makes an output buffer for what
it has compiled, and searches. It hands out codes and buffers and takes them back, and keeps no track
of them itself. Everything it does may depend on a state and change it, such as the memory it takes.

After a search that has found a match, the buffer holds two offsets for each group, the first two for
the whole match. A group that took no part has a fixed offset in both places.
-/
namespace BoundedRegex

/-- Why and where a pattern has been refused. -/
structure CompileFailure where
  code : Int
  /-- A byte offset in the pattern. -/
  offset : Nat
  deriving DecidableEq, Repr

/-- What comes of a search. -/
inductive Execution where
  /-- A match. So many pairs of offsets, counted from the first, reach to the last group set. -/
  | matched (pairs : Nat)
  | noMatch
  | depthLimitExceeded
  /-- No answer, for a reason with a code. -/
  | failed (code : Int)
  deriving DecidableEq, Repr

/-- A regex engine over a state. -/
structure Engine (σ : Type) where
  Code : Type
  Buffer : Type
  /-- The offset that marks groups without a part in a match. -/
  unset : UInt64
  compile : String → Flags → σ → Except CompileFailure Code × σ
  /-- Makes a buffer for what has been compiled; none if it cannot be made. -/
  makeBuffer : Code → σ → Option Buffer × σ
  /-- Searches a subject from a start on, with so much effort at most. -/
  execute : Code → ByteArray → Nat → UInt32 → Buffer → σ → Execution × Buffer × σ
  output : Buffer → σ → List UInt64 × σ
  /-- The number of groups, the whole match left out. -/
  groupCount : Code → σ → Nat × σ
  groupNumber? : Code → String → σ → Option Nat × σ
  /-- What a code means; empty if the engine does not know. -/
  message : Int → σ → String × σ
  releaseCode : Code → σ → σ
  releaseBuffer : Buffer → σ → σ

end BoundedRegex
