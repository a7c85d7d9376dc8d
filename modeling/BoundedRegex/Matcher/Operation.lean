import BoundedRegex.Matcher

/-!
# Operations

All that a caller can ask of a matcher, as data, so that a run is a list of operations. The reply to an
operation says what its caller sees, the vectors it wants groups written to included.
-/
namespace BoundedRegex
open Text

/-- What a caller asks of a matcher. -/
inductive Operation where
  | prepare (pattern : String) (flags : Flags)
  | clear
  /-- The pattern, the flags and the limit. -/
  | inspect
  /-- How the matcher is shown. -/
  | describe (spreadOut : Bool)
  | groupCount
  | groupNumber (name : String)
  | isMatch (subject : ByteArray) (start : Nat)
  | find (subject : ByteArray) (start : Nat)
  | findBytes (subject : ByteArray) (start : Nat)
  | captures (subject : ByteArray) (start : Nat)
  | capturesBytes (subject : ByteArray) (start : Nat)
  /-- Puts spans and bytes into the caller's vectors. -/
  | seed (spans : List Span) (views : List ByteArray)
  /-- Finds from every start of a subject, and from one behind its end. -/
  | sweep (subject : ByteArray)

/-- What a caller sees. -/
inductive Reply where
  | done
  | prepared (result : Except PrepareError Unit)
  | inspected (prepared : Bool) (pattern : String) (flags : Flags) (limit : UInt32)
  | text (text : String)
  | number (n : Nat)
  | maybeNumber (n : Option Nat)
  | matched (o : Outcome Unit)
  | span (o : Outcome Span)
  | bytes (o : Outcome ByteArray)
  | spans (o : Outcome Unit) (spans : List Span)
  | views (o : Outcome Unit) (views : List ByteArray)
  | sweep (results : List (Except Abort (Outcome Span)))
  /-- What an allocator has counted: the blocks in use, and all that it has served. -/
  | counted (blocks total : Nat)
  /-- Whether a request was refused, and by how much it raised the count of those served and its end
  lowered the blocks in use. -/
  | tried (refused : Bool) (served freed : Nat)

namespace Bench

variable {σ : Type} {E : Engine σ}

/-- Finds from a start; an aborted search is a result too. -/
def attempt (subject : ByteArray) (start : Nat) : Work E (Except Abort (Outcome Span)) :=
  ExceptT.mk do
    let result ← (find subject start : Work E (Outcome Span)).run
    return .ok result

/-- Does what a caller asks for. -/
def perform : Operation → Work E Reply
  | .prepare pattern flags => do return .prepared (← prepare pattern flags)
  | .clear => do
    clear
    return .done
  | .inspect => do
    let m := (← get).matcher
    return .inspected m.prepared.isSome m.pattern m.flags m.depthLimit
  | .describe spreadOut => do return .text ((← get).matcher.shown.render spreadOut)
  | .groupCount => do return .number (← groupCount)
  | .groupNumber name => do return .maybeNumber (← groupNumber? name)
  | .isMatch subject start => do return .matched (← isMatch subject start)
  | .find subject start => do return .span (← find subject start)
  | .findBytes subject start => do return .bytes (← findBytes subject start)
  | .captures subject start => do
    let o ← captures subject start
    return .spans o (← get).spans
  | .capturesBytes subject start => do
    let o ← capturesBytes subject start
    return .views o (← get).views
  | .seed spans views => do
    modify fun b => { b with spans := spans, views := views }
    return .done
  | .sweep subject => do
    return .sweep (← (List.range (subject.size + 2)).mapM (attempt subject))

end Bench

end BoundedRegex
