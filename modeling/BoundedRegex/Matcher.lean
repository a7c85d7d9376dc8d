import BoundedRegex.Engine
import BoundedRegex.Matcher.Groups
import BoundedRegex.Matcher.Log
import BoundedRegex.Outcome

/-!
# Matchers

A matcher holds a pattern that an engine has compiled, and the buffer for what searches find. Both
come and go together. It starts without a pattern; preparing one discards the one before first, even
if the new one is refused. Searches differ only in what they tell about a match.

A matcher works on a bench, which also holds the state of the engine, the log, and the two vectors
that its caller wants groups written to. An aborted operation leaves the bench as it has become.
-/
namespace BoundedRegex
open Text

/-- A compiled pattern with its buffer. -/
structure Prepared {σ : Type} (E : Engine σ) where
  pattern : String
  flags : Flags
  code : E.Code
  buffer : E.Buffer

structure Matcher {σ : Type} (E : Engine σ) where
  prepared : Option (Prepared E) := none
  /-- The bound on the effort of each search. -/
  depthLimit : UInt32

namespace Matcher

variable {σ : Type} {E : Engine σ}

/-- The pattern, empty if there is none. -/
def pattern (m : Matcher E) : String := (m.prepared.map (·.pattern)).getD ""

/-- The flags of the pattern, empty if there is none. -/
def flags (m : Matcher E) : Flags := (m.prepared.map (·.flags)).getD .empty

def shown (m : Matcher E) : Shown :=
  .record "Matcher"
    [("pattern", .text m.pattern), ("flags", m.flags.shown), ("prepared", .truth m.prepared.isSome),
     ("depth_limit", .number m.depthLimit.toNat)]

end Matcher

/-- A matcher with the vectors of its caller. -/
structure Client {σ : Type} (E : Engine σ) where
  matcher : Matcher E
  /-- The caller's vector of spans. -/
  spans : List Span := []
  /-- The caller's vector of bytes. -/
  views : List ByteArray := []

structure Bench {σ : Type} (E : Engine σ) extends Client E where
  state : σ
  log : Log := {}

abbrev Work {σ : Type} (E : Engine σ) := ExceptT Abort (StateM (Bench E))

namespace Bench

variable {σ : Type} {E : Engine σ}

def ask {α : Type} (f : σ → α × σ) : Work E α :=
  modifyGet fun b =>
    let (a, s) := f b.state
    (a, { b with state := s })

def report (e : Event) : Work E Unit := modify fun b => { b with log := b.log.add e }

/-- Goes on with a value, or is aborted. -/
def check {α : Type} (a : Except Abort α) : Work E α := liftExcept a

def prepared : Work E (Prepared E) := do
  match (← get).matcher.prepared with
  | some p => return p
  | none => throw .notPrepared

/-- Discards the pattern. -/
def clear : Work E Unit := do
  match (← get).matcher.prepared with
  | some p =>
    modify fun b => { b with matcher := { b.matcher with prepared := none } }
    ask fun s => ((), E.releaseBuffer p.buffer (E.releaseCode p.code s))
  | none => return ()

def prepare (pattern : String) (flags : Flags) : Work E (Except PrepareError Unit) := do
  clear
  match ← ask (E.compile pattern flags) with
  | .error failure =>
    let message ← ask (E.message failure.code)
    let error := PrepareError.regex message failure.offset
    report (.refused pattern error)
    return .error error
  | .ok code =>
    match ← ask (E.makeBuffer code) with
    | none =>
      report (.noBuffer pattern)
      ask fun s => ((), E.releaseCode code s)
      return .error .outOfMemory
    | some buffer =>
      report (.prepared pattern flags)
      modify fun b =>
        { b with matcher := { b.matcher with prepared := some ⟨pattern, flags, code, buffer⟩ } }
      return .ok ()

/-- The number of groups of the pattern. -/
def groupCount : Work E Nat := do
  ask (E.groupCount (← prepared).code)

/-- The number of the group of a name, if the pattern has it. -/
def groupNumber? (name : String) : Work E (Option Nat) := do
  let p ← prepared
  match ← ask (E.groupNumber? p.code name) with
  | some n =>
    if n = 0 then return none
    else if n ≤ (← ask (E.groupCount p.code)) then return some n
    else return none
  | none => return none

/-- Searches from a start on. That the offsets of a match come in pairs is not asserted here, as in a
release build: what is malformed is met when a group is read. -/
def search (subject : ByteArray) (start : Nat) : Work E (Outcome Groups) := do
  if subject.size < start then throw (.startPastEnd start subject.size)
  let p ← prepared
  let limit := (← get).matcher.depthLimit
  let (answer, buffer) ← ask fun s =>
    let (answer, buffer, s) := E.execute p.code subject start limit p.buffer s
    ((answer, buffer), s)
  modify fun b =>
    { b with matcher := { b.matcher with prepared := some { p with buffer := buffer } } }
  match answer with
  | .matched pairs =>
    report (.matched p.pattern start pairs)
    let offsets ← ask (E.output buffer)
    return .found ⟨E.unset, offsets⟩
  | .noMatch => return .noMatch
  | .depthLimitExceeded =>
    report (.limitExceeded p.pattern limit)
    return .depthLimitExceeded
  | .failed code =>
    if (← get).log.level.reports false then
      report (.searchFailed p.pattern code (← ask (E.message code)))
    return .noMatch

def isMatch (subject : ByteArray) (start : Nat) : Work E (Outcome Unit) := do
  return (← search subject start).map fun _ => ()

def find (subject : ByteArray) (start : Nat) : Work E (Outcome Span) := do
  (← search subject start).traverse fun g => check g.overallSpan

def findBytes (subject : ByteArray) (start : Nat) : Work E (Outcome ByteArray) := do
  (← search subject start).traverse fun g => check (g.overallBytes subject)

/-- Writes values one after another. Those before an abort stay written. -/
def writeEach {α : Type} (write : α → Bench E → Bench E) (values : List (Except Abort α)) :
    Work E Unit :=
  values.forM fun value => do
    let a ← check value
    modify (write a)

/-- Writes where all groups lie. The vector is emptied first. -/
def captures (subject : ByteArray) (start : Nat) : Work E (Outcome Unit) := do
  (← search subject start).traverse fun g => do
    modify fun b => { b with spans := [] }
    writeEach (fun span b => { b with spans := b.spans ++ [span] }) g.eachSpan

/-- Writes what all groups have matched. The vector is emptied first. -/
def capturesBytes (subject : ByteArray) (start : Nat) : Work E (Outcome Unit) := do
  (← search subject start).traverse fun g => do
    modify fun b => { b with views := [] }
    writeEach (fun view b => { b with views := b.views ++ [view] }) (g.eachView subject)

end Bench

end BoundedRegex
