import BoundedRegex.Engine

/-!
# Scripted engines

An engine without any regex logic: a scenario says how it answers. It stands in for a real engine
wherever the answers themselves are what matters.
-/
namespace BoundedRegex

/-- What a scripted search answers. -/
inductive ScriptedRun where
  | noMatch
  | depthLimitExceeded
  | failed (code : Int)
  /-- A match, with the offsets it leaves; none stands for the offset that marks unset groups. The
  number of pairs set is that of all pairs unless it is given. -/
  | matched (offsets : List (Option UInt64)) (pairs : Option Nat)
  deriving DecidableEq, Repr

/-- How a scripted engine answers about a pattern that it compiles. -/
structure ScriptedCode where
  groups : Nat := 0
  names : List (String × Nat) := []
  /-- No buffer can be made. -/
  noMemory : Bool := false
  /-- What searches answer in turn, over and over. -/
  runs : List ScriptedRun := []
  deriving DecidableEq, Repr

/-- How a scripted engine answers. -/
structure Scenario where
  patterns : List (String × Except CompileFailure ScriptedCode) := []
  messages : List (Int × String) := []

/-- The buffer of a scripted engine: how many searches it has seen, and what the last match left. -/
structure ScriptedBuffer where
  searches : Nat := 0
  offsets : List UInt64 := []
  deriving DecidableEq, Repr

def Scenario.unknownPattern : Int := 404

/-- The engine that follows a scenario. It needs no state. -/
def Scenario.engine (scenario : Scenario) (unset : UInt64) : Engine Unit where
  Code := ScriptedCode
  Buffer := ScriptedBuffer
  unset := unset
  compile pattern _ s :=
    ((scenario.patterns.lookup pattern).getD
      (.error ⟨unknownPattern, pattern.utf8ByteSize⟩), s)
  makeBuffer code s := (if code.noMemory then none else some {}, s)
  execute code _ _ _ buffer s :=
    let run := (code.runs[buffer.searches % code.runs.length]?).getD .noMatch
    let seen := { buffer with searches := buffer.searches + 1 }
    match run with
    | .noMatch => (.noMatch, seen, s)
    | .depthLimitExceeded => (.depthLimitExceeded, seen, s)
    | .failed code => (.failed code, seen, s)
    | .matched offsets pairs =>
      (.matched (pairs.getD (offsets.length / 2)),
        { seen with offsets := offsets.map (·.getD unset) }, s)
  output buffer s := (buffer.offsets, s)
  groupCount code s := (code.groups, s)
  groupNumber? code name s := (code.names.lookup name, s)
  message code s := ((scenario.messages.lookup code).getD "", s)
  releaseCode _ s := s
  releaseBuffer _ s := s

end BoundedRegex
