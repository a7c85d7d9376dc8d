import BoundedRegex.Flags
import BoundedRegex.Matcher.Error

/-!
# The log

What a matcher reports about its work. A search without a match is not reported. Each event has a
level and one text, which quotes the pattern.
-/
namespace BoundedRegex
open Text

/-- How much is reported. -/
inductive Level where
  | off
  /-- What has gone wrong. -/
  | debug
  /-- Everything. -/
  | trace
  deriving DecidableEq, Repr

/-- What is reported. -/
inductive Event where
  | prepared (pattern : String) (flags : Flags)
  | refused (pattern : String) (error : PrepareError)
  | noBuffer (pattern : String)
  | matched (pattern : String) (start pairs : Nat)
  | limitExceeded (pattern : String) (limit : UInt32)
  | searchFailed (pattern : String) (code : Int) (message : String)
  deriving DecidableEq, Repr

namespace Event

/-- Whether an event says that nothing has gone wrong. -/
def isTrace : Event → Bool
  | .prepared _ _ => true
  | .matched _ _ _ => true
  | _ => false

def text : Event → String
  | .prepared pattern flags =>
    "prepared " ++ quoted pattern ++ " with " ++ flags.shown.inline
  | .refused pattern error => "failed to compile " ++ quoted pattern ++ ": " ++ error.text
  | .noBuffer pattern => "no memory for capture buffer of " ++ quoted pattern
  | .matched pattern start pairs =>
    quoted pattern ++ ": match from offset " ++ toString start ++ ", " ++ toString pairs ++
      " groups set"
  | .limitExceeded pattern limit =>
    quoted pattern ++ ": depth limit of " ++ toString limit.toNat ++ " exceeded"
  | .searchFailed pattern code message =>
    quoted pattern ++ ": search failed with code " ++ toString code ++ ": " ++ message

end Event

/-- A written event. -/
structure Record where
  trace : Bool
  text : String
  deriving DecidableEq, Repr

def Event.record (e : Event) : Record := ⟨e.isTrace, e.text⟩

def Level.reports (level : Level) (trace : Bool) : Bool :=
  match level with
  | .off => false
  | .debug => !trace
  | .trace => true

/-- What has been reported so far, at a level. -/
structure Log where
  level : Level := .off
  records : List Record := []
  deriving DecidableEq, Repr

/-- Reports an event, if the level asks for it. -/
def Log.add (log : Log) (e : Event) : Log :=
  if log.level.reports e.isTrace then { log with records := log.records ++ [e.record] } else log

end BoundedRegex
