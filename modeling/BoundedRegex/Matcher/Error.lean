import BoundedRegex.Text.Shown

/-!
# Errors and aborts

What can go wrong around a matcher. Preparing a pattern may fail, which is an error that the caller is
told about. An operation that its caller had no right to ask for is aborted, and so is one that would
have to look outside the subject.
-/
namespace BoundedRegex
open Text

/-- Why a pattern could not be prepared. -/
inductive PrepareError where
  /-- The engine has refused the pattern. -/
  | regex (message : String) (offset : Nat)
  /-- There was no memory for the output buffer. -/
  | outOfMemory
  deriving DecidableEq, Repr

namespace PrepareError

/-- What has gone wrong, in words. -/
def message : PrepareError → String
  | .regex message _ => message
  | .outOfMemory => "Out of memory."

/-- The byte offset in the pattern. -/
def offset : PrepareError → Nat
  | .regex _ offset => offset
  | .outOfMemory => 0

def text (e : PrepareError) : String :=
  match e with
  | .regex message offset => "error at offset " ++ toString offset ++ ": " ++ message
  | .outOfMemory => e.message

/-- The kind of an error, in words. -/
def description : PrepareError → String
  | .regex _ _ => "regex error"
  | .outOfMemory => "out of memory"

def shown (e : PrepareError) : Shown :=
  let kind : Shown :=
    match e with
    | .regex message _ => .tuple "Regex" [.text message]
    | .outOfMemory => .word "OutOfMemory"
  .record "Error" [("kind", kind), ("offset", .number e.offset)]

end PrepareError

/-- Why an operation is aborted. -/
inductive Abort where
  /-- The start lies behind the end of the subject. -/
  | startPastEnd (start length : Nat)
  | notPrepared
  | outsideSubject
  /-- A span would end behind the greatest offset. -/
  | spanTooLong
  /-- The offsets of a match do not come in pairs, or there are none. -/
  | malformedOffsets
  /-- A context of an engine could not be made; `name` says which. -/
  | noContext (name : String)
  | noMatcher
  deriving DecidableEq, Repr

/-- What is said about an aborted operation, if anything. -/
def Abort.message? : Abort → Option String
  | .startPastEnd start length =>
    some ("start offset " ++ toString start ++ " is past the end of a subject of length " ++
      toString length)
  | .notPrepared => some "matcher has no prepared pattern"
  | .noContext name => some ("failed to allocate PCRE2 " ++ name ++ " context")
  | _ => none

end BoundedRegex
