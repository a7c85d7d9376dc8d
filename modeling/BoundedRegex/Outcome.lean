import BoundedRegex.Text.Shown

/-!
# Outcomes

What a search tells its caller: what it has found, that there is no match, or that it has been given
up at the depth limit.
-/
namespace BoundedRegex
open Text

/-- What a search tells. -/
inductive Outcome (α : Type) where
  | found (value : α)
  /-- There is no match, or none could be looked for. -/
  | noMatch
  /-- The search has been given up. -/
  | depthLimitExceeded
  deriving DecidableEq, Repr

namespace Outcome

variable {α β : Type}

def isMatch : Outcome α → Bool
  | .found _ => true
  | _ => false

/-- Whether the search has been given up. -/
def isDepthLimitExceeded : Outcome α → Bool
  | .depthLimitExceeded => true
  | _ => false

/-- What has been found. -/
def value? : Outcome α → Option α
  | .found a => some a
  | _ => none

/-- Changes what has been found. -/
def map (f : α → β) : Outcome α → Outcome β
  | .found a => .found (f a)
  | .noMatch => .noMatch
  | .depthLimitExceeded => .depthLimitExceeded

/-- Changes what has been found by an action, which runs only if there is a match. -/
def traverse {m : Type → Type} [Monad m] (f : α → m β) : Outcome α → m (Outcome β)
  | .found a => do return .found (← f a)
  | .noMatch => return .noMatch
  | .depthLimitExceeded => return .depthLimitExceeded

def shown (each : α → Shown) : Outcome α → Shown
  | .found a => .tuple "Match" [each a]
  | .noMatch => .word "NoMatch"
  | .depthLimitExceeded => .word "DepthLimitExceeded"

end Outcome

end BoundedRegex
