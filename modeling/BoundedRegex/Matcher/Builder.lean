import BoundedRegex.Matcher

/-!
# Builders

What a matcher is built with. A builder that has been given no depth limit takes the default of the
moment at which it builds.
-/
namespace BoundedRegex
open Text

/-- The depth limit that every program starts out with. -/
def standardDepthLimit : UInt32 := 10000000

structure MatcherBuilder where
  depthLimit : Option UInt32 := none
  deriving DecidableEq, Repr

namespace MatcherBuilder

def withLimit (_b : MatcherBuilder) (limit : UInt32) : MatcherBuilder := ⟨some limit⟩

/-- A matcher without a pattern. `standard` is the default limit. -/
def build {σ : Type} (b : MatcherBuilder) (standard : UInt32) (E : Engine σ) : Matcher E :=
  { depthLimit := b.depthLimit.getD standard }

def shown (b : MatcherBuilder) : Shown :=
  .record "MatcherBuilder"
    [("depth_limit", .option (b.depthLimit.map fun n => .number n.toNat))]

end MatcherBuilder

end BoundedRegex
