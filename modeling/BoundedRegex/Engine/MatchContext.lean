import BoundedRegex.Engine.Library

/-!
# The bound in the match context

A library is not told the bound with a search. It finds it in the match context, which all searches of an
engine share, and the context holds a bound until another one is set. So an engine sets the bound before each
search.
-/
namespace BoundedRegex
open Memory

/-- A state with the bound that the match context holds. -/
structure Bounded (σ : Type) where
  state : σ
  bound : UInt32

namespace Library

variable {σ : Type}

def inContext : Part σ (Bounded σ) := ⟨Bounded.state, fun s t => { t with state := s }⟩

/-- Searches within the bound that the match context holds. -/
def searchInContext (L : Library) (S : Source σ) (code : L.Code) (subject : ByteArray) (start : Nat)
    (buffer : L.Buffer) (s : Bounded σ) : (Int × L.Buffer) × Bounded σ :=
  inContext.act ((L.search code subject start s.bound buffer).run S) s

/-- The engine over a library whose match context holds the bound. -/
def contextual (L : Library) (S : Source σ) : Engine (Bounded σ) :=
  { (L.engine S).within inContext with
    execute := fun code subject start limit buffer s =>
      let s := { s with bound := limit }
      let ((status, buffer), s) := L.searchInContext S code subject start buffer s
      (.ofStatus status (L.offsets buffer), buffer, s) }

end Library

end BoundedRegex
