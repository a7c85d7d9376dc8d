import BoundedRegex.Engine
import BoundedRegex.Matcher.Error

/-!
# Makers of engines

An engine may have to be made before it can be used, and ended after that. A maker says how, and what
an engine holds meanwhile. Several engines of one maker share a state, and engines of several makers
may be put side by side over a larger state that has room for the states of all.
-/
namespace BoundedRegex

/-- How engines of a kind come and go, over a state. -/
structure Maker (σ : Type) where
  engine : Engine σ
  /-- What an engine holds from its making to its end. -/
  Own : Type
  make : σ → Except Abort Own × σ
  unmake : Own → σ → σ

def Engine.maker {σ : Type} (E : Engine σ) : Maker σ where
  engine := E
  Own := Unit
  make s := (.ok (), s)
  unmake _ s := s

/-- A state that is part of a larger one. -/
structure Part (σ τ : Type) where
  get : τ → σ
  put : σ → τ → τ

namespace Part

variable {σ τ α β : Type}

/-- Does something with the part of a state. -/
def act (part : Part σ τ) (f : σ → α × σ) (t : τ) : α × τ :=
  let (a, s) := f (part.get t)
  (a, part.put s t)

def change (part : Part σ τ) (f : σ → σ) (t : τ) : τ := part.put (f (part.get t)) t

end Part

def Engine.within {σ τ : Type} (E : Engine σ) (part : Part σ τ) : Engine τ where
  Code := E.Code
  Buffer := E.Buffer
  unset := E.unset
  compile pattern flags := part.act (E.compile pattern flags)
  makeBuffer code := part.act (E.makeBuffer code)
  execute code subject start limit buffer t :=
    let (answer, buffer, s) := E.execute code subject start limit buffer (part.get t)
    (answer, buffer, part.put s t)
  output buffer := part.act (E.output buffer)
  groupCount code := part.act (E.groupCount code)
  groupNumber? code name := part.act (E.groupNumber? code name)
  message code := part.act (E.message code)
  releaseCode code := part.change (E.releaseCode code)
  releaseBuffer buffer := part.change (E.releaseBuffer buffer)

def Maker.within {σ τ : Type} (M : Maker σ) (part : Part σ τ) : Maker τ where
  engine := M.engine.within part
  Own := M.Own
  make := part.act M.make
  unmake own := part.change (M.unmake own)

end BoundedRegex
