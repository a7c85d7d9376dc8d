import BoundedRegex.Engine.Maker

/-!
# Engines without matchers

An engine may be used directly. Then its codes and buffers belong to whoever asked for them, and are
dropped one by one, as the engine is. They may outlast the engine and each other, though nothing can be
compiled or searched without the engine.
-/
namespace BoundedRegex

/-- What the owner of an engine does. The number of a code or a buffer is its place among those that there
are, the latest first. -/
inductive Use where
  | compile (pattern : String) (flags : Flags)
  | makeBuffer (code : Nat)
  | execute (code buffer : Nat) (subject : ByteArray) (start : Nat) (limit : UInt32)
  | dropEngine
  | dropCode (n : Nat)
  | dropBuffer (n : Nat)

/-- An engine, if there is one, and the codes and buffers that it has made. -/
structure Direct {σ : Type} (M : Maker σ) where
  state : σ
  own : Option M.Own := none
  codes : List M.engine.Code := []
  buffers : List M.engine.Buffer := []

namespace Direct

variable {σ : Type} {M : Maker σ}

/-- Makes an engine, unless this is aborted. -/
def start (M : Maker σ) (s : σ) : Direct M :=
  match M.make s with
  | (.ok own, s) => { state := s, own := some own }
  | (.error _, s) => { state := s }

/-- What lacks something that it is on does nothing. -/
def use (d : Direct M) : Use → Direct M
  | .compile pattern flags =>
    match d.own with
    | some _ =>
      match M.engine.compile pattern flags d.state with
      | (.ok code, s) => { d with state := s, codes := code :: d.codes }
      | (.error _, s) => { d with state := s }
    | none => d
  | .makeBuffer code =>
    match d.own, d.codes[code]? with
    | some _, some code =>
      match M.engine.makeBuffer code d.state with
      | (some buffer, s) => { d with state := s, buffers := buffer :: d.buffers }
      | (none, s) => { d with state := s }
    | _, _ => d
  | .execute code n subject start limit =>
    match d.own, d.codes[code]?, d.buffers[n]? with
    | some _, some code, some buffer =>
      let (_, buffer, s) := M.engine.execute code subject start limit buffer d.state
      { d with state := s, buffers := d.buffers.set n buffer }
    | _, _, _ => d
  | .dropEngine =>
    match d.own with
    | some own => { d with state := M.unmake own d.state, own := none }
    | none => d
  | .dropCode n =>
    match d.codes[n]? with
    | some code => { d with state := M.engine.releaseCode code d.state, codes := d.codes.eraseIdx n }
    | none => d
  | .dropBuffer n =>
    match d.buffers[n]? with
    | some buffer =>
      { d with state := M.engine.releaseBuffer buffer d.state, buffers := d.buffers.eraseIdx n }
    | none => d

def run (uses : List Use) (d : Direct M) : Direct M := uses.foldl use d

/-- The number of things that there are: the engine, codes and buffers. -/
def things (d : Direct M) : Nat := d.own.toList.length + (d.codes.length + d.buffers.length)

end Direct

end BoundedRegex
