import BoundedRegex.Engine.Maker

/-!
# Recorded engines

An engine that keeps a record of what is asked of it. Each code and buffer that it hands out gets a
number of its own, and the record tells which ones are still out.
-/
namespace BoundedRegex

/-- What has been asked of an engine, with the numbers of the codes and buffers involved. -/
inductive Call where
  | compile (pattern : String) (flags : Flags) (made : Option Nat)
  | makeBuffer (code : Nat) (made : Option Nat)
  | execute (code buffer : Nat) (subject : ByteArray) (start : Nat) (limit : UInt32)
      (answer : Execution)
  | output (buffer : Nat)
  | groupCount (code : Nat)
  | groupNumber (code : Nat) (name : String) (answer : Option Nat)
  | message (code : Int)
  | releaseCode (code : Nat)
  | releaseBuffer (buffer : Nat)

/-- What a recorded engine keeps beside its state. -/
structure Recorded (σ : Type) where
  state : σ
  calls : List Call := []
  /-- The number of the next code or buffer. -/
  next : Nat := 0
  /-- The codes and buffers that have not been taken back. -/
  out : List Nat := []

/-- A thing with its number. -/
structure Numbered (α : Type) where
  value : α
  number : Nat

namespace Recorded

variable {σ : Type}

def record (r : Recorded σ) (s : σ) (c : Call) : Recorded σ :=
  { r with state := s, calls := r.calls ++ [c] }

/-- With one more thing out, if one has been made. -/
def handOut (r : Recorded σ) (made : Bool) : Recorded σ :=
  if made then { r with next := r.next + 1, out := r.next :: r.out } else r

/-- With one thing taken back. -/
def takeBack (r : Recorded σ) (n : Nat) : Recorded σ := { r with out := r.out.erase n }

end Recorded

def Engine.recorded {σ : Type} (e : Engine σ) : Engine (Recorded σ) where
  Code := Numbered e.Code
  Buffer := Numbered e.Buffer
  unset := e.unset
  compile pattern flags r :=
    match e.compile pattern flags r.state with
    | (.ok c, s) =>
      (.ok ⟨c, r.next⟩, (r.record s (.compile pattern flags (some r.next))).handOut true)
    | (.error f, s) => (.error f, r.record s (.compile pattern flags none))
  makeBuffer code r :=
    match e.makeBuffer code.value r.state with
    | (some b, s) =>
      (some ⟨b, r.next⟩, (r.record s (.makeBuffer code.number (some r.next))).handOut true)
    | (none, s) => (none, r.record s (.makeBuffer code.number none))
  execute code subject start limit buffer r :=
    let (answer, b, s) := e.execute code.value subject start limit buffer.value r.state
    (answer, ⟨b, buffer.number⟩,
      r.record s (.execute code.number buffer.number subject start limit answer))
  output buffer r :=
    let (offsets, s) := e.output buffer.value r.state
    (offsets, r.record s (.output buffer.number))
  groupCount code r :=
    let (n, s) := e.groupCount code.value r.state
    (n, r.record s (.groupCount code.number))
  groupNumber? code name r :=
    let (n, s) := e.groupNumber? code.value name r.state
    (n, r.record s (.groupNumber code.number name n))
  message code r :=
    let (text, s) := e.message code r.state
    (text, r.record s (.message code))
  releaseCode code r :=
    (r.record (e.releaseCode code.value r.state) (.releaseCode code.number)).takeBack code.number
  releaseBuffer buffer r :=
    (r.record (e.releaseBuffer buffer.value r.state)
      (.releaseBuffer buffer.number)).takeBack buffer.number

/-- The maker of engines that record what is asked of them. Making and ending them is not recorded. -/
def Maker.recorded {σ : Type} (M : Maker σ) : Maker (Recorded σ) where
  engine := M.engine.recorded
  Own := M.Own
  make r :=
    let (result, s) := M.make r.state
    (result, { r with state := s })
  unmake own r := { r with state := M.unmake own r.state }

end BoundedRegex
