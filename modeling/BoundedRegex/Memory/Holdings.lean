import BoundedRegex.Memory.Allocator

/-!
# Holdings

A client of an allocator that knows its blocks by name. It fills each block with a byte that depends
on the name, so that it can tell whether anything else has written there.
-/
namespace BoundedRegex.Memory

/-- A block that a client holds. -/
structure Holding where
  name : String
  address : Nat
  size : Nat
  deriving DecidableEq, Repr

/-- Memory, and the blocks that a client of one allocator holds. -/
structure Holdings where
  allocator : Allocator
  memory : Memory := {}
  held : List Holding := []

/-- What a client asks for. -/
inductive Request where
  | allocate (name : String) (size : Nat)
  | deallocate (name : String)
  /-- Whether a block still holds its bytes. -/
  | check (name : String)
  | setLimit (limit : Option UInt64)
  /-- How the allocator is shown. -/
  | describe (spreadOut : Bool)
  deriving DecidableEq, Repr

/-- What a client is told. -/
inductive Answer where
  | allocated (address : Option Nat)
  /-- Whether there was a block to free. -/
  | deallocated (held : Bool)
  | checked (intact : Option Bool)
  | limited
  | described (text : String)
  deriving DecidableEq, Repr

namespace Holdings

def find? (h : Holdings) (name : String) : Option Holding := h.held.find? (·.name == name)

/-- The byte that fills the block of a name. -/
def mark (name : String) : UInt8 := name.toUTF8.data.foldl (· ^^^ ·) 0

/-- Frees the block of a name, if there is one. -/
def release (h : Holdings) (name : String) : Holdings :=
  { h with
    memory := h.memory.deallocate h.allocator ((h.find? name).map (·.address))
    held := h.held.filter (·.name != name) }

/-- Takes a block under a name and fills it. The block that had the name is freed afterwards, and kept
if there is no new one. -/
def obtain (h : Holdings) (name : String) (size : Nat) : Option Nat × Holdings :=
  match h.memory.allocate h.allocator size with
  | (none, m) => (none, { h with memory := m })
  | (some p, m) =>
    let h := { h with memory := m.fill p size (mark name) }.release name
    (some p, { h with held := ⟨name, p, size⟩ :: h.held })

def answer (h : Holdings) : Request → Answer × Holdings
  | .allocate name size =>
    let (p, h) := h.obtain name size
    (.allocated p, h)
  | .deallocate name => (.deallocated (h.find? name).isSome, h.release name)
  | .check name =>
    (.checked ((h.find? name).map fun b => h.memory.isFilled b.address b.size (mark name)), h)
  | .setLimit limit => (.limited, { h with memory := h.memory.setLimit limit })
  | .describe spreadOut => (.described ((h.allocator.shown h.memory).render spreadOut), h)

/-- Frees all blocks. -/
def releaseAll (h : Holdings) : Holdings :=
  h.held.foldl (fun h b => h.release b.name) h

end Holdings

end BoundedRegex.Memory
