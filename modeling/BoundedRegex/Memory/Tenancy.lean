import BoundedRegex.Memory.Allocator

/-!
# Tenancies

A client of an allocator with the blocks that it has, the latest one first. It asks for blocks, gives
them back in any order, writes into them, and changes how many requests may be served. What it gives back
is one of its blocks or no block, and what it writes lies inside one of its blocks.

Each request comes with a supply of its own, so the heap may have room for it anywhere or nowhere,
whatever there was room for before.
-/
namespace BoundedRegex.Memory

/-- What a tenant does. The number of a block is its place among the blocks that the tenant has. -/
inductive Act where
  /-- Asks for a block while new regions lie where a supply says. -/
  | allocate (supply : Supply) (size : UInt64)
  /-- Gives a block back, or no block if there is none of that number. -/
  | deallocate (n : Nat)
  /-- Writes bytes from a place in a block on, if they lie inside it. -/
  | write (n place : Nat) (bytes : List UInt8)
  | setLimit (limit : Option UInt64)

def Act.setsLimit : Act → Bool
  | .setLimit _ => true
  | _ => false

structure Tenancy where
  allocator : Allocator
  memory : Memory := {}
  blocks : List Block := []

end BoundedRegex.Memory

namespace BoundedRegex

/-- Writes bytes from an address on. -/
def Memory.store (p : Nat) (bytes : List UInt8) (m : Memory) : Memory :=
  { m with heap := m.heap.write p bytes.length fun i => bytes.getD i 0 }

namespace Memory.Tenancy

/-- The memory, with room for new regions where supplies say. -/
def supplied (t : Tenancy) (supply : Nat → Supply) : Memory := { t.memory with supply := supply }

/-- How a request is answered. -/
def request (t : Tenancy) (supply : Supply) (size : UInt64) : Option Nat × Memory :=
  (t.supplied fun _ => supply).allocate t.allocator size.toNat

def act (t : Tenancy) : Act → Tenancy
  | .allocate supply size =>
    match t.request supply size with
    | (none, m) => { t with memory := m }
    | (some p, m) => { t with memory := m, blocks := ⟨p, size.toNat⟩ :: t.blocks }
  | .deallocate n =>
    { t with
      memory := t.memory.deallocate t.allocator (t.blocks[n]?.map (·.address))
      blocks := t.blocks.eraseIdx n }
  | .write n place bytes =>
    match t.blocks[n]? with
    | some b =>
      if place + bytes.length ≤ b.size then
        { t with memory := t.memory.store (b.address + place) bytes }
      else t
    | none => t
  | .setLimit limit => { t with memory := t.memory.setLimit limit }

def run (acts : List Act) (t : Tenancy) : Tenancy := acts.foldl act t

/-- The block that an act is on. A request is on no block that there is. -/
def target? (t : Tenancy) : Act → Option Block
  | .deallocate n => t.blocks[n]?
  | .write n _ _ => t.blocks[n]?
  | _ => none

/-- Whether an act is a request that is served. -/
def serves (t : Tenancy) : Act → Bool
  | .allocate supply size => (t.request supply size).1.isSome
  | _ => false

/-- Whether an act is a request that the allocator without counters would serve. -/
def servable (t : Tenancy) : Act → Bool
  | .allocate supply size => ((t.supplied fun _ => supply).take size.toNat).1.isSome
  | _ => false

/-- How many acts are of a kind, each in the state that it finds. -/
def tally (kind : Tenancy → Act → Bool) : List Act → Tenancy → Nat
  | [], _ => 0
  | a :: rest, t => (kind t a).toNat + tally kind rest (t.act a)

end Memory.Tenancy

end BoundedRegex
