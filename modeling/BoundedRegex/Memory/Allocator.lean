import BoundedRegex.Memory.Heap
import BoundedRegex.Text.Shown

/-!
# Allocators

Blocks of memory for whoever asks for them. Who frees a block does not tell its size, so each block
has a header in front of it that does. The header is as large as the alignment, which keeps the block
aligned.

One allocator only hands out blocks. The other one counts them as well, and refuses every request once
it has served as many as it is allowed to. What is counted are the bytes that were asked for, without
headers; a request that is refused for any reason is not counted. Counters are words of 64 bits.
-/
namespace BoundedRegex.Memory

/-- The bytes in front of each block. -/
def header : Nat := 16

/-- No region for a block may be larger. -/
def greatestRegion : Nat := 0x8000000000000000 - alignment

/-- A block in use, with the size that was asked for. -/
structure Block where
  address : Nat
  size : Nat
  deriving DecidableEq, Repr

structure Counts where
  blocks : UInt64 := 0
  bytes : UInt64 := 0
  /-- Requests served so far. -/
  total : UInt64 := 0
  limit : UInt64 := 0xFFFFFFFFFFFFFFFF
  deriving DecidableEq, Repr

/-- Which allocator serves a request. -/
inductive Allocator where
  | system
  | counting
  deriving DecidableEq, Repr

end BoundedRegex.Memory

namespace BoundedRegex

structure Memory where
  /-- What each request finds, by its number. -/
  supply : Nat → Memory.Supply := fun _ => .ascending
  /-- The number of the next request. -/
  asked : Nat := 0
  heap : Memory.Heap := {}
  counts : Memory.Counts := {}

namespace Memory
open Text

/-- Takes a block, if it is not too large and the heap has room. -/
def take (size : Nat) (m : Memory) : Option Nat × Memory :=
  let total := size + header
  if addresses ≤ total then (none, m)
  else if greatestRegion < total then (none, m)
  else
    match (m.supply m.asked).base? m.heap total with
    | none => (none, m)
    | some base =>
      (some (base + header), { m with heap := (m.heap.add base total).writeWord base size })

/-- The size that was asked for a block. -/
def sizeOf (p : Nat) (m : Memory) : Nat := m.heap.readWord (p - header)

/-- Gives a block back. -/
def give (p : Nat) (m : Memory) : Memory :=
  { m with heap := m.heap.remove (p - header) (m.sizeOf p + header) }

/-- Takes a block and counts it, unless no more may be served. -/
def takeCounted (size : Nat) (m : Memory) : Option Nat × Memory :=
  if m.counts.limit ≤ m.counts.total then (none, m)
  else
    match m.take size with
    | (none, m) => (none, m)
    | (some p, m) =>
      let c := m.counts
      (some p, { m with counts :=
          { c with total := c.total + 1, blocks := c.blocks + 1
                   bytes := c.bytes + UInt64.ofNat size } })

def giveCounted (p : Nat) (m : Memory) : Memory :=
  let c := m.counts
  { m with counts :=
      { c with blocks := c.blocks - 1, bytes := c.bytes - UInt64.ofNat (m.sizeOf p) } }.give p

/-- How an allocator answers a request. -/
def serve (a : Allocator) (size : Nat) (m : Memory) : Option Nat × Memory :=
  match a with
  | .system => m.take size
  | .counting => m.takeCounted size

/-- On to the next request, which may find another supply. -/
def next (m : Memory) : Memory := { m with asked := m.asked + 1 }

@[simp] theorem next_heap (m : Memory) : m.next.heap = m.heap := rfl

@[simp] theorem next_counts (m : Memory) : m.next.counts = m.counts := rfl

/-- Asks an allocator for a block. -/
def allocate (a : Allocator) (size : Nat) (m : Memory) : Option Nat × Memory :=
  ((m.serve a size).1, (m.serve a size).2.next)

theorem allocate_counting (m : Memory) (size : Nat) :
    m.allocate .counting size = ((m.takeCounted size).1, (m.takeCounted size).2.next) :=
  rfl

/-- Frees a block, if there is one. -/
def deallocate (a : Allocator) (p : Option Nat) (m : Memory) : Memory :=
  match p, a with
  | none, _ => m
  | some p, .system => m.give p
  | some p, .counting => m.giveCounted p

/-- Sets how many requests may be served in all; none stands for no limit. -/
def setLimit (limit : Option UInt64) (m : Memory) : Memory :=
  { m with counts := { m.counts with limit := limit.getD 0xFFFFFFFFFFFFFFFF } }

/-- Allows so many more requests from now on. -/
def allowMore (more : Option UInt64) (m : Memory) : Memory :=
  m.setLimit (more.map (m.counts.total + ·))

def fill (p : Nat) (length : Nat) (byte : UInt8) (m : Memory) : Memory :=
  { m with heap := m.heap.write p length fun _ => byte }

/-- Whether the start of a block holds a byte throughout. -/
def isFilled (p : Nat) (length : Nat) (byte : UInt8) (m : Memory) : Bool :=
  (List.range length).all fun i => m.heap.read (p + i) == byte

def Allocator.shown (a : Allocator) (m : Memory) : Shown :=
  match a with
  | .system => .word "SystemAllocator"
  | .counting =>
    .record "CountingAllocator"
      [("blocks_in_use", .number m.counts.blocks.toNat),
       ("bytes_in_use", .number m.counts.bytes.toNat),
       ("total_allocations", .number m.counts.total.toNat)]

end Memory

end BoundedRegex
