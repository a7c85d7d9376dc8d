/-!
# The heap

The memory that all allocators take from. It consists of the regions that are in use, each with a base
address and its bytes. A supply decides where a new region lies, or that there is none; whatever it
decides, regions are aligned, lie within the addresses of 64 bits and do not overlap. Each request may
find another supply, since what there is room for also depends on what has been asked for and freed
before, and on what others do with the heap meanwhile.
-/
namespace BoundedRegex.Memory

/-- The number of byte addresses. -/
def addresses : Nat := 0x10000000000000000

/-- What every base address is a multiple of. -/
def alignment : Nat := 16

structure Region where
  base : Nat
  size : Nat
  /-- The bytes by their place in the region. -/
  bytes : Nat → UInt8

namespace Region

/-- The address behind a region. -/
def stop (r : Region) : Nat := r.base + r.size

/-- Whether an address lies in a region. -/
def holds (r : Region) (a : Nat) : Bool := decide (r.base ≤ a) && decide (a < r.stop)

end Region

/-- The regions in use. -/
structure Heap where
  regions : List Region := []

namespace Heap

/-- Whether a region can be made at a base address. -/
def Offers (h : Heap) (base : Nat) (size : Nat) : Prop :=
  alignment ∣ base ∧ 0 < base ∧ base + size ≤ addresses ∧
    ∀ r ∈ h.regions, base + size ≤ r.base ∨ r.stop ≤ base

/-- The byte at an address; no region reads as zero. -/
def read (h : Heap) (a : Nat) : UInt8 :=
  match h.regions.find? (·.holds a) with
  | some r => r.bytes (a - r.base)
  | none => 0

/-- Changes the bytes of a stretch that lies in one region, by their place in the stretch. -/
def write (h : Heap) (a : Nat) (length : Nat) (bytes : Nat → UInt8) : Heap :=
  ⟨h.regions.map fun r =>
    if r.base ≤ a ∧ a + length ≤ r.stop then
      { r with bytes := fun i =>
          if a - r.base ≤ i ∧ i < a - r.base + length then bytes (i - (a - r.base)) else r.bytes i }
    else r⟩

def wordBytes (n : Nat) (i : Nat) : UInt8 := UInt8.ofNat (n >>> (8 * i))

/-- Writes a word of 64 bits. -/
def writeWord (h : Heap) (a : Nat) (n : Nat) : Heap := h.write a 8 (wordBytes n)

/-- Reads a word of 64 bits. -/
def readWord (h : Heap) (a : Nat) : Nat :=
  (List.range 8).foldr (fun i n => (h.read (a + i)).toNat + 256 * n) 0

/-- Adds a region whose bytes are all zero. -/
def add (h : Heap) (base : Nat) (size : Nat) : Heap := ⟨⟨base, size, fun _ => 0⟩ :: h.regions⟩

/-- Takes a region away. -/
def remove (h : Heap) (base : Nat) (size : Nat) : Heap :=
  ⟨h.regions.filter fun r => !(r.base == base && r.size == size)⟩

end Heap

/-- Where a new region lies. -/
structure Supply where
  /-- The base address for a size, if there is room. -/
  base? : Heap → Nat → Option Nat
  offers : ∀ h size base, base? h size = some base → h.Offers base size

namespace Supply

/-- Regions of this size and above are never made. -/
def greatest : Nat := 0x100000000000000

/-- The first aligned address behind all regions. -/
def behindAll (h : Heap) : Nat :=
  let stop := h.regions.foldl (fun a r => max a r.stop) 1
  alignment * ((stop + (alignment - 1)) / alignment)

/-- Each address that a fold over regions starts from or meets is below its result. -/
theorem le_foldl_stop (rs : List Region) (a : Nat) :
    a ≤ rs.foldl (fun a r => max a r.stop) a ∧
      ∀ r ∈ rs, r.stop ≤ rs.foldl (fun a r => max a r.stop) a := by
  induction rs generalizing a with
  | nil => simp
  | cons r rest ih =>
    have h := ih (max a r.stop)
    refine ⟨Nat.le_trans (Nat.le_max_left ..) h.1, ?_⟩
    intro s hs
    rcases List.mem_cons.mp hs with rfl | hs
    · exact Nat.le_trans (Nat.le_max_right ..) h.1
    · exact h.2 s hs

/-- Every region ends before the address behind all of them, which is not zero. -/
theorem le_behindAll (h : Heap) :
    0 < behindAll h ∧ ∀ r ∈ h.regions, r.stop ≤ behindAll h := by
  have fold := le_foldl_stop h.regions 1
  have round (n : Nat) : n ≤ alignment * ((n + (alignment - 1)) / alignment) := by
    simp only [alignment]
    omega
  exact ⟨Nat.le_trans fold.1 (round _), fun r hr => Nat.le_trans (fold.2 r hr) (round _)⟩

/-- No room for any region. -/
def exhausted : Supply where
  base? _ _ := none
  offers := nofun

/-- Regions one behind the other. -/
def ascending : Supply where
  base? h size :=
    if size < greatest ∧ behindAll h + size ≤ addresses then some (behindAll h) else none
  offers := by
    intro h size base found
    split at found
    · rename_i fits
      cases found
      exact ⟨⟨_, rfl⟩, (le_behindAll h).1, fits.2, fun r hr => .inr ((le_behindAll h).2 r hr)⟩
    · cases found

/-- Regions one behind the other, but none for every seventh request. -/
def intermittent (n : Nat) : Supply := if n % 7 = 6 then exhausted else ascending

end Supply

end BoundedRegex.Memory
