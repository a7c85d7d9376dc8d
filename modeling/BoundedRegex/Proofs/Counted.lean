import Mathlib.Algebra.BigOperators.Group.Multiset.Basic
import BoundedRegex.Proofs.Dialog
import BoundedRegex.Proofs.Heap

/-!
# What the counting allocator counts

As long as blocks are taken from the counting allocator only, its counters say how many blocks are in
use and how many bytes were asked for. The counters are words, but they never overflow, since the
blocks with their headers lie apart in the addresses. The limit may be another one at each request: it
only decides which requests are refused.
-/
namespace BoundedRegex.Memory

/-! ## Blocks of a sound heap -/

section
variable {m : Memory}

/-- A request is refused, or it makes a region where the heap has room. -/
theorem take_cases (m : Memory) (size : Nat) :
    m.take size = (none, m) ∨
      ∃ base, m.heap.Offers base (size + header) ∧
        m.take size =
          (some (base + header),
            { m with heap := (m.heap.add base (size + header)).writeWord base size }) := by
  unfold take
  simp only
  split
  · exact .inl rfl
  · split
    · exact .inl rfl
    · cases hb : (m.supply m.asked).base? m.heap (size + header) with
      | none => exact .inl rfl
      | some base => exact .inr ⟨base, (m.supply m.asked).offers _ _ _ hb, rfl⟩

/-- A block in use lies behind the header of a region. -/
theorem region_of_mem {b : Block} (hb : b ∈ m.heap.blocks) :
    ∃ r ∈ m.heap.regions, r.block = b := by
  rw [Heap.blocks, Multiset.mem_coe, List.mem_map] at hb
  exact hb

/-- New blocks have addresses of their own. -/
theorem address_ne_of_offers (hs : m.heap.Sound) {base size : Nat}
    (ho : m.heap.Offers base (size + header)) {b : Block} (hb : b ∈ m.heap.blocks) :
    b.address ≠ base + header := by
  obtain ⟨r, hr, rfl⟩ := region_of_mem hb
  have hlt := (hs.headed r hr).lt_stop
  have apart := ho.2.2.2 r hr
  simp only [Region.block, header] at apart ⊢
  omega

theorem take_sound (hs : m.heap.Sound) {base size : Nat} (ho : m.heap.Offers base (size + header)) :
    ((m.heap.add base (size + header)).writeWord base size).Sound := by
  have := hs.add ho (Nat.le_add_left ..)
  rwa [Nat.add_sub_cancel] at this

theorem take_blocks {base size : Nat} (ho : m.heap.Offers base (size + header)) :
    ((m.heap.add base (size + header)).writeWord base size).blocks =
      ⟨base + header, size⟩ ::ₘ m.heap.blocks := by
  have := Heap.blocks_add ho (Nat.le_add_left ..)
  rwa [Nat.add_sub_cancel] at this

/-- The size of a block in use can be read from its header. -/
theorem sizeOf_eq (hs : m.heap.Sound) {b : Block} (hb : b ∈ m.heap.blocks) :
    m.sizeOf b.address = b.size := by
  obtain ⟨r, hr, rfl⟩ := region_of_mem hb
  rw [Memory.sizeOf, Region.block, Nat.add_sub_cancel, hs.readWord_eq hr]

theorem give_blocks (hs : m.heap.Sound) {b : Block} (hb : b ∈ m.heap.blocks) :
    m.heap.blocks = b ::ₘ (m.give b.address).heap.blocks := by
  have size := sizeOf_eq hs hb
  obtain ⟨r, hr, rfl⟩ := region_of_mem hb
  have := (hs.headed r hr).size
  rw [give, size, Region.block, Nat.add_sub_cancel, Nat.sub_add_cancel this]
  exact Heap.blocks_remove hs hr

end

/-! ## Counters -/

/-- A request is refused without a trace, or else it is served and counted once. -/
theorem takeCounted_cases (m : Memory) (size : Nat) :
    m.takeCounted size = (none, m) ∨
      ∃ p m', m.takeCounted size = (some p, m') ∧ ¬m.counts.limit ≤ m.counts.total ∧
        m'.counts.limit = m.counts.limit ∧ m'.counts.total = m.counts.total + 1 := by
  by_cases hl : m.counts.limit ≤ m.counts.total
  · exact .inl (by rw [takeCounted, if_pos hl])
  · rcases m.take_cases size with refused | ⟨base, -, taken⟩
    · exact .inl (by simp only [takeCounted, if_neg hl, refused])
    · refine .inr ?_
      simp only [takeCounted, if_neg hl, taken]
      exact ⟨_, _, rfl, hl, rfl, rfl⟩

/-- The end of a block changes neither the limit nor the number of requests served. -/
theorem deallocate_limit (m : Memory) (block : Option Nat) :
    (m.deallocate .counting block).counts.limit = m.counts.limit := by
  cases block <;> rfl

theorem deallocate_total (m : Memory) (block : Option Nat) :
    (m.deallocate .counting block).counts.total = m.counts.total := by
  cases block <;> rfl

/-- The blocks in use are exactly these, and the counters agree with them. -/
structure Counted (m : Memory) (held : Multiset Block) : Prop where
  sound : m.heap.Sound
  blocks : m.heap.blocks = held
  inUse : m.counts.blocks = UInt64.ofNat held.card
  bytes : m.counts.bytes = UInt64.ofNat (held.map Block.size).sum

namespace Counted

variable {m : Memory} {held : Multiset Block}

theorem toNat_blocks (h : m.Counted held) : m.counts.blocks.toNat = held.card := by
  have total := h.sound.sum_blocks_le
  rw [h.blocks] at total
  simp only [header, addresses] at total
  rw [h.inUse, UInt64.toNat_ofNat', Nat.mod_eq_of_lt]
  omega

theorem toNat_bytes (h : m.Counted held) :
    m.counts.bytes.toNat = (held.map Block.size).sum := by
  have total := h.sound.sum_blocks_le
  rw [h.blocks] at total
  simp only [header, addresses] at total
  rw [h.bytes, UInt64.toNat_ofNat', Nat.mod_eq_of_lt]
  rcases Multiset.empty_or_exists_mem held with rfl | ⟨b, hb⟩
  · simp
  · have := Multiset.card_pos_iff_exists_mem.mpr ⟨b, hb⟩
    omega

/-- Neither the limit nor the number of requests matters. -/
theorem setLimit (h : m.Counted held) (limit : Option UInt64) : (m.setLimit limit).Counted held :=
  ⟨h.sound, h.blocks, h.inUse, h.bytes⟩

/-- What the next request finds does not matter. -/
theorem next (h : m.Counted held) : m.next.Counted held := ⟨h.sound, h.blocks, h.inUse, h.bytes⟩

/-- A request takes a block that no one has, or it changes nothing. -/
theorem takeCounted (h : m.Counted held) (size : Nat) :
    match m.takeCounted size with
    | (none, m) => m.Counted held
    | (some p, m) => m.Counted (⟨p, size⟩ ::ₘ held) ∧ ∀ b ∈ held, b.address ≠ p := by
  by_cases hl : m.counts.limit ≤ m.counts.total
  · simpa only [Memory.takeCounted, if_pos hl] using h
  · rcases m.take_cases size with ht | ⟨base, ho, ht⟩ <;>
      simp only [Memory.takeCounted, if_neg hl, ht]
    · exact h
    · refine ⟨⟨take_sound h.sound ho, ?_, ?_, ?_⟩, ?_⟩
      · rw [take_blocks ho, h.blocks]
      · rw [h.inUse, Multiset.card_cons, UInt64.ofNat_add]
        rfl
      · simp only [h.bytes, Multiset.map_cons, Multiset.sum_cons, UInt64.ofNat_add]
        exact UInt64.add_comm _ _
      · intro b hb
        rw [← h.blocks] at hb
        exact address_ne_of_offers h.sound ho hb

theorem allocate (h : m.Counted held) (size : Nat) :
    match m.allocate .counting size with
    | (none, m) => m.Counted held
    | (some p, m) => m.Counted (⟨p, size⟩ ::ₘ held) ∧ ∀ b ∈ held, b.address ≠ p := by
  have taken := h.takeCounted size
  rw [allocate_counting]
  rcases ht : m.takeCounted size with ⟨_ | p, m'⟩ <;> rw [ht] at taken
  · exact taken.next
  · exact ⟨taken.1.next, taken.2⟩

/-- Giving a block back leaves the others in use. -/
theorem giveCounted {b : Block} (h : m.Counted (b ::ₘ held)) :
    (m.giveCounted b.address).Counted held := by
  have hb : b ∈ m.heap.blocks := by
    rw [h.blocks]
    exact Multiset.mem_cons_self b held
  refine ⟨h.sound.remove _ _, ?_, ?_, ?_⟩
  · have blocks := give_blocks h.sound hb
    rw [h.blocks] at blocks
    exact ((Multiset.cons_inj_right b).mp blocks).symm
  · simp only [Memory.giveCounted, give, h.inUse, Multiset.card_cons, UInt64.ofNat_add]
    exact UInt64.add_sub_cancel _ _
  · simp only [Memory.giveCounted, give, h.bytes, sizeOf_eq h.sound hb, Multiset.map_cons,
      Multiset.sum_cons, Nat.add_comm b.size, UInt64.ofNat_add]
    exact UInt64.add_sub_cancel _ _

end Counted

/-- The counting allocator with a limit that changes: `limits n` is the limit when request `n` comes. -/
def changing (limits : Nat → Option UInt64) : Source (Memory × Nat) where
  allocate size s :=
    let (p, m) := (s.1.setLimit (limits s.2)).allocate .counting size
    (p, (m, s.2 + 1))
  deallocate p s := (s.1.deallocate .counting p, s.2)

/-- Whatever the limits are, the counters agree with what is out. -/
theorem changing_keeps (limits : Nat → Option UInt64) :
    (changing limits).Keeps fun s held => s.1.Counted held where
  allocate := by
    intro size s held h
    have taken := (h.setLimit (limits s.2)).allocate size
    simp only [changing]
    rcases ht : (s.1.setLimit (limits s.2)).allocate .counting size with ⟨_ | p, m⟩ <;>
      simpa only [ht] using taken
  skip h := h
  deallocate h := h.giveCounted

theorem counting_keeps : Allocator.counting.source.Keeps Counted where
  allocate := by
    intro size m held h
    have taken := h.allocate size
    rcases ht : m.allocate .counting size with ⟨_ | p, m'⟩ <;>
      simpa only [Allocator.source, ht] using taken
  skip h := h
  deallocate h := h.giveCounted

end BoundedRegex.Memory
