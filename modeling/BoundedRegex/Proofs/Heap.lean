import Mathlib.Algebra.GroupWithZero.Nat
import Mathlib.Data.Multiset.MapFold
import Mathlib.Order.Interval.Finset.Nat
import BoundedRegex.Memory.Allocator

/-!
# Sound heaps

The regions of a heap lie apart, within the addresses, and each of them starts with a header that says
its size. This stays so when a block is taken or given back, and when its holder writes to it: no other
region has these bytes. So the header of a block can be read as long as the block is in use, and all
blocks together are no larger than the number of addresses.
-/
namespace BoundedRegex.Memory

namespace Region

/-- Two regions do not overlap. -/
def Apart (r s : Region) : Prop := r.stop ≤ s.base ∨ s.stop ≤ r.base

/-- A region starts with a header that says how much is behind it. -/
structure Headed (r : Region) : Prop where
  size : header ≤ r.size
  bytes : ∀ i < 8, r.bytes i = Heap.wordBytes (r.size - header) i

def block (r : Region) : Block := ⟨r.base + header, r.size - header⟩

theorem Apart.symm {r s : Region} (h : r.Apart s) : s.Apart r := Or.symm h

theorem Headed.lt_stop {r : Region} (h : r.Headed) : r.base + 8 ≤ r.stop := by
  have := h.size
  simp only [header, stop] at this ⊢
  omega

end Region

namespace Heap

/-- Regions that lie apart, within the addresses, each with a header. -/
structure Sound (h : Heap) : Prop where
  apart : h.regions.Pairwise Region.Apart
  within : ∀ r ∈ h.regions, r.stop ≤ addresses
  headed : ∀ r ∈ h.regions, r.Headed

def blocks (h : Heap) : Multiset Block := h.regions.map Region.block

theorem empty_sound : Sound {} := ⟨.nil, by simp, by simp⟩

variable {h : Heap} {r : Region}

namespace Sound

/-- Regions with an address in common are the same. -/
theorem eq_of_holds (hs : h.Sound) {r s : Region} (hr : r ∈ h.regions) (hs' : s ∈ h.regions) {a : Nat}
    (hra : r.base ≤ a ∧ a < r.stop) (hsa : s.base ≤ a ∧ a < s.stop) : r = s := by
  by_contra hne
  have : Std.Symm Region.Apart := ⟨fun _ _ => Region.Apart.symm⟩
  rcases hs.apart.forall hr hs' hne with h | h <;> omega

/-- The byte at an address is that of the region which has it. -/
theorem read_eq (hs : h.Sound) (hr : r ∈ h.regions) {a : Nat} (ha : r.base ≤ a ∧ a < r.stop) :
    h.read a = r.bytes (a - r.base) := by
  have found : (h.regions.find? (·.holds a)).isSome :=
    List.find?_isSome.mpr ⟨r, hr, by simpa [Region.holds] using ha⟩
  obtain ⟨s, hf⟩ := Option.isSome_iff_exists.mp found
  have hsa := List.find?_some hf
  simp only [Region.holds, Bool.and_eq_true, decide_eq_true_eq] at hsa
  rw [read, hf, hs.eq_of_holds (List.mem_of_find?_eq_some hf) hr hsa ha]

end Sound

/-- Eight bytes of a word, put together again. -/
theorem word_eq (n : Nat) (hn : n < addresses) :
    (List.range 8).foldr (fun i m => (wordBytes n i).toNat + 256 * m) 0 = n := by
  simp only [addresses] at hn
  simp only [List.range, List.range.loop, List.foldr_cons, List.foldr_nil, wordBytes,
    UInt8.toNat_ofNat', Nat.shiftRight_eq_div_pow]
  omega

/-- The header of a region in use says how much is behind it. -/
theorem Sound.readWord_eq (hs : h.Sound) (hr : r ∈ h.regions) :
    h.readWord r.base = r.size - header := by
  have hlt : r.size - header < addresses := by
    have within := hs.within r hr
    have size := (hs.headed r hr).size
    simp only [Region.stop, header, addresses] at within size ⊢
    omega
  rw [← word_eq _ hlt, readWord]
  apply List.foldr_ext
  intro i hi m
  have hi : i < 8 := List.mem_range.mp hi
  have hstop := (hs.headed r hr).lt_stop
  have ha : r.base ≤ r.base + i ∧ r.base + i < r.stop := by
    omega
  rw [hs.read_eq hr ha, Nat.add_sub_cancel_left,
    (hs.headed r hr).bytes i hi]

/-! ## Taking and giving back -/

/-- The region for a new block: zeros behind a header. -/
def newRegion (base total : Nat) : Region :=
  ⟨base, total, fun i => if i < 8 then wordBytes (total - header) i else 0⟩

theorem newRegion_headed {base total : Nat} (ht : header ≤ total) : (newRegion base total).Headed :=
  ⟨ht, fun _ hi => if_pos hi⟩

theorem add_regions {base total : Nat} (ho : h.Offers base total) (ht : header ≤ total) :
    ((h.add base total).writeWord base (total - header)).regions =
      newRegion base total :: h.regions := by
  obtain ⟨-, -, -, apart⟩ := ho
  simp only [header] at ht
  have others : ∀ r ∈ h.regions, ¬(r.base ≤ base ∧ base + 8 ≤ r.stop) := by
    intro r hr
    rcases apart r hr with h | h <;> omega
  simp only [add, writeWord, write, List.map_cons]
  congr 1
  · rw [if_pos ⟨Nat.le_refl _, by simp only [Region.stop]; omega⟩]
    simp only [newRegion, Nat.sub_self, Nat.zero_le, true_and, Nat.zero_add, Nat.sub_zero]
  · calc
      _ = h.regions.map id := List.map_congr_left fun r hr => if_neg (others r hr)
      _ = h.regions := List.map_id _

theorem Sound.add (hs : h.Sound) {base total : Nat} (ho : h.Offers base total)
    (ht : header ≤ total) : ((h.add base total).writeWord base (total - header)).Sound := by
  obtain ⟨-, -, within, apart⟩ := id ho
  refine ⟨?_, ?_, ?_⟩ <;> rw [add_regions ho ht]
  · exact .cons (fun r hr => apart r hr) hs.apart
  · exact List.forall_mem_cons.mpr ⟨within, hs.within⟩
  · exact List.forall_mem_cons.mpr ⟨newRegion_headed ht, hs.headed⟩

theorem blocks_add {base total : Nat} (ho : h.Offers base total) (ht : header ≤ total) :
    ((h.add base total).writeWord base (total - header)).blocks =
      ⟨base + header, total - header⟩ ::ₘ h.blocks := by
  simp only [blocks, add_regions ho ht, List.map_cons]
  rfl

theorem Sound.remove (hs : h.Sound) (base size : Nat) : (h.remove base size).Sound where
  apart := hs.apart.filter _
  within r hr := hs.within r (List.mem_of_mem_filter hr)
  headed r hr := hs.headed r (List.mem_of_mem_filter hr)

/-- A region that is taken away is the only one with its base. -/
theorem blocks_remove (hs : h.Sound) (hr : r ∈ h.regions) :
    h.blocks = r.block ::ₘ (h.remove r.base r.size).blocks := by
  have ne_base {s : Region} (hs' : s ∈ h.regions) (hne : s.Apart r) : s.base ≠ r.base := by
    have hrstop := (hs.headed r hr).lt_stop
    have hsstop := (hs.headed s hs').lt_stop
    rcases hne with h | h <;> omega
  obtain ⟨before, after, split⟩ := List.append_of_mem hr
  have apart := hs.apart
  rw [split, List.pairwise_append, List.pairwise_cons] at apart
  obtain ⟨-, ⟨apartAfter, -⟩, apartBefore⟩ := apart
  have keep {l : List Region} (hl : ∀ s ∈ l, s ∈ h.regions ∧ s.Apart r) :
      l.filter (fun s => !(s.base == r.base && s.size == r.size)) = l := by
    rw [List.filter_eq_self]
    intro s hs'
    simp [ne_base (hl s hs').1 (hl s hs').2]
  have removed : (h.remove r.base r.size).regions = before ++ after := by
    simp only [Heap.remove, split, List.filter_append, List.filter_cons]
    rw [keep, keep]
    · simp
    · exact fun s hs' => ⟨by simp [split, hs'], (apartAfter s hs').symm⟩
    · exact fun s hs' => ⟨by simp [split, hs'], apartBefore s hs' r List.mem_cons_self⟩
  rw [blocks, blocks, removed, split, Multiset.cons_coe, Multiset.coe_eq_coe]
  exact List.perm_middle.map Region.block

/-! ## How large all blocks are together -/

def covered : List Region → Finset Nat
  | [] => ∅
  | r :: rest => Finset.Ico r.base r.stop ∪ covered rest

theorem mem_covered {rs : List Region} {a : Nat} :
    a ∈ covered rs ↔ ∃ r ∈ rs, r.base ≤ a ∧ a < r.stop := by
  induction rs with
  | nil => simp [covered]
  | cons r rest ih => simp [covered, ih]

theorem card_covered {rs : List Region} (h : rs.Pairwise Region.Apart) :
    (covered rs).card = (rs.map Region.size).sum := by
  induction h with
  | nil => rfl
  | @cons r rest apart _ ih =>
    have disjoint : Disjoint (Finset.Ico r.base r.stop) (covered rest) := by
      rw [Finset.disjoint_left]
      intro a ha hrest
      obtain ⟨s, hs, hsa⟩ := mem_covered.mp hrest
      have hra := Finset.mem_Ico.mp ha
      rcases apart s hs with h | h <;> omega
    rw [covered, Finset.card_union_of_disjoint disjoint, ih, Nat.card_Ico, List.map_cons,
      List.sum_cons, Region.stop, Nat.add_sub_cancel_left]

/-- Regions that lie apart are no larger together than the number of addresses. -/
theorem Sound.sum_size_le (hs : h.Sound) : (h.regions.map Region.size).sum ≤ addresses := by
  have inside : covered h.regions ⊆ Finset.range addresses := by
    intro a ha
    obtain ⟨r, hr, hra⟩ := mem_covered.mp ha
    exact Finset.mem_range.mpr (Nat.lt_of_lt_of_le hra.2 (hs.within r hr))
  calc
    _ = (covered h.regions).card := (card_covered hs.apart).symm
    _ ≤ (Finset.range addresses).card := Finset.card_le_card inside
    _ = addresses := Finset.card_range addresses

/-- Blocks with their headers are no larger together than the number of addresses. -/
theorem Sound.sum_blocks_le (hs : h.Sound) :
    (h.blocks.map Block.size).sum + header * h.blocks.card ≤ addresses := by
  have split : ∀ rs : List Region, (∀ r ∈ rs, r.Headed) →
      (rs.map Region.size).sum = ((rs.map Region.block).map Block.size).sum + header * rs.length := by
    intro rs
    induction rs with
    | nil => intro _; rfl
    | cons r rest ih =>
      intro hr
      obtain ⟨hhead, htail⟩ := List.forall_mem_cons.mp hr
      have := hhead.size
      simp only [List.map_cons, List.sum_cons, ih htail, List.length_cons, Nat.mul_succ,
        Region.block]
      omega
  have total := hs.sum_size_le
  rw [split h.regions hs.headed] at total
  simpa only [blocks, Multiset.map_coe, Multiset.sum_coe, Multiset.coe_card, List.length_map]
    using total

end Heap

end BoundedRegex.Memory
