import BoundedRegex.Memory.Tenancy
import BoundedRegex.Proofs.Counted
import BoundedRegex.Proofs.Writing

/-!
# Blocks of a tenant

The regions in use are those of the blocks that a tenant has, one for each. An act adds a region, takes
one away, writes into one behind its header, or leaves the heap alone, and whichever it does, the other
blocks keep their bytes. So the header of a block says its size for as long as the tenant has it, and the
region that is taken away with a block is the one that was made for it.
-/
namespace BoundedRegex.Memory
open Heap

/-! ## Steps of a heap -/

/-- What an act that is on a block, or on none, does to the heap and to the blocks of a tenant. -/
inductive Moves (h : Heap) (blocks : List Block) : Option Block → Heap → List Block → Prop
  | rest (target : Option Block) : Moves h blocks target h blocks
  | add {base size : Nat} : h.Offers base (size + header) → size + header ≤ greatestRegion →
      Moves h blocks none ((h.add base (size + header)).writeWord base size)
        (⟨base + header, size⟩ :: blocks)
  | remove {n : Nat} {b : Block} : blocks[n]? = some b →
      Moves h blocks (some b)
        (h.remove (b.address - header) (h.readWord (b.address - header) + header)) (blocks.eraseIdx n)
  | write {n place : Nat} {b : Block} {bytes : List UInt8} : blocks[n]? = some b →
      place + bytes.length ≤ b.size →
      Moves h blocks (some b)
        (h.write (b.address + place) bytes.length fun i => bytes.getD i 0) blocks

/-- A request is refused at once for its size, or else it is answered as the supply says. -/
theorem take_eq (m : Memory) (size : Nat) :
    m.take size =
      if addresses ≤ size + header ∨ greatestRegion < size + header then (none, m)
      else
        match (m.supply m.asked).base? m.heap (size + header) with
        | none => (none, m)
        | some base =>
          (some (base + header),
            { m with heap := (m.heap.add base (size + header)).writeWord base size }) := by
  unfold take
  by_cases overflow : addresses ≤ size + header
  · simp [overflow]
  · by_cases large : greatestRegion < size + header
    · simp [overflow, large]
    · cases hb : (m.supply m.asked).base? m.heap (size + header) <;> simp [overflow, large, hb]

/-- A request that is served makes a region where the heap has room. -/
theorem take_served {m m' : Memory} {size p : Nat} (h : m.take size = (some p, m')) :
    ∃ base, m.heap.Offers base (size + header) ∧ size + header ≤ greatestRegion ∧
      p = base + header ∧ m'.heap = (m.heap.add base (size + header)).writeWord base size := by
  rw [take_eq] at h
  split at h
  · cases h
  · rename_i small
    cases hb : (m.supply m.asked).base? m.heap (size + header) with
    | none =>
      rw [hb] at h
      cases h
    | some base =>
      rw [hb] at h
      cases h
      exact ⟨base, (m.supply m.asked).offers _ _ _ hb, by omega, rfl, rfl⟩

theorem take_refused {m m' : Memory} {size : Nat} (h : m.take size = (none, m')) : m' = m := by
  rcases m.take_cases size with refused | ⟨base, -, served⟩
  · exact congrArg Prod.snd (h.symm.trans refused)
  · rw [served] at h
    cases h

/-- Whichever allocator serves a request, the heap is the one after taking. -/
theorem serve_heap (a : Allocator) (m : Memory) (size : Nat) :
    m.serve a size = (none, m) ∨
      ∃ p, (m.take size).1 = some p ∧ (m.serve a size).1 = some p ∧
        (m.serve a size).2.heap = (m.take size).2.heap := by
  rcases ht : m.take size with ⟨_ | p, m'⟩
  · have same := take_refused ht
    subst same
    left
    cases a with
    | system => exact ht
    | counting =>
      simp only [serve, takeCounted, ht]
      split <;> rfl
  · cases a with
    | system => exact .inr ⟨p, rfl, by simp [serve, ht], by simp [serve, ht]⟩
    | counting =>
      by_cases hl : m.counts.limit ≤ m.counts.total
      · exact .inl (by simp [serve, takeCounted, hl])
      · exact .inr ⟨p, rfl, by simp [serve, takeCounted, hl, ht],
          by simp [serve, takeCounted, hl, ht]⟩

namespace Tenancy

theorem act_allocate (t : Tenancy) (supply : Supply) (size : UInt64) :
    t.act (.allocate supply size) =
      { t with
        memory := (t.request supply size).2
        blocks := (t.request supply size).1.toList.map (⟨·, size.toNat⟩) ++ t.blocks } := by
  simp only [act]
  rcases t.request supply size with ⟨_ | p, m⟩ <;> rfl

theorem act_moves (t : Tenancy) (a : Act) :
    Moves t.memory.heap t.blocks (t.target? a) (t.act a).memory.heap (t.act a).blocks := by
  cases a with
  | allocate supply size =>
    change Moves t.memory.heap t.blocks none _ _
    rw [act_allocate]
    rcases serve_heap t.allocator (t.supplied fun _ => supply) size.toNat with
      refused | ⟨p, taken, served, heap⟩
    · simp only [request, allocate, refused]
      exact .rest none
    · obtain ⟨base, room, small, rfl, after⟩ := take_served (Prod.ext taken rfl)
      simp only [request, allocate, next_heap, served, heap, after]
      exact .add room small
  | deallocate n =>
    simp only [act, target?]
    cases hb : t.blocks[n]? with
    | none =>
      have all : t.blocks.length ≤ n := List.getElem?_eq_none_iff.mp hb
      rw [List.eraseIdx_of_length_le all]
      exact .rest none
    | some b => cases t.allocator <;> exact .remove hb
  | write n place bytes =>
    simp only [act, target?]
    cases hb : t.blocks[n]? with
    | none => exact .rest none
    | some b =>
      by_cases inside : place + bytes.length ≤ b.size
      · simp only [if_pos inside]
        exact .write hb inside
      · simp only [if_neg inside]
        exact .rest (some b)
  | setLimit limit => exact .rest none

end Tenancy

/-! ## Housed blocks -/

/-- The regions in use are those of some blocks. -/
structure Housed (h : Heap) (blocks : List Block) : Prop where
  sound : h.Sound
  placed : h.Placed
  blocks : h.blocks = blocks

section
variable {h h' : Heap} {blocks blocks' : List Block} {target : Option Block} {b : Block}

theorem Housed.region (hh : Housed h blocks) (hb : b ∈ blocks) :
    ∃ r ∈ h.regions, r.block = b ∧ r.base + header = b.address ∧ r.stop = b.address + b.size ∧
      r.size = b.size + header := by
  have mem : b ∈ h.blocks := by
    rw [hh.blocks]
    exact hb
  rw [Heap.blocks, Multiset.mem_coe, List.mem_map] at mem
  obtain ⟨r, hr, rfl⟩ := mem
  have size := (hh.sound.headed r hr).size
  simp only [Region.block, Region.stop]
  exact ⟨r, hr, rfl, rfl, by omega, by omega⟩

theorem Housed.readWord_eq (hh : Housed h blocks) (hb : b ∈ blocks) :
    h.readWord (b.address - header) = b.size := by
  obtain ⟨r, hr, -, base, -, size⟩ := hh.region hb
  have address : b.address - header = r.base := by omega
  rw [address, hh.sound.readWord_eq hr, size, Nat.add_sub_cancel]

theorem Housed.apart (hh : Housed h blocks) :
    blocks.Pairwise fun b c =>
      b.address + b.size + header ≤ c.address ∨ c.address + c.size + header ≤ b.address := by
  have perm : (h.regions.map Region.block).Perm blocks := Multiset.coe_eq_coe.mp hh.blocks
  apply perm.pairwise _ fun h => h.symm
  rw [List.pairwise_map]
  apply hh.sound.apart.imp_of_mem
  intro r s hr hs apart
  have hr := (hh.sound.headed r hr).size
  have hs := (hh.sound.headed s hs).size
  simp only [Region.Apart, Region.stop, Region.block] at apart ⊢
  omega

/-- A list taken apart at one of its places. -/
theorem perm_eraseIdx {α : Type} {l : List α} {n : Nat} {a : α} (h : l[n]? = some a) :
    l.Perm (a :: l.eraseIdx n) := by
  obtain ⟨hn, rfl⟩ := List.getElem?_eq_some_iff.mp h
  exact (List.getElem_cons_eraseIdx_perm hn).symm

/-- An act leaves the regions in use those of the blocks. -/
theorem Housed.moves (hh : Housed h blocks) (hm : Moves h blocks target h' blocks') :
    Housed h' blocks' := by
  cases hm with
  | rest => exact hh
  | @add base size room small =>
    have enough : header ≤ size + header := Nat.le_add_left ..
    have sound := hh.sound.add room enough
    have placed := hh.placed.add room enough small
    have added := blocks_add room enough
    rw [Nat.add_sub_cancel] at sound placed added
    exact ⟨sound, placed, by rw [added, hh.blocks, Multiset.cons_coe]⟩
  | @remove n b hb =>
    have word := hh.readWord_eq (List.mem_of_getElem? hb)
    obtain ⟨r, hr, block, base, -, size⟩ := hh.region (List.mem_of_getElem? hb)
    have address : b.address - header = r.base := by omega
    rw [word, address, ← size]
    refine ⟨hh.sound.remove _ _, hh.placed.remove _ _, ?_⟩
    have taken := blocks_remove hh.sound hr
    rw [hh.blocks, Multiset.coe_eq_coe.mpr (perm_eraseIdx hb), ← Multiset.cons_coe, block] at taken
    exact ((Multiset.cons_inj_right b).mp taken).symm
  | @write n place b bytes hb inside =>
    obtain ⟨r, hr, -, base, stop, -⟩ := hh.region (List.mem_of_getElem? hb)
    exact ⟨hh.sound.write hr (by omega) (by omega), hh.placed.write, blocks_write.trans hh.blocks⟩

/-- A block that an act is not on stays, with all its bytes. -/
theorem Moves.untouched (hm : Moves h blocks target h' blocks') (hh : Housed h blocks) (hb : b ∈ blocks)
    (ne : target ≠ some b) :
    b ∈ blocks' ∧ ∀ i < b.size, h'.read (b.address + i) = h.read (b.address + i) := by
  have after : Housed h' blocks' := hh.moves hm
  obtain ⟨r, hr, block, base, stop, -⟩ := hh.region hb
  cases hm with
  | rest => exact ⟨hb, fun _ _ => rfl⟩
  | @add base' size room small =>
    have kept : r ∈ ((h.add base' (size + header)).writeWord base' size).regions := by
      have regions := add_regions room (Nat.le_add_left header size)
      rw [Nat.add_sub_cancel] at regions
      rw [regions]
      exact List.mem_cons_of_mem _ hr
    refine ⟨List.mem_cons_of_mem _ hb, fun i hi => ?_⟩
    exact hh.sound.read_same after.sound hr kept (by omega)
  | @remove n c hc =>
    have different : b ≠ c := fun same => ne (congrArg some same.symm)
    have stays : b ∈ blocks.eraseIdx n := by
      have member : b ∈ c :: blocks.eraseIdx n := (perm_eraseIdx hc).mem_iff.mp hb
      exact (List.mem_cons.mp member).resolve_left different
    obtain ⟨s, hs, block', base', -, size'⟩ := hh.region (List.mem_of_getElem? hc)
    have word := hh.readWord_eq (List.mem_of_getElem? hc)
    have address : c.address - header = s.base := by omega
    have apart : r ≠ s := by
      intro same
      exact different (by rw [← block, same, block'])
    rw [word, address, ← size'] at after ⊢
    refine ⟨stays, fun i hi => ?_⟩
    exact hh.sound.read_same after.sound hr (mem_remove hh.sound hs hr apart) (by omega)
  | @write n place c bytes hc inside =>
    have different : b ≠ c := fun same => ne (congrArg some same.symm)
    obtain ⟨s, hs, block', base', stop', -⟩ := hh.region (List.mem_of_getElem? hc)
    refine ⟨hb, fun i hi => ?_⟩
    rw [read_write hh.sound hs (by omega) (by omega) hr (by omega), if_neg]
    intro within
    have same : r = s := hh.sound.eq_of_holds (a := b.address + i) hr hs (by omega) (by omega)
    exact different (by rw [← block, same, block'])

end

/-! ## Runs -/

theorem housed_empty : Housed {} [] := ⟨empty_sound, empty_placed, rfl⟩

namespace Tenancy

def opened (a : Allocator) : Tenancy := { allocator := a }

theorem run_append (before after : List Act) (t : Tenancy) :
    t.run (before ++ after) = (t.run before).run after :=
  List.foldl_append

theorem run_allocator (acts : List Act) (t : Tenancy) : (t.run acts).allocator = t.allocator := by
  have step (a : Act) (t : Tenancy) : (t.act a).allocator = t.allocator := by
    cases a with
    | allocate supply size => rw [act_allocate]
    | write n place bytes =>
      simp only [act]
      split
      · split <;> rfl
      · rfl
    | _ => rfl
  induction acts generalizing t with
  | nil => rfl
  | cons a rest ih => exact (ih (t.act a)).trans (step a t)

theorem housed_run {t : Tenancy} (h : Housed t.memory.heap t.blocks) (acts : List Act) :
    Housed (t.run acts).memory.heap (t.run acts).blocks := by
  induction acts generalizing t with
  | nil => exact h
  | cons a rest ih => exact ih (h.moves (t.act_moves a))

/-- No act of a run is on a block. -/
def Spares (b : Block) : List Act → Tenancy → Prop
  | [], _ => True
  | a :: rest, t => t.target? a ≠ some b ∧ Spares b rest (t.act a)

theorem run_untouched {t : Tenancy} {b : Block} (h : Housed t.memory.heap t.blocks) (hb : b ∈ t.blocks)
    (acts : List Act) (spared : t.Spares b acts) :
    b ∈ (t.run acts).blocks ∧ ∀ i < b.size,
      (t.run acts).memory.heap.read (b.address + i) = t.memory.heap.read (b.address + i) := by
  induction acts generalizing t with
  | nil => exact ⟨hb, fun _ _ => rfl⟩
  | cons a rest ih =>
    have step := (t.act_moves a).untouched h hb spared.1
    have later := ih (h.moves (t.act_moves a)) step.1 spared.2
    exact ⟨later.1, fun i hi => (later.2 i hi).trans (step.2 i hi)⟩

/-- What is said of the blocks of a tenant at each moment of a run. -/
structure Intact (t : Tenancy) : Prop where
  /-- The regions in use are those of the blocks. -/
  inUse : t.memory.heap.blocks = t.blocks
  /-- A block fills its region behind the header, and its header gives back the size of the region that
  was made for it, without leaving the words of 64 bits. -/
  region : ∀ b ∈ t.blocks, ∃ r ∈ t.memory.heap.regions,
    b.address = r.base + header ∧ b.address + b.size = r.stop ∧
      t.memory.sizeOf b.address + header = r.size ∧ r.size < addresses ∧ r.size ≤ greatestRegion
  aligned : ∀ b ∈ t.blocks, alignment ∣ b.address
  /-- The header of a block says the size that was asked for. -/
  headed : ∀ b ∈ t.blocks, t.memory.sizeOf b.address = b.size
  /-- Blocks do not overlap, nor do their headers. -/
  apart : t.blocks.Pairwise fun b c =>
    b.address + b.size + header ≤ c.address ∨ c.address + c.size + header ≤ b.address
  /-- A request is refused at once for its size only. Otherwise a region for the block and its header is
  asked for, and the block lies behind the header of what there is. -/
  answered : ∀ supply size, (t.request supply size).1 =
    if addresses ≤ size.toNat + header ∨ greatestRegion < size.toNat + header then none
    else (supply.base? t.memory.heap (size.toNat + header)).map (· + header)
  /-- In a block that is written to, only these bytes change. -/
  written : ∀ n b place bytes, t.blocks[n]? = some b → place + bytes.length ≤ b.size →
    ∀ i < b.size, (t.act (.write n place bytes)).memory.heap.read (b.address + i) =
      if place ≤ i ∧ i < place + bytes.length then bytes.getD (i - place) 0
      else t.memory.heap.read (b.address + i)
  /-- As long as no act is on a block, it stays with all its bytes. -/
  untouched : ∀ b ∈ t.blocks, ∀ acts, t.Spares b acts →
    b ∈ (t.run acts).blocks ∧ ∀ i < b.size,
      (t.run acts).memory.heap.read (b.address + i) = t.memory.heap.read (b.address + i)

theorem answered_eq {t : Tenancy} (ht : t.allocator = .system) (supply : Supply) (size : UInt64) :
    (t.request supply size).1 =
      if addresses ≤ size.toNat + header ∨ greatestRegion < size.toNat + header then none
      else (supply.base? t.memory.heap (size.toNat + header)).map (· + header) := by
  rw [request, ht]
  change ((t.supplied fun _ => supply).take size.toNat).1 = _
  rw [take_eq]
  split
  · rfl
  · change Prod.fst (match supply.base? t.memory.heap (size.toNat + header) with
      | none => (none, t.supplied fun _ => supply)
      | some base => _) = _
    cases supply.base? t.memory.heap (size.toNat + header) <;> rfl

theorem written_eq {t : Tenancy} (h : Housed t.memory.heap t.blocks) {n place : Nat} {b : Block}
    {bytes : List UInt8} (hb : t.blocks[n]? = some b) (inside : place + bytes.length ≤ b.size) {i : Nat}
    (hi : i < b.size) :
    (t.act (.write n place bytes)).memory.heap.read (b.address + i) =
      if place ≤ i ∧ i < place + bytes.length then bytes.getD (i - place) 0
      else t.memory.heap.read (b.address + i) := by
  obtain ⟨r, hr, -, base, stop, -⟩ := h.region (List.mem_of_getElem? hb)
  have after : (t.act (.write n place bytes)).memory.heap =
      t.memory.heap.write (b.address + place) bytes.length fun i => bytes.getD i 0 := by
    simp only [act, hb, if_pos inside, store]
  rw [after, read_write h.sound hr (by omega) (by omega) hr (by omega)]
  have offset : b.address + i - (b.address + place) = i - place := by omega
  simp only [offset, Nat.add_le_add_iff_left, Nat.add_assoc, Nat.add_lt_add_iff_left]

/-- In every run over the allocator without counters, blocks keep their headers and their bytes. -/
theorem run_intact (acts : List Act) : ((opened .system).run acts).Intact := by
  have h : Housed ((opened .system).run acts).memory.heap ((opened .system).run acts).blocks :=
    housed_run housed_empty acts
  have system : ((opened .system).run acts).allocator = .system := run_allocator acts (opened .system)
  constructor
  case inUse => exact h.blocks
  case region =>
    intro b hb
    obtain ⟨r, hr, -, base, stop, size⟩ := h.region hb
    have word : ((opened .system).run acts).memory.sizeOf b.address = b.size := h.readWord_eq hb
    have small := (h.placed r hr).2
    have words : r.size < addresses := by
      simp only [greatestRegion, alignment, addresses] at small ⊢
      omega
    exact ⟨r, hr, base.symm, stop.symm, by omega, words, small⟩
  case aligned =>
    intro b hb
    obtain ⟨r, hr, -, base, -, -⟩ := h.region hb
    rw [← base]
    exact Nat.dvd_add (h.placed r hr).1 (dvd_refl header)
  case headed => exact fun b hb => h.readWord_eq hb
  case apart => exact h.apart
  case answered => exact answered_eq system
  case written => exact fun n b place bytes hb inside i hi => written_eq h hb inside hi
  case untouched => exact fun b hb acts spared => run_untouched h hb acts spared

end Tenancy

end BoundedRegex.Memory
