import BoundedRegex.Proofs.Heap

/-!
# What a write changes

A write behind the header of a region changes bytes of this region only, and of these only the ones that
are written. So headers stay as they are, the heap stays sound, and every region that is there before and
after a change of the heap reads the same.
-/
namespace BoundedRegex.Memory.Heap

variable {h h' : Heap} {r s : Region} {a length x : Nat} {bytes : Nat → UInt8}

/-- A region after a write, whether or not the stretch lies in it. -/
def overwritten (a length : Nat) (bytes : Nat → UInt8) (r : Region) : Region :=
  if r.base ≤ a ∧ a + length ≤ r.stop then
    { r with bytes := fun i =>
        if a - r.base ≤ i ∧ i < a - r.base + length then bytes (i - (a - r.base)) else r.bytes i }
  else r

theorem write_regions : (h.write a length bytes).regions = h.regions.map (overwritten a length bytes) :=
  rfl

@[simp] theorem overwritten_base : (overwritten a length bytes r).base = r.base := by
  unfold overwritten
  split <;> rfl

@[simp] theorem overwritten_size : (overwritten a length bytes r).size = r.size := by
  unfold overwritten
  split <;> rfl

@[simp] theorem overwritten_stop : (overwritten a length bytes r).stop = r.stop := by
  simp [Region.stop]

@[simp] theorem overwritten_block : (overwritten a length bytes r).block = r.block := by
  simp [Region.block]

theorem overwritten_bytes_of_outside {i : Nat} (hi : ¬(a ≤ r.base + i ∧ r.base + i < a + length)) :
    (overwritten a length bytes r).bytes i = r.bytes i := by
  unfold overwritten
  split
  · rename_i inside
    have outside : ¬(a - r.base ≤ i ∧ i < a - r.base + length) := by omega
    simp only [outside, if_false]
  · rfl

theorem overwritten_bytes_of_inside {i : Nat} (inside : r.base ≤ a ∧ a + length ≤ r.stop)
    (hi : a ≤ r.base + i ∧ r.base + i < a + length) :
    (overwritten a length bytes r).bytes i = bytes (r.base + i - a) := by
  have within : a - r.base ≤ i ∧ i < a - r.base + length := by omega
  have place : i - (a - r.base) = r.base + i - a := by omega
  simp only [overwritten, if_pos inside, if_pos within, place]

theorem blocks_write : (h.write a length bytes).blocks = h.blocks := by
  have same : Region.block ∘ overwritten a length bytes = Region.block := by
    funext r
    simp
  simp only [blocks, write_regions, List.map_map, same]

/-- A write behind the header of a region leaves all headers as they are. -/
theorem Sound.write (hs : h.Sound) (hr : r ∈ h.regions) (low : r.base + header ≤ a)
    (high : a + length ≤ r.stop) : (h.write a length bytes).Sound := by
  constructor
  · rw [write_regions, List.pairwise_map]
    refine hs.apart.imp fun apart => ?_
    simpa only [Region.Apart, overwritten_base, overwritten_stop] using apart
  · rw [write_regions, List.forall_mem_map]
    simpa only [overwritten_stop] using hs.within
  · rw [write_regions, List.forall_mem_map]
    intro s hs'
    have headed := hs.headed s hs'
    refine ⟨by simpa using headed.size, ?_⟩
    intro i hi
    have stop := headed.lt_stop
    -- A header in the stretch would be that of the region itself, which lies in front of it.
    have outside : ¬(a ≤ s.base + i ∧ s.base + i < a + length) := by
      intro hin
      have same : s = r := hs.eq_of_holds (a := s.base + i) hs' hr (by omega) (by omega)
      subst same
      simp only [header] at low
      omega
    rw [overwritten_bytes_of_outside outside, overwritten_size]
    exact headed.bytes i hi

theorem read_write (hs : h.Sound) (hr : r ∈ h.regions) (low : r.base + header ≤ a)
    (high : a + length ≤ r.stop) (hs' : s ∈ h.regions) (hx : s.base ≤ x ∧ x < s.stop) :
    (h.write a length bytes).read x =
      if a ≤ x ∧ x < a + length then bytes (x - a) else h.read x := by
  have after : (h.write a length bytes).Sound := hs.write hr low high
  have member : overwritten a length bytes s ∈ (h.write a length bytes).regions :=
    List.mem_map_of_mem hs'
  have holds : (overwritten a length bytes s).base ≤ x ∧ x < (overwritten a length bytes s).stop := by
    simpa using hx
  have address : s.base + (x - s.base) = x := by omega
  rw [after.read_eq member holds, hs.read_eq hs' hx, overwritten_base]
  by_cases hin : a ≤ x ∧ x < a + length
  · have same : s = r := hs.eq_of_holds hs' hr hx (by omega)
    subst same
    rw [if_pos hin, overwritten_bytes_of_inside ⟨by omega, high⟩ (by omega), address]
  · rw [if_neg hin, overwritten_bytes_of_outside (by omega)]

/-- A region that stays as it is reads as before. -/
theorem Sound.read_same (hs : h.Sound) (hs' : h'.Sound) (hr : r ∈ h.regions) (hr' : r ∈ h'.regions)
    (hx : r.base ≤ x ∧ x < r.stop) : h'.read x = h.read x := by
  rw [hs'.read_eq hr' hx, hs.read_eq hr hx]

/-- Where a region is taken away, the others stay. -/
theorem mem_remove (hs : h.Sound) (hr : r ∈ h.regions) (hs' : s ∈ h.regions) (ne : s ≠ r) :
    s ∈ (h.remove r.base r.size).regions := by
  have base : s.base ≠ r.base := by
    intro same
    have hrstop := (hs.headed r hr).lt_stop
    have hsstop := (hs.headed s hs').lt_stop
    exact ne (hs.eq_of_holds (a := s.base) hs' hr (by omega) (by omega))
  simp [remove, hs', base]

/-! ## Aligned regions -/

/-- The regions of a heap are aligned, and none of them is too large. -/
def Placed (h : Heap) : Prop := ∀ r ∈ h.regions, alignment ∣ r.base ∧ r.size ≤ greatestRegion

theorem empty_placed : Placed {} := by
  intro r hr
  cases hr

theorem Placed.write (hp : h.Placed) : (h.write a length bytes).Placed := by
  unfold Placed
  rw [write_regions, List.forall_mem_map]
  intro r hr
  simpa using hp r hr

theorem Placed.add (hp : h.Placed) {base total : Nat} (ho : h.Offers base total)
    (ht : header ≤ total) (small : total ≤ greatestRegion) :
    ((h.add base total).writeWord base (total - header)).Placed := by
  unfold Placed
  rw [add_regions ho ht, List.forall_mem_cons]
  exact ⟨⟨ho.1, small⟩, hp⟩

theorem Placed.remove (hp : h.Placed) (base size : Nat) : (h.remove base size).Placed :=
  fun r hr => hp r (List.mem_of_mem_filter hr)

end BoundedRegex.Memory.Heap
