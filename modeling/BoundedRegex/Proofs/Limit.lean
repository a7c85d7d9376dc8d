import BoundedRegex.Proofs.Dialog

/-!
# Runs that the limit does not touch

The limit of the counting allocator only decides which requests are refused. So a dialog none of whose
requests has been refused would have run the same way without a limit: it comes to the same value, and
leaves the same memory but for the limit.
-/
namespace BoundedRegex.Memory

abbrev counting : Source Memory := Allocator.counting.source

def unlimited (m : Memory) : Memory := m.setLimit none

theorem take_unlimited (m : Memory) (size : Nat) :
    m.unlimited.take size = ((m.take size).1, (m.take size).2.unlimited) := by
  have base : (m.unlimited.supply m.unlimited.asked).base? m.unlimited.heap =
      (m.supply m.asked).base? m.heap := rfl
  simp only [take, base]
  split
  · rfl
  · split
    · rfl
    · cases (m.supply m.asked).base? m.heap (size + header) <;> rfl

/-- A request that is served would be served without a limit. -/
theorem takeCounted_unlimited {m m' : Memory} {size p : Nat}
    (h : m.takeCounted size = (some p, m')) :
    m.unlimited.takeCounted size = (some p, m'.unlimited) := by
  unfold takeCounted at h
  split at h
  · cases h
  · rename_i hl
    have hnone : ¬m.unlimited.counts.limit ≤ m.unlimited.counts.total := by
      simp only [unlimited, setLimit, Option.getD_none, UInt64.not_le, UInt64.lt_iff_toNat_lt] at hl ⊢
      have := m.counts.limit.toNat_lt
      have max : (0xFFFFFFFFFFFFFFFF : UInt64).toNat = 2 ^ 64 - 1 := rfl
      omega
    rw [takeCounted, if_neg hnone, take_unlimited]
    rcases ht : m.take size with ⟨_ | q, m₁⟩ <;> simp only [ht] at h ⊢
    · cases h
    · cases h
      rfl

theorem allocate_unlimited {m m' : Memory} {size p : Nat}
    (h : m.allocate .counting size = (some p, m')) :
    m.unlimited.allocate .counting size = (some p, m'.unlimited) := by
  rw [allocate_counting] at h ⊢
  rcases ht : m.takeCounted size with ⟨_ | q, m₁⟩ <;> rw [ht] at h <;> cases h
  rw [takeCounted_unlimited ht]
  rfl

theorem deallocate_unlimited (m : Memory) (p : Option Nat) :
    m.unlimited.deallocate .counting p = (m.deallocate .counting p).unlimited := by
  cases p <;> rfl

namespace Dialog

variable {α : Type} {d : Dialog α} {m : Memory}

/-- A dialog none of whose requests is refused runs the same without a limit. -/
theorem run_unlimited (h : d.refused counting m = false) :
    d.run counting m.unlimited = ((d.run counting m).1, (d.run counting m).2.unlimited) := by
  induction d generalizing m with
  | done a => rfl
  | take size next ih =>
    simp only [refused, Bool.or_eq_false_iff] at h
    rcases ht : counting.allocate size m with ⟨_ | p, m'⟩
    · rw [ht] at h
      cases h.1
    · have hu : counting.allocate size m.unlimited = (some p, m'.unlimited) :=
        allocate_unlimited ht
      rw [ht] at h
      simp only [run, ht, hu]
      exact ih (some p) h.2
  | free block next ih =>
    have hu : counting.deallocate block m.unlimited = (counting.deallocate block m).unlimited :=
      deallocate_unlimited m block
    simp only [run, hu]
    exact ih h

end Dialog

end BoundedRegex.Memory
