import Mathlib.Logic.Relation
import BoundedRegex.Search

/-!
# The blocks that searches come to

Each block for entries is replaced by a larger one until no larger one is allowed. The sizes that come one
after another are a chain, which starts with the first block of a pattern and does not depend on what it is
needed for: one search may take more of it than another one. Since the chain is short, all of its blocks come
to the same greatest one. So what entries there may be room for does not depend on earlier searches.
-/
namespace BoundedRegex.Search

variable {limit groups block next depth fuel : Nat}

/-! ## One block after another -/

/-- What replaces a block is larger. It is twice the block until the limit comes near, then the limit itself,
unless a part of a unit is left over: then that part is doubled. -/
theorem nextBlock?_eq_some (h : nextBlock? limit groups block = some next) :
    block < next ∧ block / 1024 < limit ∧
      next = if 2 * block / 1024 < limit then 2 * block
        else if block % 1024 = 0 then 1024 * limit
        else 1024 * (limit - 1) + 2 * (block % 1024) := by
  simp only [nextBlock?, Option.ite_none_left_eq_some, Option.some.injEq, Bool.or_eq_true,
    decide_eq_true_eq, not_or, Nat.not_le, Nat.not_lt] at h
  obtain ⟨⟨larger, -⟩, rfl⟩ := h
  by_cases far : 2 * block / 1024 < limit
  · rw [if_neg (Nat.not_le.mpr far)] at larger ⊢
    rw [if_pos far]
    omega
  · rw [if_pos (Nat.not_lt.mp far)] at larger ⊢
    rw [if_neg far]
    split at larger
    · omega
    · rename_i below
      rw [if_neg below]
      split <;> omega

theorem lt_of_firstBlock? (h : firstBlock? limit groups = some block) : block < 1024 * (limit + 1) := by
  simp only [firstBlock?] at h
  split at h
  · split at h
    · cases h
    · cases h
      omega
  · cases h
    omega

theorem lt_of_nextBlock? (h : nextBlock? limit groups block = some next) : next < 1024 * (limit + 1) := by
  obtain ⟨-, below, rfl⟩ := nextBlock?_eq_some h
  split
  · omega
  · split <;> omega

/-! ## Chains of blocks -/

/-- How many blocks may come after one, at most. -/
def chainBound (limit block : Nat) : Nat :=
  if 2 * block / 1024 < limit then 46 - block.log2
  else if limit ≤ block / 1024 then 0
  else if block % 1024 = 0 then 1
  else 10 - (block % 1024).log2

theorem chainBound_le_of_near (near : limit ≤ 2 * block / 1024) : chainBound limit block ≤ 10 := by
  rw [chainBound, if_neg (Nat.not_lt.mpr near)]
  split
  · omega
  · split <;> omega

theorem chainBound_lt (hl : limit ≤ standardHeap) (h : nextBlock? limit groups block = some next) :
    chainBound limit next < chainBound limit block := by
  obtain ⟨larger, below, hnext⟩ := nextBlock?_eq_some h
  rw [standardHeap] at hl
  by_cases far : 2 * block / 1024 < limit
  · -- The block doubles. It stays below 36 digits, while the bound counts from 46 of them.
    rw [if_pos far] at hnext
    have some : block ≠ 0 := by omega
    have digits : block.log2 < 35 := (Nat.log2_lt some).mpr (by omega)
    rw [chainBound.eq_1 limit block, if_pos far]
    by_cases farther : 2 * next / 1024 < limit
    · rw [chainBound, if_pos farther, hnext, Nat.log2_two_mul some]
      omega
    · have := chainBound_le_of_near (Nat.not_lt.mp farther)
      omega
  · rw [if_neg far] at hnext
    rw [chainBound.eq_1 limit block, if_neg far, if_neg (Nat.not_le.mpr below)]
    have near : ¬2 * next / 1024 < limit := by omega
    rw [chainBound, if_neg near]
    by_cases whole : block % 1024 = 0
    · rw [if_pos whole] at hnext ⊢
      have full : limit ≤ next / 1024 := by omega
      rw [if_pos full]
      exact Nat.one_pos
    · -- The part that is left over doubles until it makes up a unit.
      rw [if_neg whole] at hnext ⊢
      have digits : (block % 1024).log2 < 10 := (Nat.log2_lt whole).mpr (by omega)
      by_cases full : limit ≤ next / 1024
      · rw [if_pos full]
        omega
      · have left : next % 1024 = 2 * (block % 1024) := by omega
        rw [if_neg full, left, if_neg (by omega), Nat.log2_two_mul whole]
        omega

theorem chainBound_lt_blockFuel (limit block : Nat) : chainBound limit block < blockFuel := by
  rw [chainBound, blockFuel]
  split
  · omega
  · split
    · omega
    · split <;> omega

/-- One block comes some time after another, or is the same. -/
def Follows (limit groups : Nat) : Nat → Nat → Prop :=
  Relation.ReflTransGen fun block next => nextBlock? limit groups block = some next

theorem Follows.le (h : Follows limit groups block next) : block ≤ next := by
  induction h with
  | refl => exact Nat.le_refl block
  | tail _ step ih => exact Nat.le_trans ih (Nat.le_of_lt (nextBlock?_eq_some step).1)

theorem Follows.lt (hb : block < 1024 * (limit + 1)) (h : Follows limit groups block next) :
    next < 1024 * (limit + 1) := by
  cases h with
  | refl => exact hb
  | tail _ step => exact lt_of_nextBlock? step

theorem follows_of_mem (h : next ∈ blocksFor limit groups depth fuel block) :
    Follows limit groups block next := by
  induction fuel generalizing block with
  | zero => cases h
  | succ fuel ih =>
    rw [blocksFor] at h
    split at h
    · cases h
    · cases step : nextBlock? limit groups block with
      | none =>
        rw [step] at h
        cases h
      | some replaced =>
        rw [step] at h
        cases h with
        | head => exact .single step
        | tail _ later => exact .head step (ih later)

/-! ## The greatest block -/

/-- The last block of the chain that starts with one. -/
def LastBlock (limit groups block last : Nat) : Prop :=
  Follows limit groups block last ∧ nextBlock? limit groups last = none

theorem LastBlock.of_step {last : Nat} (step : nextBlock? limit groups block = some next)
    (h : LastBlock limit groups block last) : LastBlock limit groups next last := by
  refine ⟨?_, h.2⟩
  rcases Relation.ReflTransGen.cases_head h.1 with rfl | ⟨replaced, step', rest⟩
  · cases step.symm.trans h.2
  · cases step.symm.trans step'
    exact rest

theorem LastBlock.of_follows {last : Nat} (between : Follows limit groups block next)
    (h : LastBlock limit groups block last) : LastBlock limit groups next last := by
  induction between with
  | refl => exact h
  | tail _ step ih => exact ih.of_step step

theorem LastBlock.unique {last last' : Nat} (h : LastBlock limit groups block last)
    (h' : LastBlock limit groups block last') : last' = last := by
  obtain ⟨follows, none⟩ := h'.of_follows h.1
  rcases Relation.ReflTransGen.cases_head follows with same | ⟨replaced, step, -⟩
  · exact same.symm
  · cases h.2.symm.trans step

/-- Entries so deep have no room in any block, and there is fuel for the whole chain. -/
theorem lastBlock_blocksFor (hl : limit ≤ standardHeap) (hb : block < 1024 * (limit + 1))
    (enough : chainBound limit block < fuel) :
    LastBlock limit groups block
      ((blocksFor limit groups 0x10000000000000000 fuel block).getLastD block) := by
  induction fuel generalizing block with
  | zero => exact absurd enough (Nat.not_lt_zero _)
  | succ fuel ih =>
    have small : roomOf groups block ≤ block - 1 := Nat.div_le_self ..
    have full : ¬0x10000000000000000 < roomOf groups block := by
      rw [standardHeap] at hl
      omega
    rw [blocksFor, if_neg full]
    cases step : nextBlock? limit groups block with
    | none => exact ⟨.refl, step⟩
    | some next =>
      have shorter : chainBound limit next < chainBound limit block := chainBound_lt hl step
      have enough : chainBound limit next < fuel := by omega
      have last : LastBlock limit groups next _ := ih (lt_of_nextBlock? step) enough
      dsimp only
      rw [List.getLastD_cons]
      exact ⟨.head step last.1, last.2⟩

/-- All blocks of a chain come to the same room. -/
theorem greatestRoom_of_follows (hl : limit ≤ standardHeap) (hb : block < 1024 * (limit + 1))
    (h : Follows limit groups block next) :
    greatestRoom limit groups next = greatestRoom limit groups block := by
  have first : LastBlock limit groups block _ :=
    lastBlock_blocksFor hl hb (chainBound_lt_blockFuel limit block)
  have later : LastBlock limit groups next _ :=
    lastBlock_blocksFor hl (h.lt hb) (chainBound_lt_blockFuel limit next)
  exact congrArg (roomOf groups) ((first.of_follows h).unique later)

/-! ## Searches in later blocks -/

/-- A block of the chain that starts with the first one of a program, if it has been made. -/
def Grown (p : Program) (block : Option Nat) : Prop :=
  ∀ size, block = some size →
    ∃ first, firstBlock? p.heapLimit p.groups = some first ∧ Follows p.heapLimit p.groups first size

theorem heapLimit_le (p : Program) : p.heapLimit ≤ standardHeap := by
  rw [Program.heapLimit]
  cases p.settings.heapLimit with
  | none => exact Nat.le_refl _
  | some asked => exact Nat.min_le_left ..

/-- What a search comes to does not depend on which block has been made before. -/
theorem search_grown (p : Program) (bytes : ByteArray) (start limit : Nat) {block : Option Nat}
    (h : Grown p block) : p.search bytes start limit (block.getD 0) = p.search bytes start limit 0 := by
  have room : ∀ first, firstBlock? p.heapLimit p.groups = some first →
      greatestRoom p.heapLimit p.groups (max first (block.getD 0)) =
        greatestRoom p.heapLimit p.groups (max first 0) := by
    intro first hfirst
    cases block with
    | none => rfl
    | some size =>
      obtain ⟨_, hfirst', follows⟩ := h size rfl
      cases hfirst.symm.trans hfirst'
      rw [Option.getD_some, Nat.max_eq_right follows.le, Nat.max_zero]
      exact greatestRoom_of_follows (heapLimit_le p) (lt_of_firstBlock? hfirst) follows
  simp only [Program.search]
  cases Subject.checked? p.settings p.lookback bytes start with
  | error fault => rfl
  | ok subject =>
    cases hfirst : firstBlock? p.heapLimit p.groups with
    | none => rfl
    | some first =>
      dsimp only
      rw [room first hfirst]

end BoundedRegex.Search
