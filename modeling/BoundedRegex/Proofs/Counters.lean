import BoundedRegex.Proofs.Tenancy

/-!
# Counters over a run

A tenant of the counting allocator asks for blocks and gives them back in any order. After each act the
counters say how many blocks it has, how many bytes it has asked for in these, and how many requests have
been served. No counter wraps: blocks with their headers lie apart in the addresses, and once as many
requests have been served as can be counted, every request is refused.
-/
namespace BoundedRegex.Memory.Tenancy
open Heap

variable {t : Tenancy}

theorem counting_run (ht : t.allocator = .counting) (acts : List Act) :
    (t.run acts).allocator = .counting :=
  (run_allocator acts t).trans ht

/-! ## One act -/

theorem counts_write (t : Tenancy) (n place : Nat) (bytes : List UInt8) :
    (t.act (.write n place bytes)).memory.counts = t.memory.counts := by
  simp only [act]
  split
  · split <;> rfl
  · rfl

/-- A request is served if the other allocator would serve it and the limit has not been reached. -/
theorem serves_eq (ht : t.allocator = .counting) (a : Act) :
    t.serves a = (t.servable a && decide (t.memory.counts.total < t.memory.counts.limit)) := by
  cases a with
  | allocate supply size =>
    simp only [serves, servable, request, ht, allocate_counting, takeCounted]
    have counts : (t.supplied fun _ => supply).counts = t.memory.counts := rfl
    rw [counts]
    by_cases hl : t.memory.counts.limit ≤ t.memory.counts.total
    · simp [hl]
    · rcases (t.supplied fun _ => supply).take size.toNat with ⟨_ | p, m⟩ <;> simp [hl, UInt64.not_le.mp hl]
  | _ => rfl

/-- What an act does to the number of requests served. -/
theorem total_act (ht : t.allocator = .counting) (a : Act) :
    (t.act a).memory.counts.total.toNat =
      t.memory.counts.total.toNat + (t.serves a).toNat := by
  cases a with
  | allocate supply size =>
    simp only [act_allocate, serves, request, ht, allocate_counting]
    rcases (t.supplied fun _ => supply).takeCounted_cases size.toNat with
      refused | ⟨p, m, served, unreached, -, total⟩
    · rw [refused]
      rfl
    · have one : (1 : UInt64).toNat = 1 := rfl
      have bound := (t.supplied fun _ => supply).counts.limit.toNat_lt
      have below := UInt64.lt_iff_toNat_lt.mp (UInt64.not_le.mp unreached)
      have counts : (t.supplied fun _ => supply).counts = t.memory.counts := rfl
      rw [served]
      simp only [next_counts, total, counts, UInt64.toNat_add, one, Option.isSome_some, Bool.toNat_true] at *
      omega
  | deallocate n =>
    simp only [act, ht, deallocate_total]
    rfl
  | write n place bytes => rw [counts_write]; rfl
  | setLimit limit => rfl

theorem total_run (ht : t.allocator = .counting) (acts : List Act) :
    (t.run acts).memory.counts.total.toNat =
      t.memory.counts.total.toNat + t.tally serves acts := by
  induction acts generalizing t with
  | nil => rfl
  | cons a rest ih =>
    have step := total_act ht a
    have counting : (t.act a).allocator = .counting := counting_run ht [a]
    have later := ih counting
    simp only [run, List.foldl_cons, tally] at later ⊢
    omega

/-- Where there is room next does not matter to the counters. -/
theorem counted_supplied {held : Multiset Block} (h : t.memory.Counted held) (supply : Nat → Supply) :
    (t.supplied supply).Counted held :=
  ⟨h.sound, h.blocks, h.inUse, h.bytes⟩

/-- The counters follow the blocks from one act to the next. -/
theorem counted_act (ht : t.allocator = .counting) (hh : Housed t.memory.heap t.blocks)
    (h : t.memory.Counted t.blocks) (a : Act) : (t.act a).memory.Counted (t.act a).blocks := by
  have housed : Housed (t.act a).memory.heap (t.act a).blocks := hh.moves (t.act_moves a)
  cases a with
  | allocate supply size =>
    have taken := (counted_supplied h fun _ => supply).allocate size.toNat
    simp only [act_allocate, request, ht]
    rcases hr : (t.supplied fun _ => supply).allocate .counting size.toNat with ⟨_ | p, m⟩ <;>
      rw [hr] at taken
    · exact taken
    · exact taken.1
  | deallocate n =>
    simp only [act, ht]
    cases hb : t.blocks[n]? with
    | none =>
      rw [List.eraseIdx_of_length_le (List.getElem?_eq_none_iff.mp hb)]
      exact h
    | some b =>
      rw [Multiset.coe_eq_coe.mpr (perm_eraseIdx hb), ← Multiset.cons_coe] at h
      exact h.giveCounted
  | write n place bytes =>
    have blocks : (t.act (.write n place bytes)).blocks = t.blocks := by
      simp only [act]
      split
      · split <;> rfl
      · rfl
    refine ⟨housed.sound, housed.blocks, ?_, ?_⟩
    · rw [counts_write, blocks, h.inUse]
    · rw [counts_write, blocks, h.bytes]
  | setLimit limit => exact h.setLimit limit

theorem counted_run (ht : t.allocator = .counting) (hh : Housed t.memory.heap t.blocks)
    (h : t.memory.Counted t.blocks) (acts : List Act) :
    (t.run acts).memory.Counted (t.run acts).blocks := by
  induction acts generalizing t with
  | nil => exact h
  | cons a rest ih =>
    have counting : (t.act a).allocator = .counting := counting_run ht [a]
    exact ih counting (hh.moves (t.act_moves a)) (counted_act ht hh h a)

theorem opened_counted (acts : List Act) :
    ((opened .counting).run acts).memory.Counted ((opened .counting).run acts).blocks :=
  counted_run rfl housed_empty ⟨empty_sound, rfl, rfl, rfl⟩ acts

/-! ## Runs -/

/-- What is said of the counters of a tenant after a run in which so many requests have been served. -/
structure Accurate (t : Tenancy) (served : Nat) : Prop where
  blocks : t.memory.counts.blocks.toNat = t.blocks.length
  bytes : t.memory.counts.bytes.toNat = (t.blocks.map Block.size).sum
  total : t.memory.counts.total.toNat = served
  /-- A request that is refused leaves all counters as they are, and so does giving back no block. -/
  refused : ∀ supply size, t.serves (.allocate supply size) = false →
    (t.act (.allocate supply size)).memory.counts = t.memory.counts
  nothing : ∀ n, t.blocks[n]? = none → (t.act (.deallocate n)).memory.counts = t.memory.counts
  /-- No counter wraps when a request is served. -/
  more : ∀ supply size, t.serves (.allocate supply size) = true →
    (t.act (.allocate supply size)).memory.counts.blocks.toNat = t.memory.counts.blocks.toNat + 1 ∧
      (t.act (.allocate supply size)).memory.counts.bytes.toNat =
        t.memory.counts.bytes.toNat + size.toNat ∧
      (t.act (.allocate supply size)).memory.counts.total.toNat = t.memory.counts.total.toNat + 1
  /-- No counter goes below zero when a block is given back. -/
  less : ∀ n b, t.blocks[n]? = some b →
    (t.act (.deallocate n)).memory.counts.blocks.toNat + 1 = t.memory.counts.blocks.toNat ∧
      (t.act (.deallocate n)).memory.counts.bytes.toNat + b.size = t.memory.counts.bytes.toNat ∧
      (t.act (.deallocate n)).memory.counts.total = t.memory.counts.total
  /-- Once as many requests have been served as can be counted, none is served any more. -/
  full : t.memory.counts.total = 0xFFFFFFFFFFFFFFFF →
    ∀ supply size, t.serves (.allocate supply size) = false
  /-- Whichever blocks are given back one after another, once none is left, none is counted. -/
  freed : ∀ numbers : List Nat, (t.run (numbers.map .deallocate)).blocks = [] →
    (t.run (numbers.map .deallocate)).memory.counts.blocks = 0 ∧
      (t.run (numbers.map .deallocate)).memory.counts.bytes = 0
  /-- All blocks can be given back. -/
  freeable : (t.run (List.replicate t.blocks.length (.deallocate 0))).blocks = []

theorem blocks_freed (t : Tenancy) :
    (t.run (List.replicate t.blocks.length (.deallocate 0))).blocks = [] := by
  rcases t with ⟨a, m, blocks⟩
  induction blocks generalizing m with
  | nil => rfl
  | cons b rest ih => exact ih _

theorem counts_refused (ht : t.allocator = .counting) {supply : Supply} {size : UInt64}
    (h : t.serves (.allocate supply size) = false) :
    (t.act (.allocate supply size)).memory.counts = t.memory.counts := by
  simp only [serves, act_allocate, request, ht, allocate_counting] at h ⊢
  rcases (t.supplied fun _ => supply).takeCounted_cases size.toNat with refused | ⟨p, m, served, -⟩
  · rw [refused]
    rfl
  · rw [served] at h
    cases h

theorem blocks_served {supply : Supply} {size : UInt64} (h : t.serves (.allocate supply size) = true) :
    ∃ p, (t.act (.allocate supply size)).blocks = ⟨p, size.toNat⟩ :: t.blocks := by
  obtain ⟨p, hp⟩ := Option.isSome_iff_exists.mp h
  refine ⟨p, ?_⟩
  rw [act_allocate, hp]
  rfl

theorem counts_full (ht : t.allocator = .counting) (h : t.memory.counts.total = 0xFFFFFFFFFFFFFFFF)
    (a : Act) : t.serves a = false := by
  have reached : ¬t.memory.counts.total < t.memory.counts.limit := by
    have bound := t.memory.counts.limit.toNat_lt
    have max : (0xFFFFFFFFFFFFFFFF : UInt64).toNat = 2 ^ 64 - 1 := rfl
    rw [h, UInt64.lt_iff_toNat_lt, max]
    omega
  rw [serves_eq ht, decide_eq_false reached, Bool.and_false]

theorem accurate_of_counted (ht : t.allocator = .counting) (hh : Housed t.memory.heap t.blocks)
    (h : t.memory.Counted t.blocks) {served : Nat} (total : t.memory.counts.total.toNat = served) :
    t.Accurate served := by
  have next (a : Act) : (t.act a).memory.Counted (t.act a).blocks := counted_act ht hh h a
  have inUse : t.memory.counts.blocks.toNat = t.blocks.length := h.toNat_blocks
  have bytes : t.memory.counts.bytes.toNat = (t.blocks.map Block.size).sum := h.toNat_bytes
  have inUse' (a : Act) : (t.act a).memory.counts.blocks.toNat = (t.act a).blocks.length :=
    (next a).toNat_blocks
  have bytes' (a : Act) :
      (t.act a).memory.counts.bytes.toNat = ((t.act a).blocks.map Block.size).sum :=
    (next a).toNat_bytes
  constructor
  case blocks => exact inUse
  case bytes => exact bytes
  case total => exact total
  case refused => exact fun supply size hs => counts_refused ht hs
  case nothing =>
    intro n hn
    simp only [act, hn]
    cases t.allocator <;> rfl
  case more =>
    intro supply size hs
    obtain ⟨p, after⟩ := blocks_served hs
    refine ⟨?_, ?_, ?_⟩
    · rw [inUse', inUse, after, List.length_cons]
    · rw [bytes', bytes, after, List.map_cons, List.sum_cons, Nat.add_comm]
    · rw [total_act ht, hs, Bool.toNat_true]
  case less =>
    intro n b hb
    have after : (t.act (.deallocate n)).blocks = t.blocks.eraseIdx n := rfl
    have split : t.blocks.Perm (b :: t.blocks.eraseIdx n) := perm_eraseIdx hb
    refine ⟨?_, ?_, ?_⟩
    · rw [inUse', inUse, after, split.length_eq, List.length_cons]
    · rw [bytes', bytes, after, (split.map Block.size).sum_eq, List.map_cons, List.sum_cons,
        Nat.add_comm]
    · simp only [act, ht, deallocate_total]
  case full => exact fun hfull supply size => counts_full ht hfull _
  case freed =>
    intro numbers none
    have after := counted_run ht hh h (numbers.map .deallocate)
    rw [none] at after
    exact ⟨UInt64.toNat.inj after.toNat_blocks, UInt64.toNat.inj after.toNat_bytes⟩
  case freeable => exact blocks_freed t

/-- In every run over the counting allocator, the counters say what the tenant has and has been served. -/
theorem run_accurate (acts : List Act) :
    ((opened .counting).run acts).Accurate ((opened .counting).tally serves acts) := by
  have total := total_run (t := opened .counting) rfl acts
  apply accurate_of_counted
  · exact counting_run rfl acts
  · exact housed_run housed_empty acts
  · exact opened_counted acts
  · exact total.trans (Nat.zero_add _)

end BoundedRegex.Memory.Tenancy
