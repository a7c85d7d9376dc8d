import BoundedRegex.Proofs.Counters

/-!
# The budget of the counting allocator

As long as its limit stays the same, the counting allocator serves the first requests that the other
allocator would serve, as many as the limit exceeds the number of requests served before. What is given
back adds nothing to this budget, and what could not be served takes nothing from it. Once it is used up,
every request is refused.
-/
namespace BoundedRegex.Memory.Tenancy

variable {t : Tenancy}

/-- How many more requests may be served. -/
def budget (t : Tenancy) : Nat := t.memory.counts.limit.toNat - t.memory.counts.total.toNat

theorem budget_eq_zero : t.budget = 0 ↔ t.memory.counts.limit ≤ t.memory.counts.total := by
  rw [budget, Nat.sub_eq_zero_iff_le, UInt64.le_iff_toNat_le]

/-- The limit stays the same. -/
def Steady (acts : List Act) : Prop := ∀ a ∈ acts, a.setsLimit = false

/-! ## One act -/

theorem limit_act (ht : t.allocator = .counting) {a : Act} (ha : a.setsLimit = false) :
    (t.act a).memory.counts.limit = t.memory.counts.limit := by
  cases a with
  | allocate supply size =>
    simp only [act_allocate, request, ht, allocate_counting]
    rcases (t.supplied fun _ => supply).takeCounted_cases size.toNat with
      refused | ⟨p, m, served, -, limit, -⟩
    · rw [refused]
      rfl
    · rw [served]
      exact limit
  | deallocate n => simp only [act, ht, deallocate_limit]
  | write n place bytes => rw [counts_write]
  | setLimit limit => cases ha

theorem serves_eq_budget (ht : t.allocator = .counting) (a : Act) :
    t.serves a = (t.servable a && decide (0 < t.budget)) := by
  rw [serves_eq ht a]
  congr 1
  rw [decide_eq_decide, UInt64.lt_iff_toNat_lt, budget, Nat.sub_pos_iff_lt]

/-- Nothing but a request that could be served takes from the budget, and nothing adds to it. -/
theorem budget_act (ht : t.allocator = .counting) {a : Act} (ha : a.setsLimit = false) :
    (t.act a).budget = t.budget - (t.servable a).toNat := by
  have total := total_act ht a
  rw [serves_eq_budget ht a] at total
  rw [budget, limit_act ht ha, total]
  by_cases room : 0 < t.budget
  · rw [decide_eq_true room, Bool.and_true, budget, Nat.sub_sub]
  · -- Nothing is served any more, and nothing is left to take from.
    have none : t.budget = 0 := Nat.eq_zero_of_not_pos room
    rw [decide_eq_false room, Bool.and_false, Bool.toNat_false, Nat.add_zero, ← budget, none,
      Nat.zero_sub]

/-! ## Runs -/

theorem budget_run (ht : t.allocator = .counting) {acts : List Act} (steady : Steady acts) :
    (t.run acts).budget = t.budget - t.tally servable acts := by
  induction acts generalizing t with
  | nil => rfl
  | cons a rest ih =>
    obtain ⟨ha, hrest⟩ := List.forall_mem_cons.mp steady
    have later := ih (counting_run ht [a]) hrest
    calc (t.run (a :: rest)).budget
        = (t.act a).budget - (t.act a).tally servable rest := later
      _ = t.budget - (t.servable a).toNat - (t.act a).tally servable rest := by rw [budget_act ht ha]
      _ = t.budget - t.tally servable (a :: rest) := Nat.sub_sub ..

/-- As many requests are served as could be, up to the budget. -/
theorem tally_serves (ht : t.allocator = .counting) {acts : List Act} (steady : Steady acts) :
    t.tally serves acts = min (t.tally servable acts) t.budget := by
  induction acts generalizing t with
  | nil => exact (Nat.zero_min _).symm
  | cons a rest ih =>
    obtain ⟨ha, hrest⟩ := List.forall_mem_cons.mp steady
    have later : (t.act a).tally serves rest =
        min ((t.act a).tally servable rest) (t.act a).budget := ih (counting_run ht [a]) hrest
    rw [budget_act ht ha] at later
    simp only [tally, later, serves_eq_budget ht a]
    -- As long as something is left, a request that could be served takes one from both sides.
    by_cases room : 0 < t.budget
    · rw [decide_eq_true room, Bool.and_true]
      cases t.servable a <;> simp only [Bool.toNat_true, Bool.toNat_false] <;> omega
    · rw [decide_eq_false room, Bool.and_false, Bool.toNat_false]
      omega

theorem servable_large (t : Tenancy) (supply : Supply) {size : UInt64}
    (large : greatestRegion < size.toNat + header) : t.servable (.allocate supply size) = false := by
  simp only [servable, take_eq, large, or_true, if_true, Option.isSome_none]

/-- What is said of a tenant with a limit on all requests, of which some have been served before, for as
long as the limit stays the same. -/
structure Budgeted (t : Tenancy) (before limit : Nat) : Prop where
  /-- The requests that are served are the first ones that could be. -/
  first : ∀ acts, Steady acts → ∀ supply size,
    (t.run acts).serves (.allocate supply size) =
      ((t.run acts).servable (.allocate supply size) &&
        decide (t.tally servable acts < limit - before))
  served : ∀ acts, Steady acts → t.tally serves acts = min (t.tally servable acts) (limit - before)
  /-- What is given back does not add to the budget. -/
  returned : ∀ acts, Steady acts → ∀ n,
    ((t.run acts).act (.deallocate n)).budget = (t.run acts).budget
  /-- What the other allocator would refuse as well does not take from the budget. -/
  refused : ∀ acts, Steady acts → ∀ supply size,
    (t.run acts).servable (.allocate supply size) = false →
      ((t.run acts).act (.allocate supply size)).budget = (t.run acts).budget
  large : ∀ acts, Steady acts → ∀ supply size, greatestRegion < size.toNat + header →
    (t.run acts).serves (.allocate supply size) = false ∧
      ((t.run acts).act (.allocate supply size)).budget = (t.run acts).budget
  /-- If a request is refused that could be served, then because of the limit. -/
  reached : ∀ acts, Steady acts → ∀ supply size,
    (t.run acts).servable (.allocate supply size) = true →
      (t.run acts).serves (.allocate supply size) = false →
        (t.run acts).memory.counts.limit ≤ (t.run acts).memory.counts.total
  /-- Once the limit has been reached, all requests are refused. -/
  closed : ∀ acts later, Steady (acts ++ later) →
    (t.run acts).memory.counts.limit ≤ (t.run acts).memory.counts.total →
      ∀ supply size, (t.run (acts ++ later)).serves (.allocate supply size) = false
  /-- Before that, all are served that could be. -/
  unreached : ∀ acts, Steady acts → before + t.tally serves acts < limit → ∀ supply size,
    (t.run acts).serves (.allocate supply size) = (t.run acts).servable (.allocate supply size)

theorem budgeted_of_budget (ht : t.allocator = .counting) {before limit : Nat}
    (left : t.budget = limit - before) : t.Budgeted before limit := by
  have serves_run (acts : List Act) (steady : Steady acts) (a : Act) :
      (t.run acts).serves a =
        ((t.run acts).servable a && decide (t.tally servable acts < limit - before)) := by
    rw [serves_eq_budget (counting_run ht acts), budget_run ht steady, left]
    simp only [Nat.sub_pos_iff_lt]
  have same (acts : List Act) {a : Act} (ha : a.setsLimit = false)
      (none : (t.run acts).servable a = false) : ((t.run acts).act a).budget = (t.run acts).budget := by
    rw [budget_act (counting_run ht acts) ha, none, Bool.toNat_false, Nat.sub_zero]
  constructor
  case first => exact fun acts steady supply size => serves_run acts steady _
  case served =>
    intro acts steady
    rw [tally_serves ht steady, left]
  case returned => exact fun acts _ n => same acts rfl rfl
  case refused => exact fun acts _ supply size none => same acts rfl none
  case large =>
    intro acts steady supply size large
    have none := servable_large (t.run acts) supply large
    refine ⟨?_, same acts rfl none⟩
    rw [serves_run acts steady, none, Bool.false_and]
  case reached =>
    intro acts steady supply size could refused
    have exhausted := serves_eq_budget (counting_run ht acts) (.allocate supply size)
    rw [could, refused, Bool.true_and] at exhausted
    apply budget_eq_zero.mp
    exact Nat.eq_zero_of_not_pos (of_decide_eq_false exhausted.symm)
  case closed =>
    intro acts later steady exhausted supply size
    obtain ⟨-, after⟩ := List.forall_mem_append.mp steady
    have counting := counting_run ht acts
    have none : ((t.run acts).run later).budget = 0 := by
      rw [budget_run counting after, budget_eq_zero.mpr exhausted, Nat.zero_sub]
    rw [run_append, serves_eq_budget (counting_run counting later), none]
    exact Bool.and_false _
  case unreached =>
    intro acts steady fewer supply size
    rw [tally_serves ht steady, left] at fewer
    have room : t.tally servable acts < limit - before := by omega
    rw [serves_run acts steady, decide_eq_true room, Bool.and_true]

/-- Whatever a tenant of the counting allocator has done, a limit that is set then serves the first
requests that come, as many as it exceeds the number of those served before. Without a limit, as many may
be served as can be counted. -/
theorem run_budgeted (past : List Act) (limit : Option UInt64) :
    (((opened .counting).run past).act (.setLimit limit)).Budgeted
      ((opened .counting).tally serves past) (limit.getD 0xFFFFFFFFFFFFFFFF).toNat := by
  have total := total_run (t := opened .counting) rfl past
  have fresh : (opened .counting).memory.counts.total.toNat = 0 := rfl
  rw [fresh, Nat.zero_add] at total
  apply budgeted_of_budget
  · exact counting_run rfl past
  · rw [← total]
    rfl

/-- There is no limit before one is set. -/
example : (opened .counting).act (.setLimit none) = opened .counting := rfl

end BoundedRegex.Memory.Tenancy
