import Mathlib.Algebra.BigOperators.Group.List.Basic
import BoundedRegex.Proofs.Account
import BoundedRegex.Workshop

/-!
# Accounts of workshops

Each slot of a workshop holds what its matcher and its engine hold. If every maker keeps an account of
the same things, then all that is out in a workshop is what its slots hold, after any run of orders.
An order touches only what its own slot holds, so nothing is lost between slots, and nothing is left
once all of them are gone.
-/
namespace BoundedRegex

variable {ι σ ρ α : Type}

/-! ## Slots and their names -/

section
variable {name : String}

/-- A list with distinct keys, taken apart at one of them. -/
theorem sum_lookup (f : α → Multiset ρ) {l : List (String × α)} (hn : (l.map Prod.fst).Nodup)
    {a : α} (h : l.lookup name = some a) :
    (l.map fun e => f e.2).sum = f a + ((l.filter (·.1 != name)).map fun e => f e.2).sum := by
  induction l with
  | nil => cases h
  | cons e rest ih =>
    obtain ⟨key, b⟩ := e
    rw [List.map_cons, List.nodup_cons] at hn
    by_cases hk : name = key
    · subst hk
      have hrest : rest.filter (·.1 != name) = rest := by
        rw [List.filter_eq_self]
        intro x hx
        simp only [bne_iff_ne, ne_eq]
        rintro rfl
        exact hn.1 (List.mem_map.mpr ⟨x, hx, rfl⟩)
      simp only [List.lookup_cons, beq_self_eq_true, Option.some.injEq] at h
      simp only [h, List.map_cons, List.sum_cons, bne_self_eq_false, Bool.false_eq_true,
        not_false_eq_true, List.filter_cons_of_neg, hrest]
    · have hkey : (name == key) = false := beq_eq_false_iff_ne.mpr hk
      simp only [List.lookup_cons, hkey] at h
      have hkeep : (key != name) = true := bne_iff_ne.mpr (Ne.symm hk)
      simp only [List.map_cons, List.sum_cons, hkeep, List.filter_cons_of_pos, ih hn.2 h]
      exact add_left_comm _ _ _

theorem filter_of_lookup_none {l : List (String × α)} (h : l.lookup name = none) :
    l.filter (·.1 != name) = l := by
  rw [List.filter_eq_self]
  intro e he
  have := List.lookup_eq_none_iff.mp h e he
  simpa [bne, BEq.comm] using this

theorem lookup_filter {other : String} (h : name ≠ other) (l : List (String × α)) :
    (l.filter (·.1 != other)).lookup name = l.lookup name := by
  induction l with
  | nil => rfl
  | cons e rest ih =>
    obtain ⟨key, a⟩ := e
    by_cases hk : key = other
    · subst hk
      have hkey : (name == key) = false := beq_eq_false_iff_ne.mpr h
      simp only [bne_self_eq_false, Bool.false_eq_true, not_false_eq_true, List.filter_cons_of_neg,
        List.lookup_cons, hkey, ih]
    · have hkeep : (key != other) = true := bne_iff_ne.mpr hk
      simp only [hkeep, List.filter_cons_of_pos, List.lookup_cons, ih]

theorem nodup_filter {l : List (String × α)} (hn : (l.map Prod.fst).Nodup) :
    ((l.filter (·.1 != name)).map Prod.fst).Nodup :=
  hn.sublist (List.filter_sublist.map Prod.fst)

theorem nodup_put {l : List (String × α)} (hn : (l.map Prod.fst).Nodup) (a : α) :
    (((name, a) :: l.filter (·.1 != name)).map Prod.fst).Nodup := by
  rw [List.map_cons, List.nodup_cons]
  refine ⟨?_, nodup_filter hn⟩
  simp

end

namespace Workshop

variable {M : ι → Maker σ} {Out : σ → Multiset ρ → Prop}

def bench (w : Workshop M) (slot : Slot M) : Bench (M slot.kind).engine :=
  { slot.client with state := w.state, log := w.log }

theorem work_eq (w : Workshop M) (slot : Slot M) (job : Work (M slot.kind).engine α) :
    w.work slot job =
      ((job.run (w.bench slot)).1, { slot with client := (job.run (w.bench slot)).2.toClient },
        { w with state := (job.run (w.bench slot)).2.state
                 log := (job.run (w.bench slot)).2.log }) := rfl

theorem discard_eq (w : Workshop M) (slot : Slot M) :
    w.discard slot =
      { w with state := (M slot.kind).unmake slot.own (w.bench slot).cleared.state } := by
  simp only [discard, work_eq, Bench.run_clear, Bench.cleared_log]
  rfl

@[simp] theorem discard_slots (w : Workshop M) (slot : Slot M) :
    (w.discard slot).slots = w.slots := rfl

theorem drop_some {w : Workshop M} {name : String} {slot : Slot M} (h : w.slot? name = some slot) :
    w.drop name = (w.without name).discard slot := by
  simp only [drop, h]

theorem drop_none {w : Workshop M} {name : String} (h : w.slot? name = none) : w.drop name = w := by
  simp only [drop, h]

theorem drop_slots (w : Workshop M) (name : String) :
    (w.drop name).slots = w.slots.filter (·.1 != name) := by
  cases h : w.slot? name with
  | none => rw [drop_none h, filter_of_lookup_none h]
  | some slot => rw [drop_some h, discard_slots, without]

theorem slot?_drop_self (w : Workshop M) (name : String) : (w.drop name).slot? name = none := by
  rw [slot?, drop_slots, List.lookup_eq_none_iff]
  intro e he
  have := (List.mem_filter.mp he).2
  simpa [bne, BEq.comm] using this

theorem slot?_drop (w : Workshop M) {name other : String} (h : name ≠ other) :
    (w.drop other).slot? name = w.slot? name := by
  rw [slot?, drop_slots, lookup_filter h, slot?]

theorem slot?_put (w : Workshop M) (name : String) (slot : Slot M) :
    (w.put name slot).slot? name = some slot := by
  simp only [slot?, put, List.lookup_cons, beq_self_eq_true]

theorem slot?_put_ne (w : Workshop M) {name other : String} (h : name ≠ other) (slot : Slot M) :
    (w.put other slot).slot? name = w.slot? name := by
  have hkey : (name == other) = false := beq_eq_false_iff_ne.mpr h
  simp only [slot?, put, List.lookup_cons, hkey, lookup_filter h]

def choice (w : Workshop M) (builder : Option String) (limit : Option UInt32) : MatcherBuilder :=
  match builder with
  | some b => w.builderOf b
  | none => ⟨limit⟩

theorem answer_build (w : Workshop M) (name : String) (kind : ι) (builder : Option String)
    (limit : Option UInt32) :
    w.answer (.build name kind builder limit) =
      (w.drop name).build name kind (w.choice builder limit) := rfl

theorem build_ok {w : Workshop M} {kind : ι} {own : (M kind).Own} {s : σ}
    (h : (M kind).make w.state = (.ok own, s)) (name : String) (b : MatcherBuilder) :
    w.build name kind b =
      (.ok .done,
        put { w with state := s } name ⟨kind, own, { matcher := b.build w.defaultLimit _ }⟩) := by
  simp only [build, h]

theorem build_error {w : Workshop M} {kind : ι} {a : Abort} {s : σ}
    (h : (M kind).make w.state = (.error a, s)) (name : String) (b : MatcherBuilder) :
    w.build name kind b = (.error a, { w with state := s }) := by
  simp only [build, h]

def opened (s : σ) (log : Log) (limit : UInt32) (builders : List (String × MatcherBuilder)) :
    Workshop M :=
  { state := s, log := log, defaultLimit := limit, builders := builders }

/-- Carries out orders, one after another. -/
def run (orders : List (Order ι)) (w : Workshop M) : Workshop M :=
  orders.foldl (fun w order => (w.answer order).2) w

end Workshop

/-! ## Slots that stay -/

def Order.replaces (name : String) : Order ι → Bool
  | .build other _ _ _ => other == name
  | .drop other => other == name
  | _ => false

namespace Workshop

variable {M : ι → Maker σ} {w : Workshop M} {name : String} {slot : Slot M}

/-- A matcher keeps its engine until it is dropped or another one is built in its place. -/
theorem answer_slot (h : w.slot? name = some slot) (order : Order ι)
    (hr : order.replaces name = false) :
    ∃ client, (w.answer order).2.slot? name = some { slot with client := client } := by
  cases order with
  | getDefault => exact ⟨slot.client, h⟩
  | setDefault limit => exact ⟨slot.client, h⟩
  | builder other limits spreadOut => exact ⟨slot.client, h⟩
  | cloneBuilder other target => exact ⟨slot.client, h⟩
  | build other kind builder limit =>
    have hne : name ≠ other := (beq_eq_false_iff_ne.mp hr).symm
    refine ⟨slot.client, ?_⟩
    rw [answer_build]
    rcases hm : (M kind).make (w.drop other).state with ⟨a | own, s⟩
    · rw [build_error hm]
      exact (slot?_drop w hne).trans h
    · rw [build_ok hm]
      exact (slot?_put_ne _ hne _).trans ((slot?_drop w hne).trans h)
  | drop other =>
    have hne : name ≠ other := (beq_eq_false_iff_ne.mp hr).symm
    exact ⟨slot.client, (slot?_drop w hne).trans h⟩
  | perform other operation =>
    by_cases hne : name = other
    · subst hne
      simp only [answer, h, work_eq]
      exact ⟨_, slot?_put _ _ _⟩
    · refine ⟨slot.client, ?_⟩
      simp only [answer]
      cases w.slot? other with
      | none => exact h
      | some _ => exact (slot?_put_ne _ hne _).trans h

theorem build_aborted {kind : ι} {builder : Option String} {limit : Option UInt32} {a : Abort}
    (h : (w.answer (.build name kind builder limit)).1 = .error a) :
    (w.answer (.build name kind builder limit)).2.slots = (w.drop name).slots := by
  rw [answer_build] at h ⊢
  rcases hm : (M kind).make (w.drop name).state with ⟨_ | own, s⟩
  · rw [build_error hm]
  · rw [build_ok hm] at h
    cases h

/-- A matcher has just been built without a pattern. -/
theorem build_unprepared {kind : ι} {builder : Option String} {limit : Option UInt32}
    (h : (w.answer (.build name kind builder limit)).2.slot? name = some slot) :
    slot.client.matcher.prepared = none := by
  rw [answer_build] at h
  rcases hm : (M kind).make (w.drop name).state with ⟨_ | own, s⟩
  · rw [build_error hm] at h
    cases (slot?_drop_self w name).symm.trans h
  · rw [build_ok hm, slot?_put] at h
    cases h
    rfl

theorem perform_slot {o : Operation}
    (h : (w.answer (.perform name o)).2.slot? name = some slot) :
    ∃ before : Slot M, w.slot? name = some before ∧
      slot = (w.work before (Bench.perform o)).2.1 ∧
      (w.answer (.perform name o)).1 = (w.work before (Bench.perform o)).1 := by
  simp only [answer] at h ⊢
  cases hs : w.slot? name with
  | none =>
    simp only [hs] at h
    cases h
  | some before =>
    simp only [hs, slot?_put] at h
    cases h
    exact ⟨before, rfl, rfl, rfl⟩

theorem prepare_refused {pattern : String} {flags : Flags} {e : PrepareError}
    (hr : (w.answer (.perform name (.prepare pattern flags))).1 = .ok (.prepared (.error e)))
    (hs : (w.answer (.perform name (.prepare pattern flags))).2.slot? name = some slot) :
    slot.client.matcher.prepared = none := by
  obtain ⟨before, -, rfl, reply⟩ := perform_slot hs
  rw [reply, work_eq] at hr
  simp only [work_eq, Bench.perform, Bench.run_reply] at hr ⊢
  apply Bench.prepared_of_refused (e := e)
  rcases hp : ((Bench.prepare pattern flags : Work _ _).run (w.bench before)).1 with _ | result
  · rw [hp] at hr
    cases hr
  · rw [hp] at hr
    cases hr
    rfl

/-- A matcher that has been cleared is unprepared. -/
theorem clear_unprepared (hs : (w.answer (.perform name .clear)).2.slot? name = some slot) :
    slot.client.matcher.prepared = none := by
  obtain ⟨before, -, rfl, -⟩ := perform_slot hs
  simp only [work_eq, Bench.perform, Bench.run_reply, Bench.run_clear]
  exact Bench.cleared_prepared _

theorem run_slot (h : w.slot? name = some slot) (orders : List (Order ι))
    (hr : ∀ order ∈ orders, order.replaces name = false) :
    ∃ client, (w.run orders).slot? name = some { slot with client := client } := by
  induction orders generalizing w slot with
  | nil => exact ⟨slot.client, h⟩
  | cons order rest ih =>
    obtain ⟨hfirst, hrest⟩ := List.forall_mem_cons.mp hr
    obtain ⟨client, hc⟩ := answer_slot h order hfirst
    obtain ⟨last, hl⟩ := ih hc hrest
    exact ⟨last, hl⟩

end Workshop

/-! ## What is out -/

section
variable {M : ι → Maker σ} {Out : σ → Multiset ρ → Prop} (A : ∀ i, (M i).Account Out)

/-- What a slot holds: what its engine holds, and what its matcher holds. -/
def Slot.held (slot : Slot M) : Multiset ρ :=
  (A slot.kind).own slot.own + (A slot.kind).held slot.client.matcher

def Workshop.held (w : Workshop M) : Multiset ρ := (w.slots.map fun e => e.2.held A).sum

/-- The slots have different names, and what is out is what they hold. -/
structure Workshop.Sound (w : Workshop M) : Prop where
  names : (w.slots.map Prod.fst).Nodup
  out : Out w.state (w.held A)

variable {A} {w : Workshop M} {name : String} {slot : Slot M}

namespace Workshop

theorem held_without (hn : (w.slots.map Prod.fst).Nodup) (h : w.slot? name = some slot) :
    w.held A = slot.held A + (w.without name).held A :=
  sum_lookup (Slot.held A) hn h

theorem held_put (w : Workshop M) (name : String) (slot : Slot M) :
    (w.put name slot).held A = slot.held A + (w.without name).held A := by
  simp only [held, put, without, List.map_cons, List.sum_cons]

theorem opened_sound {s : σ} (hs : Out s 0) (log : Log) (limit : UInt32)
    (builders : List (String × MatcherBuilder)) : (opened s log limit builders).Sound A :=
  ⟨List.nodup_nil, hs⟩

namespace Sound

/-- On its bench, a matcher fits its account; the rest is held by its engine and other slots. -/
theorem fits (h : w.Sound A) (hs : w.slot? name = some slot) :
    (A slot.kind).Fits ((A slot.kind).own slot.own + (w.without name).held A) (w.bench slot) := by
  have out := h.out
  rw [held_without h.names hs, Slot.held, add_assoc, add_left_comm] at out
  exact out

theorem drop (h : w.Sound A) (name : String) : (w.drop name).Sound A := by
  cases hs : w.slot? name with
  | none => rwa [drop_none hs]
  | some slot =>
    have out := (h.fits hs).out_cleared
    rw [drop_some hs]
    rw [discard_eq]
    exact ⟨nodup_filter h.names, (A slot.kind).unmake _ out⟩

/-- Where building is aborted, only what was out before is out. -/
theorem build (h : w.Sound A) (hfree : w.slot? name = none) (kind : ι) (b : MatcherBuilder) :
    (w.build name kind b).2.Sound A := by
  have made := (A kind).make h.out
  rcases hm : (M kind).make w.state with ⟨a | own, s⟩ <;> simp only [hm] at made
  · rw [build_error hm]
    exact ⟨h.names, made⟩
  · rw [build_ok hm]
    refine ⟨nodup_put h.names _, ?_⟩
    rw [held_put, Slot.held, Engine.Account.held_none _ rfl, add_zero]
    have hsame : ({ w with state := s }.without name : Workshop M).held A = w.held A := by
      simp only [held, without, filter_of_lookup_none hfree]
    rw [hsame]
    exact made

theorem perform (h : w.Sound A) (hs : w.slot? name = some slot) (o : Operation) :
    ((w.work slot (Bench.perform o)).2.2.put name (w.work slot (Bench.perform o)).2.1).Sound A := by
  have fits := ((A slot.kind).kept _).perform o _ (h.fits hs)
  refine ⟨nodup_put h.names _, ?_⟩
  rw [held_put, Slot.held, add_assoc, add_left_comm]
  exact fits

/-- An order keeps the account. -/
theorem answer (h : w.Sound A) (order : Order ι) : (w.answer order).2.Sound A := by
  cases order with
  | getDefault => exact h
  | setDefault limit => exact ⟨h.names, h.out⟩
  | builder name limits spreadOut => exact ⟨h.names, h.out⟩
  | cloneBuilder name target => exact ⟨h.names, h.out⟩
  | build name kind builder limit =>
    exact (h.drop name).build (slot?_drop_self w name) kind _
  | drop name => exact h.drop name
  | perform name operation =>
    simp only [Workshop.answer]
    cases hs : w.slot? name with
    | none => exact h
    | some slot => exact h.perform hs operation

/-- Any run keeps the account. -/
theorem run (h : w.Sound A) (orders : List (Order ι)) : (w.run orders).Sound A := by
  induction orders generalizing w with
  | nil => exact h
  | cons order rest ih => exact ih (h.answer order)

end Sound

theorem foldl_drop_slots (l : List (String × Slot M)) (w : Workshop M) :
    (l.foldl (fun w e => w.drop e.1) w).slots =
      w.slots.filter fun e => l.all fun d => e.1 != d.1 := by
  induction l generalizing w with
  | nil => simp
  | cons d rest ih =>
    rw [List.foldl_cons, ih, drop_slots, List.filter_filter]
    congr 1
    funext e
    rw [List.all_cons, Bool.and_comm]

theorem close_slots (w : Workshop M) : w.close.slots = [] := by
  rw [close, foldl_drop_slots, List.filter_eq_nil_iff]
  intro e he hall
  have := List.all_eq_true.mp hall e he
  simp at this

theorem Sound.close (h : w.Sound A) : w.close.Sound A := by
  have fold (l : List (String × Slot M)) {w : Workshop M} (h : w.Sound A) :
      (l.foldl (fun w e => w.drop e.1) w).Sound A := by
    induction l generalizing w with
    | nil => exact h
    | cons d rest ih => exact ih (h.drop d.1)
  exact fold w.slots h

end Workshop

end

end BoundedRegex
