import BoundedRegex.Proofs.Isolation
import BoundedRegex.Proofs.Recorded

/-!
# Where depth limits come from

The limit of a matcher is settled when it is built, by what has been ordered until then: by what its
builder has last been given, directly or through a copy that it was cloned from, or else by the default
that was set last. The orders of the past are listed with the latest first, so that the orders before any
one of them are those that follow it.

From then on, nothing changes the limit until the matcher is dropped, and each of its searches has exactly
this limit. The record of the engines tells which limits they have been given.
-/
namespace BoundedRegex

variable {ι σ : Type}

/-! ## What has been ordered -/

/-- The default limit that is in force after some orders. -/
def inForce : List (Order ι) → UInt32
  | [] => standardDepthLimit
  | .setDefault limit :: _ => limit
  | _ :: past => inForce past

/-- The limit that the builder of a name has been given, if any. What a clone inherits is what the other
builder had been given before it was cloned. -/
def givenTo (name : String) : List (Order ι) → Option UInt32
  | [] => none
  | .builder other limits _ :: past =>
    if other = name then limits.getLast?.or (givenTo name past) else givenTo name past
  | .cloneBuilder source target :: past =>
    if target = name then givenTo source past else givenTo name past
  | _ :: past => givenTo name past

/-- The limit that a matcher is due if it is built by a builder, or else with a limit of its own. -/
def due (past : List (Order ι)) (builder : Option String) (limit : Option UInt32) : UInt32 :=
  (match builder with
    | some name => givenTo name past
    | none => limit).getD (inForce past)

/-- A clone keeps what it has inherited, whatever its source is given later. -/
example :
    let past : List (Order Unit) :=
      [.setDefault 3, .builder "a" [5, 6] false, .cloneBuilder "a" "c", .cloneBuilder "b" "d",
        .builder "a" [4] false, .setDefault 7]
    due past (some "a") none = 6 ∧ due past (some "c") none = 4 ∧ due past (some "d") none = 3 ∧
      due past.tail (some "d") none = 7 := by
  decide

theorem MatcherBuilder.foldl_withLimit (limits : List UInt32) (b : MatcherBuilder) :
    (limits.foldl withLimit b).depthLimit = limits.getLast?.or b.depthLimit := by
  induction limits generalizing b with
  | nil => rfl
  | cons limit rest ih =>
    rw [List.foldl_cons, ih, List.getLast?_cons, withLimit]
    cases rest.getLast? <;> rfl

namespace Workshop

section
variable {M : ι → Maker σ} {w : Workshop M} {past : List (Order ι)}

theorem builderOf_putBuilder (w : Workshop M) (name other : String) (b : MatcherBuilder) :
    (w.putBuilder name b).builderOf other = if name = other then b else w.builderOf other := by
  rw [builderOf, putBuilder, List.lookup_cons]
  by_cases h : name = other
  · subst h
    simp only [beq_self_eq_true, Option.getD_some, if_true]
  · have hkey : (other == name) = false := beq_eq_false_iff_ne.mpr (Ne.symm h)
    simp only [hkey, lookup_filter (Ne.symm h), if_neg h, builderOf]

theorem drop_builders (w : Workshop M) (name : String) : (w.drop name).builders = w.builders := by
  cases h : w.slot? name with
  | none => rw [drop_none h]
  | some slot =>
    rw [drop_some h, discard_eq]
    rfl

/-- A workshop has the default limit and the builders that it has been ordered to have. -/
structure Remembers (past : List (Order ι)) (w : Workshop M) : Prop where
  defaultLimit : w.defaultLimit = inForce past
  builders : ∀ name, (w.builderOf name).depthLimit = givenTo name past

theorem opened_remembers (s : σ) (log : Log) :
    (opened s log standardDepthLimit [] : Workshop M).Remembers [] :=
  ⟨rfl, fun _ => rfl⟩

namespace Remembers

theorem of_eq (h : w.Remembers past) {v : Workshop M} (hlimit : v.defaultLimit = w.defaultLimit)
    (hbuilders : v.builders = w.builders) : v.Remembers past := by
  refine ⟨hlimit.trans h.defaultLimit, fun name => ?_⟩
  rw [builderOf, hbuilders]
  exact h.builders name

theorem answer (h : w.Remembers past) (order : Order ι) :
    (w.answer order).2.Remembers (order :: past) := by
  cases order with
  | getDefault => exact ⟨h.defaultLimit, h.builders⟩
  | setDefault limit => exact ⟨rfl, h.builders⟩
  | builder name limits spreadOut =>
    refine ⟨h.defaultLimit, fun other => ?_⟩
    simp only [Workshop.answer, builderOf_putBuilder, givenTo]
    by_cases heq : name = other
    · subst heq
      rw [if_pos rfl, if_pos rfl, MatcherBuilder.foldl_withLimit, h.builders]
    · rw [if_neg heq, if_neg heq, h.builders]
  | cloneBuilder source target =>
    refine ⟨h.defaultLimit, fun other => ?_⟩
    simp only [Workshop.answer, builderOf_putBuilder, givenTo]
    split
    · exact h.builders source
    · exact h.builders other
  | build name kind builder limit =>
    have dropped : (w.drop name).Remembers past := h.of_eq (drop_defaultLimit w name) (drop_builders w name)
    rw [answer_build]
    rcases hm : (M kind).make (w.drop name).state with ⟨a | own, s⟩
    · rw [build_error hm]
      exact ⟨dropped.defaultLimit, dropped.builders⟩
    · rw [build_ok hm]
      exact ⟨dropped.defaultLimit, dropped.builders⟩
  | drop name =>
    have dropped : (w.drop name).Remembers past := h.of_eq (drop_defaultLimit w name) (drop_builders w name)
    exact ⟨dropped.defaultLimit, dropped.builders⟩
  | perform name o =>
    cases hs : w.slot? name with
    | none =>
      simp only [Workshop.answer, hs]
      exact ⟨h.defaultLimit, h.builders⟩
    | some slot =>
      rw [answer_perform hs]
      exact ⟨h.defaultLimit, h.builders⟩

theorem run (h : w.Remembers past) (orders : List (Order ι)) :
    (w.run orders).Remembers (orders.reverse ++ past) := by
  induction orders generalizing w past with
  | nil => exact h
  | cons order rest ih =>
    rw [List.reverse_cons, List.append_assoc]
    exact ih (h.answer order)

theorem choice (h : w.Remembers past) (builder : Option String) (limit : Option UInt32) :
    (w.choice builder limit).depthLimit.getD w.defaultLimit = due past builder limit := by
  rw [h.defaultLimit]
  cases builder with
  | none => rfl
  | some name => exact congrArg (Option.getD · _) (h.builders name)

end Remembers

/-! ## Limits of matchers -/

/-- There is a matcher of that name, with that limit. -/
def Holds (w : Workshop M) (name : String) (limit : UInt32) : Prop :=
  ∃ slot, w.slot? name = some slot ∧ slot.client.matcher.depthLimit = limit

theorem holds_of_built {name : String} {kind : ι} {b : MatcherBuilder}
    (h : (w.build name kind b).1 = .ok .done) :
    (w.build name kind b).2.Holds name (b.depthLimit.getD w.defaultLimit) := by
  rcases hm : (M kind).make w.state with ⟨a | own, s⟩
  · rw [build_error hm] at h
    cases h
  · rw [build_ok hm]
    exact ⟨_, slot?_put _ _ _, rfl⟩

/-- A matcher keeps its limit until it is dropped or another one is built in its place. -/
theorem Holds.answer {name : String} {limit : UInt32} (h : w.Holds name limit) {order : Order ι}
    (hr : order.replaces name = false) : (w.answer order).2.Holds name limit := by
  obtain ⟨slot, hs, hlimit⟩ := h
  cases ho : order.operation? name with
  | none => exact ⟨slot, (answer_untouched hr ho).trans hs, hlimit⟩
  | some o =>
    obtain rfl := Order.eq_perform ho
    -- No part of an operation writes to the limit, and neither does any engine.
    have kept : Bench.Kept fun b : Bench (M slot.kind).engine => b.matcher.depthLimit = limit :=
      Bench.kept_of_parts (fun _ _ h => h) (fun _ _ h => h) (fun _ _ h => h) fun _ _ _ h => h
    rw [answer_perform hs]
    exact ⟨_, slot?_put _ _ _, kept.perform o (w.bench slot) hlimit⟩

theorem Holds.run {name : String} {limit : UInt32} (h : w.Holds name limit) {orders : List (Order ι)}
    (hr : ∀ order ∈ orders, order.replaces name = false) : (w.run orders).Holds name limit := by
  induction orders generalizing w with
  | nil => exact h
  | cons order rest ih =>
    obtain ⟨hfirst, hrest⟩ := List.forall_mem_cons.mp hr
    exact ih (h.answer hfirst) hrest

theorem Holds.inspect {name : String} {limit : UInt32} (h : w.Holds name limit) :
    ∃ prepared pattern flags,
      (w.answer (.perform name .inspect)).1 = .ok (.inspected prepared pattern flags limit) := by
  obtain ⟨slot, hs, rfl⟩ := h
  rw [answer_perform hs]
  exact ⟨_, _, _, rfl⟩

end

end Workshop

/-! ## Limits that engines are given -/

/-- The limit that an engine is given for a search. -/
def Call.limit? : Call → Option UInt32
  | .execute _ _ _ _ limit _ => some limit
  | _ => none

namespace Recorded

variable {before : List Call} {p : Call → Prop} {r : Recorded σ} {s : σ} {c : Call}

/-- Since an earlier record, only calls of some kind have been made. -/
def Since (before : List Call) (p : Call → Prop) (r : Recorded σ) : Prop :=
  ∃ new, r.calls = before ++ new ∧ ∀ c ∈ new, p c

theorem Since.refl (r : Recorded σ) : r.Since r.calls p :=
  ⟨[], (List.append_nil _).symm, nofun⟩

theorem Since.record (h : r.Since before p) (hc : p c) : (r.record s c).Since before p := by
  obtain ⟨new, hnew, hp⟩ := h
  refine ⟨new ++ [c], ?_, ?_⟩
  · rw [Recorded.record, hnew, List.append_assoc]
  · intro d hd
    rcases List.mem_append.mp hd with hd | hd
    · exact hp d hd
    · rwa [List.mem_singleton.mp hd]

theorem Since.unlimited {limit : UInt32} (h : r.Since before fun c => ∀ n ∈ c.limit?, n = limit)
    (hc : c.limit? = none) : (r.record s c).Since before fun c => ∀ n ∈ c.limit?, n = limit := by
  apply h.record
  rw [hc]
  exact nofun

theorem Since.of_calls_eq {q : Recorded σ} (h : r.Since before p) (hq : q.calls = r.calls) :
    q.Since before p := by
  rwa [Since, hq]

theorem Since.handOut (h : r.Since before p) (made : Bool) : (r.handOut made).Since before p :=
  h.of_calls_eq (r.calls_handOut made)

theorem Since.takeBack (h : r.Since before p) (n : Nat) : (r.takeBack n).Since before p := h

end Recorded

/-- A recorded engine whose matcher has a limit is given that limit for all searches. -/
theorem Engine.recorded_callsKept (E : Engine σ) (limit : UInt32) (before : List Call) :
    Bench.CallsKept fun b : Bench E.recorded =>
      b.matcher.depthLimit = limit ∧ b.state.Since before fun c => ∀ n ∈ c.limit?, n = limit where
  compile := by
    rintro pattern flags b ⟨hlimit, since⟩
    refine ⟨hlimit, ?_⟩
    simp only [Engine.recorded]
    rcases E.compile pattern flags b.state.state with ⟨failure | c, s⟩
    · exact since.unlimited rfl
    · apply Recorded.Since.handOut
      exact since.unlimited rfl
  makeBuffer := by
    rintro c b ⟨hlimit, since⟩
    refine ⟨hlimit, ?_⟩
    simp only [Engine.recorded]
    rcases E.makeBuffer c.value b.state.state with ⟨_ | buffer, s⟩
    · exact since.unlimited rfl
    · apply Recorded.Since.handOut
      exact since.unlimited rfl
  execute := by
    rintro c subject start buffer b ⟨hlimit, since⟩
    refine ⟨hlimit, since.record ?_⟩
    rintro n ⟨⟩
    exact hlimit
  output _ _ h := ⟨h.1, h.2.unlimited rfl⟩
  groupCount _ _ h := ⟨h.1, h.2.unlimited rfl⟩
  groupNumber? _ _ _ h := ⟨h.1, h.2.unlimited rfl⟩
  message _ _ h := ⟨h.1, h.2.unlimited rfl⟩
  releaseCode := by
    rintro c b ⟨hlimit, since⟩
    refine ⟨hlimit, .takeBack ?_ c.number⟩
    exact since.unlimited rfl
  releaseBuffer := by
    rintro buffer b ⟨hlimit, since⟩
    refine ⟨hlimit, .takeBack ?_ buffer.number⟩
    exact since.unlimited rfl
  prepared _ _ h := h
  log _ _ h := h
  vectors _ _ _ h := h

theorem Slot.limit?_of_mem_releases {M : ι → Maker σ} {slot : Slot fun i => (M i).recorded} {c : Call}
    (h : c ∈ slot.releases) : c.limit? = none := by
  rw [releases] at h
  cases hp : slot.client.matcher.prepared with
  | none =>
    simp only [hp] at h
    cases h
  | some p =>
    simp only [hp, List.mem_cons, List.not_mem_nil, or_false] at h
    rcases h with rfl | rfl <;> rfl

namespace Workshop

variable {M : ι → Maker σ} {w : Workshop fun i => (M i).recorded} {name : String} {limit : UInt32}

/-- All searches of a matcher have its limit. -/
theorem Holds.searches (h : w.Holds name limit) (o : Operation) :
    (w.answer (.perform name o)).2.state.Since w.state.calls fun c => ∀ n ∈ c.limit?, n = limit := by
  obtain ⟨slot, hs, hlimit⟩ := h
  rw [answer_perform hs]
  exact (((M slot.kind).engine.recorded_callsKept limit w.state.calls).kept.perform o (w.bench slot)
    ⟨hlimit, .refl _⟩).2

theorem drop_unsearched (w : Workshop fun i => (M i).recorded) (name : String) :
    (w.drop name).state.Since w.state.calls fun c => c.limit? = none := by
  cases hs : w.slot? name with
  | none =>
    rw [drop_none hs]
    exact .refl _
  | some slot =>
    rw [drop_some hs, discard_eq]
    exact ⟨slot.releases, cleared_calls (w.without name) slot, fun c => Slot.limit?_of_mem_releases⟩

/-- Only matchers that are asked for something search. -/
theorem answer_unsearched (w : Workshop fun i => (M i).recorded) {order : Order ι}
    (h : ∀ name o, order ≠ .perform name o) :
    (w.answer order).2.state.Since w.state.calls fun c => c.limit? = none := by
  cases order with
  | getDefault => exact .refl _
  | setDefault limit => exact .refl _
  | builder name limits spreadOut => exact .refl _
  | cloneBuilder name target => exact .refl _
  | build name kind builder limit =>
    have dropped := drop_unsearched w name
    rw [answer_build]
    -- Neither making an engine nor failing to make one is recorded.
    rcases hm : (M kind).recorded.make (w.drop name).state with ⟨a | own, s⟩
    · rw [build_error hm]
      exact dropped.of_calls_eq (congrArg (·.2.calls) hm).symm
    · rw [build_ok hm]
      exact dropped.of_calls_eq (congrArg (·.2.calls) hm).symm
  | drop name => exact drop_unsearched w name
  | perform name o => exact absurd rfl (h name o)

/-- A matcher with a limit. -/
structure BoundBy (w : Workshop fun i => (M i).recorded) (name : String) (limit : UInt32) : Prop where
  /-- It says so itself. -/
  told : ∃ prepared pattern flags,
    (w.answer (.perform name .inspect)).1 = .ok (.inspected prepared pattern flags limit)
  /-- Its engine is given that limit for all searches. -/
  searches : ∀ o, (w.answer (.perform name o)).2.state.Since w.state.calls
    fun c => ∀ n ∈ c.limit?, n = limit

/-- Where limits come from and go to, after all that has been ordered in the past. -/
structure Limits (past : List (Order ι)) (w : Workshop fun i => (M i).recorded) : Prop where
  /-- The default limit is the one that was set last, whether it is asked for or replaced. -/
  get : (w.answer .getDefault).1 = .ok (.number (inForce past).toNat)
  set : ∀ limit, (w.answer (.setDefault limit)).1 = .ok (.number (inForce past).toNat)
  /-- A matcher that is built now has the limit that it is due until it is dropped or replaced, whatever
  else is ordered meanwhile. -/
  build : ∀ name kind builder limit, (w.answer (.build name kind builder limit)).1 = .ok .done →
    ∀ after : List (Order ι), (∀ order ∈ after, order.replaces name = false) →
      ((w.answer (.build name kind builder limit)).2.run after).BoundBy name (due past builder limit)
  /-- Only matchers that are asked for something search. -/
  others : ∀ order, (∀ name o, order ≠ .perform name o) →
    (w.answer order).2.state.Since w.state.calls fun c => c.limit? = none

/-- In every run, limits come from where they should, and reach the engine. -/
theorem run_limits (M : ι → Maker σ) (s : σ) (log : Log) (orders : List (Order ι)) :
    ((opened { state := s } log standardDepthLimit [] : Workshop fun i => (M i).recorded).run
      orders).Limits orders.reverse := by
  have remembers := (opened_remembers (M := fun i => (M i).recorded) { state := s } log).run orders
  rw [List.append_nil] at remembers
  generalize (opened { state := s } log standardDepthLimit [] : Workshop fun i => (M i).recorded).run
    orders = w at remembers ⊢
  refine ⟨?get, ?set, ?build, fun order => answer_unsearched w⟩
  case get => rw [answer, remembers.defaultLimit]
  case set =>
    intro limit
    rw [answer, remembers.defaultLimit]
  case build =>
    -- The past settles the limit at the time of the build. From then on the matcher carries it.
    intro name kind builder limit built after hafter
    rw [answer_build] at built ⊢
    have holds := holds_of_built built
    rw [drop_defaultLimit, remembers.choice] at holds
    have holds := holds.run hafter
    exact ⟨holds.inspect, holds.searches⟩

end Workshop

end BoundedRegex
