import BoundedRegex.Engine.Recorded
import BoundedRegex.Proofs.Workshop

/-!
# What recorded engines hand out

The record of an engine tells which codes and buffers it has handed out and which of them it has got
back. Over engines of any kind that share a record, the difference is at all times one code and one
buffer for each prepared matcher. Nothing is given back twice, since no number is used twice and what
has been given back is no longer held.
-/
namespace BoundedRegex

variable {ι σ : Type}

/-- A code or a buffer, by its number. -/
inductive Thing where
  | code (number : Nat)
  | buffer (number : Nat)
  deriving DecidableEq, Repr

def Thing.number : Thing → Nat
  | .code n => n
  | .buffer n => n

namespace Call

def handedOut? : Call → Option Thing
  | .compile _ _ made => made.map .code
  | .makeBuffer _ made => made.map .buffer
  | _ => none

def givenBack? : Call → Option Thing
  | .releaseCode n => some (.code n)
  | .releaseBuffer n => some (.buffer n)
  | _ => none

def compiles : Call → Bool
  | .compile _ _ _ => true
  | _ => false

end Call

namespace Recorded

def handedOut (r : Recorded σ) : List Thing := r.calls.filterMap Call.handedOut?

def givenBack (r : Recorded σ) : List Thing := r.calls.filterMap Call.givenBack?

section
variable (r : Recorded σ) (s : σ) (c : Call)

@[simp] theorem handedOut_record :
    (r.record s c).handedOut = r.handedOut ++ c.handedOut?.toList := by
  cases h : c.handedOut? <;> simp [handedOut, record, h]

@[simp] theorem givenBack_record :
    (r.record s c).givenBack = r.givenBack ++ c.givenBack?.toList := by
  cases h : c.givenBack? <;> simp [givenBack, record, h]

@[simp] theorem handedOut_handOut : (r.handOut true).handedOut = r.handedOut := rfl

@[simp] theorem givenBack_handOut : (r.handOut true).givenBack = r.givenBack := rfl

@[simp] theorem handedOut_takeBack (n : Nat) : (r.takeBack n).handedOut = r.handedOut := rfl

@[simp] theorem givenBack_takeBack (n : Nat) : (r.takeBack n).givenBack = r.givenBack := rfl

@[simp] theorem calls_handOut (made : Bool) : (r.handOut made).calls = r.calls := by
  cases made <;> rfl

@[simp] theorem next_record : (r.record s c).next = r.next := rfl

@[simp] theorem next_handOut : (r.handOut true).next = r.next + 1 := rfl

@[simp] theorem next_takeBack (n : Nat) : (r.takeBack n).next = r.next := rfl

end

/-- The things in `held` are those that have been handed out and not been given back. -/
structure Tallies (r : Recorded σ) (held : Multiset Thing) : Prop where
  numbers : r.handedOut.map Thing.number = List.range r.next
  balance : (r.handedOut : Multiset Thing) = held + r.givenBack
  out : (r.out : Multiset Nat) = held.map Thing.number

namespace Tallies

variable {r : Recorded σ} {held : Multiset Thing} {s : σ} {c : Call}

/-- Nothing is handed out twice. -/
theorem nodup (h : r.Tallies held) : r.handedOut.Nodup := by
  apply List.Nodup.of_map Thing.number
  rw [h.numbers]
  exact List.nodup_range

/-- A call that neither hands anything out nor gives anything back changes nothing. -/
theorem neutral (h : r.Tallies held) (hout : c.handedOut? = none) (hback : c.givenBack? = none) :
    (r.record s c).Tallies held := by
  refine ⟨?_, ?_, h.out⟩
  · simpa [hout] using h.numbers
  · simpa [hout, hback] using h.balance

/-- What is handed out next has the next number. -/
theorem handOut (h : r.Tallies held) {t : Thing} (hout : c.handedOut? = some t)
    (hback : c.givenBack? = none) (ht : t.number = r.next) :
    ((r.record s c).handOut true).Tallies ({t} + held) := by
  refine ⟨?_, ?_, ?_⟩
  · simp [hout, h.numbers, ht, List.range_succ]
  · simp only [handedOut_handOut, givenBack_handOut, handedOut_record, givenBack_record, hout, hback,
      Option.toList_some, Option.toList_none, List.append_nil, ← Multiset.coe_add, h.balance]
    rw [Multiset.coe_singleton, add_comm, add_assoc]
  · simp [record, Recorded.handOut, ht, ← h.out]

theorem giveBack {t : Thing} (h : r.Tallies ({t} + held)) (hout : c.handedOut? = none)
    (hback : c.givenBack? = some t) :
    ((r.record s c).takeBack t.number).Tallies held := by
  refine ⟨?_, ?_, ?_⟩
  · simpa [hout] using h.numbers
  · simp only [handedOut_takeBack, givenBack_takeBack, handedOut_record, givenBack_record, hout,
      hback, Option.toList_some, Option.toList_none, List.append_nil, ← Multiset.coe_add, h.balance]
    rw [Multiset.coe_singleton, add_comm {t} held, add_assoc]
    exact congrArg (held + ·) (add_comm _ _)
  · have out := h.out
    rw [Multiset.singleton_add, Multiset.map_cons] at out
    simp only [record, takeBack, ← Multiset.coe_erase, out, Multiset.erase_cons_head]

/-- What is handed out is given back once if it is not held, and not at all otherwise. -/
theorem count_givenBack (h : r.Tallies held) {t : Thing} (ht : t ∈ r.handedOut) :
    r.givenBack.count t = if t ∈ held then 0 else 1 := by
  have once : r.handedOut.count t = 1 := List.count_eq_one_of_mem h.nodup ht
  rw [← Multiset.coe_count, h.balance, Multiset.count_add, Multiset.coe_count] at once
  by_cases hheld : t ∈ held
  · have := Multiset.one_le_count_iff_mem.mpr hheld
    rw [if_pos hheld]
    omega
  · rw [Multiset.count_eq_zero_of_notMem hheld] at once
    rw [if_neg hheld]
    omega

end Tallies

end Recorded

/-! ## The account of a record -/

/-- Each code and each buffer of a recorded engine holds itself. -/
def Maker.recordedAccount (M : Maker σ) : M.recorded.Account Recorded.Tallies where
  code c := {.code c.number}
  buffer b := {.buffer b.number}
  own _ := 0
  compile pattern flags r held h := by
    simp only [Maker.recorded, Engine.recorded]
    rcases M.engine.compile pattern flags r.state with ⟨_ | _, s⟩
    · exact h.neutral rfl rfl
    · exact h.handOut rfl rfl rfl
  makeBuffer c r held h := by
    simp only [Maker.recorded, Engine.recorded]
    rcases M.engine.makeBuffer c.value r.state with ⟨_ | _, s⟩
    · exact h.neutral rfl rfl
    · exact h.handOut rfl rfl rfl
  execute c subject start limit b r held h := by
    simp only [Maker.recorded, Engine.recorded]
    exact h.neutral rfl rfl
  output b r held h := h.neutral rfl rfl
  groupCount c r held h := h.neutral rfl rfl
  groupNumber? c name r held h := h.neutral rfl rfl
  message failure r held h := h.neutral rfl rfl
  releaseCode c r held h :=
    Recorded.Tallies.giveBack (t := .code c.number) (c := .releaseCode c.number) h rfl rfl
  releaseBuffer b r held h :=
    Recorded.Tallies.giveBack (t := .buffer b.number) (c := .releaseBuffer b.number) h rfl rfl
  make {r held} h := by
    rw [zero_add]
    simp only [Maker.recorded]
    have kept (s : σ) : Recorded.Tallies { r with state := s } held := ⟨h.numbers, h.balance, h.out⟩
    cases (M.make r.state).1 <;> exact kept _
  unmake own r held h := by
    rw [zero_add] at h
    exact ⟨h.numbers, h.balance, h.out⟩

/-! ## Runs -/

section
variable {M : ι → Maker σ}

/-- The code and the buffer of a matcher, if it is prepared. -/
def Slot.things (slot : Slot fun i => (M i).recorded) : Multiset Thing :=
  match slot.client.matcher.prepared with
  | some p => {.code p.code.number, .buffer p.buffer.number}
  | none => 0

/-- The calls that give the code and the buffer of a matcher back, if it is prepared. -/
def Slot.releases (slot : Slot fun i => (M i).recorded) : List Call :=
  match slot.client.matcher.prepared with
  | some p => [.releaseCode p.code.number, .releaseBuffer p.buffer.number]
  | none => []

namespace Workshop

/-- The codes and buffers of all matchers. -/
def things (w : Workshop fun i => (M i).recorded) : Multiset Thing :=
  (w.slots.map fun e => e.2.things).sum

/-- How many matchers are prepared. -/
def preparedCount (w : Workshop M) : Nat :=
  w.slots.countP fun e => e.2.client.matcher.prepared.isSome

theorem held_recorded (w : Workshop fun i => (M i).recorded) :
    w.held (fun i => (M i).recordedAccount) = w.things := by
  rw [held, things]
  congr 1
  apply List.map_congr_left
  intro e _
  simp only [Slot.held, Slot.things, Engine.Account.held, Maker.recordedAccount, zero_add]
  cases e.2.client.matcher.prepared <;> rfl

theorem card_things (w : Workshop fun i => (M i).recorded) :
    w.things.card = 2 * w.preparedCount := by
  rw [things, preparedCount]
  induction w.slots with
  | nil => rfl
  | cons e rest ih =>
    rw [List.map_cons, List.sum_cons, Multiset.card_add, ih, List.countP_cons, Slot.things]
    cases e.2.client.matcher.prepared with
    | none => simp
    | some p =>
      simp only [Multiset.insert_eq_cons, Multiset.card_cons, Multiset.card_singleton,
        Option.isSome_some, ↓reduceIte]
      omega

/-- What the shared record of a workshop says about its matchers. -/
theorem Sound.tallies {w : Workshop fun i => (M i).recorded}
    (h : w.Sound fun i => (M i).recordedAccount) : w.state.Tallies w.things :=
  held_recorded w ▸ h.out

/-- A matcher that is cleared gives back what it holds. -/
theorem cleared_calls (w : Workshop fun i => (M i).recorded) (slot : Slot fun i => (M i).recorded) :
    (w.bench slot).cleared.state.calls = w.state.calls ++ slot.releases := by
  rw [Bench.cleared, Slot.releases]
  cases hp : slot.client.matcher.prepared with
  | none => simp [bench, hp]
  | some p =>
    simp [bench, hp, Maker.recorded, Engine.recorded, Recorded.record, Recorded.takeBack]

/-- A matcher compiles once to prepare a pattern, after it has given back what it held. -/
theorem prepare_calls {w : Workshop fun i => (M i).recorded} {name : String}
    {slot : Slot fun i => (M i).recorded} (hs : w.slot? name = some slot) (pattern : String)
    (flags : Flags) :
    ∃ made rest,
      (w.answer (.perform name (.prepare pattern flags))).2.state.calls =
        w.state.calls ++ slot.releases ++ .compile pattern flags made :: rest ∧
      ∀ c ∈ rest, c.compiles = false := by
  simp only [answer, hs, work_eq, put, Bench.perform, Bench.run_reply, Bench.run_prepare,
    ← cleared_calls]
  generalize (w.bench slot).cleared = b
  simp only [Maker.recorded, Engine.recorded]
  rcases (M slot.kind).engine.compile pattern flags b.state.state with ⟨failure | code, s⟩
  · exact ⟨none, [.message failure.code], by simp [Recorded.record], by simp [Call.compiles]⟩
  · simp only
    rcases (M slot.kind).engine.makeBuffer code _ with ⟨_ | buffer, s'⟩
    · exact ⟨some b.state.next, [.makeBuffer b.state.next none, .releaseCode b.state.next],
        by simp [Recorded.record, Recorded.handOut, Recorded.takeBack], by simp [Call.compiles]⟩
    · exact ⟨some b.state.next, [.makeBuffer b.state.next (some (b.state.next + 1))],
        by simp [Recorded.record, Recorded.handOut], by simp [Call.compiles]⟩

/-- What the record of a workshop says at each moment of a run. -/
structure Balanced (w : Workshop fun i => (M i).recorded) : Prop where
  /-- What is out is one code and one buffer for each prepared matcher. -/
  out : (w.state.out : Multiset Nat) = w.things.map Thing.number
  count : w.state.out.length = 2 * w.preparedCount
  /-- Nothing is handed out twice, and only what has been handed out is given back. -/
  once : w.state.handedOut.Nodup
  handed : ∀ t ∈ w.state.givenBack, t ∈ w.state.handedOut
  /-- What has been handed out is given back once if no matcher holds it, and not at all otherwise. -/
  given : ∀ t ∈ w.state.handedOut, w.state.givenBack.count t = if t ∈ w.things then 0 else 1
  /-- A matcher that prepares a pattern has given back what it held before it compiles. -/
  prepare : ∀ name slot pattern flags, w.slot? name = some slot →
    ∃ made rest,
      (w.answer (.perform name (.prepare pattern flags))).2.state.calls =
        w.state.calls ++ slot.releases ++ .compile pattern flags made :: rest ∧
      ∀ c ∈ rest, c.compiles = false
  /-- Nothing is out without matchers. -/
  empty : w.slots = [] → w.state.out = [] ∧ w.state.handedOut.Perm w.state.givenBack
  closed : w.close.slots = [] ∧ w.close.state.out = [] ∧
    w.close.state.handedOut.Perm w.close.state.givenBack

theorem Sound.nothing_out {w : Workshop fun i => (M i).recorded}
    (h : w.Sound fun i => (M i).recordedAccount) (hs : w.slots = []) :
    w.state.out = [] ∧ w.state.handedOut.Perm w.state.givenBack := by
  have things : w.things = 0 := by simp only [Workshop.things, hs, List.map_nil, List.sum_nil]
  have tally := h.tallies
  rw [things] at tally
  refine ⟨by simpa using tally.out, ?_⟩
  rw [← Multiset.coe_eq_coe, tally.balance, zero_add]

theorem Sound.balanced {w : Workshop fun i => (M i).recorded}
    (h : w.Sound fun i => (M i).recordedAccount) : w.Balanced where
  out := h.tallies.out
  count := by rw [← card_things, ← Multiset.coe_card, h.tallies.out, Multiset.card_map]
  once := h.tallies.nodup
  handed := by
    intro t ht
    rw [← Multiset.mem_coe, h.tallies.balance]
    exact Multiset.mem_add.mpr (.inr ht)
  given t ht := h.tallies.count_givenBack ht
  prepare name slot pattern flags hs := prepare_calls hs pattern flags
  empty := h.nothing_out
  closed := ⟨close_slots w, h.close.nothing_out (close_slots w)⟩

/-- Whatever the engines answer and whichever orders are carried out or aborted, exactly what prepared
matchers hold is out. -/
theorem run_exact (M : ι → Maker σ) (s : σ) (log : Log) (limit : UInt32)
    (builders : List (String × MatcherBuilder)) (orders : List (Order ι)) :
    ((opened { state := s } log limit builders :
      Workshop fun i => (M i).recorded).run orders).Balanced := by
  have start : (opened { state := s } log limit builders :
      Workshop fun i => (M i).recorded).Sound fun i => (M i).recordedAccount :=
    opened_sound ⟨rfl, rfl, rfl⟩ log limit builders
  exact (start.run orders).balanced

end Workshop

end

end BoundedRegex
