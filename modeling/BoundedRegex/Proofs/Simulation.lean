import Mathlib.Data.List.Forall2
import BoundedRegex.Engine.Recorded
import BoundedRegex.Proofs.Isolation

/-!
# Workshops in lockstep

Two workshops carry out the same orders over engines of different kinds. If the engines of each kind are
made and ended alike and matchers with them are in lockstep, then the workshops reply the same over a
whole run, and correspond at its end: they have the same builders and the same default limit, and matchers
of the same names that correspond.

The record of an engine is the first thing that is shown in this way to make no difference.
-/
namespace BoundedRegex

variable {ι σ τ α β : Type}

/-! ## Names and what they stand for -/

section
variable {r : α → β → Prop} {l : List (String × α)} {l' : List (String × β)}

/-- The same names in the same order, for things that correspond. -/
abbrev Named (r : α → β → Prop) : List (String × α) → List (String × β) → Prop :=
  List.Forall₂ fun x y => y.1 = x.1 ∧ r x.2 y.2

theorem Named.lookup (h : Named r l l') (name : String) :
    Option.Rel r (l.lookup name) (l'.lookup name) := by
  induction h with
  | nil => exact .none
  | @cons x y _ _ hxy _ ih =>
    obtain ⟨_, a⟩ := x
    obtain ⟨key, b⟩ := y
    obtain ⟨rfl, hab⟩ := hxy
    rw [List.lookup_cons, List.lookup_cons]
    dsimp only
    cases name == key with
    | true => exact .some hab
    | false => exact ih

theorem Named.without (h : Named r l l') (name : String) :
    Named r (l.filter (·.1 != name)) (l'.filter (·.1 != name)) := by
  refine List.rel_filter ?_ h
  intro x y hxy
  simp only [hxy.1]

theorem Named.eq_map {f : α → β} (hf : ∀ a b, r a b → b = f a) (h : Named r l l') :
    l' = l.map (Prod.map id f) := by
  induction h with
  | nil => rfl
  | @cons x y _ _ hxy _ ih =>
    obtain ⟨name, a⟩ := x
    obtain ⟨_, b⟩ := y
    obtain ⟨rfl, hab⟩ := hxy
    rw [List.map_cons, ← ih, hf a b hab]
    rfl

end

/-! ## Engines that are made alike -/

/-- How what engines hold from their making to their end corresponds as well. -/
structure Maker.Likeness (M : Maker σ) (N : Maker τ) (Spoilt : σ → Prop) (state : σ → τ → Prop) extends
    M.engine.Likeness N.engine Spoilt state where
  own : M.Own → N.Own → Prop
  make : ∀ {s t}, state s t → Meets Spoilt state (Agree own) (M.make s) (N.make t)
  unmake : ∀ {x y s t}, own x y → state s t →
    Spoilt (M.unmake x s) ∨ state (M.unmake x s) (N.unmake y t)
  /-- What is spoilt stays so when engines are made and ended, too. -/
  lasting : M.Persists Spoilt

section
variable {M : ι → Maker σ} {N : ι → Maker τ} {Spoilt : σ → Prop} {state : σ → τ → Prop}
  (L : ∀ i, (M i).Likeness (N i) Spoilt state) {logs : Log → Log → Prop}

/-- Slots of one kind that correspond. -/
inductive Slot.Alike : Slot M → Slot N → Prop where
  | mk {kind : ι} {own : (M kind).Own} {own' : (N kind).Own} {client : Client (M kind).engine}
      {client' : Client (N kind).engine} (owns : (L kind).own own own')
      (clients : (L kind).Clients client client') :
      Alike ⟨kind, own, client⟩ ⟨kind, own', client'⟩

/-- Workshops that correspond. -/
structure Workshop.Alike (logs : Log → Log → Prop) (w : Workshop M) (v : Workshop N) : Prop where
  state : state w.state v.state
  logs : logs w.log v.log
  defaultLimit : v.defaultLimit = w.defaultLimit
  builders : v.builders = w.builders
  slots : Named (Slot.Alike L) w.slots v.slots

namespace Workshop

/-- What is replied to orders that are carried out one after another. -/
def replies : List (Order ι) → Workshop M → List (Except Abort Reply)
  | [], _ => []
  | order :: rest, w => (w.answer order).1 :: replies rest (w.answer order).2

theorem Alike.opened {s : σ} {t : τ} {l k : Log} (hst : state s t) (hlog : logs l k) (limit : UInt32)
    (builders : List (String × MatcherBuilder)) :
    Alike L logs (opened s l limit builders) (opened t k limit builders) :=
  ⟨hst, hlog, rfl, rfl, .nil⟩

namespace Alike

variable {L} {w : Workshop M} {v : Workshop N} {name : String}

theorem slot? (h : w.Alike L logs v) (name : String) :
    Option.Rel (Slot.Alike L) (w.slot? name) (v.slot? name) :=
  Named.lookup h.slots name

theorem withState (h : w.Alike L logs v) {s : σ} {t : τ} (hst : state s t) :
    Alike L logs { w with state := s } { v with state := t } :=
  ⟨hst, h.logs, h.defaultLimit, h.builders, h.slots⟩

theorem without (h : w.Alike L logs v) (name : String) :
    Alike L logs (w.without name) (v.without name) :=
  ⟨h.state, h.logs, h.defaultLimit, h.builders, Named.without h.slots name⟩

theorem put (h : w.Alike L logs v) (name : String) {slot : Slot M} {slot' : Slot N}
    (hs : Slot.Alike L slot slot') : Alike L logs (w.put name slot) (v.put name slot') :=
  ⟨h.state, h.logs, h.defaultLimit, h.builders, .cons ⟨rfl, hs⟩ (Named.without h.slots name)⟩

theorem bench (h : w.Alike L logs v) {kind : ι} {own : (M kind).Own} {own' : (N kind).Own}
    {client : Client (M kind).engine} {client' : Client (N kind).engine}
    (hc : (L kind).Clients client client') :
    (L kind).Benches logs (w.bench ⟨kind, own, client⟩) (v.bench ⟨kind, own', client'⟩) :=
  ⟨hc, h.state, h.logs⟩

theorem discard (h : w.Alike L logs v) {slot : Slot M} {slot' : Slot N}
    (hs : Slot.Alike L slot slot') :
    Spoilt (w.discard slot).state ∨ Alike L logs (w.discard slot) (v.discard slot') := by
  obtain ⟨owns, clients⟩ := hs
  rw [discard_eq, discard_eq]
  rcases (h.bench clients).cleared with spoilt | cleared
  · exact .inl ((L _).lasting.unmake _ spoilt)
  · exact ((L _).unmake owns cleared.state).imp_right h.withState

theorem drop (h : w.Alike L logs v) (name : String) :
    Spoilt (w.drop name).state ∨ Alike L logs (w.drop name) (v.drop name) := by
  have slots := h.slot? name
  cases hw : w.slot? name <;> cases hv : v.slot? name <;> rw [hw, hv] at slots <;> cases slots
  case none.none =>
    rw [drop_none hw, drop_none hv]
    exact .inr h
  case some.some slot slot' same =>
    rw [drop_some hw, drop_some hv]
    exact (h.without name).discard same

theorem choice (h : w.Alike L logs v) (builder : Option String) (limit : Option UInt32) :
    v.choice builder limit = w.choice builder limit := by
  cases builder with
  | none => rfl
  | some b => rw [Workshop.choice, Workshop.choice, builderOf, builderOf, h.builders]

theorem build (h : w.Alike L logs v) (name : String) (kind : ι) (b : MatcherBuilder) :
    Spoilt (w.build name kind b).2.state ∨
      (v.build name kind b).1 = (w.build name kind b).1 ∧
        Alike L logs (w.build name kind b).2 (v.build name kind b).2 := by
  have made := (L kind).make h.state
  rw [Workshop.build, Workshop.build]
  generalize (M kind).make w.state = run at made ⊢
  generalize (N kind).make v.state = run' at made ⊢
  obtain ⟨x, s⟩ := run
  obtain ⟨y, t⟩ := run'
  rcases made with spoilt | ⟨agree, hst⟩
  · refine .inl ?_
    cases x with
    | error a => exact spoilt
    | ok own => exact spoilt
  cases agree with
  | error a => exact .inr ⟨rfl, h.withState hst⟩
  | ok owns =>
    have fresh : (L kind).Clients { matcher := b.build w.defaultLimit (M kind).engine }
        { matcher := b.build v.defaultLimit (N kind).engine } := by
      rw [h.defaultLimit]
      exact ⟨.none, rfl, rfl, rfl⟩
    exact .inr ⟨rfl, (h.withState hst).put name ⟨owns, fresh⟩⟩

/-- An order is replied to in the same way, and leaves workshops that correspond. -/
theorem answer (h : w.Alike L logs v) (hL : ∀ i, Bench.Lockstep Spoilt ((L i).Benches logs))
    (order : Order ι) :
    Spoilt (w.answer order).2.state ∨
      (v.answer order).1 = (w.answer order).1 ∧
        Alike L logs (w.answer order).2 (v.answer order).2 := by
  cases order with
  | getDefault => exact .inr ⟨by rw [Workshop.answer, Workshop.answer, h.defaultLimit], h⟩
  | setDefault limit =>
    exact .inr ⟨by rw [Workshop.answer, Workshop.answer, h.defaultLimit],
      h.state, h.logs, rfl, h.builders, h.slots⟩
  | builder name limits spreadOut =>
    have builders : v.builderOf name = w.builderOf name := h.choice (some name) none
    simp only [Workshop.answer, builders, true_and]
    exact .inr ⟨h.state, h.logs, h.defaultLimit, by simp only [putBuilder, h.builders], h.slots⟩
  | cloneBuilder name target =>
    have builders : v.builderOf name = w.builderOf name := h.choice (some name) none
    simp only [Workshop.answer, builders, true_and]
    exact .inr ⟨h.state, h.logs, h.defaultLimit, by simp only [putBuilder, h.builders], h.slots⟩
  | build name kind builder limit =>
    rw [answer_build, answer_build, h.choice builder limit]
    rcases h.drop name with spoilt | dropped
    · exact .inl (build_persists spoilt name (L kind).lasting _)
    · exact dropped.build name kind _
  | drop name => exact (h.drop name).imp_right fun after => ⟨rfl, after⟩
  | perform name o =>
    have slots := h.slot? name
    cases hw : w.slot? name <;> cases hv : v.slot? name <;> rw [hw, hv] at slots <;> cases slots
    case none.none =>
      simp only [Workshop.answer, hw, hv, true_and]
      exact .inr h
    case some.some slot slot' same =>
      obtain ⟨owns, clients⟩ := same
      rw [answer_perform hw, answer_perform hv]
      rcases ((hL _).perform o).meets _ _ (h.bench clients) with spoilt | ⟨same, after⟩
      · exact .inl spoilt
      · refine .inr ⟨same, Alike.put ?_ name ⟨owns, after.clients⟩⟩
        exact ⟨after.state, after.logs, h.defaultLimit, h.builders, h.slots⟩

/-- Over a whole run, the replies are the same, and the workshops correspond at the end. -/
theorem run (h : w.Alike L logs v) (hL : ∀ i, Bench.Lockstep Spoilt ((L i).Benches logs))
    (orders : List (Order ι)) :
    Spoilt (w.run orders).state ∨
      v.replies orders = w.replies orders ∧ Alike L logs (w.run orders) (v.run orders) := by
  induction orders generalizing w v with
  | nil => exact .inr ⟨rfl, h⟩
  | cons order rest ih =>
    rcases h.answer hL order with spoilt | ⟨same, after⟩
    · exact .inl (run_persists (fun i => (L i).lasting) rest spoilt)
    · refine (ih after).imp_right fun ⟨replies, after⟩ => ⟨?_, after⟩
      rw [Workshop.replies, Workshop.replies, same, replies]

end Alike

end Workshop

end

/-! ## Records make no difference -/

theorem Maker.recorded_engine_persists (M : Maker σ) : M.recorded.engine.Persists fun _ => False :=
  M.recorded.engine.persists_const False

theorem Maker.recorded_persists (M : Maker σ) : M.recorded.Persists fun _ => False :=
  M.recorded.persists_const False

/-- A recorded engine answers like the one that is recorded. -/
def Maker.recordedLikeness (M : Maker σ) :
    M.recorded.Likeness M (fun _ => False) fun r s => s = r.state where
  code c d := d = c.value
  buffer b b' := b' = b.value
  compile := by
    rintro pattern flags r _ rfl
    refine .inr ?_
    simp only [Maker.recorded, Engine.recorded]
    rcases M.engine.compile pattern flags r.state with ⟨failure | c, s⟩
    · exact ⟨.error failure, rfl⟩
    · exact ⟨.ok rfl, rfl⟩
  makeBuffer := by
    rintro c _ r _ rfl rfl
    refine .inr ?_
    simp only [Maker.recorded, Engine.recorded]
    rcases M.engine.makeBuffer c.value r.state with ⟨_ | b, s⟩
    · exact ⟨.none, rfl⟩
    · exact ⟨.some rfl, rfl⟩
  groupCount := by
    rintro c _ r _ rfl rfl
    exact .inr ⟨rfl, rfl⟩
  groupNumber? := by
    rintro c _ name r _ rfl rfl
    exact .inr ⟨rfl, rfl⟩
  message := by
    rintro failure r _ rfl
    exact .inr ⟨rfl, rfl⟩
  releaseCode := by
    rintro c _ r _ rfl rfl
    exact .inr rfl
  releaseBuffer := by
    rintro b _ r _ rfl rfl
    exact .inr rfl
  persists := M.recorded_engine_persists
  own := Eq
  make := by
    rintro r _ rfl
    exact .inr ⟨.refl _, rfl⟩
  unmake := by
    rintro x _ r _ rfl rfl
    exact .inr rfl
  lasting := M.recorded_persists

theorem Maker.recordedLikeness_searches (M : Maker σ) : M.recordedLikeness.Searches where
  unset := rfl
  execute := by
    rintro c _ subject start limit b _ r _ rfl rfl rfl
    exact .inr ⟨rfl, rfl, rfl⟩
  output := by
    rintro b _ r _ rfl rfl
    exact .inr ⟨rfl, rfl⟩

/-- Engines that are recorded reply as they do without a record. -/
theorem Workshop.replies_recorded (M : ι → Maker σ) (s : σ) (log : Log) (limit : UInt32)
    (builders : List (String × MatcherBuilder)) (orders : List (Order ι)) :
    (opened { state := s } log limit builders : Workshop fun i => (M i).recorded).replies orders =
      (opened s log limit builders : Workshop M).replies orders := by
  have lockstep (i : ι) : Bench.Lockstep (fun _ => False) ((M i).recordedLikeness.Benches Eq) := by
    have add (l k : Log) (e : Event) (h : l = k) : l.add e = k.add e := by rw [h]
    exact Engine.Likeness.lockstep add
      ((M i).recordedLikeness_searches.inStep (fun _ _ h => by rw [h]) add)
  have start := Alike.opened (fun i => (M i).recordedLikeness) (s := { state := s }) rfl
    (rfl : log = log) limit builders
  rcases start.run lockstep orders with spoilt | ⟨same, -⟩
  · cases spoilt
  · exact same.symm

end BoundedRegex
