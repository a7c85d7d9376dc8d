import BoundedRegex.Proofs.Likeness

/-!
# Engines that do what another one does

Engines may differ in what no matcher can see: where their codes and buffers lie, how these are
numbered, or what else there is in their states. A projection takes all that away from an engine and
leaves another one. It may have to be given up at some point, and then the states of the engine
are spoilt from there on.

A matcher then does the same over both engines. It tells its caller the same, reports the same, and
works on benches that differ only in what has been taken away, unless something has been spoilt.
-/
namespace BoundedRegex

variable {σ τ α β : Type}

/-! ## Projections -/

/-- An answer with the state after it, and what a projection should leave of both. -/
def Shows (Spoilt : σ → Prop) (state : σ → τ) (f : α → β) (x : α × σ) (y : β × τ) : Prop :=
  Spoilt x.2 ∨ y = (f x.1, state x.2)

/-- What has to be taken away from an engine to leave another one. -/
structure Engine.Projection (E : Engine σ) (A : Engine τ) (Spoilt : σ → Prop) where
  state : σ → τ
  code : E.Code → A.Code
  buffer : E.Buffer → A.Buffer
  unset : A.unset = E.unset
  compile : ∀ pattern flags s, Shows Spoilt state (Except.map code)
    (E.compile pattern flags s) (A.compile pattern flags (state s))
  makeBuffer : ∀ c s, Shows Spoilt state (Option.map buffer)
    (E.makeBuffer c s) (A.makeBuffer (code c) (state s))
  execute : ∀ c subject start limit b s,
    Spoilt (E.execute c subject start limit b s).2.2 ∨
      A.execute (code c) subject start limit (buffer b) (state s) =
        ((E.execute c subject start limit b s).1, buffer (E.execute c subject start limit b s).2.1,
          state (E.execute c subject start limit b s).2.2)
  output : ∀ b s, Shows Spoilt state id (E.output b s) (A.output (buffer b) (state s))
  groupCount : ∀ c s, Shows Spoilt state id (E.groupCount c s) (A.groupCount (code c) (state s))
  groupNumber? : ∀ c name s, Shows Spoilt state id
    (E.groupNumber? c name s) (A.groupNumber? (code c) name (state s))
  message : ∀ failure s, Shows Spoilt state id
    (E.message failure s) (A.message failure (state s))
  releaseCode : ∀ c s, Shows Spoilt state id
    ((), E.releaseCode c s) ((), A.releaseCode (code c) (state s))
  releaseBuffer : ∀ b s, Shows Spoilt state id
    ((), E.releaseBuffer b s) ((), A.releaseBuffer (buffer b) (state s))
  /-- What is spoilt stays so. -/
  persists : E.Persists Spoilt

/-- A projection of the making of engines as well. -/
structure Maker.Projection (M : Maker σ) (A : Maker τ) (Spoilt : σ → Prop) extends
    M.engine.Projection A.engine Spoilt where
  own : M.Own → A.Own
  make : ∀ s, Shows Spoilt state (Except.map own) (M.make s) (A.make (state s))

namespace Engine.Projection
open Bench

variable {E : Engine σ} {A : Engine τ} {Spoilt : σ → Prop} (P : E.Projection A Spoilt)

def prepared (p : Prepared E) : Prepared A := ⟨p.pattern, p.flags, P.code p.code, P.buffer p.buffer⟩

def matcher (m : Matcher E) : Matcher A := ⟨m.prepared.map P.prepared, m.depthLimit⟩

def client (c : Client E) : Client A := ⟨P.matcher c.matcher, c.spans, c.views⟩

/-- A bench with nothing taken away from its log. -/
def bench (b : Bench E) : Bench A :=
  { P.client b.toClient with state := P.state b.state, log := b.log }

@[simp] theorem pattern_matcher (m : Matcher E) : (P.matcher m).pattern = m.pattern := by
  rw [Matcher.pattern, Matcher.pattern, matcher, Option.map_map]
  rfl

@[simp] theorem flags_matcher (m : Matcher E) : (P.matcher m).flags = m.flags := by
  rw [Matcher.flags, Matcher.flags, matcher, Option.map_map]
  rfl

@[simp] theorem isSome_matcher (m : Matcher E) :
    (P.matcher m).prepared.isSome = m.prepared.isSome :=
  Option.isSome_map

@[simp] theorem inspected_matcher (m : Matcher E) : (P.matcher m).inspected = m.inspected := by
  simp only [Matcher.inspected, pattern_matcher, flags_matcher, isSome_matcher]
  rfl

/-- Two benches that differ only in what a projection takes away and in what had been reported before,
`base` and `base'`. -/
structure Mirrors (base base' : List Record) (b : Bench E) (a : Bench A) : Prop where
  client : a.toClient = P.client b.toClient
  state : a.state = P.state b.state
  level : a.log.level = b.log.level
  records : ∃ new, b.log.records = base ++ new ∧ a.log.records = base' ++ new

variable {P} {base base' : List Record} {b : Bench E} {a : Bench A}

namespace Mirrors

theorem matcher (h : P.Mirrors base base' b a) : a.matcher = P.matcher b.matcher :=
  congrArg Client.matcher h.client

/-- Benches on which the same has been reported differ only in what is taken away. -/
theorem eq_bench (h : P.Mirrors base base b a) : a = P.bench b := by
  obtain ⟨new, hb, ha⟩ := h.records
  obtain ⟨client, state, ⟨level, records⟩⟩ := a
  obtain rfl : records = b.log.records := ha.trans hb.symm
  obtain rfl : level = b.log.level := h.level
  obtain rfl : client = P.client b.toClient := h.client
  obtain rfl : state = P.state b.state := h.state
  rfl

end Mirrors

theorem mirrors_bench (b : Bench E) : P.Mirrors b.log.records b.log.records b (P.bench b) :=
  ⟨rfl, rfl, rfl, [], (List.append_nil _).symm, (List.append_nil _).symm⟩

/-! ## Work over both engines -/

variable (P) in
/-- Some work over both engines comes to the same, unless something is spoilt at its end. -/
structure Tracks (w : Work E α) (v : Work A β) (f : α → β) : Prop where
  keeps : Keeps (fun b => Spoilt b.state) w
  follows : ∀ base base' b a, P.Mirrors base base' b a →
    Spoilt (w.run b).2.state ∨
      (v.run a).1 = (w.run b).1.map f ∧ P.Mirrors base base' (w.run b).2 (v.run a).2

variable (P)

/-- What a projection leaves of an engine answers like it. -/
def likeness : E.Likeness A Spoilt fun s t => t = P.state s where
  code c d := d = P.code c
  buffer b b' := b' = P.buffer b
  compile := by
    rintro pattern flags s _ rfl
    refine (P.compile pattern flags s).imp_right fun shown => ?_
    rw [shown]
    cases (E.compile pattern flags s).1 with
    | error failure => exact ⟨.error failure, rfl⟩
    | ok c => exact ⟨.ok rfl, rfl⟩
  makeBuffer := by
    rintro c _ s _ rfl rfl
    refine (P.makeBuffer c s).imp_right fun shown => ?_
    rw [shown]
    cases (E.makeBuffer c s).1 with
    | none => exact ⟨.none, rfl⟩
    | some b => exact ⟨.some rfl, rfl⟩
  groupCount := by
    rintro c _ s _ rfl rfl
    exact (P.groupCount c s).imp_right fun shown => by simp only [shown, id_eq, and_self]
  groupNumber? := by
    rintro c _ name s _ rfl rfl
    exact (P.groupNumber? c name s).imp_right fun shown => by simp only [shown, id_eq, and_self]
  message := by
    rintro failure s _ rfl
    exact (P.message failure s).imp_right fun shown => by simp only [shown, id_eq, and_self]
  releaseCode := by
    rintro c _ s _ rfl rfl
    exact (P.releaseCode c s).imp_right (congrArg Prod.snd)
  releaseBuffer := by
    rintro b _ s _ rfl rfl
    exact (P.releaseBuffer b s).imp_right (congrArg Prod.snd)
  persists := P.persists

theorem likeness_searches : P.likeness.Searches where
  unset := P.unset
  execute := by
    rintro c _ subject start limit b _ s _ rfl rfl rfl
    refine (P.execute c subject start limit b s).imp_right fun shown => ?_
    rw [shown]
    exact ⟨rfl, rfl, rfl⟩
  output := by
    rintro b _ s _ rfl rfl
    exact (P.output b s).imp_right fun shown => by simp only [shown, id_eq, and_self]

variable {P}

/-- To two logs of one level, the same has been added since they held `base` and `base'`. -/
def SameSince (base base' : List Record) (l k : Log) : Prop :=
  k.level = l.level ∧ ∃ new, l.records = base ++ new ∧ k.records = base' ++ new

/-- An event is reported in both logs or in neither. -/
theorem SameSince.add {l k : Log} (h : SameSince base base' l k) (e : Event) :
    SameSince base base' (l.add e) (k.add e) := by
  obtain ⟨level, new, hl, hk⟩ := h
  rw [Log.add, Log.add, level]
  split
  · exact ⟨rfl, new ++ [e.record], by simp only [hl, List.append_assoc],
      by simp only [hk, List.append_assoc]⟩
  · exact ⟨level, new, hl, hk⟩

theorem clients_iff {c : Client E} {d : Client A} : P.likeness.Clients c d ↔ d = P.client c := by
  obtain ⟨⟨prepared, limit⟩, spans, views⟩ := c
  obtain ⟨⟨prepared', limit'⟩, spans', views'⟩ := d
  constructor
  · rintro ⟨hp, hlimit, hspans, hviews⟩
    cases hlimit
    cases hspans
    cases hviews
    cases hp with
    | none => rfl
    | @some p q same =>
      obtain ⟨pattern, flags, code, buffer⟩ := q
      obtain ⟨hpattern, hflags, hcode, hbuffer⟩ := same
      cases hpattern
      cases hflags
      cases hcode
      cases hbuffer
      rfl
  · intro h
    cases h
    refine ⟨?_, rfl, rfl, rfl⟩
    cases prepared with
    | none => exact .none
    | some p => exact .some ⟨rfl, rfl, rfl, rfl⟩

theorem mirrors_iff :
    P.Mirrors base base' b a ↔ P.likeness.Benches (SameSince base base') b a :=
  ⟨fun h => ⟨clients_iff.mpr h.client, h.state, h.level, h.records⟩,
    fun h => ⟨clients_iff.mp h.clients, h.state, h.logs.1, h.logs.2⟩⟩

variable (P)

/-- Every operation comes to the same over both engines. -/
theorem tracks_perform (o : Operation) :
    P.Tracks (Bench.perform o : Work E Reply) (Bench.perform o : Work A Reply) id := by
  have inStep (base base' : List Record) :
      InStep Spoilt (P.likeness.Benches (SameSince base base')) (Bench.perform o) (Bench.perform o) := by
    have add (l k : Log) (e : Event) (h : SameSince base base' l k) := h.add e
    have search := P.likeness_searches.inStep (fun _ _ h => h.1) add
    exact (P.likeness.lockstep add search).perform o
  refine ⟨(inStep [] []).keeps, ?_⟩
  intro base base' b a h
  rcases (inStep base base').meets b a (mirrors_iff.mp h) with spoilt | ⟨same, after⟩
  · exact .inl spoilt
  · exact .inr ⟨same.trans (congrFun Except.map_id _).symm, mirrors_iff.mpr after⟩

/-- Where nothing is ever spoilt, an operation does the same on what is left of a bench. -/
theorem run_perform (P : E.Projection A fun _ => False) (o : Operation) (b : Bench E) :
    (perform o : Work A Reply).run (P.bench b) =
      (((perform o : Work E Reply).run b).1, P.bench ((perform o : Work E Reply).run b).2) := by
  rcases (P.tracks_perform o).follows _ _ b _ (mirrors_bench b) with spoilt | ⟨same, mirrors⟩
  · cases spoilt
  · rw [congrFun Except.map_id _, id_eq] at same
    rw [← same, ← mirrors.eq_bench, Prod.mk.eta]

end Engine.Projection

end BoundedRegex
