import BoundedRegex.Proofs.Account

/-!
# Benches in lockstep

Two matchers with different engines are asked for the same. A relation between their benches says how
they correspond. Work on both is in step if it comes to the same result and leaves benches that
correspond again; an abort is a result too. The relation may have to be given up at some point, and then
the states of the first engine are spoilt from there on.

An operation is in step as soon as the few kinds of work that it is made of are. Searches need not come to
the same groups for that, only to groups that are decoded alike.
-/
namespace BoundedRegex

variable {σ τ α β γ δ ε : Type}

/-- The subject that an operation searches. -/
def Operation.subject? : Operation → Option ByteArray
  | .sweep subject => some subject
  | o => o.search?.map Prod.fst

/-! ## Properties that an engine does not end -/

/-- Nothing that an engine does ends a property of its states. -/
structure Engine.Persists (E : Engine σ) (I : σ → Prop) : Prop where
  compile : ∀ pattern flags {s}, I s → I (E.compile pattern flags s).2
  makeBuffer : ∀ c {s}, I s → I (E.makeBuffer c s).2
  execute : ∀ c subject start limit b {s}, I s → I (E.execute c subject start limit b s).2.2
  output : ∀ b {s}, I s → I (E.output b s).2
  groupCount : ∀ c {s}, I s → I (E.groupCount c s).2
  groupNumber? : ∀ c name {s}, I s → I (E.groupNumber? c name s).2
  message : ∀ failure {s}, I s → I (E.message failure s).2
  releaseCode : ∀ c {s}, I s → I (E.releaseCode c s)
  releaseBuffer : ∀ b {s}, I s → I (E.releaseBuffer b s)

/-- What does not depend on the state is not ended. -/
theorem Engine.persists_const (E : Engine σ) (p : Prop) : E.Persists fun _ => p where
  compile _ _ _ h := h
  makeBuffer _ _ h := h
  execute _ _ _ _ _ _ h := h
  output _ _ h := h
  groupCount _ _ h := h
  groupNumber? _ _ _ h := h
  message _ _ h := h
  releaseCode _ _ h := h
  releaseBuffer _ _ h := h

/-- An account of nothing at all. -/
def Engine.Persists.account {E : Engine σ} {I : σ → Prop} (h : E.Persists I) :
    E.Account fun s (_ : Multiset Empty) => I s where
  code _ := 0
  buffer _ := 0
  compile pattern flags s held hs := by
    have after := h.compile pattern flags hs
    rcases hc : E.compile pattern flags s with ⟨_ | _, s'⟩ <;> rw [hc] at after <;> exact after
  makeBuffer c s held hs := by
    have after := h.makeBuffer c hs
    rcases hm : E.makeBuffer c s with ⟨_ | _, s'⟩ <;> rw [hm] at after <;> exact after
  execute c subject start limit b s held hs := h.execute c subject start limit b hs
  output b s held hs := h.output b hs
  groupCount c s held hs := h.groupCount c hs
  groupNumber? c name s held hs := h.groupNumber? c name hs
  message failure s held hs := h.message failure hs
  releaseCode c s held hs := h.releaseCode c hs
  releaseBuffer b s held hs := h.releaseBuffer b hs

/-- Nothing that is done with engines of a kind ends a property of their states. -/
structure Maker.Persists (M : Maker σ) (I : σ → Prop) : Prop extends M.engine.Persists I where
  make : ∀ {s}, I s → I (M.make s).2
  unmake : ∀ own {s}, I s → I (M.unmake own s)

theorem Maker.persists_const (M : Maker σ) (p : Prop) : M.Persists fun _ => p where
  toPersists := M.engine.persists_const p
  make h := h
  unmake _ _ h := h

theorem Engine.Persists.kept {E : Engine σ} {I : σ → Prop} (h : E.Persists I) :
    Bench.Kept fun b : Bench E => I b.state :=
  h.account.kept 0

/-! ## Answers that agree -/

/-- Results that agree: the same error, or values that correspond. -/
inductive Agree (r : α → β → Prop) : Except ε α → Except ε β → Prop where
  | error (e : ε) : Agree r (.error e) (.error e)
  | ok {a : α} {b : β} (h : r a b) : Agree r (.ok a) (.ok b)

theorem Agree.of_refl {r : α → α → Prop} (hr : ∀ a, r a a) (x : Except ε α) : Agree r x x := by
  cases x with
  | error e => exact .error e
  | ok a => exact .ok (hr a)

theorem Agree.refl (x : Except ε α) : Agree Eq x x := .of_refl Eq.refl x

theorem Agree.mono {r r' : α → β → Prop} {x : Except ε α} {y : Except ε β} (h : Agree r x y)
    (hr : ∀ a b, r a b → r' a b) : Agree r' x y := by
  cases h with
  | error e => exact .error e
  | ok hab => exact .ok (hr _ _ hab)

theorem Agree.eq {x y : Except ε α} (h : Agree Eq x y) : y = x := by
  cases h with
  | error e => rfl
  | ok same => rw [same]

/-- The same outcome, with values that correspond. -/
inductive Outcome.Rel (r : α → β → Prop) : Outcome α → Outcome β → Prop where
  | found {a : α} {b : β} (h : r a b) : Rel r (.found a) (.found b)
  | noMatch : Rel r .noMatch .noMatch
  | depthLimitExceeded : Rel r .depthLimitExceeded .depthLimitExceeded

theorem Outcome.Rel.refl {r : α → α → Prop} (hr : ∀ a, r a a) (o : Outcome α) : Rel r o o := by
  cases o with
  | found a => exact .found (hr a)
  | noMatch => exact .noMatch
  | depthLimitExceeded => exact .depthLimitExceeded

theorem Outcome.Rel.eq {o o' : Outcome α} (h : Rel Eq o o') : o' = o := by
  cases h with
  | found same => rw [same]
  | noMatch => rfl
  | depthLimitExceeded => rfl

/-- Groups that are decoded alike, whichever offset marks the unset ones. -/
structure Groups.Alike (g h : Groups) : Prop where
  all : h.all = g.all
  overall : h.overall = g.overall

namespace Groups.Alike

variable {g h : Groups}

theorem refl (g : Groups) : g.Alike g := ⟨rfl, rfl⟩

theorem eachSpan (H : g.Alike h) : h.eachSpan = g.eachSpan := by
  rw [Groups.eachSpan, Groups.eachSpan, H.all]

theorem eachView (H : g.Alike h) (subject : ByteArray) : h.eachView subject = g.eachView subject := by
  rw [Groups.eachView, Groups.eachView, H.all]

theorem overallSpan (H : g.Alike h) : h.overallSpan = g.overallSpan := by
  rw [Groups.overallSpan, Groups.overallSpan, H.overall]

theorem overallBytes (H : g.Alike h) (subject : ByteArray) :
    h.overallBytes subject = g.overallBytes subject := by
  rw [Groups.overallBytes, Groups.overallBytes, H.overall]

end Groups.Alike

/-- Values that correspond, with states that correspond, unless something has been spoilt. -/
def Meets (Spoilt : σ → Prop) (state : σ → τ → Prop) (r : α → β → Prop) (x : α × σ) (y : β × τ) :
    Prop :=
  Spoilt x.2 ∨ r x.1 y.1 ∧ state x.2 y.2

theorem Meets.mono {Spoilt : σ → Prop} {state : σ → τ → Prop} {r r' : α → β → Prop} {x : α × σ}
    {y : β × τ} (h : Meets Spoilt state r x y) (hr : ∀ a b, r a b → r' a b) :
    Meets Spoilt state r' x y :=
  Or.imp_right (fun ⟨hab, hst⟩ => ⟨hr _ _ hab, hst⟩) h

/-! ## Work in step -/

namespace Bench

variable {E : Engine σ} {A : Engine τ}

/-- Some work over both engines comes to the same result, and to benches that correspond. -/
structure InStep (Spoilt : σ → Prop) (R : Bench E → Bench A → Prop) (w : Work E α) (v : Work A α) :
    Prop where
  keeps : Keeps (fun b => Spoilt b.state) w
  meets : ∀ b a, R b a →
    Spoilt (w.run b).2.state ∨ (v.run a).1 = (w.run b).1 ∧ R (w.run b).2 (v.run a).2

variable {Spoilt : σ → Prop} {R : Bench E → Bench A → Prop} {w : Work E α} {v : Work A α}

namespace InStep

theorem pure (x : α) : InStep Spoilt R (Pure.pure x : Work E α) (Pure.pure x : Work A α) where
  keeps := Keeps.pure x
  meets := fun _ _ h => .inr ⟨rfl, h⟩

theorem bind {f : α → Work E β} {g : α → Work A β} (hw : InStep Spoilt R w v)
    (hf : ∀ x, InStep Spoilt R (f x) (g x)) : InStep Spoilt R (w >>= f) (v >>= g) where
  keeps := hw.keeps.bind fun x => (hf x).keeps
  meets := by
    intro b a h
    have first := hw.meets b a h
    rw [run_bind, run_bind]
    rcases hb : w.run b with ⟨x, b'⟩
    rcases ha : v.run a with ⟨y, a'⟩
    rw [hb, ha] at first
    rcases first with spoilt | ⟨same, after⟩
    · -- What is spoilt stays so, whether or not the first part has been aborted.
      refine .inl ?_
      cases x with
      | error e => exact spoilt
      | ok x => exact (hf x).keeps b' spoilt
    · obtain rfl : y = x := same
      cases y with
      | error e => exact .inr ⟨rfl, after⟩
      | ok x => exact (hf x).meets b' a' after

/-- A reply is made of what some work has come to. -/
theorem reply (hw : InStep Spoilt R w v) (f : α → β) :
    InStep Spoilt R (w >>= fun x => Pure.pure (f x)) (v >>= fun x => Pure.pure (f x)) :=
  hw.bind fun x => pure (f x)

/-- What is read off a bench is the same if corresponding benches agree on it. -/
theorem read {φ : Bench E → α} {ψ : Bench A → α} (h : ∀ b a, R b a → ψ a = φ b) :
    InStep Spoilt R (get >>= fun b => Pure.pure (φ b)) (get >>= fun a => Pure.pure (ψ a)) where
  keeps := fun _ hb => hb
  meets := fun b a hR => .inr ⟨congrArg Except.ok (h b a hR), hR⟩

theorem change {f : Bench E → Bench E} {g : Bench A → Bench A} (hf : ∀ b, (f b).state = b.state)
    (h : ∀ b a, R b a → R (f b) (g a)) :
    InStep Spoilt R (modify f : Work E Unit) (modify g : Work A Unit) where
  keeps := by
    intro b hb
    rw [run_modify, hf]
    exact hb
  meets := fun b a hR => .inr ⟨rfl, h b a hR⟩

theorem check (x : Except Abort α) :
    InStep Spoilt R (Bench.check x : Work E α) (Bench.check x : Work A α) where
  keeps := by
    intro b hb
    rwa [run_check]
  meets := by
    intro b a h
    rw [run_check, run_check]
    exact .inr ⟨rfl, h⟩

theorem writeEach {f : α → Bench E → Bench E} {g : α → Bench A → Bench A}
    (h : ∀ x, InStep Spoilt R (modify (f x) : Work E Unit) (modify (g x) : Work A Unit))
    (values : List (Except Abort α)) :
    InStep Spoilt R (Bench.writeEach f values) (Bench.writeEach g values) := by
  induction values with
  | nil => exact pure ()
  | cons value rest ih =>
    rw [writeEach_cons, writeEach_cons]
    exact ((check value).bind h).bind fun _ => ih

theorem mapM {f : γ → Work E α} {g : γ → Work A α} (h : ∀ c, InStep Spoilt R (f c) (g c))
    (cs : List γ) : InStep Spoilt R (cs.mapM f) (cs.mapM g) := by
  induction cs with
  | nil => exact pure []
  | cons c rest ih =>
    rw [List.mapM_cons, List.mapM_cons]
    exact (h c).bind fun x => ih.reply (x :: ·)

end InStep

/-- Some work over both engines comes to results that agree, and to benches that correspond. -/
structure InStepBy (r : α → α → Prop) (Spoilt : σ → Prop) (R : Bench E → Bench A → Prop) (w : Work E α)
    (v : Work A α) : Prop where
  keeps : Keeps (fun b => Spoilt b.state) w
  meets : ∀ b a, R b a →
    Spoilt (w.run b).2.state ∨ Agree r (w.run b).1 (v.run a).1 ∧ R (w.run b).2 (v.run a).2

namespace InStepBy

variable {r : α → α → Prop}

/-- What goes on with results that agree is in step again. -/
theorem bind {f : α → Work E β} {g : α → Work A β} (hw : InStepBy r Spoilt R w v) (hr : ∀ x, r x x)
    (hf : ∀ x y, r x y → InStep Spoilt R (f x) (g y)) : InStep Spoilt R (w >>= f) (v >>= g) where
  keeps := hw.keeps.bind fun x => (hf x x (hr x)).keeps
  meets := by
    intro b a h
    have first := hw.meets b a h
    rw [run_bind, run_bind]
    rcases hb : w.run b with ⟨x, b'⟩
    rcases ha : v.run a with ⟨y, a'⟩
    rw [hb, ha] at first
    rcases first with spoilt | ⟨agree, after⟩
    · -- What is spoilt stays so, whether or not the first part has been aborted.
      refine .inl ?_
      cases x with
      | error e => exact spoilt
      | ok x => exact (hf x x (hr x)).keeps b' spoilt
    · cases agree with
      | error e => exact .inr ⟨rfl, after⟩
      | ok same => exact (hf _ _ same).meets b' a' after

theorem of_inStep (h : InStep Spoilt R w v) (hr : ∀ x, r x x) : InStepBy r Spoilt R w v where
  keeps := h.keeps
  meets := by
    intro b a hR
    refine (h.meets b a hR).imp_right fun ⟨same, after⟩ => ⟨?_, after⟩
    rw [same]
    exact .of_refl hr _

theorem inStep (h : InStepBy Eq Spoilt R w v) : InStep Spoilt R w v where
  keeps := h.keeps
  meets := fun b a hR => (h.meets b a hR).imp_right fun ⟨agree, after⟩ => ⟨agree.eq, after⟩

end InStepBy

section
variable {subject : ByteArray} {start : Nat}

/-- What is made of the outcome of a search is in step, if groups that are alike come to the same. -/
theorem InStepBy.traverse
    (h : InStepBy (Outcome.Rel Groups.Alike) Spoilt R (search subject start) (search subject start))
    {f : Groups → Work E β} {g : Groups → Work A β}
    (hf : ∀ x y, x.Alike y → InStep Spoilt R (f x) (g y)) :
    InStep Spoilt R (search subject start >>= fun o => o.traverse f)
      (search subject start >>= fun o => o.traverse g) := by
  apply h.bind (Outcome.Rel.refl Groups.Alike.refl)
  rintro _ _ (same | _ | _)
  · exact (hf _ _ same).reply Outcome.found
  · exact .pure Outcome.noMatch
  · exact .pure Outcome.depthLimitExceeded

theorem InStepBy.find
    (h : InStepBy (Outcome.Rel Groups.Alike) Spoilt R (search subject start) (search subject start)) :
    InStep Spoilt R (Bench.find subject start) (Bench.find subject start) := by
  apply h.traverse
  intro x y same
  rw [same.overallSpan]
  exact .check _

theorem InStep.attempt (h : InStep Spoilt R (find subject start) (find subject start)) :
    InStep Spoilt R (Bench.attempt subject start) (Bench.attempt subject start) where
  keeps := h.keeps
  meets := by
    intro b a hR
    rcases h.meets b a hR with spoilt | ⟨same, after⟩
    · exact .inl spoilt
    · rw [run_attempt, run_attempt, same]
      exact .inr ⟨rfl, after⟩

end

/-- Benches that correspond have the same vectors. -/
structure Vectored (R : Bench E → Bench A → Prop) : Prop where
  spans : ∀ b a, R b a → a.spans = b.spans
  views : ∀ b a, R b a → a.views = b.views
  /-- The same may be written to the vectors of both callers. -/
  vectors : ∀ b a spans views, R b a →
    R { b with spans := spans, views := views } { a with spans := spans, views := views }

/-- What operations that do not search are made of is in step, on benches that correspond. -/
structure Quiet (Spoilt : σ → Prop) (R : Bench E → Bench A → Prop) : Prop extends Vectored R where
  /-- Matchers that correspond are shown the same. -/
  inspected : ∀ b a, R b a → a.matcher.inspected = b.matcher.inspected
  clear : InStep Spoilt R clear clear
  prepare : ∀ pattern flags, InStep Spoilt R (prepare pattern flags) (prepare pattern flags)
  groupCount : InStep Spoilt R groupCount groupCount
  groupNumber? : ∀ name, InStep Spoilt R (groupNumber? name) (groupNumber? name)

/-- What operations on benches that correspond are made of is in step. -/
structure Lockstep (Spoilt : σ → Prop) (R : Bench E → Bench A → Prop) : Prop extends Quiet Spoilt R where
  search : ∀ subject start, InStep Spoilt R (search subject start) (search subject start)

/-- How a matcher is shown is a matter of what it says of itself. -/
theorem shown_of_inspected {m : Matcher E} {n : Matcher A} (h : n.inspected = m.inspected) :
    n.shown = m.shown := by
  obtain ⟨isSome, pattern, flags, limit⟩ := Reply.inspected.inj h
  rw [Matcher.shown, Matcher.shown, isSome, pattern, flags, limit]

namespace Vectored

variable (V : Vectored R)
include V

/-- The same may be done to the spans of both callers. -/
theorem changeSpans (f : List Span → List Span) :
    InStep Spoilt R (modify fun b => { b with spans := f b.spans } : Work E Unit)
      (modify fun a => { a with spans := f a.spans } : Work A Unit) := by
  refine InStep.change (fun _ => rfl) ?_
  intro b a h
  rw [V.spans b a h, V.views b a h]
  exact V.vectors b a (f b.spans) b.views h

theorem changeViews (f : List ByteArray → List ByteArray) :
    InStep Spoilt R (modify fun b => { b with views := f b.views } : Work E Unit)
      (modify fun a => { a with views := f a.views } : Work A Unit) := by
  refine InStep.change (fun _ => rfl) ?_
  intro b a h
  rw [V.spans b a h, V.views b a h]
  exact V.vectors b a b.spans (f b.views) h

theorem seed (spans : List Span) (views : List ByteArray) :
    InStep Spoilt R (modify fun b => { b with spans := spans, views := views } : Work E Unit)
      (modify fun a => { a with spans := spans, views := views } : Work A Unit) :=
  InStep.change (fun _ => rfl) fun b a h => V.vectors b a spans views h

theorem captures {subject : ByteArray} {start : Nat}
    (h : InStepBy (Outcome.Rel Groups.Alike) Spoilt R (search subject start) (search subject start)) :
    InStep Spoilt R (captures subject start) (captures subject start) := by
  apply h.traverse
  intro x y same
  rw [same.eachSpan]
  exact (V.changeSpans fun _ => []).bind fun _ =>
    .writeEach (fun span => V.changeSpans (· ++ [span])) x.eachSpan

theorem capturesBytes {subject : ByteArray} {start : Nat}
    (h : InStepBy (Outcome.Rel Groups.Alike) Spoilt R (search subject start) (search subject start)) :
    InStep Spoilt R (capturesBytes subject start) (capturesBytes subject start) := by
  apply h.traverse
  intro x y same
  rw [same.eachView]
  exact (V.changeViews fun _ => []).bind fun _ =>
    .writeEach (fun view => V.changeViews (· ++ [view])) (x.eachView subject)

/-- Every operation that searches a subject is in step, if searches of the subject are. -/
theorem perform_search {subject : ByteArray}
    (H : ∀ start, InStepBy (Outcome.Rel Groups.Alike) Spoilt R (search subject start)
      (search subject start))
    {o : Operation} (ho : o.subject? = some subject) :
    InStep Spoilt R (Bench.perform o) (Bench.perform o) := by
  cases o <;> cases ho
  case isMatch start =>
    apply InStep.reply
    apply (H start).bind (Outcome.Rel.refl Groups.Alike.refl)
    rintro _ _ (_ | _ | _)
    · exact .pure (Outcome.found ())
    · exact .pure Outcome.noMatch
    · exact .pure Outcome.depthLimitExceeded
  case find start => exact (H start).find.reply _
  case findBytes start =>
    apply InStep.reply
    apply (H start).traverse
    intro x y same
    rw [same.overallBytes]
    exact .check _
  case captures start =>
    apply (V.captures (H start)).bind
    intro o
    apply InStep.read
    intro b a h
    rw [V.spans b a h]
  case capturesBytes start =>
    apply (V.capturesBytes (H start)).bind
    intro o
    apply InStep.read
    intro b a h
    rw [V.views b a h]
  case sweep => exact (InStep.mapM (fun start => (H start).find.attempt) _).reply _

end Vectored

/-- Every operation that does not search is in step. -/
theorem Quiet.perform (Q : Quiet Spoilt R) {o : Operation} (ho : o.subject? = none) :
    InStep Spoilt R (perform o) (perform o) := by
  cases o with
  | prepare pattern flags => exact (Q.prepare pattern flags).reply _
  | clear => exact Q.clear.reply _
  | inspect => exact InStep.read Q.inspected
  | describe spreadOut =>
    apply InStep.read
    intro b a h
    rw [shown_of_inspected (Q.inspected b a h)]
  | groupCount => exact Q.groupCount.reply _
  | groupNumber name => exact (Q.groupNumber? name).reply _
  | seed spans views => exact (Q.seed spans views).reply _
  | _ => cases ho

/-- Every operation is in step. -/
theorem Lockstep.perform (L : Lockstep Spoilt R) (o : Operation) :
    InStep Spoilt R (perform o) (perform o) := by
  cases ho : o.subject? with
  | none => exact L.toQuiet.perform ho
  | some subject =>
    have alike (start : Nat) :=
      InStepBy.of_inStep (L.search subject start) (Outcome.Rel.refl Groups.Alike.refl)
    exact L.toQuiet.perform_search alike ho

end Bench

end BoundedRegex
