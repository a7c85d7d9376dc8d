import BoundedRegex.Proofs.Lockstep

/-!
# Engines that answer alike

Two engines answer alike if each call of one has an answer of the other that agrees with it, for codes,
buffers and states that correspond. Then matchers over them are in step about all that does not search. They
are so about searches if the engines leave groups that correspond. Where the two do not report the same, a
search that fails is a matter of its own, since its report asks the engine.
-/
namespace BoundedRegex

variable {σ τ α β : Type}

/-- How the codes, the buffers and the states of two engines correspond, such that their answers agree.
Searching is left out. -/
structure Engine.Likeness (E : Engine σ) (A : Engine τ) (Spoilt : σ → Prop) (state : σ → τ → Prop) where
  code : E.Code → A.Code → Prop
  buffer : E.Buffer → A.Buffer → Prop
  compile : ∀ pattern flags {s t}, state s t →
    Meets Spoilt state (Agree code) (E.compile pattern flags s) (A.compile pattern flags t)
  makeBuffer : ∀ {c d s t}, code c d → state s t →
    Meets Spoilt state (Option.Rel buffer) (E.makeBuffer c s) (A.makeBuffer d t)
  groupCount : ∀ {c d s t}, code c d → state s t →
    Meets Spoilt state Eq (E.groupCount c s) (A.groupCount d t)
  groupNumber? : ∀ {c d} name {s t}, code c d → state s t →
    Meets Spoilt state Eq (E.groupNumber? c name s) (A.groupNumber? d name t)
  message : ∀ failure {s t}, state s t → Meets Spoilt state Eq (E.message failure s) (A.message failure t)
  releaseCode : ∀ {c d s t}, code c d → state s t →
    Spoilt (E.releaseCode c s) ∨ state (E.releaseCode c s) (A.releaseCode d t)
  releaseBuffer : ∀ {b b' s t}, buffer b b' → state s t →
    Spoilt (E.releaseBuffer b s) ∨ state (E.releaseBuffer b s) (A.releaseBuffer b' t)
  /-- What is spoilt stays so. -/
  persists : E.Persists Spoilt

namespace Engine.Likeness
open Bench

variable {E : Engine σ} {A : Engine τ} {Spoilt : σ → Prop} {state : σ → τ → Prop}
  (L : E.Likeness A Spoilt state)

structure Prepareds (p : Prepared E) (q : Prepared A) : Prop where
  pattern : q.pattern = p.pattern
  flags : q.flags = p.flags
  code : L.code p.code q.code
  buffer : L.buffer p.buffer q.buffer

/-- Matchers with vectors that correspond. -/
structure Clients (c : Client E) (d : Client A) : Prop where
  prepared : Option.Rel L.Prepareds c.matcher.prepared d.matcher.prepared
  depthLimit : d.matcher.depthLimit = c.matcher.depthLimit
  spans : d.spans = c.spans
  views : d.views = c.views

/-- Benches that correspond, with logs in a relation of their own. -/
structure Benches (logs : Log → Log → Prop) (b : Bench E) (a : Bench A) : Prop where
  clients : L.Clients b.toClient a.toClient
  state : state b.state a.state
  logs : logs b.log a.log

/-- The engines answer alike about searches too. -/
structure Searches : Prop where
  unset : A.unset = E.unset
  execute : ∀ {c d} subject start limit {b b' s t}, L.code c d → L.buffer b b' → state s t →
    Spoilt (E.execute c subject start limit b s).2.2 ∨
      (A.execute d subject start limit b' t).1 = (E.execute c subject start limit b s).1 ∧
        L.buffer (E.execute c subject start limit b s).2.1 (A.execute d subject start limit b' t).2.1 ∧
        state (E.execute c subject start limit b s).2.2 (A.execute d subject start limit b' t).2.2
  output : ∀ {b b' s t}, L.buffer b b' → state s t →
    Meets Spoilt state Eq (E.output b s) (A.output b' t)

/-- The engines answer alike about searches of a subject, but for the groups, which correspond. -/
structure SearchesBy (r : Groups → Groups → Prop) (subject : ByteArray) : Prop where
  execute : ∀ {c d start} limit {b b' s t}, start ≤ subject.size → L.code c d → L.buffer b b' →
    state s t →
    Spoilt (E.execute c subject start limit b s).2.2 ∨
      (A.execute d subject start limit b' t).1 = (E.execute c subject start limit b s).1 ∧
        L.buffer (E.execute c subject start limit b s).2.1 (A.execute d subject start limit b' t).2.1 ∧
        state (E.execute c subject start limit b s).2.2 (A.execute d subject start limit b' t).2.2
  /-- What a match leaves is asked for right after the search. -/
  output : ∀ {c d start} limit {b b' s t}, start ≤ subject.size → L.code c d → L.buffer b b' →
    state s t → ∀ pairs buffer buffer' s' t',
    E.execute c subject start limit b s = (.matched pairs, buffer, s') →
    A.execute d subject start limit b' t = (.matched pairs, buffer', t') →
    L.buffer buffer buffer' → state s' t' →
    Meets Spoilt state (fun o o' => r ⟨E.unset, o⟩ ⟨A.unset, o'⟩) (E.output buffer s')
      (A.output buffer' t')

variable {L} {logs : Log → Log → Prop} {b : Bench E} {a : Bench A}

theorem Clients.inspected {c : Client E} {d : Client A} (h : L.Clients c d) :
    d.matcher.inspected = c.matcher.inspected := by
  obtain ⟨⟨prepared, limit⟩, spans, views⟩ := c
  obtain ⟨⟨prepared', limit'⟩, spans', views'⟩ := d
  obtain ⟨hp, rfl, -, -⟩ := h
  cases hp with
  | none => rfl
  | some same =>
    simp only [Matcher.inspected, Matcher.pattern, Matcher.flags, Option.map_some, same.pattern,
      same.flags]
    rfl

namespace Benches

theorem withPrepared (h : L.Benches logs b a) {p : Option (Prepared E)} {q : Option (Prepared A)}
    (hp : Option.Rel L.Prepareds p q) :
    L.Benches logs { b with matcher := { b.matcher with prepared := p } }
      { a with matcher := { a.matcher with prepared := q } } :=
  ⟨⟨hp, h.clients.depthLimit, h.clients.spans, h.clients.views⟩, h.state, h.logs⟩

theorem withState (h : L.Benches logs b a) {s : σ} {t : τ} (ht : state s t) :
    L.Benches logs { b with state := s } { a with state := t } :=
  ⟨h.clients, ht, h.logs⟩

theorem withLog (h : L.Benches logs b a) {l k : Log} (hl : logs l k) :
    L.Benches logs { b with log := l } { a with log := k } :=
  ⟨h.clients, h.state, hl⟩

theorem cleared (h : L.Benches logs b a) :
    Spoilt b.cleared.state ∨ L.Benches logs b.cleared a.cleared := by
  have prepared := h.clients.prepared
  rw [Bench.cleared, Bench.cleared]
  cases hb : b.matcher.prepared <;> cases ha : a.matcher.prepared <;> rw [hb, ha] at prepared <;>
    cases prepared
  case none.none => exact .inr h
  case some.some p q same =>
    rcases L.releaseCode same.code h.state with spoilt | code
    · exact .inl (L.persists.releaseBuffer p.buffer spoilt)
    · rcases L.releaseBuffer same.buffer code with spoilt | buffer
      · exact .inl spoilt
      · exact .inr ((h.withPrepared .none).withState buffer)

end Benches

variable (L)

theorem inStep_clear : InStep Spoilt (L.Benches logs) clear clear where
  keeps := L.persists.kept.clear
  meets := by
    intro b a h
    rw [run_clear, run_clear]
    exact h.cleared.imp_right fun after => ⟨rfl, after⟩

theorem inStep_prepare (hadd : ∀ l k e, logs l k → logs (l.add e) (k.add e)) (pattern : String)
    (flags : Flags) : InStep Spoilt (L.Benches logs) (prepare pattern flags) (prepare pattern flags) where
  keeps := L.persists.kept.prepare pattern flags
  meets := by
    intro b a h
    rcases h.cleared with spoilt | h
    · -- Once the matcher is cleared, clearing it again changes nothing.
      have after := L.persists.kept.prepare pattern flags b.cleared spoilt
      rw [run_prepare, cleared_cleared, ← run_prepare] at after
      exact .inl after
    rw [run_prepare, run_prepare]
    generalize b.cleared = b at h ⊢
    generalize a.cleared = a at h ⊢
    have compiled := L.compile pattern flags h.state
    generalize E.compile pattern flags b.state = run at compiled ⊢
    generalize A.compile pattern flags a.state = run' at compiled ⊢
    obtain ⟨x, s⟩ := run
    obtain ⟨y, t⟩ := run'
    rcases compiled with spoilt | ⟨agree, hst⟩
    · -- The answers need not agree any more, but nothing that is done with either one ends what is spoilt.
      refine .inl ?_
      cases x with
      | error failure => exact L.persists.message failure.code spoilt
      | ok code =>
        have made := L.persists.makeBuffer code spoilt
        rcases hm : E.makeBuffer code s with ⟨_ | buffer, s'⟩ <;> simp only [hm] at made ⊢
        · exact L.persists.releaseCode code made
        · exact made
    cases agree with
    | error failure =>
      rcases L.message failure.code hst with spoilt | ⟨text, hst⟩
      · exact .inl spoilt
      · simp only [text, true_and]
        exact .inr ((h.withState hst).withLog (hadd _ _ _ h.logs))
    | @ok c d code =>
      have made := L.makeBuffer code hst
      dsimp only
      generalize E.makeBuffer c s = run at made ⊢
      generalize A.makeBuffer d t = run' at made ⊢
      obtain ⟨x, s'⟩ := run
      obtain ⟨y, t'⟩ := run'
      rcases made with spoilt | ⟨same, hst⟩
      · refine .inl ?_
        cases x with
        | none => exact L.persists.releaseCode c spoilt
        | some buffer => exact spoilt
      cases same with
      | none =>
        rcases L.releaseCode code hst with spoilt | hst
        · exact .inl spoilt
        · exact .inr ⟨rfl, (h.withState hst).withLog (hadd _ _ _ h.logs)⟩
      | @some b b' buffer =>
        have same : L.Prepareds ⟨pattern, flags, c, b⟩ ⟨pattern, flags, d, b'⟩ := ⟨rfl, rfl, code, buffer⟩
        have prepared := h.withPrepared (.some same)
        exact .inr ⟨rfl, (prepared.withState hst).withLog (hadd _ _ _ h.logs)⟩

/-- What is asked about prepared patterns is in step if it is in step for those that correspond. -/
theorem inStep_prepared {f : Prepared E → Work E α} {g : Prepared A → Work A α}
    (keeps : Keeps (fun b => Spoilt b.state) (prepared >>= f))
    (h : ∀ p q, L.Prepareds p q → InStep Spoilt (L.Benches logs) (f p) (g q)) :
    InStep Spoilt (L.Benches logs) (prepared >>= f) (prepared >>= g) where
  keeps := keeps
  meets := by
    intro b a hba
    have prepared := hba.clients.prepared
    rw [run_bind, run_bind, run_prepared, run_prepared]
    cases hb : b.matcher.prepared <;> cases ha : a.matcher.prepared <;> rw [hb, ha] at prepared <;>
      cases prepared
    case none.none => exact .inr ⟨rfl, hba⟩
    case some.some p q same => exact (h p q same).meets b a hba

theorem inStep_ask {f : σ → α × σ} {g : τ → α × τ} (hf : ∀ {s}, Spoilt s → Spoilt (f s).2)
    (h : ∀ {s t}, state s t → Meets Spoilt state Eq (f s) (g t)) :
    InStep Spoilt (L.Benches logs) (ask f) (ask g) where
  keeps := fun _ hb => hf hb
  meets := by
    intro b a hba
    rw [run_ask, run_ask]
    rcases h hba.state with spoilt | ⟨same, hst⟩
    · exact .inl spoilt
    · exact .inr ⟨congrArg Except.ok same.symm, hba.withState hst⟩

theorem inStep_groupCount : InStep Spoilt (L.Benches logs) Bench.groupCount Bench.groupCount := by
  apply L.inStep_prepared L.persists.kept.groupCount
  intro p q same
  exact L.inStep_ask (L.persists.groupCount p.code) (L.groupCount same.code)

theorem inStep_groupNumber? (name : String) :
    InStep Spoilt (L.Benches logs) (Bench.groupNumber? name) (Bench.groupNumber? name) := by
  apply L.inStep_prepared (L.persists.kept.groupNumber? name)
  intro p q same
  apply (L.inStep_ask (L.persists.groupNumber? p.code name) (L.groupNumber? name same.code)).bind
  rintro (_ | n)
  · exact .pure none
  · by_cases hn : n = 0
    · simp only [if_pos hn]
      exact .pure none
    · simp only [if_neg hn]
      apply (L.inStep_ask (L.persists.groupCount p.code) (L.groupCount same.code)).bind
      intro count
      split
      · exact .pure (some n)
      · exact .pure none

variable {L}

/-- Where both engines report the same, searches are in step, but for the groups. -/
theorem SearchesBy.inStepBy {r : Groups → Groups → Prop} {subject : ByteArray}
    (hs : L.SearchesBy r subject) (hlevel : ∀ l k, logs l k → k.level = l.level)
    (hadd : ∀ l k e, logs l k → logs (l.add e) (k.add e)) (start : Nat) :
    InStepBy (Outcome.Rel r) Spoilt (L.Benches logs) (search subject start) (search subject start) where
  keeps := L.persists.kept.search subject start
  meets := by
    intro b a h
    have prepared := h.clients.prepared
    rw [run_search, run_search, hlevel _ _ h.logs, h.clients.depthLimit]
    by_cases hstart : subject.size < start
    · rw [if_pos hstart, if_pos hstart]
      exact .inr ⟨.error _, h⟩
    rw [if_neg hstart, if_neg hstart]
    cases hb : b.matcher.prepared <;> cases ha : a.matcher.prepared <;> rw [hb, ha] at prepared <;>
      cases prepared
    case none.none => exact .inr ⟨.error _, h⟩
    case some.some p q same =>
    have inside := Nat.not_lt.mp hstart
    have executed := hs.execute b.matcher.depthLimit inside same.code same.buffer h.state
    have output := hs.output b.matcher.depthLimit inside same.code same.buffer h.state
    dsimp only
    generalize E.execute p.code subject start b.matcher.depthLimit p.buffer b.state = run
      at executed output ⊢
    generalize A.execute q.code subject start b.matcher.depthLimit q.buffer a.state = run'
      at executed output ⊢
    obtain ⟨x, buffer, s⟩ := run
    obtain ⟨y, buffer', t⟩ := run'
    rcases executed with spoilt | ⟨answer, hbuffer, hst⟩
    · -- Whatever the answer is, the questions that it leads to do not end what is spoilt.
      refine .inl ?_
      cases x with
      | matched pairs => exact L.persists.output buffer spoilt
      | noMatch => exact spoilt
      | depthLimitExceeded => exact spoilt
      | failed code =>
        dsimp only
        split
        · exact L.persists.message code spoilt
        · exact spoilt
    obtain rfl : y = x := answer
    have searched {s : σ} {t : τ} (hst : state s t) :
        L.Benches logs (b.searched p buffer s) (a.searched q buffer' t) := by
      have after : L.Prepareds { p with buffer := buffer } { q with buffer := buffer' } :=
        ⟨same.pattern, same.flags, same.code, hbuffer⟩
      exact (h.withPrepared (.some after)).withState hst
    cases y with
    | matched pairs =>
      rcases output pairs buffer buffer' s t rfl rfl hbuffer hst with spoilt | ⟨groups, hst⟩
      · exact .inl spoilt
      · simp only [same.pattern]
        exact .inr ⟨.ok (.found groups), (searched hst).withLog (hadd _ _ _ h.logs)⟩
    | noMatch => exact .inr ⟨.ok .noMatch, searched hst⟩
    | depthLimitExceeded =>
      simp only [same.pattern]
      exact .inr ⟨.ok .depthLimitExceeded, (searched hst).withLog (hadd _ _ _ h.logs)⟩
    | failed code =>
      by_cases hl : b.log.level.reports false
      · simp only [if_pos hl]
        rcases L.message code hst with spoilt | ⟨text, hst⟩
        · exact .inl spoilt
        · simp only [text, same.pattern]
          exact .inr ⟨.ok .noMatch, (searched hst).withLog (hadd _ _ _ h.logs)⟩
      · simp only [if_neg hl]
        exact .inr ⟨.ok .noMatch, searched hst⟩

theorem Searches.by_eq (hs : L.Searches) (subject : ByteArray) : L.SearchesBy Eq subject where
  execute limit _ _ _ _ _ hc hb hst := hs.execute subject _ limit hc hb hst
  output := by
    intro _ _ _ _ _ _ _ _ _ _ _ _ _ _ _ _ _ _ _ hbuffer hst
    refine (hs.output hbuffer hst).mono ?_
    rintro o _ rfl
    rw [hs.unset]

/-- Where both engines report the same, searches are in step. -/
theorem Searches.inStep (hs : L.Searches) (hlevel : ∀ l k, logs l k → k.level = l.level)
    (hadd : ∀ l k e, logs l k → logs (l.add e) (k.add e)) (subject : ByteArray) (start : Nat) :
    InStep Spoilt (L.Benches logs) (search subject start) (search subject start) := by
  have searched := (hs.by_eq subject).inStepBy hlevel hadd start
  exact InStepBy.inStep ⟨searched.keeps, fun b a h =>
    (searched.meets b a h).imp_right fun ⟨agree, after⟩ => ⟨agree.mono fun _ _ => (·.eq.symm), after⟩⟩

/-- Matchers whose engines answer alike are in step about all that does not search. -/
theorem quiet (hadd : ∀ l k e, logs l k → logs (l.add e) (k.add e)) : Quiet Spoilt (L.Benches logs) where
  inspected := fun _ _ h => h.clients.inspected
  spans := fun _ _ h => h.clients.spans
  views := fun _ _ h => h.clients.views
  vectors := fun _ _ _ _ h => ⟨⟨h.clients.prepared, h.clients.depthLimit, rfl, rfl⟩, h.state, h.logs⟩
  clear := L.inStep_clear
  prepare := L.inStep_prepare hadd
  groupCount := L.inStep_groupCount
  groupNumber? := L.inStep_groupNumber?

/-- Matchers whose engines answer alike are in lockstep, if searches are. -/
theorem lockstep (hadd : ∀ l k e, logs l k → logs (l.add e) (k.add e))
    (hsearch : ∀ subject start,
      InStep Spoilt (L.Benches logs) (search subject start) (search subject start)) :
    Lockstep Spoilt (L.Benches logs) where
  toQuiet := quiet hadd
  search := hsearch

end Engine.Likeness

end BoundedRegex
