import BoundedRegex.Engine.Scripted
import BoundedRegex.Proofs.Recorded
import BoundedRegex.Proofs.Simulation

/-!
# How much is reported

The level of the log decides what is written down, and with that whether an engine is asked for the
message of a failed search. An engine is discreet if such questions change none of its other answers.
Over discreet engines, nothing else depends on the level: not what is replied, not the matchers, and not
what the engines have out.

What differs is exact. The records at one level are those of a more verbose one without what only the
latter reports. The engines are called in the same way, except that each search which fails is followed
by a question for its message where failures are reported, and is not where they are not.
-/
namespace BoundedRegex

variable {ι σ : Type}

/-! ## Discreet engines -/

/-- All answers of an engine are the same in states that are the same, and lead to such states again. No
question for a message makes a difference. -/
structure Engine.Discreet (E : Engine σ) (Same : σ → σ → Prop) : Prop where
  compile : ∀ pattern flags {s t}, Same s t →
    (E.compile pattern flags t).1 = (E.compile pattern flags s).1 ∧
      Same (E.compile pattern flags s).2 (E.compile pattern flags t).2
  makeBuffer : ∀ c {s t}, Same s t →
    (E.makeBuffer c t).1 = (E.makeBuffer c s).1 ∧ Same (E.makeBuffer c s).2 (E.makeBuffer c t).2
  execute : ∀ c subject start limit b {s t}, Same s t →
    (E.execute c subject start limit b t).1 = (E.execute c subject start limit b s).1 ∧
      (E.execute c subject start limit b t).2.1 = (E.execute c subject start limit b s).2.1 ∧
      Same (E.execute c subject start limit b s).2.2 (E.execute c subject start limit b t).2.2
  output : ∀ b {s t}, Same s t →
    (E.output b t).1 = (E.output b s).1 ∧ Same (E.output b s).2 (E.output b t).2
  groupCount : ∀ c {s t}, Same s t →
    (E.groupCount c t).1 = (E.groupCount c s).1 ∧ Same (E.groupCount c s).2 (E.groupCount c t).2
  groupNumber? : ∀ c name {s t}, Same s t →
    (E.groupNumber? c name t).1 = (E.groupNumber? c name s).1 ∧
      Same (E.groupNumber? c name s).2 (E.groupNumber? c name t).2
  message : ∀ failure {s t}, Same s t →
    (E.message failure t).1 = (E.message failure s).1 ∧
      Same (E.message failure s).2 (E.message failure t).2
  releaseCode : ∀ c {s t}, Same s t → Same (E.releaseCode c s) (E.releaseCode c t)
  releaseBuffer : ∀ b {s t}, Same s t → Same (E.releaseBuffer b s) (E.releaseBuffer b t)
  /-- A state does not change noticeably when a message is asked for. -/
  unnoticed : ∀ failure {s t}, Same s t → Same s (E.message failure t).2

/-- Making and ending such engines does not make a difference either. -/
structure Maker.Discreet (M : Maker σ) (Same : σ → σ → Prop) : Prop extends
    M.engine.Discreet Same where
  make : ∀ {s t}, Same s t → (M.make t).1 = (M.make s).1 ∧ Same (M.make s).2 (M.make t).2
  unmake : ∀ own {s t}, Same s t → Same (M.unmake own s) (M.unmake own t)

/-- An engine that needs no state of its own is discreet. -/
theorem Maker.discreet_of_subsingleton [Subsingleton σ] (M : Maker σ) : M.Discreet fun _ _ => True where
  compile pattern flags s t _ := ⟨by rw [Subsingleton.elim t s], trivial⟩
  makeBuffer c s t _ := ⟨by rw [Subsingleton.elim t s], trivial⟩
  execute c subject start limit b s t _ :=
    ⟨by rw [Subsingleton.elim t s], by rw [Subsingleton.elim t s], trivial⟩
  output b s t _ := ⟨by rw [Subsingleton.elim t s], trivial⟩
  groupCount c s t _ := ⟨by rw [Subsingleton.elim t s], trivial⟩
  groupNumber? c name s t _ := ⟨by rw [Subsingleton.elim t s], trivial⟩
  message failure s t _ := ⟨by rw [Subsingleton.elim t s], trivial⟩
  releaseCode _ _ _ _ := trivial
  releaseBuffer _ _ _ _ := trivial
  unnoticed _ _ _ _ := trivial
  make {s t} _ := ⟨by rw [Subsingleton.elim t s], trivial⟩
  unmake _ _ _ _ := trivial

/-! ## Levels -/

namespace Level

/-- Whatever is reported at one level is reported at the other. -/
def Coarser (coarse fine : Level) : Prop := ∀ trace, coarse.reports trace → fine.reports trace

/-- If failures are not reported at both levels alike, only the finer one reports them. -/
theorem Coarser.of_ne {coarse fine : Level} (hle : coarse.Coarser fine)
    (h : coarse.reports false ≠ fine.reports false) :
    coarse.reports false = false ∧ fine.reports false = true := by
  cases hc : coarse.reports false with
  | true => exact absurd (hc.trans (hle false hc).symm) h
  | false =>
    rw [hc] at h
    exact ⟨rfl, Bool.eq_true_of_not_eq_false h.symm⟩

theorem coarser_total (a b : Level) : a.Coarser b ∨ b.Coarser a := by
  cases a <;> cases b <;> simp [Coarser, reports]

end Level

/-- What a log at one level keeps of one at another level. -/
def Log.Excerpt (coarse fine : Level) (l k : Log) : Prop :=
  l.level = coarse ∧ k.level = fine ∧
    l.records = k.records.filter fun record => coarse.reports record.trace

theorem Log.Excerpt.add {coarse fine : Level} (hle : coarse.Coarser fine) {l k : Log}
    (h : l.Excerpt coarse fine k) (e : Event) : (l.add e).Excerpt coarse fine (k.add e) := by
  obtain ⟨hl, hk, records⟩ := h
  rw [Log.add, Log.add, hl, hk]
  by_cases hc : coarse.reports e.isTrace
  · rw [if_pos hc, if_pos (hle _ hc)]
    refine ⟨rfl, rfl, ?_⟩
    simp only [records, List.filter_append, Event.record, hc, List.filter_cons_of_pos,
      List.filter_nil]
  · rw [if_neg hc]
    split
    · refine ⟨hl, rfl, ?_⟩
      simp only [records, List.filter_append, Event.record, hc, Bool.false_eq_true, not_false_eq_true,
        List.filter_cons_of_neg, List.filter_nil, List.append_nil]
    · exact ⟨hl, hk, records⟩

/-! ## Records side by side -/

/-- Whether a call is a search that has failed. -/
def Call.fails : Call → Bool
  | .execute _ _ _ _ _ (.failed _) => true
  | _ => false

/-- A call, and the question for a message that follows it if it is a search that has failed. -/
def Call.explained : Call → List Call
  | .execute code buffer subject start limit (.failed failure) =>
    [.execute code buffer subject start limit (.failed failure), .message failure]
  | c => [c]

/-- What a level adds to calls that a coarser one makes, too. -/
def Level.explain (coarse fine : Level) : Call → List Call :=
  if coarse.reports false = fine.reports false then fun c => [c] else Call.explained

theorem Level.explain_of_eq {coarse fine : Level} (h : coarse.reports false = fine.reports false) :
    coarse.explain fine = fun c => [c] := if_pos h

theorem Level.explain_of_ne {coarse fine : Level} (h : coarse.reports false ≠ fine.reports false) :
    coarse.explain fine = Call.explained := if_neg h

theorem Level.explain_of_not_fails (coarse fine : Level) {c : Call} (hc : c.fails = false) :
    coarse.explain fine c = [c] := by
  rw [explain]
  split
  · rfl
  · cases c with
    | execute code buffer subject start limit answer =>
      cases answer with
      | failed failure => cases hc
      | _ => rfl
    | _ => rfl

/-- Two records of engines that do the same, the second with what `explain` adds to each call. -/
structure Recorded.Beside (Same : σ → σ → Prop) (explain : Call → List Call) (r q : Recorded σ) :
    Prop where
  state : Same r.state q.state
  calls : q.calls = r.calls.flatMap explain
  next : q.next = r.next
  out : q.out = r.out

namespace Recorded.Beside

variable {Same : σ → σ → Prop} {explain : Call → List Call} {r q : Recorded σ}

theorem record (h : r.Beside Same explain q) {s t : σ} (hs : Same s t) {c : Call} (hc : explain c = [c]) :
    (r.record s c).Beside Same explain (q.record t c) := by
  refine ⟨hs, ?_, h.next, h.out⟩
  simp only [Recorded.record, h.calls, List.flatMap_append, List.flatMap_singleton, hc]

/-- A search that has failed, and that only the second engine is asked to explain. -/
theorem recordExplained (h : r.Beside Same Call.explained q) {s t u : σ} (hs : Same s t)
    (code buffer : Nat) (subject : ByteArray) (start : Nat) (limit : UInt32) (failure : Int) :
    (r.record s (.execute code buffer subject start limit (.failed failure))).Beside Same Call.explained
      ((q.record u (.execute code buffer subject start limit (.failed failure))).record t
        (.message failure)) := by
  refine ⟨hs, ?_, h.next, h.out⟩
  simp only [Recorded.record, h.calls, List.flatMap_append, List.flatMap_singleton, Call.explained,
    List.append_assoc, List.cons_append, List.nil_append]

theorem handOut (h : r.Beside Same explain q) (made : Bool) :
    (r.handOut made).Beside Same explain (q.handOut made) := by
  cases made with
  | false => exact h
  | true =>
    refine ⟨h.state, h.calls, congrArg (· + 1) h.next, ?_⟩
    simp only [Recorded.handOut, if_true, h.next, h.out]

theorem takeBack (h : r.Beside Same explain q) (n : Nat) :
    (r.takeBack n).Beside Same explain (q.takeBack n) :=
  ⟨h.state, h.calls, h.next, congrArg (List.erase · n) h.out⟩

end Recorded.Beside

variable {Same : σ → σ → Prop} {explain : Call → List Call}

/-- Discreet engines answer alike when they are recorded side by side, if nothing is added but to searches
that have failed. -/
def Maker.Discreet.likeness {M : Maker σ} (h : M.Discreet Same)
    (hx : ∀ c : Call, c.fails = false → explain c = [c]) :
    M.recorded.Likeness M.recorded (fun _ => False) (Recorded.Beside Same explain) where
  code := Eq
  buffer := Eq
  compile := by
    rintro pattern flags r q beside
    obtain ⟨answer, after⟩ := h.compile pattern flags beside.state
    refine .inr ?_
    simp only [Maker.recorded, Engine.recorded, beside.next]
    generalize M.engine.compile pattern flags r.state = run at answer after ⊢
    generalize M.engine.compile pattern flags q.state = run' at answer after ⊢
    obtain ⟨x, s⟩ := run
    obtain ⟨y, t⟩ := run'
    obtain rfl : y = x := answer
    cases y with
    | error failure => exact ⟨.error failure, beside.record after (hx _ rfl)⟩
    | ok c => exact ⟨.ok rfl, (beside.record after (hx _ rfl)).handOut true⟩
  makeBuffer := by
    rintro c _ r q rfl beside
    obtain ⟨answer, after⟩ := h.makeBuffer c.value beside.state
    refine .inr ?_
    simp only [Maker.recorded, Engine.recorded, beside.next]
    generalize M.engine.makeBuffer c.value r.state = run at answer after ⊢
    generalize M.engine.makeBuffer c.value q.state = run' at answer after ⊢
    obtain ⟨x, s⟩ := run
    obtain ⟨y, t⟩ := run'
    obtain rfl : y = x := answer
    cases y with
    | none => exact ⟨.none, beside.record after (hx _ rfl)⟩
    | some b => exact ⟨.some rfl, (beside.record after (hx _ rfl)).handOut true⟩
  groupCount := by
    rintro c _ r q rfl beside
    obtain ⟨answer, after⟩ := h.groupCount c.value beside.state
    exact .inr ⟨answer.symm, beside.record after (hx _ rfl)⟩
  groupNumber? := by
    rintro c _ name r q rfl beside
    obtain ⟨answer, after⟩ := h.groupNumber? c.value name beside.state
    refine .inr ⟨answer.symm, ?_⟩
    simp only [Maker.recorded, Engine.recorded, answer]
    exact beside.record after (hx _ rfl)
  message := by
    rintro failure r q beside
    obtain ⟨answer, after⟩ := h.message failure beside.state
    exact .inr ⟨answer.symm, beside.record after (hx _ rfl)⟩
  releaseCode := by
    rintro c _ r q rfl beside
    exact .inr ((beside.record (h.releaseCode c.value beside.state) (hx _ rfl)).takeBack c.number)
  releaseBuffer := by
    rintro b _ r q rfl beside
    exact .inr ((beside.record (h.releaseBuffer b.value beside.state) (hx _ rfl)).takeBack b.number)
  persists := M.recorded_engine_persists
  own := Eq
  make := by
    rintro r q beside
    obtain ⟨answer, after⟩ := h.make beside.state
    refine .inr ⟨?_, after, beside.calls, beside.next, beside.out⟩
    simp only [Maker.recorded, answer]
    exact .refl _
  unmake := by
    rintro own _ r q rfl beside
    exact .inr ⟨h.unmake own beside.state, beside.calls, beside.next, beside.out⟩
  lasting := M.recorded_persists

section
variable {M : Maker σ} {h : M.Discreet Same} {hx : ∀ c : Call, c.fails = false → explain c = [c]}

theorem Maker.Discreet.prepared_eq {p q : Prepared M.recorded.engine}
    (hpq : (h.likeness hx).Prepareds p q) : q = p := by
  obtain ⟨pattern, flags, code, buffer⟩ := p
  obtain ⟨pattern', flags', code', buffer'⟩ := q
  obtain ⟨hpattern, hflags, hcode, hbuffer⟩ := hpq
  cases hpattern
  cases hflags
  cases hcode
  cases hbuffer
  rfl

theorem Maker.Discreet.client_eq {c d : Client M.recorded.engine}
    (hcd : (h.likeness hx).Clients c d) : d = c := by
  obtain ⟨⟨prepared, limit⟩, spans, views⟩ := c
  obtain ⟨⟨prepared', limit'⟩, spans', views'⟩ := d
  obtain ⟨hprepared, hlimit, hspans, hviews⟩ := hcd
  cases hlimit
  cases hspans
  cases hviews
  cases hprepared with
  | none => rfl
  | some same => rw [prepared_eq same]

end

/-! ## Searches that fail -/

/-- Both engines answer a search in the same way, and both record it. -/
theorem Maker.Discreet.executes {M : Maker σ} (h : M.Discreet Same) {r q : Recorded σ}
    (hrq : Same r.state q.state) (c : M.recorded.engine.Code) (subject : ByteArray) (start : Nat)
    (limit : UInt32) (b : M.recorded.engine.Buffer) :
    ∃ answer buffer s t m n, Same s t ∧
      M.recorded.engine.execute c subject start limit b r =
        (answer, buffer, r.record s (.execute m n subject start limit answer)) ∧
      M.recorded.engine.execute c subject start limit b q =
        (answer, buffer, q.record t (.execute m n subject start limit answer)) := by
  obtain ⟨answer, buffer, after⟩ := h.execute c.value subject start limit b.value hrq
  refine ⟨_, _, _, _, _, _, after, rfl, ?_⟩
  simp only [Maker.recorded, Engine.recorded, answer, buffer]

theorem Maker.Discreet.outputs {M : Maker σ} (h : M.Discreet Same) {coarse fine : Level}
    {r q : Recorded σ} (hrq : r.Beside Same (coarse.explain fine) q) (b : M.recorded.engine.Buffer) :
    (M.recorded.engine.output b q).1 = (M.recorded.engine.output b r).1 ∧
      (M.recorded.engine.output b r).2.Beside Same (coarse.explain fine)
        (M.recorded.engine.output b q).2 := by
  obtain ⟨offsets, after⟩ := h.output b.value hrq.state
  exact ⟨offsets, hrq.record after (coarse.explain_of_not_fails fine rfl)⟩

theorem Maker.Discreet.messages {M : Maker σ} (h : M.Discreet Same) {coarse fine : Level}
    {r q : Recorded σ} (hrq : r.Beside Same (coarse.explain fine) q) (failure : Int) :
    (M.recorded.engine.message failure q).1 = (M.recorded.engine.message failure r).1 ∧
      (M.recorded.engine.message failure r).2.Beside Same (coarse.explain fine)
        (M.recorded.engine.message failure q).2 := by
  obtain ⟨text, after⟩ := h.message failure hrq.state
  exact ⟨text, hrq.record after (coarse.explain_of_not_fails fine rfl)⟩

open Bench in
/-- Searches are in step whatever is reported about them. -/
theorem Maker.Discreet.inStep_search {M : Maker σ} (h : M.Discreet Same) {coarse fine : Level}
    (hle : coarse.Coarser fine) (subject : ByteArray) (start : Nat) :
    InStep (fun _ => False)
      ((h.likeness fun _ => coarse.explain_of_not_fails fine).Benches (Log.Excerpt coarse fine))
      (search subject start) (search subject start) where
  keeps := fun _ h => h
  meets := by
    intro b a hba
    refine .inr ?_
    have prepared := hba.clients.prepared
    rw [run_search, run_search, hba.clients.depthLimit]
    by_cases hstart : subject.size < start
    · rw [if_pos hstart, if_pos hstart]
      exact ⟨rfl, hba⟩
    rw [if_neg hstart, if_neg hstart]
    cases hb : b.matcher.prepared <;> cases ha : a.matcher.prepared <;> rw [hb, ha] at prepared <;>
      cases prepared
    case none.none => exact ⟨rfl, hba⟩
    case some.some p q same =>
    obtain rfl := Maker.Discreet.prepared_eq same
    obtain ⟨answer, buffer, s, t, m, n, after, hx, hy⟩ :=
      h.executes hba.state.state q.code subject start b.matcher.depthLimit q.buffer
    have searched {r r' : Recorded σ} (hr : r.Beside Same (coarse.explain fine) r') :
        (h.likeness fun _ => coarse.explain_of_not_fails fine).Benches (Log.Excerpt coarse fine)
          (b.searched q buffer r) (a.searched q buffer r') :=
      (hba.withPrepared (.some ⟨rfl, rfl, rfl, rfl⟩)).withState hr
    have executed (hc : Call.fails (.execute m n subject start b.matcher.depthLimit answer) = false) :=
      hba.state.record after (coarse.explain_of_not_fails fine hc)
    simp only [hx, hy]
    cases answer with
    | matched pairs =>
      obtain ⟨offsets, asked⟩ := h.outputs (executed rfl) buffer
      dsimp only
      rw [offsets]
      exact ⟨rfl, (searched asked).withLog (hba.logs.add hle _)⟩
    | noMatch => exact ⟨rfl, searched (executed rfl)⟩
    | depthLimitExceeded => exact ⟨rfl, (searched (executed rfl)).withLog (hba.logs.add hle _)⟩
    | failed failure =>
      dsimp only
      rw [hba.logs.1, hba.logs.2.1]
      by_cases hsame : coarse.reports false = fine.reports false
      · -- Both engines are asked for the message or neither is, and nothing is added to any call.
        have executed := hba.state.record after (congrFun (Level.explain_of_eq hsame)
          (.execute m n subject start b.matcher.depthLimit (.failed failure)))
        rw [hsame]
        split
        · obtain ⟨text, asked⟩ := h.messages executed failure
          rw [text]
          exact ⟨rfl, (searched asked).withLog (hba.logs.add hle _)⟩
        · exact ⟨rfl, searched executed⟩
      · -- Only the second engine is asked, which it does not notice, and only the second log grows.
        obtain ⟨hc, hf⟩ := hle.of_ne hsame
        have silent : ¬coarse.reports false = true := Bool.eq_false_iff.mp hc
        have explained := Level.explain_of_ne hsame
        rw [if_neg silent, if_pos hf]
        have beside := hba.state
        rw [explained] at beside
        have asked := beside.recordExplained (u := t) (h.unnoticed failure after) m n subject start
          b.matcher.depthLimit failure
        rw [← explained] at asked
        have logs := hba.logs.add hle (.searchFailed q.pattern failure (M.engine.message failure t).1)
        have unreported (text : String) : b.log.add (.searchFailed q.pattern failure text) = b.log :=
          if_neg (by rwa [hba.logs.1])
        rw [unreported] at logs
        exact ⟨rfl, (searched asked).withLog logs⟩

/-! ## Runs -/

/-- A pattern that is refused is explained at once, whatever is reported. -/
theorem Bench.refused_calls {E : Engine σ} {b : Bench E.recorded} {pattern : String} {flags : Flags}
    {m : String} {n : Nat}
    (hr : ((prepare pattern flags : Work E.recorded _).run b).1 = .ok (.error (.regex m n))) :
    ∃ failure, ((prepare pattern flags : Work E.recorded _).run b).2.state.calls =
      b.cleared.state.calls ++ [.compile pattern flags none, .message failure] := by
  rw [run_prepare] at hr ⊢
  generalize b.cleared = b at hr ⊢
  rcases hc : E.compile pattern flags b.state.state with ⟨failure | code, s⟩
  · have refused : E.recorded.compile pattern flags b.state =
        (.error failure, b.state.record s (.compile pattern flags none)) := by
      simp only [Engine.recorded, hc]
    rw [refused]
    exact ⟨failure.code, List.append_assoc ..⟩
  · exfalso
    have compiled : ∃ c r, E.recorded.compile pattern flags b.state = (.ok c, r) := by
      simp only [Engine.recorded, hc]
      exact ⟨_, _, rfl⟩
    obtain ⟨c, r, compiled⟩ := compiled
    rw [compiled] at hr
    dsimp only at hr
    rcases hm : E.recorded.makeBuffer c r with ⟨_ | buffer, r'⟩ <;> rw [hm] at hr <;> cases hr

section
variable {M : ι → Maker σ}

theorem Slot.eq_of_alike {h : ∀ i, (M i).Discreet Same}
    {hx : ∀ c : Call, c.fails = false → explain c = [c]} {slot slot' : Slot fun i => (M i).recorded}
    (hs : Slot.Alike (fun i => (h i).likeness hx) slot slot') : slot' = slot := by
  obtain ⟨rfl, clients⟩ := hs
  rw [Maker.Discreet.client_eq clients]

namespace Workshop

theorem slots_eq_of_alike {h : ∀ i, (M i).Discreet Same}
    {hx : ∀ c : Call, c.fails = false → explain c = [c]} {logs : Log → Log → Prop}
    {w v : Workshop fun i => (M i).recorded} (alike : Alike (fun i => (h i).likeness hx) logs w v) :
    v.slots = w.slots := by
  have slots := Named.eq_map (f := id) (fun _ _ => Slot.eq_of_alike) alike.slots
  rwa [Prod.map_id, List.map_id] at slots

variable (M) in
/-- A workshop without matchers that reports at a level. -/
def reporting (s : σ) (limit : UInt32) (builders : List (String × MatcherBuilder)) (level : Level) :
    Workshop fun i => (M i).recorded :=
  opened { state := s } { level := level } limit builders

theorem refused_calls {w : Workshop fun i => (M i).recorded} {name : String}
    {slot : Slot fun i => (M i).recorded} (hs : w.slot? name = some slot) {pattern : String}
    {flags : Flags} {message : String} {offset : Nat}
    (hr : (w.answer (.perform name (.prepare pattern flags))).1 =
      .ok (.prepared (.error (.regex message offset)))) :
    ∃ failure, (w.answer (.perform name (.prepare pattern flags))).2.state.calls =
      w.state.calls ++ slot.releases ++ [.compile pattern flags none, .message failure] := by
  rw [← cleared_calls]
  simp only [answer_perform hs, Bench.perform, Bench.run_reply] at hr ⊢
  apply Bench.refused_calls (m := message) (n := offset)
  cases hp : ((Bench.prepare pattern flags : Work _ _).run (w.bench slot)).1 with
  | error a =>
    rw [hp] at hr
    cases hr
  | ok result =>
    rw [hp] at hr
    cases hr
    exact hp

/-- What becomes of the same orders in two workshops that report at two levels. -/
structure Undisturbed (a b : Level) (orders : List (Order ι)) (w v : Workshop fun i => (M i).recorded) :
    Prop where
  replies : v.replies orders = w.replies orders
  /-- The matchers are the same, with what they have prepared and with the vectors of their callers. -/
  slots : (v.run orders).slots = (w.run orders).slots
  defaultLimit : (v.run orders).defaultLimit = (w.run orders).defaultLimit
  builders : (v.run orders).builders = (w.run orders).builders
  /-- The same codes and buffers are out. -/
  out : (v.run orders).state.out = (w.run orders).state.out
  /-- Records at the coarser level are those at the finer one that the coarser one reports, too. -/
  records : a.Coarser b →
    (w.run orders).log.records = (v.run orders).log.records.filter fun r => a.reports r.trace
  /-- If failures are reported at both levels or at neither, the engines are called in the same way. -/
  calls : a.reports false = b.reports false →
    (v.run orders).state.calls = (w.run orders).state.calls
  /-- Otherwise there is one more question for a message after each search that has failed. -/
  explained : a.reports false = false → b.reports false = true →
    (v.run orders).state.calls = (w.run orders).state.calls.flatMap Call.explained
  /-- After each pattern that is refused, there is a question for the message at both levels. -/
  refused : ∀ u ∈ [w, v], ∀ name slot pattern flags message offset,
    (u.run orders).slot? name = some slot →
    ((u.run orders).answer (.perform name (.prepare pattern flags))).1 =
      .ok (.prepared (.error (.regex message offset))) →
    ∃ failure, ((u.run orders).answer (.perform name (.prepare pattern flags))).2.state.calls =
      (u.run orders).state.calls ++ slot.releases ++ [.compile pattern flags none, .message failure]

/-- A run at a level and the same run at a coarser one correspond. -/
theorem run_coarser (h : ∀ i, (M i).Discreet Same) {coarse fine : Level} (hle : coarse.Coarser fine)
    {s : σ} (hs : Same s s) (limit : UInt32) (builders : List (String × MatcherBuilder))
    (orders : List (Order ι)) :
    (reporting M s limit builders fine).replies orders =
        (reporting M s limit builders coarse).replies orders ∧
      Alike (fun i => (h i).likeness fun _ => coarse.explain_of_not_fails fine)
        (Log.Excerpt coarse fine) ((reporting M s limit builders coarse).run orders)
        ((reporting M s limit builders fine).run orders) := by
  have lockstep (i : ι) : Bench.Lockstep (fun _ => False)
      (((h i).likeness fun _ => coarse.explain_of_not_fails fine).Benches
        (Log.Excerpt coarse fine)) :=
    Engine.Likeness.lockstep (fun _ _ e hl => hl.add hle e) ((h i).inStep_search hle)
  have logs : Log.Excerpt coarse fine { level := coarse } { level := fine } := ⟨rfl, rfl, rfl⟩
  have start : Alike (fun i => (h i).likeness fun _ => coarse.explain_of_not_fails fine)
      (Log.Excerpt coarse fine) (reporting M s limit builders coarse)
      (reporting M s limit builders fine) :=
    .opened _ ⟨hs, rfl, rfl, rfl⟩ logs limit builders
  exact (start.run lockstep orders).resolve_left id

/-- Over discreet engines, nothing but the records and the questions for messages depends on how much is
reported. -/
theorem undisturbed (h : ∀ i, (M i).Discreet Same) {s : σ} (hs : Same s s) (a b : Level) (limit : UInt32)
    (builders : List (String × MatcherBuilder)) (orders : List (Order ι)) :
    Undisturbed a b orders (reporting M s limit builders a) (reporting M s limit builders b) := by
  have refused : ∀ u ∈ [reporting M s limit builders a, reporting M s limit builders b],
      ∀ name slot pattern flags message offset, (u.run orders).slot? name = some slot →
      ((u.run orders).answer (.perform name (.prepare pattern flags))).1 =
        .ok (.prepared (.error (.regex message offset))) →
      ∃ failure, ((u.run orders).answer (.perform name (.prepare pattern flags))).2.state.calls =
        (u.run orders).state.calls ++ slot.releases ++
          [.compile pattern flags none, .message failure] :=
    fun u _ name slot pattern flags message offset hslot hr => refused_calls hslot hr
  have records (hab : a.Coarser b) := (run_coarser h hab hs limit builders orders).2.logs.2.2
  -- One of the levels is the coarser one, and all that is claimed but the calls goes both ways.
  rcases a.coarser_total b with hab | hba
  · obtain ⟨replies, alike⟩ := run_coarser h hab hs limit builders orders
    refine ⟨replies, slots_eq_of_alike alike, alike.defaultLimit, alike.builders, alike.state.out, records,
      ?_, ?_, refused⟩
    · intro hsame
      rw [alike.state.calls, Level.explain_of_eq hsame, List.flatMap_singleton']
    · intro ha hb
      have hne : a.reports false ≠ b.reports false := by
        rw [ha, hb]
        exact nofun
      rw [alike.state.calls, Level.explain_of_ne hne]
  · obtain ⟨replies, alike⟩ := run_coarser h hba hs limit builders orders
    refine ⟨replies.symm, (slots_eq_of_alike alike).symm, alike.defaultLimit.symm, alike.builders.symm,
      alike.state.out.symm, records, ?_, ?_, refused⟩
    · intro hsame
      rw [alike.state.calls, Level.explain_of_eq hsame.symm, List.flatMap_singleton']
    · intro ha hb
      exact absurd (ha.symm.trans (hba false hb)) Bool.false_ne_true

/-- A search that fails, and a pattern that is refused, without any records and with all of them. -/
theorem undisturbed_scripted :
    let scenario : Scenario :=
      { patterns := [("a", .ok { runs := [.failed (-52)] }), ("(", .error ⟨114, 1⟩)] }
    let M : Unit → Maker Unit := fun _ => (scenario.engine 0xFFFFFFFFFFFFFFFF).maker
    let orders : List (Order Unit) :=
      [.build "m" () none none, .perform "m" (.prepare "a" .empty), .perform "m" (.isMatch ⟨#[97]⟩ 0),
        .perform "m" (.prepare "(" .empty)]
    let w := reporting M () standardDepthLimit [] .off
    let v := reporting M () standardDepthLimit [] .trace
    (∀ i, (M i).Discreet fun _ _ => True) ∧ (w.run orders).state.calls.length = 7 ∧
      (v.run orders).state.calls.length = 8 ∧ (v.run orders).log.records.length = 3 ∧
      Undisturbed .off .trace orders w v := by
  intro scenario M orders w v
  have discreet : ∀ i, (M i).Discreet fun _ _ => True := fun i => (M i).discreet_of_subsingleton
  exact ⟨discreet, rfl, rfl, rfl, undisturbed discreet trivial .off .trace _ _ _⟩

end Workshop

end

end BoundedRegex
