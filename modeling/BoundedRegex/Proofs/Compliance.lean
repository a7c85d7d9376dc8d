import BoundedRegex.Engine.Scripted
import BoundedRegex.Matcher.Builder
import BoundedRegex.Proofs.Contract

/-!
# Matchers keep to the contract of their engines

Every operation asks an engine only for what the contract allows, from a matcher that holds a code and a
buffer of its own to one that does so again. A run of operations on a matcher that has just been built
therefore keeps to the contract throughout. What a caller may not ask for never gets as far as the
engine.
-/
namespace BoundedRegex

variable {σ : Type}

/-! ## What matchers ask -/

namespace Bench

variable {E : Engine σ} {b : Bench E.witnessed} {pattern : String} {flags : Flags}
  {limit : UInt32}

/-- A matcher has come from one bench to another, and has kept to the contract of its engine. -/
structure Reaches (pattern : String) (flags : Flags) (limit : UInt32) (b b' : Bench E.witnessed) :
    Prop where
  backs : b'.state.Backs limit b'.matcher
  asks : b.state.Asks pattern flags limit b'.state

theorem reaches_refl (h : b.state.Backs limit b.matcher) : Reaches pattern flags limit b b :=
  ⟨h, .refl⟩

/-- A matcher that is cleared gives its own code and buffer back, and keeps neither. -/
theorem reaches_cleared (h : b.state.Backs limit b.matcher) :
    Reaches pattern flags limit b b.cleared := by
  cases hp : b.matcher.prepared with
  | none =>
    simp only [cleared, hp]
    exact reaches_refl h
  | some p =>
    have code := h.code p hp
    have buffer := h.buffer p hp
    have released : (b.state.note (E.releaseCode p.code.value b.state.state)
        (.releaseCode p.code.number)).Consistent :=
      h.consistent.giveBack rfl rfl (h.consistent.lt_of_made code.compiled rfl)
    have both : b.cleared.state.Consistent := by
      simp only [cleared, hp]
      exact released.giveBack rfl rfl (h.consistent.lt_of_made buffer.made rfl)
    refine ⟨both.backs (b.cleared_depthLimit.trans h.limit) b.cleared_prepared, ?_⟩
    simp only [cleared, hp]
    have first : b.state.Asks pattern flags limit
        (b.state.note (E.releaseCode p.code.value b.state.state) (.releaseCode p.code.number)) :=
      .note ⟨_, _, code⟩
    have left : HasBuffer (b.state.exchanges ++ [.releaseCode p.code.number]) p.buffer.number
        p.code.number := by
      apply buffer.snoc
      rintro ⟨⟩
    exact first.trans (.note ⟨_, left⟩)

theorem reaches_prepare (h : b.state.Backs limit b.matcher) (new : String) (newFlags : Flags) :
    Reaches pattern flags limit b ((prepare new newFlags : Work _ _).run b).2 := by
  have before : Reaches pattern flags limit b b.cleared := reaches_cleared h
  have cleared := b.cleared_prepared
  rw [run_prepare]
  -- Of the cleared bench only this is needed: it holds nothing, and has kept to the contract.
  generalize b.cleared = c at before cleared
  obtain ⟨⟨consistent, limited, -, -⟩, asks⟩ := before
  have asked (s : σ) (answer : Except CompileFailure Nat) :
      b.state.Asks pattern flags limit (c.state.note s (.compile new newFlags answer)) :=
    asks.trans (.note trivial)
  simp only [Engine.witnessed]
  rcases E.compile new newFlags c.state.state with ⟨failure | code, s⟩
  · have refused : (c.state.note s (.compile new newFlags (.error failure))).Consistent :=
      consistent.neutral rfl rfl
    refine ⟨(refused.neutral rfl rfl).backs limited cleared, (asked s _).trans (.note ?_)⟩
    exact ⟨_, List.getLast?_concat, rfl⟩
  · have compiled := consistent.compiled new newFlags s
    simp only [Witnessed.note_state]
    rcases E.makeBuffer code s with ⟨_ | buffer, s'⟩
    · obtain ⟨released, given⟩ := compiled.refused s' (E.releaseCode code s')
      exact ⟨released.backs limited cleared, (asked s _).trans given⟩
    · exact ⟨compiled.backs s' limited code buffer, (asked s _).trans (compiled.asks s' _)⟩

/-- The code of a matcher has been compiled from what the matcher reports. -/
theorem code_reported {p : Prepared E.witnessed} (h : b.state.Backs limit b.matcher)
    (hp : b.matcher.prepared = some p) :
    HasCode b.state.exchanges p.code.number b.matcher.pattern b.matcher.flags := by
  have pattern_eq : b.matcher.pattern = p.pattern := by
    rw [Matcher.pattern, hp]
    rfl
  have flags_eq : b.matcher.flags = p.flags := by
    rw [Matcher.flags, hp]
    rfl
  rw [pattern_eq, flags_eq]
  exact h.code p hp

theorem reaches_groupCount (h : b.state.Backs limit b.matcher) :
    Reaches b.matcher.pattern b.matcher.flags limit b ((groupCount : Work _ _).run b).2 := by
  rw [groupCount, run_bind, run_prepared]
  cases hp : b.matcher.prepared with
  | none => exact reaches_refl h
  | some p => exact ⟨h.note rfl rfl, .note (code_reported h hp)⟩

theorem reaches_groupNumber? (h : b.state.Backs limit b.matcher) (name : String) :
    Reaches b.matcher.pattern b.matcher.flags limit b
      ((groupNumber? name : Work _ _).run b).2 := by
  rw [groupNumber?, run_bind, run_prepared]
  cases hp : b.matcher.prepared with
  | none => exact reaches_refl h
  | some p =>
    have code := code_reported h hp
    have backs := h.note (s := (E.groupNumber? p.code.value name b.state.state).2)
      (e := .groupNumber p.code.number name) rfl rfl
    have named : b.state.Asks b.matcher.pattern b.matcher.flags limit
        (E.witnessed.groupNumber? p.code name b.state).2 :=
      .note (e := .groupNumber p.code.number name) code
    simp only [run_bind, run_ask]
    rcases (E.witnessed.groupNumber? p.code name b.state).1 with _ | n
    · exact ⟨backs, named⟩
    · by_cases hn : n = 0
      · simp only [if_pos hn]
        exact ⟨backs, named⟩
      · have counted : (E.witnessed.groupNumber? p.code name b.state).2.Asks b.matcher.pattern
            b.matcher.flags limit
            (E.witnessed.groupCount p.code (E.witnessed.groupNumber? p.code name b.state).2).2 :=
          .note (e := .groupCount p.code.number) (code.neutral rfl)
        simp only [if_neg hn, run_bind, run_ask]
        split
        · exact ⟨backs.note rfl rfl, named.trans counted⟩
        · exact ⟨backs.note rfl rfl, named.trans counted⟩

/-- A search asks about the matcher's own code and buffer, and leaves what the matcher reports. -/
theorem reaches_search (h : b.state.Backs limit b.matcher) (subject : ByteArray) (start : Nat) :
    Reaches b.matcher.pattern b.matcher.flags limit b
        ((search subject start : Work _ _).run b).2 ∧
      ((search subject start : Work _ _).run b).2.matcher.inspected = b.matcher.inspected := by
  rw [run_search]
  by_cases hs : subject.size < start
  · rw [if_pos hs]
    exact ⟨reaches_refl h, rfl⟩
  rw [if_neg hs]
  have inside : start ≤ subject.size := Nat.not_lt.mp hs
  cases hp : b.matcher.prepared with
  | none => exact ⟨reaches_refl h, rfl⟩
  | some p =>
    have code := code_reported h hp
    have buffer := h.buffer p hp
    have reported (value : E.Buffer) (w : Witnessed σ) :
        (b.searched p ⟨value, p.buffer.number⟩ w).matcher.inspected = b.matcher.inspected := by
      simp only [searched, Matcher.inspected, Matcher.pattern, Matcher.flags, hp, Option.map_some,
        Option.isSome_some]
    have unmatched (answer : Execution) (ha : ∀ pairs, answer ≠ .matched pairs) (s : σ) :
        b.state.Asks b.matcher.pattern b.matcher.flags limit
          (b.state.note s (.execute p.code.number p.buffer.number subject start b.matcher.depthLimit
            answer)) :=
      .note ⟨inside, h.limit, code, buffer, fun pairs hp => absurd hp (ha pairs)⟩
    simp only [Engine.witnessed]
    -- The offsets are asked for after a match, and a message after a failure that is reported.
    rcases hx : E.execute p.code.value subject start b.matcher.depthLimit p.buffer.value
      b.state.state with ⟨_ | _ | _ | failure, value, s⟩ <;> simp only [hx]
    · exact ⟨⟨((h.used hp value).note rfl rfl).note rfl rfl,
        .note_output inside h.limit code buffer⟩, reported value _⟩
    · have asked := unmatched .noMatch (by rintro _ ⟨⟩) s
      exact ⟨⟨(h.used hp value).note rfl rfl, asked⟩, reported value _⟩
    · have asked := unmatched .depthLimitExceeded (by rintro _ ⟨⟩) s
      exact ⟨⟨(h.used hp value).note rfl rfl, asked⟩, reported value _⟩
    · have asked := unmatched (.failed failure) (by rintro _ ⟨⟩) s
      by_cases hl : b.log.level.reports false
      · simp only [if_pos hl]
        exact ⟨⟨((h.used hp value).note rfl rfl).note rfl rfl,
          asked.trans (.note ⟨_, List.getLast?_concat, rfl⟩)⟩, reported value _⟩
      · simp only [if_neg hl]
        exact ⟨⟨(h.used hp value).note rfl rfl, asked⟩, reported value _⟩

/-- What stays true of a matcher while it searches, from a moment on at which `start` was its bench. -/
structure Searching (limit : UInt32) (start b : Bench E.witnessed) : Prop extends
    Reaches start.matcher.pattern start.matcher.flags limit start b where
  inspected : b.matcher.inspected = start.matcher.inspected

theorem searching_kept (limit : UInt32) (start : Bench E.witnessed) :
    SearchKept (Searching limit start) where
  search := by
    intro subject n b h
    obtain ⟨⟨backs, asks⟩, inspected⟩ := reaches_search h.backs subject n
    -- The matcher still reports the pattern and the flags that it reported at the start.
    have reported := h.inspected
    simp only [Matcher.inspected, Reply.inspected.injEq] at reported
    rw [reported.2.1, reported.2.2.1] at asks
    exact ⟨⟨backs, h.asks.trans asks⟩, inspected.trans h.inspected⟩
  vectors _ _ _ h := ⟨⟨h.backs, h.asks⟩, h.inspected⟩

theorem searching (h : b.state.Backs limit b.matcher) {o : Operation} (ho : o.searches = true) :
    Searching limit b ((perform o : Work _ _).run b).2 :=
  (searching_kept limit b).perform ho b ⟨reaches_refl h, rfl⟩

/-- Each operation keeps to the contract of the engine. -/
theorem reaches_perform (h : b.state.Backs limit b.matcher) (o : Operation) :
    Reaches b.matcher.pattern b.matcher.flags limit b ((perform o : Work _ _).run b).2 := by
  cases o with
  | prepare new newFlags =>
    rw [perform, run_reply]
    exact reaches_prepare h new newFlags
  | clear =>
    rw [perform, run_bind, run_clear]
    exact reaches_cleared h
  | inspect => exact reaches_refl h
  | describe spreadOut => exact reaches_refl h
  | groupCount =>
    rw [perform, run_reply]
    exact reaches_groupCount h
  | groupNumber name =>
    rw [perform, run_reply]
    exact reaches_groupNumber? h name
  | seed spans views => exact ⟨h, .refl⟩
  | _ => exact (searching h rfl).toReaches

end Bench

/-! ## Runs -/

/-- Why an operation may not be asked for, of a matcher with or without a pattern. -/
def Operation.violation? (prepared : Bool) (o : Operation) : Option Abort :=
  let unprepared := if prepared then none else some .notPrepared
  match o.search? with
  | some (subject, start) =>
    if subject.size < start then some (.startPastEnd start subject.size) else unprepared
  | none =>
    match o with
    | .groupCount => unprepared
    | .groupNumber _ => unprepared
    | _ => none

namespace Bench

section
variable {E : Engine σ} {b : Bench E} {a : Abort}

theorem perform_aborted {o : Operation} {subject : ByteArray} {start : Nat}
    (ho : o.search? = some (subject, start))
    (h : (search subject start : Work E _).run b = (.error a, b)) :
    (perform o : Work E Reply).run b = (.error a, b) := by
  cases o <;> cases ho
  case isMatch =>
    rw [perform, run_reply, run_isMatch, h]
    rfl
  case find =>
    rw [perform, run_reply, run_find, h]
    rfl
  case findBytes =>
    rw [perform, run_reply, run_findBytes, h]
    rfl
  case captures => rw [perform, run_bind, run_captures, h]
  case capturesBytes => rw [perform, run_bind, run_capturesBytes, h]

/-- An operation that may not be asked for is aborted at once. -/
theorem perform_violating {o : Operation} (h : o.violation? b.matcher.prepared.isSome = some a) :
    (perform o : Work E Reply).run b = (.error a, b) := by
  have unprepared (h : (if b.matcher.prepared.isSome then none else some Abort.notPrepared) = some a) :
      b.matcher.prepared = none ∧ a = .notPrepared := by
    cases hp : b.matcher.prepared with
    | none =>
      rw [hp] at h
      exact ⟨rfl, (Option.some.inj h).symm⟩
    | some p =>
      rw [hp] at h
      cases h
  have search {subject : ByteArray} {start : Nat}
      (h : (if subject.size < start then some (Abort.startPastEnd start subject.size)
        else if b.matcher.prepared.isSome then none else some .notPrepared) = some a) :
      (search subject start : Work E _).run b = (.error a, b) := by
    rw [run_search]
    by_cases hpast : subject.size < start
    · rw [if_pos hpast] at h ⊢
      rw [Option.some.inj h]
    · rw [if_neg hpast] at h ⊢
      obtain ⟨hp, rfl⟩ := unprepared h
      rw [hp]
  cases o with
  | groupCount =>
    obtain ⟨hp, rfl⟩ := unprepared h
    simp only [perform, run_bind, groupCount, run_prepared, hp]
  | groupNumber name =>
    obtain ⟨hp, rfl⟩ := unprepared h
    simp only [perform, run_bind, groupNumber?, run_prepared, hp]
  | isMatch subject start => exact perform_aborted rfl (search h)
  | find subject start => exact perform_aborted rfl (search h)
  | findBytes subject start => exact perform_aborted rfl (search h)
  | captures subject start => exact perform_aborted rfl (search h)
  | capturesBytes subject start => exact perform_aborted rfl (search h)
  | _ => cases h

/-- A bench with a matcher that has just been built. -/
def built (E : Engine σ) (builder : MatcherBuilder) (standard : UInt32) (s : σ) (log : Log)
    (spans : List Span) (views : List ByteArray) : Bench E :=
  { matcher := builder.build standard E, spans := spans, views := views, state := s, log := log }

/-- A bench after some operations. -/
def after (ops : List Operation) (b : Bench E) : Bench E :=
  ops.foldl (fun b o => ((perform o : Work E Reply).run b).2) b

end

variable {E : Engine σ}

/-- An operation is carried out by a matcher with a limit as the contract of its engine demands. -/
structure Complies (b : Bench E.witnessed) (limit : UInt32) (o : Operation) : Prop where
  /-- Whatever is asked of the engine, it may rely on its contract. -/
  asks : b.state.Asks b.matcher.pattern b.matcher.flags limit (b.after [o]).state
  /-- Codes and buffers have numbers of their own. -/
  numbers : ((b.after [o]).state.exchanges.filterMap Exchange.made?).Nodup
  /-- A matcher reports the same at each moment of a search. -/
  inspected : o.searches = true → (b.after [o]).matcher.inspected = b.matcher.inspected
  /-- What may not be asked for is aborted before the engine is asked anything, and changes nothing. -/
  violation : ∀ a, o.violation? b.matcher.prepared.isSome = some a →
    (perform o : Work _ Reply).run b = (.error a, b)

theorem complies_of_backs {b : Bench E.witnessed} {limit : UInt32}
    (h : b.state.Backs limit b.matcher) (o : Operation) : b.Complies limit o where
  asks := (reaches_perform h o).asks
  numbers := by
    have consistent : (b.after [o]).state.Consistent := (reaches_perform h o).backs.consistent
    rw [consistent.made]
    exact List.nodup_range
  inspected ho := (searching h ho).inspected
  violation _ ha := perform_violating ha

theorem after_backs {b : Bench E.witnessed} {limit : UInt32} (h : b.state.Backs limit b.matcher)
    (ops : List Operation) : (b.after ops).state.Backs limit (b.after ops).matcher := by
  induction ops generalizing b with
  | nil => exact h
  | cons o rest ih => exact ih (reaches_perform h o).backs

/-- Without the witness, the same operations lead to the same bench. -/
theorem after_unwitnessed (b : Bench E.witnessed) (ops : List Operation) :
    (E.unwitnessed.bench b).after ops = E.unwitnessed.bench (b.after ops) := by
  induction ops generalizing b with
  | nil => rfl
  | cons o rest ih =>
    have first := E.unwitnessed.run_perform o b
    simp only [after, List.foldl_cons, first]
    exact ih _

/-- On every run, a matcher keeps to the contract of its engine, and its caller is told the same as
without a witness. -/
theorem run_complies (E : Engine σ) (builder : MatcherBuilder) (standard : UInt32) (s : σ) (log : Log)
    (spans : List Span) (views : List ByteArray) (ops : List Operation) (o : Operation) :
    let b := (built E.witnessed builder standard { state := s } log spans views).after ops
    b.Complies (builder.depthLimit.getD standard) o ∧
      ((perform o : Work _ Reply).run b).1 =
        ((perform o : Work _ Reply).run ((built E builder standard s log spans views).after ops)).1 := by
  intro b
  have start : ({ state := s } : Witnessed σ).Consistent := ⟨rfl, nofun⟩
  constructor
  · apply complies_of_backs
    apply after_backs
    exact start.backs rfl rfl
  · have plain : (built E builder standard s log spans views).after ops = E.unwitnessed.bench b :=
      after_unwitnessed (built E.witnessed builder standard { state := s } log spans views) ops
    rw [plain, E.unwitnessed.run_perform]

/-- A search that finds a match, and one that may not be asked for. -/
example :
    let code : ScriptedCode := { runs := [.matched [some 0, some 1] none] }
    let E := Scenario.engine { patterns := [("a", .ok code)] } 7
    let subject : ByteArray := ⟨#[97]⟩
    ((built E.witnessed {} 5 { state := () } {} [] []).after
        [.prepare "a" .empty, .find subject 0, .find subject 2, .clear]).state.exchanges =
      [.compile "a" .empty (.ok 0), .makeBuffer 0 (some 1), .execute 0 1 subject 0 5 (.matched 1),
        .output 1, .releaseCode 0, .releaseBuffer 1] := by
  rfl

end Bench

end BoundedRegex
