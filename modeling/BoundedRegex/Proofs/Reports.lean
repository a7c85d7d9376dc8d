import Mathlib.Data.List.Forall2
import BoundedRegex.Proofs.Events
import BoundedRegex.Proofs.Isolation
import BoundedRegex.Proofs.Recorded

/-!
# What a run reports

A log tells what has happened, and nothing else: preparing a pattern is one event, whichever way it ends,
and so is each search that an engine has answered, unless there was no match. What has happened is worked
out here from what engines answer, not from the log. Those who prepare patterns are told the same.

At the level of traces, the texts of the log alone give back what has happened. The record of the engines
agrees with that: each pattern compiled and each search that came to something is in the log once, in the
order of the calls.
-/
namespace BoundedRegex

variable {ι σ : Type}

/-! ## What happens -/

/-- What has happened when a pattern has been prepared, if that is what the caller is told. -/
def Event.ofPrepare (pattern : String) (flags : Flags) : Except PrepareError Unit → Event
  | .ok () => .prepared pattern flags
  | .error (.regex message offset) => .refused pattern (.regex message offset)
  | .error .outOfMemory => .noBuffer pattern

/-- What has happened when an engine has answered a search. -/
def Execution.event? (pattern : String) (start : Nat) (limit : UInt32) (message : Int → String) :
    Execution → Option Event
  | .matched pairs => some (.matched pattern start pairs)
  | .noMatch => none
  | .depthLimitExceeded => some (.limitExceeded pattern limit)
  | .failed code => some (.searchFailed pattern code (message code))

namespace Bench

variable {E : Engine σ} {α β : Type}

/-- What happens when a pattern is prepared: always one thing. -/
def prepareEvent (pattern : String) (flags : Flags) (b : Bench E) : Event :=
  match E.compile pattern flags b.cleared.state with
  | (.error failure, s) => .refused pattern (.regex (E.message failure.code s).1 failure.offset)
  | (.ok code, s) =>
    match (E.makeBuffer code s).1 with
    | none => .noBuffer pattern
    | some _ => .prepared pattern flags

/-- What happens in a search. -/
def searchEvent? (subject : ByteArray) (start : Nat) (b : Bench E) : Option Event :=
  if subject.size < start then none
  else
    match b.matcher.prepared with
    | none => none
    | some p =>
      match E.execute p.code subject start b.matcher.depthLimit p.buffer b.state with
      | (answer, _, s) =>
        answer.event? p.pattern start b.matcher.depthLimit fun code => (E.message code s).1

/-- What happens in searches from several starts, one after another. -/
def sweepEvents (subject : ByteArray) : List Nat → Bench E → List Event
  | [], _ => []
  | start :: rest, b =>
    (b.searchEvent? subject start).toList ++
      sweepEvents subject rest ((search subject start : Work E _).run b).2

/-- What happens when a matcher is asked for something. -/
def happenings (b : Bench E) : Operation → List Event
  | .prepare pattern flags => [b.prepareEvent pattern flags]
  | .sweep subject => sweepEvents subject (List.range (subject.size + 2)) b
  | o =>
    match o.search? with
    | some (subject, start) => (b.searchEvent? subject start).toList
    | none => []

end Bench

namespace Workshop

variable {M : ι → Maker σ}

def events (w : Workshop M) : Order ι → List Event
  | .perform name o =>
    match w.slot? name with
    | some slot => (w.bench slot).happenings o
    | none => []
  | _ => []

/-- What happens while orders are carried out, one after another. -/
def happenings : List (Order ι) → Workshop M → List Event
  | [], _ => []
  | order :: rest, w => w.events order ++ happenings rest (w.answer order).2

end Workshop

/-! ## What is reported -/

/-- Reports events in turn. -/
def Log.addAll (log : Log) (events : List Event) : Log := events.foldl add log

theorem Log.addAll_append (log : Log) (before after : List Event) :
    log.addAll (before ++ after) = (log.addAll before).addAll after :=
  List.foldl_append

theorem Log.addAll_trace {log : Log} (h : log.level = .trace) (events : List Event) :
    log.addAll events = ⟨.trace, log.records ++ events.map Event.record⟩ := by
  induction events generalizing log with
  | nil =>
    obtain ⟨level, records⟩ := log
    cases h
    rw [List.map_nil, List.append_nil]
    rfl
  | cons e rest ih =>
    have added : log.add e = ⟨.trace, log.records ++ [e.record]⟩ := by
      rw [add, if_pos (h ▸ rfl), h]
    rw [addAll, List.foldl_cons, added]
    refine (ih rfl).trans ?_
    rw [List.append_assoc, List.singleton_append, List.map_cons]

namespace Bench

variable {E : Engine σ} {α β : Type}

theorem log_prepare (pattern : String) (flags : Flags) (b : Bench E) :
    ((prepare pattern flags : Work E _).run b).2.log = b.log.add (b.prepareEvent pattern flags) := by
  rw [run_prepare, prepareEvent]
  rcases E.compile pattern flags b.cleared.state with ⟨failure | code, s⟩
  · simp only [cleared_log]
  · dsimp only
    rcases E.makeBuffer code s with ⟨_ | buffer, s'⟩ <;> simp only [cleared_log]

/-- To prepare a pattern never aborts, and is reported as the caller is told. -/
theorem prepare_told (pattern : String) (flags : Flags) (b : Bench E) :
    ∃ result, ((prepare pattern flags : Work E _).run b).1 = .ok result ∧
      b.prepareEvent pattern flags = .ofPrepare pattern flags result := by
  rw [run_prepare, prepareEvent]
  rcases E.compile pattern flags b.cleared.state with ⟨failure | code, s⟩
  · exact ⟨_, rfl, rfl⟩
  · dsimp only
    rcases E.makeBuffer code s with ⟨_ | buffer, s'⟩
    · exact ⟨_, rfl, rfl⟩
    · exact ⟨_, rfl, rfl⟩

/-- A search reports what happens in it. The failure of one that is not reported is not in the log. -/
theorem log_search (subject : ByteArray) (start : Nat) (b : Bench E) :
    ((search subject start : Work E _).run b).2.log =
      b.log.addAll (b.searchEvent? subject start).toList := by
  rw [run_search, searchEvent?]
  by_cases hs : subject.size < start
  · rw [if_pos hs, if_pos hs]
    rfl
  rw [if_neg hs, if_neg hs]
  cases b.matcher.prepared with
  | none => rfl
  | some p =>
    rcases hx : E.execute p.code subject start b.matcher.depthLimit p.buffer b.state with
      ⟨_ | _ | _ | code, buffer, s⟩ <;> simp only [hx]
    case matched => rfl
    case noMatch => rfl
    case depthLimitExceeded => rfl
    case failed =>
      split
      · rfl
      · next unreported => exact (if_neg unreported).symm

/-- Whatever a search tells its caller, it reports the same. -/
theorem log_perform_search {o : Operation} {subject : ByteArray} {start : Nat}
    (ho : o.search? = some (subject, start)) (b : Bench E) :
    ((perform o : Work E Reply).run b).2.log = ((search subject start : Work E _).run b).2.log := by
  cases o <;> cases ho
  case isMatch => simp only [perform, run_reply, run_isMatch]
  case find => simp only [perform, run_reply, run_find]
  case findBytes => simp only [perform, run_reply, run_findBytes]
  case captures =>
    rw [run_perform_captures]
    rcases (search subject start : Work E _).run b with ⟨_ | g | _ | _, b'⟩ <;> rfl
  case capturesBytes =>
    rw [run_perform_capturesBytes]
    rcases (search subject start : Work E _).run b with ⟨_ | g | _ | _, b'⟩ <;> rfl

theorem log_sweep (subject : ByteArray) (starts : List Nat) (b : Bench E) :
    ((starts.mapM (attempt subject) : Work E _).run b).2.log =
      b.log.addAll (sweepEvents subject starts b) := by
  induction starts generalizing b with
  | nil => rfl
  | cons start rest ih =>
    have reported := log_search subject start b
    rw [List.mapM_cons, run_bind, run_attempt]
    dsimp only
    rw [run_reply]
    dsimp only
    rw [ih, run_find, reported, sweepEvents, Log.addAll_append]

/-- Whatever a matcher is asked for, what happens is reported. -/
theorem log_perform (o : Operation) (b : Bench E) :
    ((perform o : Work E Reply).run b).2.log = b.log.addAll (b.happenings o) := by
  cases o with
  | prepare pattern flags =>
    rw [perform, run_reply]
    exact log_prepare pattern flags b
  | sweep subject =>
    rw [perform, run_reply]
    exact log_sweep subject _ b
  | isMatch subject start => exact (log_perform_search rfl b).trans (log_search subject start b)
  | find subject start => exact (log_perform_search rfl b).trans (log_search subject start b)
  | findBytes subject start => exact (log_perform_search rfl b).trans (log_search subject start b)
  | captures subject start => exact (log_perform_search rfl b).trans (log_search subject start b)
  | capturesBytes subject start => exact (log_perform_search rfl b).trans (log_search subject start b)
  | clear =>
    rw [perform, run_reply, run_clear]
    exact cleared_log b
  | groupCount =>
    rw [perform, run_reply]
    exact keeps_groupCount (I := fun b' => b'.log = b.log) (fun _ _ h => h) b rfl
  | groupNumber name =>
    rw [perform, run_reply]
    exact keeps_groupNumber? (I := fun b' => b'.log = b.log) (fun _ _ h => h) (fun _ _ _ h => h) name b rfl
  | inspect => rfl
  | describe spreadOut => rfl
  | seed spans views => rfl

end Bench

namespace Workshop

variable {M : ι → Maker σ}

theorem answer_log (w : Workshop M) (order : Order ι) :
    (w.answer order).2.log = w.log.addAll (w.events order) := by
  cases order with
  | build name kind builder limit =>
    rw [answer_build, build_log, drop_log]
    rfl
  | drop name => exact drop_log w name
  | perform name o =>
    cases hs : w.slot? name with
    | none =>
      simp only [answer, events, hs]
      rfl
    | some slot =>
      rw [answer_perform hs]
      simp only [events, hs]
      exact Bench.log_perform o (w.bench slot)
  | _ => rfl

theorem prepare_told {w : Workshop M} {name : String} {slot : Slot M} (hs : w.slot? name = some slot)
    (pattern : String) (flags : Flags) :
    ∃ result, (w.answer (.perform name (.prepare pattern flags))).1 = .ok (.prepared result) ∧
      w.events (.perform name (.prepare pattern flags)) = [.ofPrepare pattern flags result] := by
  obtain ⟨result, told, event⟩ := (w.bench slot).prepare_told pattern flags
  refine ⟨result, ?_, ?_⟩
  · rw [answer_perform hs, Bench.perform, Bench.run_reply, told]
    rfl
  · simp only [events, hs, Bench.happenings, event]

/-- At every level, the log of a run is made of what has happened. -/
theorem run_log (orders : List (Order ι)) (w : Workshop M) :
    (w.run orders).log = w.log.addAll (w.happenings orders) := by
  induction orders generalizing w with
  | nil => rfl
  | cons order rest ih =>
    rw [happenings, Log.addAll_append, ← answer_log]
    exact ih (w.answer order).2

end Workshop

/-! ## What engines have been asked -/

/-- Whether a call is reported: it compiles a pattern, or it is a search that has come to something. -/
def Call.told : Call → Bool
  | .compile _ _ _ => true
  | .execute _ _ _ _ _ answer => answer != .noMatch
  | _ => false

/-- What a call that is reported tells. Its outcome settles the kind of the event, except that a pattern
that has been compiled may have got no buffer. -/
inductive Call.Tells : Call → Event → Prop where
  | prepared {pattern : String} {flags : Flags} {code : Nat} :
    Tells (.compile pattern flags (some code)) (.prepared pattern flags)
  | noBuffer {pattern : String} {flags : Flags} {code : Nat} :
    Tells (.compile pattern flags (some code)) (.noBuffer pattern)
  | refused {pattern : String} {flags : Flags} {message : String} {offset : Nat} :
    Tells (.compile pattern flags none) (.refused pattern (.regex message offset))
  | matched {code buffer : Nat} {subject : ByteArray} {pattern : String} {start pairs : Nat}
    {limit : UInt32} :
    Tells (.execute code buffer subject start limit (.matched pairs)) (.matched pattern start pairs)
  | limitExceeded {code buffer : Nat} {subject : ByteArray} {pattern : String} {start : Nat}
    {limit : UInt32} :
    Tells (.execute code buffer subject start limit .depthLimitExceeded) (.limitExceeded pattern limit)
  | searchFailed {code buffer : Nat} {subject : ByteArray} {pattern message : String} {start : Nat}
    {limit : UInt32} {failure : Int} :
    Tells (.execute code buffer subject start limit (.failed failure))
      (.searchFailed pattern failure message)

theorem Call.Tells.told {c : Call} {e : Event} (h : c.Tells e) : c.told = true := by
  cases h <;> rfl

namespace Recorded

/-- Each call that is reported is in the log once, in the order of the calls. -/
structure Reported (r : Recorded σ) (log : Log) : Prop where
  level : log.level = .trace
  calls : ∃ events, log.records = events.map Event.record ∧
    List.Forall₂ Call.Tells (r.calls.filter Call.told) events

namespace Reported

variable {r : Recorded σ} {log : Log} {s : σ} {c : Call}

theorem of_calls_eq (h : r.Reported log) {q : Recorded σ} (hq : q.calls = r.calls) : q.Reported log :=
  ⟨h.level, by rw [hq]; exact h.calls⟩

theorem handOut (h : r.Reported log) (made : Bool) : (r.handOut made).Reported log :=
  h.of_calls_eq (r.calls_handOut made)

theorem takeBack (h : r.Reported log) (n : Nat) : (r.takeBack n).Reported log := h.of_calls_eq rfl

theorem silent (h : r.Reported log) (hc : c.told = false) : (r.record s c).Reported log := by
  obtain ⟨events, records, calls⟩ := h.calls
  refine ⟨h.level, events, records, ?_⟩
  simpa [record, List.filter_append, hc] using calls

theorem tell (h : r.Reported log) {e : Event} (hc : c.Tells e) :
    (r.record s c).Reported (log.add e) := by
  obtain ⟨events, records, calls⟩ := h.calls
  have added : log.add e = ⟨.trace, log.records ++ [e.record]⟩ := Log.addAll_trace h.level [e]
  rw [added]
  refine ⟨rfl, events ++ [e], ?_, ?_⟩
  · rw [records, List.map_append, List.map_singleton]
  · simp only [record, List.filter_append, List.filter_cons_of_pos hc.told, List.filter_nil]
    exact List.rel_append calls (.cons hc .nil)

end Reported

end Recorded

theorem Bench.reported_cleared {E : Engine σ} {b : Bench E.recorded} (h : b.state.Reported b.log) :
    b.cleared.state.Reported b.log := by
  rw [cleared]
  cases b.matcher.prepared with
  | none => exact h
  | some p =>
    have code : (E.recorded.releaseCode p.code b.state).Reported b.log := by
      apply Recorded.Reported.takeBack
      exact h.silent rfl
    apply Recorded.Reported.takeBack
    exact code.silent rfl

theorem Bench.reported_prepare {E : Engine σ} {b : Bench E.recorded} (h : b.state.Reported b.log)
    (pattern : String) (flags : Flags) :
    ((prepare pattern flags : Work E.recorded _).run b).2.state.Reported
      ((prepare pattern flags : Work E.recorded _).run b).2.log := by
  have cleared := reported_cleared h
  rw [run_prepare, cleared_log]
  generalize b.cleared = b' at cleared ⊢
  simp only [Engine.recorded]
  rcases E.compile pattern flags b'.state.state with ⟨failure | code, s⟩
  · exact (cleared.tell .refused).silent rfl
  · dsimp only
    rcases E.makeBuffer code _ with ⟨_ | buffer, s'⟩
    · have told : (Call.compile pattern flags (some b'.state.next)).Tells (.noBuffer pattern) := .noBuffer
      have compiled := (cleared.tell (s := s) told).handOut true
      apply Recorded.Reported.takeBack
      exact (compiled.silent rfl).silent rfl
    · have told : (Call.compile pattern flags (some b'.state.next)).Tells (.prepared pattern flags) :=
        .prepared
      have compiled := (cleared.tell (s := s) told).handOut true
      exact (compiled.silent rfl).handOut true

theorem Bench.reported_search {E : Engine σ} {b : Bench E.recorded} (h : b.state.Reported b.log)
    (subject : ByteArray) (start : Nat) :
    ((search subject start : Work E.recorded _).run b).2.state.Reported
      ((search subject start : Work E.recorded _).run b).2.log := by
  rw [run_search]
  by_cases hs : subject.size < start
  · rwa [if_pos hs]
  rw [if_neg hs]
  cases b.matcher.prepared with
  | none => exact h
  | some p =>
    rcases hx : E.execute p.code.value subject start b.matcher.depthLimit p.buffer.value b.state.state with
      ⟨answer, buffer, s⟩
    have executed : E.recorded.execute p.code subject start b.matcher.depthLimit p.buffer b.state =
        (answer, ⟨buffer, p.buffer.number⟩, b.state.record s
          (.execute p.code.number p.buffer.number subject start b.matcher.depthLimit answer)) := by
      simp only [Engine.recorded, hx]
    simp only [executed]
    cases answer with
    | matched pairs => exact (h.tell .matched).silent rfl
    | noMatch => exact h.silent rfl
    | depthLimitExceeded => exact h.tell .limitExceeded
    | failed code =>
      -- The message is asked for, since traces report failures as well.
      have reports : b.log.level.reports false := by
        rw [h.level]
        rfl
      dsimp only
      rw [if_pos reports]
      exact (h.tell .searchFailed).silent rfl

/-- Whatever a matcher does, what its engine is asked is reported. -/
theorem Engine.recorded_reported (E : Engine σ) :
    Bench.Kept fun b : Bench E.recorded => b.state.Reported b.log where
  clear := by
    intro b h
    rw [Bench.run_clear, Bench.cleared_log]
    exact Bench.reported_cleared h
  prepare pattern flags b h := Bench.reported_prepare h pattern flags
  search subject start b h := Bench.reported_search h subject start
  vectors _ _ _ h := h
  groupCount := Bench.keeps_groupCount fun c b h => h.silent rfl
  groupNumber? := Bench.keeps_groupNumber? (fun c b h => h.silent rfl) fun c name b h => h.silent rfl

namespace Workshop

variable {M : ι → Maker σ} {w : Workshop fun i => (M i).recorded}

theorem drop_reported (h : w.state.Reported w.log) (name : String) :
    (w.drop name).state.Reported w.log := by
  cases hs : w.slot? name with
  | none => rwa [drop_none hs]
  | some slot =>
    rw [drop_some hs, discard_eq]
    exact (Bench.reported_cleared (b := (w.without name).bench slot) h).of_calls_eq rfl

theorem build_reported (h : w.state.Reported w.log) (name : String) (kind : ι) (b : MatcherBuilder) :
    (w.build name kind b).2.state.Reported w.log := by
  rcases hm : (M kind).recorded.make w.state with ⟨a | own, s⟩
  · rw [build_error hm]
    exact h.of_calls_eq (congrArg (·.2.calls) hm).symm
  · rw [build_ok hm]
    exact h.of_calls_eq (congrArg (·.2.calls) hm).symm

theorem answer_reported (h : w.state.Reported w.log) (order : Order ι) :
    (w.answer order).2.state.Reported (w.answer order).2.log := by
  cases order with
  | build name kind builder limit =>
    have dropped := drop_reported h name
    rw [← drop_log w name] at dropped
    rw [answer_build, build_log]
    exact build_reported dropped name kind _
  | drop name =>
    rw [answer, drop_log]
    exact drop_reported h name
  | perform name o =>
    cases hs : w.slot? name with
    | none => simpa only [answer, hs] using h
    | some slot =>
      rw [answer_perform hs]
      exact (M slot.kind).engine.recorded_reported.perform o (w.bench slot) h
  | _ => exact h

theorem run_reported (h : w.state.Reported w.log) (orders : List (Order ι)) :
    (w.run orders).state.Reported (w.run orders).log := by
  induction orders generalizing w with
  | nil => exact h
  | cons order rest ih => exact ih (answer_reported h order)

/-- What the log of a workshop says if some events have happened. -/
structure Faithful (events : List Event) (w : Workshop fun i => (M i).recorded) : Prop where
  /-- There is one record for each event, in order. -/
  records : w.log.records = events.map Event.record
  /-- The texts alone give back all events. -/
  read : w.log.records.map (fun r => Event.ofText? r.text) = events.map some
  /-- The events are those of the patterns that engines have compiled and of the searches that have come to
  something, one for each. -/
  calls : List.Forall₂ Call.Tells (w.state.calls.filter Call.told) events
  /-- Whenever a pattern is prepared, that is one event, and the one that the caller is told of. -/
  prepare : ∀ name slot pattern flags, w.slot? name = some slot →
    ∃ result, (w.answer (.perform name (.prepare pattern flags))).1 = .ok (.prepared result) ∧
      w.events (.perform name (.prepare pattern flags)) = [.ofPrepare pattern flags result]
  /-- Different events have different texts. -/
  apart : ∀ e e' : Event, e.text = e'.text → e = e'

variable (M) in
/-- A workshop without matchers that reports everything. -/
def traced (s : σ) (limit : UInt32) (builders : List (String × MatcherBuilder)) :
    Workshop fun i => (M i).recorded :=
  opened { state := s } { level := .trace } limit builders

/-- At the level of traces, the log of a run says exactly what has happened. -/
theorem run_faithful (M : ι → Maker σ) (s : σ) (limit : UInt32)
    (builders : List (String × MatcherBuilder)) (orders : List (Order ι)) :
    Faithful ((traced M s limit builders).happenings orders) ((traced M s limit builders).run orders) := by
  have log := run_log orders (traced M s limit builders)
  rw [Log.addAll_trace rfl] at log
  have records : ((traced M s limit builders).run orders).log.records =
      ((traced M s limit builders).happenings orders).map Event.record := congrArg Log.records log
  have start : (traced M s limit builders).state.Reported (traced M s limit builders).log :=
    ⟨rfl, [], rfl, .nil⟩
  obtain ⟨events, same, calls⟩ := (run_reported start orders).calls
  have apart : Function.Injective Event.record :=
    fun e e' h => Event.text_injective (congrArg Record.text h)
  refine ⟨records, ?_, ?_, fun _ _ pattern flags hs => prepare_told hs pattern flags, Event.text_injective⟩
  · rw [records, List.map_map]
    exact List.map_congr_left fun e _ => Event.ofText?_text e
  · -- The events that the calls tell of have the same records, so they are the same.
    rw [List.map_injective_iff.mpr apart (same.symm.trans records)] at calls
    exact calls

end Workshop

end BoundedRegex
