import BoundedRegex.Engine.Scripted
import BoundedRegex.Matcher.Builder
import BoundedRegex.Proofs.Work

/-!
# A matcher without a past

An engine is functional if its answers follow from what it is asked. Over such an engine a matcher
answers like a machine that knows only the pattern and the flags which it is prepared with, compiles
them anew for each operation, and searches with a new buffer. So nothing of a matcher's past shows
but the last pattern: not the searches before, not what they left in the buffer, and not the patterns
before.

Codes of one pattern need not be equal, since an engine may number them or keep them in memory. They
need only be alike in all answers, whichever state the engine is in.
-/
namespace BoundedRegex

variable {σ : Type}

namespace Engine

def Compiles (E : Engine σ) (pattern : String) (flags : Flags) (code : E.Code) : Prop :=
  ∃ s, (E.compile pattern flags s).1 = .ok code

inductive Serves (E : Engine σ) (code : E.Code) : E.Buffer → Prop
  | new {s : σ} {buffer : E.Buffer} :
      (E.makeBuffer code s).1 = some buffer → Serves E code buffer
  | used {buffer : E.Buffer} (subject : ByteArray) (start : Nat) (limit : UInt32) (s : σ) :
      start ≤ subject.size → Serves E code buffer →
      Serves E code (E.execute code subject start limit buffer s).2.1

/-- What an engine answers follows from what it is asked: compiling fails or not, and how, by the
pattern and its flags; everything else by the code, and a search by the subject, the start and the
limit as well. -/
structure Functional (E : Engine σ) : Prop where
  refuses : ∀ pattern flags failure s t,
    (E.compile pattern flags s).1 = .error failure → (E.compile pattern flags t).1 = .error failure
  makeBuffer : ∀ {pattern flags c d}, E.Compiles pattern flags c → E.Compiles pattern flags d →
    ∀ s t, (E.makeBuffer c s).1.isSome = (E.makeBuffer d t).1.isSome
  groupCount : ∀ {pattern flags c d}, E.Compiles pattern flags c → E.Compiles pattern flags d →
    ∀ s t, (E.groupCount c s).1 = (E.groupCount d t).1
  groupNumber? : ∀ {pattern flags c d}, E.Compiles pattern flags c → E.Compiles pattern flags d →
    ∀ name s t, (E.groupNumber? c name s).1 = (E.groupNumber? d name t).1
  message : ∀ code s t, (E.message code s).1 = (E.message code t).1
  execute : ∀ {pattern flags c d b e}, E.Compiles pattern flags c → E.Compiles pattern flags d →
    E.Serves c b → E.Serves d e → ∀ {subject : ByteArray} {start}, start ≤ subject.size →
    ∀ limit s t, (E.execute c subject start limit b s).1 = (E.execute d subject start limit e t).1
  output : ∀ {pattern flags c d b e}, E.Compiles pattern flags c → E.Compiles pattern flags d →
    E.Serves c b → E.Serves d e → ∀ {subject : ByteArray} {start}, start ≤ subject.size →
    ∀ limit s t s' t' pairs, (E.execute c subject start limit b s).1 = .matched pairs →
    (E.output (E.execute c subject start limit b s).2.1 s').1 =
      (E.output (E.execute d subject start limit e t).2.1 t').1

/-- A pattern compiled from a state on, with a new buffer, or else why it cannot be prepared. -/
def fresh (E : Engine σ) (pattern : String) (flags : Flags) (s : σ) :
    Except PrepareError (E.Code × E.Buffer × σ) :=
  match E.compile pattern flags s with
  | (.error failure, s) => .error (.regex (E.message failure.code s).1 failure.offset)
  | (.ok code, s) =>
    match E.makeBuffer code s with
    | (none, _) => .error .outOfMemory
    | (some buffer, s) => .ok (code, buffer, s)

end Engine

/-- The two vectors of a caller. -/
structure Vectors where
  spans : List Span := []
  views : List ByteArray := []

/-- What a caller sees of an operation: the reply, and the vectors after it. -/
structure Seen where
  reply : Except Abort Reply
  vectors : Vectors

/-- What a caller sees of some operations on a bench, one after another. -/
def Bench.transcript {E : Engine σ} : List Operation → Bench E → List Seen
  | [], _ => []
  | o :: rest, b =>
    let (reply, b) := (Bench.perform o : Work E Reply).run b
    ⟨reply, b.spans, b.views⟩ :: transcript rest b

theorem Bench.transcript_cons {E : Engine σ} (o : Operation) (rest : List Operation) (b : Bench E) :
    Bench.transcript (o :: rest) b =
      ⟨((Bench.perform o : Work E Reply).run b).1, ((Bench.perform o : Work E Reply).run b).2.spans,
          ((Bench.perform o : Work E Reply).run b).2.views⟩ ::
        Bench.transcript rest ((Bench.perform o : Work E Reply).run b).2 := rfl

/-- A machine over an engine whose only state is the pattern that it holds, if there is one, with its
flags. Whenever it needs the engine, it starts from the same state. -/
structure Fresh (E : Engine σ) where
  origin : σ
  limit : UInt32

namespace Fresh

variable {E : Engine σ}

/-- What a machine holds. -/
abbrev Held := Option (String × Flags)

/-- The held pattern, compiled anew and with a new buffer. -/
def ready (M : Fresh E) : Held → Except Abort (E.Code × E.Buffer × σ)
  | none => .error .notPrepared
  | some (pattern, flags) =>
    match E.fresh pattern flags M.origin with
    | .error _ => .error .notPrepared
    | .ok new => .ok new

def search (M : Fresh E) (h : Held) (subject : ByteArray) (start : Nat) :
    Except Abort (Outcome Groups) :=
  if subject.size < start then .error (.startPastEnd start subject.size)
  else
    match M.ready h with
    | .error a => .error a
    | .ok (code, buffer, s) =>
      match E.execute code subject start M.limit buffer s with
      | (.matched _, buffer, s) => .ok (.found ⟨E.unset, (E.output buffer s).1⟩)
      | (.noMatch, _, _) => .ok .noMatch
      | (.depthLimitExceeded, _, _) => .ok .depthLimitExceeded
      | (.failed _, _, _) => .ok .noMatch

/-- Where the match lies. -/
def find (M : Fresh E) (h : Held) (subject : ByteArray) (start : Nat) :
    Except Abort (Outcome Span) :=
  M.search h subject start >>= (·.traverse Groups.overallSpan)

def groupCount (M : Fresh E) (h : Held) : Except Abort Nat :=
  (M.ready h).map fun (code, _, s) => (E.groupCount code s).1

/-- The number of the group of a name, if the held pattern has it. -/
def groupNumber? (M : Fresh E) (h : Held) (name : String) : Except Abort (Option Nat) :=
  (M.ready h).map fun (code, _, s) =>
    (E.groupNumber? code name s).1.filter fun n =>
      decide (1 ≤ n) && decide (n ≤ (E.groupCount code s).1)

def shown (M : Fresh E) (h : Held) : Text.Shown :=
  .record "Matcher"
    [("pattern", .text ((h.map Prod.fst).getD "")),
     ("flags", ((h.map Prod.snd).getD .empty).shown),
     ("prepared", .truth h.isSome),
     ("depth_limit", .number M.limit.toNat)]

/-- Does an operation: what the caller sees, and what is held then. -/
def step (M : Fresh E) (h : Held) (v : Vectors) : Operation → Seen × Held
  | .prepare pattern flags =>
    match E.fresh pattern flags M.origin with
    | .error e => (⟨.ok (.prepared (.error e)), v⟩, none)
    | .ok _ => (⟨.ok (.prepared (.ok ())), v⟩, some (pattern, flags))
  | .clear => (⟨.ok .done, v⟩, none)
  | .inspect =>
    (⟨.ok (.inspected h.isSome ((h.map Prod.fst).getD "") ((h.map Prod.snd).getD .empty) M.limit), v⟩,
      h)
  | .describe spreadOut => (⟨.ok (.text ((M.shown h).render spreadOut)), v⟩, h)
  | .groupCount => (⟨(M.groupCount h).map .number, v⟩, h)
  | .groupNumber name => (⟨(M.groupNumber? h name).map .maybeNumber, v⟩, h)
  | .isMatch subject start =>
    (⟨(M.search h subject start).map fun o => .matched (o.map fun _ => ()), v⟩, h)
  | .find subject start => (⟨(M.find h subject start).map .span, v⟩, h)
  | .findBytes subject start =>
    (⟨(M.search h subject start >>= (·.traverse (Groups.overallBytes subject))).map .bytes, v⟩, h)
  | .captures subject start =>
    match M.search h subject start with
    | .error a => (⟨.error a, v⟩, h)
    | .ok (.found g) =>
      (⟨g.spans.map (.spans (.found ())), { v with spans := beforeAbort g.eachSpan }⟩, h)
    | .ok .noMatch => (⟨.ok (.spans .noMatch v.spans), v⟩, h)
    | .ok .depthLimitExceeded => (⟨.ok (.spans .depthLimitExceeded v.spans), v⟩, h)
  | .capturesBytes subject start =>
    match M.search h subject start with
    | .error a => (⟨.error a, v⟩, h)
    | .ok (.found g) =>
      (⟨(g.views subject).map (.views (.found ())), { v with views := beforeAbort (g.eachView subject) }⟩,
        h)
    | .ok .noMatch => (⟨.ok (.views .noMatch v.views), v⟩, h)
    | .ok .depthLimitExceeded => (⟨.ok (.views .depthLimitExceeded v.views), v⟩, h)
  | .seed spans views => (⟨.ok .done, ⟨spans, views⟩⟩, h)
  | .sweep subject =>
    (⟨.ok (.sweep ((List.range (subject.size + 2)).map (M.find h subject))), v⟩, h)

/-- What a caller sees of some operations on a machine, one after another. -/
def transcript (M : Fresh E) : List Operation → Held → Vectors → List Seen
  | [], _, _ => []
  | o :: rest, h, v =>
    let (seen, h) := M.step h v o
    seen :: M.transcript rest h seen.vectors

theorem transcript_cons (M : Fresh E) (o : Operation) (rest : List Operation) (h : Held)
    (v : Vectors) :
    M.transcript (o :: rest) h v =
      (M.step h v o).1 :: M.transcript rest (M.step h v o).2 (M.step h v o).1.vectors := rfl

end Fresh

/-! ## Fresh codes and buffers -/

section
variable {E : Engine σ}

theorem Engine.Serves.made {code : E.Code} {buffer : E.Buffer} (h : E.Serves code buffer) :
    ∃ s, (E.makeBuffer code s).1.isSome := by
  induction h with
  | @new s _ h => exact ⟨s, by rw [h]; rfl⟩
  | used _ _ _ _ _ _ ih => exact ih

/-- What has been compiled once compiles from every state. -/
theorem Engine.Functional.compiles (hE : E.Functional) {pattern : String} {flags : Flags}
    {code : E.Code} (h : E.Compiles pattern flags code) (t : σ) :
    ∃ d u, E.compile pattern flags t = (.ok d, u) ∧ E.Compiles pattern flags d := by
  obtain ⟨s, hs⟩ := h
  rcases ht : E.compile pattern flags t with ⟨failure | d, u⟩
  · have hfail := hE.refuses pattern flags failure t s (by rw [ht])
    rw [hs] at hfail
    cases hfail
  · exact ⟨d, u, rfl, t, by rw [ht]⟩

/-- A pattern whose code and buffer are in use can be prepared anew from every state. -/
theorem Engine.Functional.fresh_ok (hE : E.Functional) {pattern : String} {flags : Flags}
    {code : E.Code} {buffer : E.Buffer} (hc : E.Compiles pattern flags code)
    (hb : E.Serves code buffer) (t : σ) :
    ∃ d e u, E.fresh pattern flags t = .ok (d, e, u) ∧ E.Compiles pattern flags d ∧
      E.Serves d e := by
  obtain ⟨d, u, hd, hcd⟩ := hE.compiles hc t
  obtain ⟨s, hs⟩ := hb.made
  have hmade : (E.makeBuffer d u).1.isSome := by rw [← hE.makeBuffer hc hcd s u]; exact hs
  rcases hm : E.makeBuffer d u with ⟨_ | e, u'⟩
  · rw [hm] at hmade
    cases hmade
  · exact ⟨d, e, u', by simp only [Engine.fresh, hd, hm], hcd, .new (by rw [hm])⟩

/-- Preparing ends alike from all states. -/
theorem Engine.Functional.fresh_error (hE : E.Functional) {pattern : String} {flags : Flags}
    {s : σ} {e : PrepareError} (h : E.fresh pattern flags s = .error e) (t : σ) :
    E.fresh pattern flags t = .error e := by
  rcases hs : E.compile pattern flags s with ⟨failure | c, s'⟩
  · have ht := hE.refuses pattern flags failure s t (by rw [hs])
    rcases hu : E.compile pattern flags t with ⟨_, t'⟩
    rw [hu] at ht
    subst ht
    simp only [Engine.fresh, hs, hu] at h ⊢
    rw [← h, hE.message failure.code t' s']
  · have hc : E.Compiles pattern flags c := ⟨s, by rw [hs]⟩
    obtain ⟨d, t', ht, hd⟩ := hE.compiles hc t
    have hmade := hE.makeBuffer hc hd s' t'
    simp only [Engine.fresh, hs, ht] at h ⊢
    rcases hm : E.makeBuffer c s' with ⟨_ | b, s''⟩ <;> rw [hm] at h hmade
    · cases h
      rcases hn : E.makeBuffer d t' with ⟨_ | _, _⟩
      · rfl
      · rw [hn] at hmade
        cases hmade
    · cases h

end

/-! ## A matcher beside the machine -/

/-- A bench shows nothing but what a machine holds: its pattern and flags, the limit and the vectors
are those of the machine, and its code and buffer may have come from this pattern. -/
structure Bench.Agrees {E : Engine σ} (M : Fresh E) (b : Bench E) (h : Fresh.Held) (v : Vectors) :
    Prop where
  limit : b.matcher.depthLimit = M.limit
  held : b.matcher.prepared.map (fun p => (p.pattern, p.flags)) = h
  sound : ∀ p, b.matcher.prepared = some p →
    E.Compiles p.pattern p.flags p.code ∧ E.Serves p.code p.buffer
  spans : b.spans = v.spans
  views : b.views = v.views

namespace Bench.Agrees

variable {E : Engine σ} {M : Fresh E} {b : Bench E} {h : Fresh.Held} {v : Vectors}

theorem seen (hb : b.Agrees M h v) (r : Except Abort Reply) :
    (⟨r, b.spans, b.views⟩ : Seen) = ⟨r, v⟩ := by
  rw [hb.spans, hb.views]

theorem vectors (hb : b.Agrees M h v) (spans : List Span) (views : List ByteArray) :
    Bench.Agrees M { b with spans := spans, views := views } h ⟨spans, views⟩ :=
  ⟨hb.limit, hb.held, hb.sound, rfl, rfl⟩

/-- Neither the log nor the state of the engine shows. -/
theorem unseen (hb : b.Agrees M h v) (s : σ) (log : Log) :
    Bench.Agrees M { b with state := s, log := log } h v :=
  ⟨hb.limit, hb.held, hb.sound, hb.spans, hb.views⟩

theorem cleared (hb : b.Agrees M h v) : b.cleared.Agrees M none v where
  limit := by rw [cleared_depthLimit, hb.limit]
  held := by rw [cleared_prepared]; rfl
  sound := by
    intro p hp
    rw [cleared_prepared] at hp
    cases hp
  spans := by rw [cleared_spans, hb.spans]
  views := by rw [cleared_views, hb.views]

theorem held_none (hb : b.Agrees M h v) (hp : b.matcher.prepared = none) : h = none := by
  rw [← hb.held, hp]
  rfl

theorem held_some (hb : b.Agrees M h v) {p : Prepared E} (hp : b.matcher.prepared = some p) :
    h = some (p.pattern, p.flags) := by
  rw [← hb.held, hp]
  rfl

/-- The machine is ready whenever the matcher is prepared, with a code that is alike. -/
theorem ready (hE : E.Functional) (hb : b.Agrees M h v) {p : Prepared E}
    (hp : b.matcher.prepared = some p) :
    ∃ d e s, M.ready h = .ok (d, e, s) ∧ E.Compiles p.pattern p.flags d ∧ E.Serves d e := by
  obtain ⟨hc, hs⟩ := hb.sound p hp
  obtain ⟨d, e, s, hf, hd, he⟩ := hE.fresh_ok hc hs M.origin
  exact ⟨d, e, s, by simp only [hb.held_some hp, Fresh.ready, hf], hd, he⟩

/-- A search leaves nothing behind that shows. -/
theorem searched (hb : b.Agrees M h v) {p : Prepared E} (hp : b.matcher.prepared = some p)
    {subject : ByteArray} {start : Nat} (hs : start ≤ subject.size) (limit : UInt32) (t s : σ)
    (log : Log) :
    Bench.Agrees M
      { b.searched p (E.execute p.code subject start limit p.buffer t).2.1 s with log := log } h v where
  limit := hb.limit
  held := by rw [hb.held_some hp]; rfl
  sound := by
    obtain ⟨hc, hbuf⟩ := hb.sound p hp
    rintro q ⟨⟩
    exact ⟨hc, .used subject start limit t hs hbuf⟩
  spans := hb.spans
  views := hb.views

theorem run_search (hE : E.Functional) (hb : b.Agrees M h v) (subject : ByteArray) (start : Nat) :
    ((Bench.search subject start : Work E _).run b).1 = M.search h subject start ∧
      ((Bench.search subject start : Work E _).run b).2.Agrees M h v := by
  rw [Bench.run_search, Fresh.search]
  by_cases hsize : subject.size < start
  · simp only [if_pos hsize]
    exact ⟨trivial, hb⟩
  have hstart : start ≤ subject.size := Nat.le_of_not_lt hsize
  simp only [if_neg hsize]
  cases hp : b.matcher.prepared with
  | none =>
    simp only [hb.held_none hp, Fresh.ready]
    exact ⟨trivial, hb.held_none hp ▸ hb⟩
  | some p =>
    obtain ⟨hc, hbuf⟩ := hb.sound p hp
    obtain ⟨d, e, s, hready, hd, he⟩ := hb.ready hE hp
    -- The two searches have the same verdict, and after a match the same offsets.
    have verdict := hE.execute hc hd hbuf he hstart M.limit b.state s
    have offsets := hE.output hc hd hbuf he hstart M.limit b.state s
    have after := hb.searched hp hstart M.limit b.state
    simp only [hready, hb.limit]
    rcases hx : E.execute p.code subject start M.limit p.buffer b.state with ⟨answer, buffer, s₁⟩
    rcases hy : E.execute d subject start M.limit e s with ⟨answer', buffer', s₂⟩
    simp only [hx, hy] at verdict offsets after
    subst verdict
    cases answer with
    | matched pairs =>
      simp only [offsets s₁ s₂ pairs rfl]
      exact ⟨trivial, after _ _⟩
    | noMatch => exact ⟨rfl, after _ b.log⟩
    | depthLimitExceeded => exact ⟨rfl, after _ _⟩
    | failed code =>
      by_cases hl : b.log.level.reports false
      · simp only [hl, ↓reduceIte]
        exact ⟨trivial, after _ _⟩
      · simp only [hl, Bool.false_eq_true, ↓reduceIte]
        exact ⟨trivial, after _ b.log⟩

theorem run_find (hE : E.Functional) (hb : b.Agrees M h v) (subject : ByteArray) (start : Nat) :
    ((Bench.find subject start : Work E _).run b).1 = M.find h subject start ∧
      ((Bench.find subject start : Work E _).run b).2.Agrees M h v := by
  obtain ⟨result, after⟩ := hb.run_search hE subject start
  rw [Bench.run_find, Fresh.find, result]
  exact ⟨rfl, after⟩

theorem run_groupCount (hE : E.Functional) (hb : b.Agrees M h v) :
    ((Bench.groupCount : Work E Nat).run b).1 = M.groupCount h ∧
      ((Bench.groupCount : Work E Nat).run b).2.Agrees M h v := by
  simp only [Bench.groupCount, run_bind, run_prepared, Fresh.groupCount]
  cases hp : b.matcher.prepared with
  | none =>
    simp only [hb.held_none hp, Fresh.ready]
    exact ⟨rfl, hb.held_none hp ▸ hb⟩
  | some p =>
    obtain ⟨d, e, s, hready, hd, -⟩ := hb.ready hE hp
    simp only [hready, run_ask]
    exact ⟨congrArg Except.ok (hE.groupCount (hb.sound p hp).1 hd b.state s), hb.unseen _ b.log⟩

theorem run_groupNumber? (hE : E.Functional) (hb : b.Agrees M h v) (name : String) :
    ((Bench.groupNumber? name : Work E _).run b).1 = M.groupNumber? h name ∧
      ((Bench.groupNumber? name : Work E _).run b).2.Agrees M h v := by
  simp only [Bench.groupNumber?, run_bind, run_prepared, Fresh.groupNumber?]
  cases hp : b.matcher.prepared with
  | none =>
    simp only [hb.held_none hp, Fresh.ready]
    exact ⟨rfl, hb.held_none hp ▸ hb⟩
  | some p =>
    obtain ⟨d, e, s, hready, hd, -⟩ := hb.ready hE hp
    have hc := (hb.sound p hp).1
    have number := hE.groupNumber? hc hd name b.state s
    have count := hE.groupCount hc hd (E.groupNumber? p.code name b.state).2 s
    simp only [hready, run_ask, Except.map]
    rw [number]
    rcases (E.groupNumber? d name s).1 with _ | n
    · exact ⟨rfl, hb.unseen _ b.log⟩
    · by_cases hn : n = 0
      · subst hn
        exact ⟨rfl, hb.unseen _ b.log⟩
      · have hpos : 1 ≤ n := Nat.one_le_iff_ne_zero.mpr hn
        simp only [hn, ↓reduceIte, run_bind, run_ask, count, Option.filter, hpos, decide_true,
          Bool.true_and]
        by_cases hle : n ≤ (E.groupCount d s).1
        · simp only [hle, ↓reduceIte, run_pure, decide_true]
          exact ⟨trivial, hb.unseen _ b.log⟩
        · simp only [hle, ↓reduceIte, run_pure, decide_false, Bool.false_eq_true]
          exact ⟨trivial, hb.unseen _ b.log⟩

/-- Preparing forgets what was held, and holds the new pattern unless it is refused. -/
theorem run_prepare (hE : E.Functional) (hb : b.Agrees M h v) (pattern : String) (flags : Flags) :
    match E.fresh pattern flags M.origin with
    | .error e =>
      ((Bench.prepare pattern flags : Work E _).run b).1 = .ok (.error e) ∧
        ((Bench.prepare pattern flags : Work E _).run b).2.Agrees M none v
    | .ok _ =>
      ((Bench.prepare pattern flags : Work E _).run b).1 = .ok (.ok ()) ∧
        ((Bench.prepare pattern flags : Work E _).run b).2.Agrees M (some (pattern, flags)) v := by
  have hb := hb.cleared
  rw [Bench.run_prepare]
  have alike : ∀ e, E.fresh pattern flags b.cleared.state = .error e →
      E.fresh pattern flags M.origin = .error e := fun _ he => hE.fresh_error he M.origin
  rcases hc : E.compile pattern flags b.cleared.state with ⟨failure | code, s⟩
  · simp only [Engine.fresh, hc] at alike
    simp only [Engine.fresh, alike _ rfl]
    exact ⟨trivial, hb.unseen _ _⟩
  · rcases hm : E.makeBuffer code s with ⟨_ | buffer, s'⟩
    · simp only [Engine.fresh, hc, hm] at alike
      simp only [Engine.fresh, hm, alike _ rfl]
      exact ⟨trivial, hb.unseen _ _⟩
    · have hcode : E.Compiles pattern flags code := ⟨_, by rw [hc]⟩
      have hbuffer : E.Serves code buffer := .new (by rw [hm])
      obtain ⟨d, e, u, hf, -, -⟩ := hE.fresh_ok hcode hbuffer M.origin
      simp only [hf, hm]
      refine ⟨trivial, hb.limit, rfl, ?_, hb.spans, hb.views⟩
      rintro q ⟨⟩
      exact ⟨hcode, hbuffer⟩

theorem run_captures (hE : E.Functional) (hb : b.Agrees M h v) (subject : ByteArray) (start : Nat) :
    ((Bench.perform (.captures subject start) : Work E _).run b).1 =
        (M.step h v (.captures subject start)).1.reply ∧
      ((Bench.perform (.captures subject start) : Work E _).run b).2.Agrees M
        (M.step h v (.captures subject start)).2 (M.step h v (.captures subject start)).1.vectors := by
  obtain ⟨result, after⟩ := hb.run_search hE subject start
  rw [run_perform_captures, Fresh.step, ← result]
  rcases hr : (Bench.search subject start : Work E _).run b with ⟨_ | g | _ | _, b'⟩ <;>
    simp only [hr] at after
  · exact ⟨rfl, after⟩
  · exact ⟨rfl, after.limit, after.held, after.sound, rfl, after.views⟩
  · exact ⟨by rw [← after.spans], after⟩
  · exact ⟨by rw [← after.spans], after⟩

theorem run_capturesBytes (hE : E.Functional) (hb : b.Agrees M h v) (subject : ByteArray)
    (start : Nat) :
    ((Bench.perform (.capturesBytes subject start) : Work E _).run b).1 =
        (M.step h v (.capturesBytes subject start)).1.reply ∧
      ((Bench.perform (.capturesBytes subject start) : Work E _).run b).2.Agrees M
        (M.step h v (.capturesBytes subject start)).2
        (M.step h v (.capturesBytes subject start)).1.vectors := by
  obtain ⟨result, after⟩ := hb.run_search hE subject start
  rw [run_perform_capturesBytes, Fresh.step, ← result]
  rcases hr : (Bench.search subject start : Work E _).run b with ⟨_ | g | _ | _, b'⟩ <;>
    simp only [hr] at after
  · exact ⟨rfl, after⟩
  · exact ⟨rfl, after.limit, after.held, after.sound, after.spans, rfl⟩
  · exact ⟨by rw [← after.views], after⟩
  · exact ⟨by rw [← after.views], after⟩

/-- Searches from several starts find what each of them finds by itself. -/
theorem run_attempts (hE : E.Functional) (hb : b.Agrees M h v) (subject : ByteArray)
    (starts : List Nat) :
    ((starts.mapM (Bench.attempt subject) : Work E _).run b).1 =
        .ok (starts.map (M.find h subject)) ∧
      ((starts.mapM (Bench.attempt subject) : Work E _).run b).2.Agrees M h v := by
  induction starts generalizing b with
  | nil => exact ⟨rfl, hb⟩
  | cons start rest ih =>
    obtain ⟨found, after⟩ := hb.run_find hE subject start
    obtain ⟨others, last⟩ := ih after
    simp only [List.mapM_cons, run_bind, run_attempt, found]
    rcases hr : (rest.mapM (Bench.attempt subject) : Work E _).run
        ((Bench.find subject start : Work E _).run b).2 with ⟨_ | results, b'⟩ <;>
      simp only [hr] at others last
    · cases others
    · cases others
      exact ⟨rfl, last⟩

/-- Each operation shows what the machine shows, and leaves the two alike. -/
theorem step (hE : E.Functional) (hb : b.Agrees M h v) (o : Operation) :
    ((Bench.perform o : Work E Reply).run b).1 = (M.step h v o).1.reply ∧
      ((Bench.perform o : Work E Reply).run b).2.Agrees M (M.step h v o).2
        (M.step h v o).1.vectors := by
  cases o with
  | prepare pattern flags =>
    have result := hb.run_prepare hE pattern flags
    simp only [Bench.perform, run_reply, Fresh.step]
    cases hf : E.fresh pattern flags M.origin <;> simp only [hf] at result
    · exact ⟨by rw [result.1]; rfl, result.2⟩
    · exact ⟨by rw [result.1]; rfl, result.2⟩
  | clear =>
    simp only [Bench.perform, run_reply, run_clear]
    exact ⟨rfl, hb.cleared⟩
  | inspect =>
    refine ⟨?_, hb⟩
    simp only [Bench.perform, run_reply, run_get, Fresh.step, ← hb.held, ← hb.limit,
      Matcher.pattern, Matcher.flags, Option.isSome_map, Option.map_map]
    rfl
  | describe spreadOut =>
    refine ⟨?_, hb⟩
    simp only [Bench.perform, run_reply, run_get, Fresh.step, Fresh.shown, ← hb.held, ← hb.limit,
      Matcher.shown, Matcher.pattern, Matcher.flags, Option.isSome_map, Option.map_map]
    rfl
  | groupCount =>
    obtain ⟨result, after⟩ := hb.run_groupCount hE
    simp only [Bench.perform, run_reply, result]
    exact ⟨rfl, after⟩
  | groupNumber name =>
    obtain ⟨result, after⟩ := hb.run_groupNumber? hE name
    simp only [Bench.perform, run_reply, result]
    exact ⟨rfl, after⟩
  | isMatch subject start =>
    obtain ⟨result, after⟩ := hb.run_search hE subject start
    simp only [Bench.perform, run_reply, run_isMatch, result]
    refine ⟨?_, after⟩
    simp only [Fresh.step]
    cases M.search h subject start <;> rfl
  | find subject start =>
    obtain ⟨result, after⟩ := hb.run_find hE subject start
    simp only [Bench.perform, run_reply, result]
    exact ⟨rfl, after⟩
  | findBytes subject start =>
    obtain ⟨result, after⟩ := hb.run_search hE subject start
    simp only [Bench.perform, run_reply, run_findBytes, result]
    exact ⟨rfl, after⟩
  | captures subject start => exact hb.run_captures hE subject start
  | capturesBytes subject start => exact hb.run_capturesBytes hE subject start
  | seed spans views => exact ⟨rfl, hb.vectors spans views⟩
  | sweep subject =>
    obtain ⟨result, after⟩ := hb.run_attempts hE subject (List.range (subject.size + 2))
    simp only [Bench.perform, run_reply, result]
    exact ⟨rfl, after⟩

/-- A bench and a machine that agree show the same in every run. -/
theorem transcript (hE : E.Functional) (hb : b.Agrees M h v) (ops : List Operation) :
    Bench.transcript ops b = M.transcript ops h v := by
  induction ops generalizing b h v with
  | nil => rfl
  | cons o rest ih =>
    obtain ⟨reply, after⟩ := hb.step hE o
    rw [transcript_cons, Fresh.transcript_cons, ih after, after.seen, reply]

end Bench.Agrees

/-! ## Scripted engines -/

namespace Scenario

variable {scenario : Scenario} {unset : UInt64}

theorem compiles_lookup {pattern : String} {flags : Flags} {code : ScriptedCode}
    (h : (scenario.engine unset).Compiles pattern flags code) :
    scenario.patterns.lookup pattern = some (.ok code) := by
  obtain ⟨s, hs⟩ := h
  simp only [engine] at hs
  rcases hl : scenario.patterns.lookup pattern with _ | result
  · rw [hl] at hs
    cases hs
  · rw [hl, Option.getD_some] at hs
    rw [hs]

/-- A code with at most one answer gives the same one each time. -/
theorem answer_eq {code : ScriptedCode} (h : code.runs.length ≤ 1) (n : Nat) :
    code.runs[n % code.runs.length]? = code.runs.head? := by
  rcases hr : code.runs with _ | ⟨run, _ | ⟨_, _⟩⟩
  · rfl
  · simp only [List.length_singleton, Nat.mod_one, List.getElem?_cons_zero, List.head?_cons]
  · rw [hr] at h
    simp only [List.length_cons] at h
    omega

/-- A scenario is functional if each of its codes has one answer to all searches. -/
theorem functional
    (h : ∀ pattern code, scenario.patterns.lookup pattern = some (.ok code) → code.runs.length ≤ 1) :
    (scenario.engine unset).Functional := by
  have same {pattern : String} {flags : Flags} {c d : ScriptedCode}
      (hc : (scenario.engine unset).Compiles pattern flags c)
      (hd : (scenario.engine unset).Compiles pattern flags d) : c = d ∧ c.runs.length ≤ 1 := by
    have hlc := compiles_lookup hc
    rw [compiles_lookup hd] at hlc
    cases hlc
    exact ⟨rfl, h pattern c (compiles_lookup hc)⟩
  refine ⟨fun _ _ _ _ _ hf => hf, ?_, ?_, ?_, fun _ _ _ => rfl, ?_, ?_⟩
  · intro pattern flags c d hc hd s t
    rw [(same hc hd).1]
  · intro pattern flags c d hc hd s t
    rw [(same hc hd).1]
  · intro pattern flags c d hc hd name s t
    rw [(same hc hd).1]
  · intro pattern flags c d b e hc hd _ _ subject start _ limit s t
    obtain ⟨rfl, hone⟩ := same hc hd
    simp only [engine, answer_eq hone]
    cases c.runs.head?.getD .noMatch <;> rfl
  · intro pattern flags c d b e hc hd _ _ subject start _ limit s t s' t' pairs hm
    obtain ⟨rfl, hone⟩ := same hc hd
    simp only [engine, answer_eq hone] at hm ⊢
    cases hr : c.runs.head?.getD .noMatch with
    | matched => rfl
    | noMatch => rw [hr] at hm; cases hm
    | depthLimitExceeded => rw [hr] at hm; cases hm
    | failed => rw [hr] at hm; cases hm

end Scenario

/-! ## Whole runs -/

/-- In every run, a newly built matcher over a functional engine shows what a machine shows that only
knows the prepared pattern with its flags. -/
theorem transcript_eq_fresh {E : Engine σ} (hE : E.Functional) (builder : MatcherBuilder)
    (standard : UInt32) (s origin : σ) (log : Log) (v : Vectors) (ops : List Operation) :
    Bench.transcript ops
        { matcher := builder.build standard E, spans := v.spans, views := v.views
          state := s, log := log } =
      Fresh.transcript (E := E) ⟨origin, builder.depthLimit.getD standard⟩ ops none v := by
  apply Bench.Agrees.transcript hE
  refine ⟨rfl, rfl, ?_, rfl, rfl⟩
  rintro p ⟨⟩

/-- A run with matches, with patterns that are refused or have no buffer, and with aborts. In the last one
of them, the second group ends behind the subject when the first one has been written. -/
theorem transcript_eq_fresh_scripted :
    let scenario : Scenario :=
      { patterns :=
          [("(a)b", .ok { groups := 1, names := [("x", 1)]
                          runs := [.matched [some 1, some 3, some 1, some 2] none] }),
           ("(", .error ⟨114, 1⟩), ("a*", .ok { noMemory := true }),
           ("(a)c", .ok { groups := 1, runs := [.matched [some 0, some 1, some 0, some 9] none] })]
        messages := [(114, "missing closing parenthesis")] }
    let E := scenario.engine 0xFFFFFFFFFFFFFFFF
    let subject : ByteArray := ⟨#[97, 97, 98]⟩
    let ops : List Operation :=
      [.find subject 0, .prepare "(a)b" .empty, .captures subject 0, .capturesBytes subject 4,
        .sweep subject, .groupNumber "x", .prepare "(" .empty, .inspect, .prepare "(a)b" .empty,
        .capturesBytes subject 0, .prepare "a*" .empty, .groupCount, .describe false,
        .prepare "(a)c" .empty, .capturesBytes subject 0]
    let b : Bench E := { matcher := MatcherBuilder.build {} 7 E, state := () }
    E.Functional ∧ Bench.transcript ops b = Fresh.transcript (E := E) ⟨(), 7⟩ ops none {} ∧
      (Bench.transcript ops b).getLast?.map (·.vectors.views) = some [⟨#[97]⟩] := by
  intro scenario E subject ops b
  have hE : E.Functional := by
    apply Scenario.functional
    intro pattern code hl
    simp only [scenario, List.lookup_cons, List.lookup_nil] at hl
    split at hl
    · cases hl
      decide
    · split at hl
      · cases hl
      · split at hl
        · cases hl
          decide
        · split at hl
          · cases hl
            decide
          · cases hl
  exact ⟨hE, transcript_eq_fresh hE {} 7 () () {} {} ops, by decide +kernel⟩

end BoundedRegex
