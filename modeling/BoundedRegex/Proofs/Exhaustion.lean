import BoundedRegex.Proofs.Backtracking
import BoundedRegex.Proofs.Fresh
import BoundedRegex.Proofs.Limit

/-!
# When memory runs out

Of a library it is assumed that it answers a refused request by failing: a context or a buffer is made
unless a request for it is refused, compiling fails with a code of its own after a refusal, and freeing
something asks for nothing.

Then preparing a pattern either ends as it would without a limit, or it ends in an error that says what
has failed and leaves the matcher as if it had just been built. Building a matcher either ends as it
would without a limit, or it is aborted at the first context which is refused and changes nothing else.
-/
namespace BoundedRegex
open Memory

structure Library.Refusals (L : Library) (noMemory : Int) : Prop where
  makeContext : ∀ c m, ((L.makeContext c).run counting m).1.isNone =
    (L.makeContext c).refused counting m
  compile : ∀ pattern flags m, (L.compile pattern flags).refused counting m = true →
    ∃ offset, ((L.compile pattern flags).run counting m).1 = .error ⟨noMemory, offset⟩
  makeBuffer : ∀ c m, ((L.makeBuffer c).run counting m).1.isNone =
    (L.makeBuffer c).refused counting m
  freeContext : ∀ x m, (L.freeContext x).refused counting m = false
  freeCode : ∀ c m, (L.freeCode c).refused counting m = false
  freeBuffer : ∀ b m, (L.freeBuffer b).refused counting m = false

namespace Backtracking

def noMemoryCode : Int := (failureOf ⟨.noMemory, 0⟩).code

theorem compile_refused (pattern : String) (flags : Flags) (m : Memory)
    (h : (compile pattern flags).refused counting m = true) :
    ∃ offset, ((compile pattern flags).run counting m).1 = .error ⟨noMemoryCode, offset⟩ := by
  rw [compile] at h ⊢
  rcases hd : Program.draft pattern.toUTF8 (settingsOf flags) (optionsOf flags) with fault | draft <;>
    simp only [hd] at h ⊢
  · cases h
  · simp only [Dialog.refused_bind, Dialog.run_bind, Dialog.run_request,
      Dialog.refused_request] at h ⊢
    rcases ha : counting.allocate (codeSize draft.program) m with ⟨_ | block, m'⟩ <;>
      simp only [ha] at h ⊢
    · exact ⟨_, rfl⟩
    · rcases hl : draft.late with _ | fault <;> simp only [hl] at h <;> cases h

theorem makeBuffer_refused (code : Code) (m : Memory) :
    ((makeBuffer code).run counting m).1.isNone = (makeBuffer code).refused counting m := by
  simp only [makeBuffer, Dialog.refused_bind, Dialog.run_bind, Dialog.run_request,
    Dialog.refused_request]
  rcases counting.allocate (bufferSize code.program) m with ⟨_ | address, m'⟩ <;> rfl

/-- The backtracking library fails if and only if it has to. -/
theorem refusals : library.Refusals noMemoryCode where
  makeContext c m := by simp only [library, Dialog.run_request, Dialog.refused_request]
  compile pattern flags m := compile_refused pattern flags m
  makeBuffer := makeBuffer_refused
  freeContext _ _ := rfl
  freeCode _ _ := rfl
  freeBuffer b m := by simp [library, Dialog.refused_bind]

end Backtracking

variable {L : Library} {noMemory : Int}

/-! ## Preparing -/

namespace Bench

/-- A bench without a limit on memory. -/
def unlimited (b : Bench (L.maker counting).engine) : Bench (L.maker counting).engine :=
  { b with state := b.state.unlimited }

variable {b : Bench (L.maker counting).engine} {pattern : String} {flags : Flags}

theorem cleared_unlimited (hL : L.Refusals noMemory) : b.unlimited.cleared = b.cleared.unlimited := by
  cases hp : b.matcher.prepared with
  | none => simp only [cleared, unlimited, hp]
  | some p =>
    have code (m : Memory) : (L.maker counting).engine.releaseCode p.code m.unlimited =
        ((L.maker counting).engine.releaseCode p.code m).unlimited :=
      congrArg Prod.snd (Dialog.run_unlimited (hL.freeCode p.code m))
    have buffer (m : Memory) : (L.maker counting).engine.releaseBuffer p.buffer m.unlimited =
        ((L.maker counting).engine.releaseBuffer p.buffer m).unlimited :=
      congrArg Prod.snd (Dialog.run_unlimited (hL.freeBuffer p.buffer m))
    simp only [cleared, unlimited, hp, code, buffer]

/-- What compiling comes to once the old pattern is discarded. -/
def compiled (b : Bench (L.maker counting).engine) (pattern : String) (flags : Flags) :
    Except CompileFailure L.Code × Memory :=
  (L.compile pattern (effective flags)).run counting b.cleared.state

/-- How preparing ends, by what the library answers. -/
theorem prepare_run (b : Bench (L.maker counting).engine) (pattern : String) (flags : Flags) :
    ((prepare pattern flags : Work (L.maker counting).engine _).run b).1 =
      match b.compiled pattern flags with
      | (.error failure, _) =>
        .ok (.error (.regex (Pattern.report (L.text? failure.code)) failure.offset))
      | (.ok code, m) =>
        match ((L.makeBuffer code).run counting m).1 with
        | none => .ok (.error .outOfMemory)
        | some _ => .ok (.ok ()) := by
  rw [run_prepare]
  rcases hc : b.compiled pattern flags with ⟨failure | code, m⟩
  · have hcompile : (L.maker counting).engine.compile pattern flags b.cleared.state =
      (.error failure, m) := hc
    rw [hcompile]
    rfl
  · have hcompile : (L.maker counting).engine.compile pattern flags b.cleared.state = (.ok code, m) := hc
    rw [hcompile]
    rcases hm : (L.makeBuffer code).run counting m with ⟨_ | buffer, m'⟩
    · have hmake : (L.maker counting).engine.makeBuffer code m = (none, m') := hm
      simp only [hmake, hm]
    · have hmake : (L.maker counting).engine.makeBuffer code m = (some buffer, m') := hm
      simp only [hmake, hm]

/-- Once a pattern has been compiled, it is compiled the same without a limit. -/
theorem compiled_unlimited (hL : L.Refusals noMemory)
    (h : (L.compile pattern (effective flags)).refused counting b.cleared.state = false) :
    b.unlimited.compiled pattern flags =
      ((b.compiled pattern flags).1, (b.compiled pattern flags).2.unlimited) := by
  rw [compiled, cleared_unlimited hL]
  exact Dialog.run_unlimited h

theorem compile_served (hL : L.Refusals noMemory) {code : L.Code} {m : Memory}
    (h : b.compiled pattern flags = (.ok code, m)) :
    (L.compile pattern (effective flags)).refused counting b.cleared.state = false := by
  by_contra hr
  obtain ⟨offset, herror⟩ := hL.compile pattern (effective flags) b.cleared.state (by simpa using hr)
  rw [compiled] at h
  rw [h] at herror
  cases herror

/-- A pattern that is prepared is prepared the same without a limit. -/
theorem prepare_unlimited (hL : L.Refusals noMemory)
    (h : ((prepare pattern flags : Work (L.maker counting).engine _).run b).1 = .ok (.ok ())) :
    (prepare pattern flags : Work (L.maker counting).engine _).run b.unlimited =
      (.ok (.ok ()), ((prepare pattern flags : Work (L.maker counting).engine _).run b).2.unlimited) := by
  rw [prepare_run] at h
  rcases hc : b.compiled pattern flags with ⟨failure | code, m⟩ <;> simp only [hc] at h
  · cases h
  rcases hm : (L.makeBuffer code).run counting m with ⟨_ | buffer, m'⟩ <;> simp only [hm] at h
  · cases h
  -- Neither the code nor the buffer could have been made if a request had been refused.
  have hserved : (L.makeBuffer code).refused counting m = false := by
    rw [← hL.makeBuffer, hm]
    rfl
  have hcu := compiled_unlimited hL (compile_served hL hc)
  have hmu := Dialog.run_unlimited hserved
  rw [hc] at hcu
  rw [hm] at hmu
  have compile : (L.maker counting).engine.compile pattern flags b.cleared.state = (.ok code, m) := hc
  have makeBuffer : (L.maker counting).engine.makeBuffer code m = (some buffer, m') := hm
  have compile' : (L.maker counting).engine.compile pattern flags b.unlimited.cleared.state =
    (.ok code, m.unlimited) := hcu
  have makeBuffer' : (L.maker counting).engine.makeBuffer code m.unlimited =
    (some buffer, m'.unlimited) := hmu
  rw [cleared_unlimited hL] at compile'
  rw [run_prepare, run_prepare, cleared_unlimited hL]
  simp only [compile, makeBuffer, compile', makeBuffer']
  rfl

/-- What an error of the library says: what has failed, either for lack of memory or else as it would
fail without a limit. -/
theorem prepare_refused_regex (hL : L.Refusals noMemory) {text : String} {offset : Nat}
    (h : ((prepare pattern flags : Work (L.maker counting).engine _).run b).1 =
      .ok (.error (.regex text offset))) :
    ∃ failure, (b.compiled pattern flags).1 = .error failure ∧
      text = Pattern.report (L.text? failure.code) ∧ offset = failure.offset ∧
      (failure.code = noMemory ∨
        ((prepare pattern flags : Work (L.maker counting).engine _).run b.unlimited).1 =
          .ok (.error (.regex text offset))) := by
  rw [prepare_run] at h
  rcases hc : b.compiled pattern flags with ⟨failure | code, m⟩ <;> simp only [hc] at h
  · cases h
    refine ⟨failure, rfl, rfl, rfl, ?_⟩
    cases hr : (L.compile pattern (effective flags)).refused counting b.cleared.state with
    | true =>
      obtain ⟨offset, herror⟩ := hL.compile pattern (effective flags) b.cleared.state hr
      rw [compiled] at hc
      rw [hc] at herror
      cases herror
      exact .inl rfl
    | false =>
      have hcu := compiled_unlimited hL hr
      rw [hc] at hcu
      rw [prepare_run, hcu]
      exact .inr rfl
  · rcases hm : ((L.makeBuffer code).run counting m).1 with _ | buffer <;> simp only [hm] at h <;>
      cases h

/-- There is said to be no memory if and only if a code was made and its buffer was refused. -/
theorem prepare_outOfMemory_iff (hL : L.Refusals noMemory) :
    ((prepare pattern flags : Work (L.maker counting).engine _).run b).1 = .ok (.error .outOfMemory) ↔
      ∃ code, (b.compiled pattern flags).1 = .ok code ∧
        (L.makeBuffer code).refused counting (b.compiled pattern flags).2 = true := by
  rw [prepare_run]
  rcases hc : b.compiled pattern flags with ⟨failure | code, m⟩
  · simp
  · simp only [Except.ok.injEq, exists_eq_left', ← hL.makeBuffer]
    rcases ((L.makeBuffer code).run counting m).1 with _ | buffer <;> simp

end Bench

/-! ## Building -/

namespace Library

/-- The first context of an engine for which a request is refused, if any is. -/
def firstRefused (L : Library) (m : Memory) : Option Context :=
  if (L.makeContext .general).refused counting m then some .general
  else
    let m := ((L.makeContext .general).run counting m).2
    if (L.makeContext .compile).refused counting m then some .compile
    else
      let m := ((L.makeContext .compile).run counting m).2
      if (L.makeContext .matching).refused counting m then some .matching else none

theorem Refusals.made (hL : L.Refusals noMemory) {c : Context} {m : Memory}
    (h : (L.makeContext c).refused counting m = false) :
    ∃ x m', (L.makeContext c).run counting m = (some x, m') := by
  rw [← hL.makeContext] at h
  rcases hr : (L.makeContext c).run counting m with ⟨_ | x, m'⟩
  · rw [hr] at h
    cases h
  · exact ⟨x, m', rfl⟩

theorem Refusals.unmade (hL : L.Refusals noMemory) {c : Context} {m : Memory}
    (h : (L.makeContext c).refused counting m = true) :
    ∃ m', (L.makeContext c).run counting m = (none, m') := by
  rw [← hL.makeContext] at h
  rcases hr : (L.makeContext c).run counting m with ⟨_ | x, m'⟩
  · exact ⟨m', rfl⟩
  · rw [hr] at h
    cases h

/-- The contexts are made as without a limit, unless one is refused; the first such one is named. -/
theorem makeContexts_run (hL : L.Refusals noMemory) (m : Memory) :
    match L.firstRefused m with
    | some c => (L.makeContexts.run counting m).1 = .error c
    | none =>
      L.makeContexts.refused counting m = false ∧ ∃ c, (L.makeContexts.run counting m).1 = .ok c := by
  simp only [firstRefused, makeContexts, Dialog.run_bind, Dialog.refused_bind]
  cases hg : (L.makeContext .general).refused counting m with
  | true =>
    obtain ⟨m₁, hr⟩ := hL.unmade hg
    simp only [hr, ↓reduceIte, Dialog.run_pure]
  | false =>
    obtain ⟨general, m₁, hr⟩ := hL.made hg
    simp only [hr, Bool.false_eq_true, ↓reduceIte, Bool.false_or, Dialog.run_bind,
      Dialog.refused_bind]
    cases hc : (L.makeContext .compile).refused counting m₁ with
    | true =>
      obtain ⟨m₂, hr⟩ := hL.unmade hc
      simp only [hr, ↓reduceIte, Dialog.run_bind, Dialog.run_pure]
    | false =>
      obtain ⟨compile, m₂, hr⟩ := hL.made hc
      simp only [hr, Bool.false_eq_true, ↓reduceIte, Bool.false_or, Dialog.run_bind,
        Dialog.refused_bind]
      cases hx : (L.makeContext .matching).refused counting m₂ with
      | true =>
        obtain ⟨m₃, hr⟩ := hL.unmade hx
        simp only [hr, ↓reduceIte, Dialog.run_bind, Dialog.run_pure]
      | false =>
        obtain ⟨matching, m₃, hr⟩ := hL.made hx
        simp only [hr, Bool.false_eq_true, ↓reduceIte, Bool.false_or, Dialog.run_pure,
          Dialog.refused_pure]
        exact ⟨trivial, _, rfl⟩

/-- An engine is made as without a limit, or its making is aborted at the first refused context. -/
theorem start_run (hL : L.Refusals noMemory) (m : Memory) :
    match L.firstRefused m with
    | some c => (L.start counting m).1 = .error (.noContext c.name)
    | none =>
      (∃ c, (L.start counting m).1 = .ok c) ∧
        L.start counting m.unlimited =
          ((L.start counting m).1, (L.start counting m).2.unlimited) := by
  have made := makeContexts_run hL m
  rcases hf : L.firstRefused m with _ | c <;> simp only [hf] at made ⊢
  · obtain ⟨served, c, hc⟩ := made
    rcases hr : L.makeContexts.run counting m with ⟨_ | _, m'⟩ <;> rw [hr] at hc <;> cases hc
    simp only [start, Dialog.run_unlimited served, hr]
    exact ⟨⟨c, rfl⟩, trivial⟩
  · rcases hr : L.makeContexts.run counting m with ⟨_ | _, m'⟩ <;> rw [hr] at made <;> cases made
    simp only [start, hr]

end Library

/-! ## Workshops -/

/-- A workshop whose engines take their memory from the counting allocator. -/
abbrev Limited (L : Library) := Workshop fun _ : Unit => L.maker counting

/-- What happens to a workshop: an order, or a change of the limit. -/
inductive Turn where
  | order (order : Order Unit)
  | limit (limit : Option UInt64)

namespace Workshop

def withLimit (limit : Option UInt64) (w : Limited L) : Limited L :=
  { w with state := w.state.setLimit limit }

def unlimited (w : Limited L) : Limited L := { w with state := w.state.unlimited }

/-- Takes turns, one after another. -/
def turns (ts : List Turn) (w : Limited L) : Limited L :=
  ts.foldl
    (fun w t =>
      match t with
      | .order order => (w.answer order).2
      | .limit limit => w.withLimit limit)
    w

def prepare (w : Limited L) (name pattern : String) (flags : Flags) :
    Except Abort Reply × Limited L :=
  w.answer (.perform name (.prepare pattern flags))

/-- What building a matcher comes to. -/
def rebuild (w : Limited L) (name : String) (builder : Option String) (limit : Option UInt32) :
    Except Abort Reply × Limited L :=
  w.answer (.build name () builder limit)

/-- A client with a matcher that has just been built, and the vectors and the depth limit of another
client. -/
def renewed (w : Limited L) (client : Client (L.maker counting).engine) : Client (L.maker counting).engine :=
  { client with
    matcher := MatcherBuilder.build ⟨some client.matcher.depthLimit⟩ w.defaultLimit (L.maker counting).engine }

variable {w : Limited L} {name : String}

theorem drop_unlimited (hL : L.Refusals noMemory) (w : Limited L) (name : String) :
    w.unlimited.drop name = (w.drop name).unlimited := by
  have freed (c : L.Contexts) (m : Memory) : (L.freeContexts c).refused counting m = false := by
    simp only [Library.freeContexts, Dialog.refused_bind, hL.freeContext, Bool.or_false]
  cases hs : w.slot? name with
  | none =>
    have hs' : w.unlimited.slot? name = none := hs
    rw [drop_none hs, drop_none hs']
  | some slot =>
    have hs' : w.unlimited.slot? name = some slot := hs
    have cleared : (w.unlimited.without name).bench slot =
        Bench.unlimited ((w.without name).bench slot) := rfl
    have unmake (m : Memory) : (L.maker counting).unmake slot.own m.unlimited =
        ((L.maker counting).unmake slot.own m).unlimited :=
      congrArg Prod.snd (Dialog.run_unlimited (freed slot.own m))
    rw [drop_some hs, drop_some hs', discard_eq, discard_eq, cleared, Bench.cleared_unlimited hL]
    simp only [unlimited, without, Bench.unlimited, unmake]

/-- How preparing a pattern ends while memory may run out. -/
structure Prepares (O : L.Ownership) (noMemory : Int) (w : Limited L) (name : String)
    (slot : Slot fun _ : Unit => L.maker counting) (pattern : String) (flags : Flags) : Prop where
  /-- It ends in one of three ways. -/
  ends : (w.prepare name pattern flags).1 = .ok (.prepared (.ok ())) ∨
    (∃ text offset,
      (w.prepare name pattern flags).1 = .ok (.prepared (.error (.regex text offset)))) ∨
    (w.prepare name pattern flags).1 = .ok (.prepared (.error .outOfMemory))
  done : (w.prepare name pattern flags).1 = .ok (.prepared (.ok ())) →
    w.unlimited.prepare name pattern flags =
      ((w.prepare name pattern flags).1, (w.prepare name pattern flags).2.unlimited)
  /-- If compiling fails, the error has the text and the offset of this failure. It fails for lack of
  memory, or as without a limit. -/
  refused : ∀ text offset,
    (w.prepare name pattern flags).1 = .ok (.prepared (.error (.regex text offset))) →
    ∃ failure, ((w.bench slot).compiled pattern flags).1 = .error failure ∧
      text = Pattern.report (L.text? failure.code) ∧ offset = failure.offset ∧
      (failure.code = noMemory ∨
        (w.unlimited.prepare name pattern flags).1 = (w.prepare name pattern flags).1)
  /-- There is said to be no memory if and only if a code was made and its buffer was refused. -/
  outOfMemory :
    (∃ e, (w.prepare name pattern flags).1 = .ok (.prepared (.error e)) ∧
      e.message = "Out of memory." ∧ e.offset = 0 ∧ e = .outOfMemory) ↔
    ∃ code, ((w.bench slot).compiled pattern flags).1 = .ok code ∧
      (L.makeBuffer code).refused counting ((w.bench slot).compiled pattern flags).2 = true
  /-- After an error the matcher holds nothing, and no one can tell it from a matcher that has just been
  built, in whichever workshop it goes on and whatever the contexts of the new one are. -/
  failed : ∀ e, (w.prepare name pattern flags).1 = .ok (.prepared (.error e)) →
    ∃ after, (w.prepare name pattern flags).2.slot? name = some after ∧
      after.client.matcher.prepared = none ∧ after.client.matcher.pattern = "" ∧
      after.client.matcher.flags = .empty ∧ after.blocks O = O.contexts slot.own ∧
      ∀ (v : Limited L) (own : L.Contexts) (ops : List Operation),
        Bench.transcript ops (v.bench after) =
          Bench.transcript ops (v.bench ⟨(), own, v.renewed slot.client⟩)
  inUse : (w.prepare name pattern flags).2.state.heap.blocks =
    (w.prepare name pattern flags).2.blocks O
  /-- Other matchers do not change. -/
  others : ∀ other, other ≠ name →
    (w.prepare name pattern flags).2.slot? other = w.slot? other

/-- Preparing a pattern in a workshop is preparing it on the bench of its matcher. -/
theorem prepare_eq {slot : Slot fun _ : Unit => L.maker counting} (hs : w.slot? name = some slot)
    (pattern : String) (flags : Flags) :
    w.prepare name pattern flags =
      (((Bench.prepare pattern flags : Work (L.maker counting).engine _).run (w.bench slot)).1.map
          .prepared,
        put
          { w with
            state := ((Bench.prepare pattern flags : Work (L.maker counting).engine _).run
              (w.bench slot)).2.state
            log := ((Bench.prepare pattern flags : Work (L.maker counting).engine _).run
              (w.bench slot)).2.log }
          name
          { slot with
            client := ((Bench.prepare pattern flags : Work (L.maker counting).engine _).run
              (w.bench slot)).2.toClient }) := by
  simp only [prepare, answer, hs, work_eq, Bench.perform, Bench.run_reply]

variable {slot : Slot fun _ : Unit => L.maker counting} {pattern : String} {flags : Flags}

theorem prepare_reply_iff (hs : w.slot? name = some slot) {result : Except PrepareError Unit} :
    (w.prepare name pattern flags).1 = .ok (.prepared result) ↔
      ((Bench.prepare pattern flags : Work (L.maker counting).engine _).run (w.bench slot)).1 =
        .ok result := by
  rw [prepare_eq hs]
  rcases ((Bench.prepare pattern flags : Work (L.maker counting).engine _).run
    (w.bench slot)).1 with _ | _ <;> simp [Except.map]

/-- A client whose matcher has been refused a pattern is like one with a new matcher. -/
theorem renewed_of_refused {e : PrepareError}
    (h : ((Bench.prepare pattern flags : Work (L.maker counting).engine _).run (w.bench slot)).1 =
      .ok (.error e)) (v : Limited L) :
    ((Bench.prepare pattern flags : Work (L.maker counting).engine _).run
      (w.bench slot)).2.toClient = v.renewed slot.client := by
  rw [Bench.toClient_of_refused h, Bench.cleared_toClient]
  rfl

theorem Sound.prepares {O : L.Ownership} (h : w.Sound fun _ => O.account counting_keeps)
    (hL : L.Refusals noMemory) (hs : w.slot? name = some slot) :
    w.Prepares O noMemory name slot pattern flags where
  ends := by
    simp only [prepare_reply_iff hs, Bench.prepare_run]
    rcases (w.bench slot).compiled pattern flags with ⟨failure | code, m⟩
    · exact .inr (.inl ⟨_, _, rfl⟩)
    · cases hm : ((L.makeBuffer code).run counting m).1 with
      | none => exact .inr (.inr (by simp only [hm]))
      | some buffer => exact .inl (by simp only [hm])
  done := by
    intro hr
    have hu : w.unlimited.slot? name = some slot := hs
    have same := Bench.prepare_unlimited hL ((prepare_reply_iff hs).mp hr)
    have bench : w.unlimited.bench slot = Bench.unlimited (w.bench slot) := rfl
    rw [hr, prepare_eq hs, prepare_eq hu, bench, same]
    rfl
  refused := by
    intro text offset hr
    obtain ⟨failure, hf, ht, ho, hsame⟩ :=
      Bench.prepare_refused_regex hL ((prepare_reply_iff hs).mp hr)
    refine ⟨failure, hf, ht, ho, hsame.imp_right fun same => ?_⟩
    have hu : w.unlimited.slot? name = some slot := hs
    rw [hr, prepare_reply_iff hu]
    exact same
  outOfMemory := by
    rw [← Bench.prepare_outOfMemory_iff hL, ← prepare_reply_iff hs]
    constructor
    · rintro ⟨e, hr, -, -, rfl⟩
      exact hr
    · intro hr
      exact ⟨_, hr, rfl, rfl, rfl⟩
  failed := by
    intro e hr
    have hclient := renewed_of_refused ((prepare_reply_iff hs).mp hr)
    refine ⟨{ slot with client := w.renewed slot.client }, ?_, rfl, rfl, rfl, ?_, ?_⟩
    · rw [prepare_eq hs, slot?_put, hclient w]
    · exact Slot.blocks_none O rfl
    · intro v own ops
      rfl
  inUse := by
    have counted := held_blocks O counting_keeps _ ▸ (h.answer (.perform name (.prepare pattern flags))).out
    exact counted.blocks
  others := by
    intro other hne
    rw [prepare_eq hs, slot?_put_ne _ hne]
    rfl

/-- How building a matcher ends while memory may run out. The matcher of that name, if there is one, is
discarded first. -/
structure Builds (w : Limited L) (name : String) (builder : Option String) (limit : Option UInt32) :
    Prop where
  /-- If no context is refused, a matcher is built, and all is as without a limit. -/
  done : L.firstRefused (w.drop name).state = none →
    (w.rebuild name builder limit).1 = .ok .done ∧
    (∃ slot, (w.rebuild name builder limit).2.slot? name = some slot ∧
      slot.client.matcher.prepared = none) ∧
    w.unlimited.rebuild name builder limit =
      ((w.rebuild name builder limit).1, (w.rebuild name builder limit).2.unlimited)
  /-- Otherwise building is aborted. The first refused context is named, and the workshop stays as it was
  but for the requests that have been counted: it has the same matchers, and the same blocks are in use. -/
  aborted : ∀ c, L.firstRefused (w.drop name).state = some c →
    (w.rebuild name builder limit).1 = .error (.noContext c.name) ∧
    (w.rebuild name builder limit).2 =
      { w.drop name with state := (w.rebuild name builder limit).2.state } ∧
    (w.rebuild name builder limit).2.state.heap.blocks = (w.drop name).state.heap.blocks ∧
    (w.rebuild name builder limit).2.state.counts.blocks = (w.drop name).state.counts.blocks ∧
    (w.rebuild name builder limit).2.state.counts.bytes = (w.drop name).state.counts.bytes
  /-- Other matchers do not change. -/
  others : ∀ other, other ≠ name →
    (w.rebuild name builder limit).2.slot? other = w.slot? other

theorem Sound.builds {O : L.Ownership} (h : w.Sound fun _ => O.account counting_keeps)
    (hL : L.Refusals noMemory) (name : String) (builder : Option String) (limit : Option UInt32) :
    w.Builds name builder limit where
  done := by
    intro hf
    have started := Library.start_run hL (w.drop name).state
    simp only [hf] at started
    obtain ⟨⟨c, hc⟩, hu⟩ := started
    rcases hm : (L.maker counting).make (w.drop name).state with ⟨a | own, s⟩
    · cases hc.symm.trans (congrArg Prod.fst hm)
    have hmu : (L.maker counting).make (w.unlimited.drop name).state = (.ok own, s.unlimited) := by
      rw [drop_unlimited hL]
      exact hu.trans (congrArg (fun r => (r.1, r.2.unlimited)) hm)
    rw [rebuild, rebuild, answer_build, answer_build, build_ok hm, build_ok hmu, drop_unlimited hL]
    exact ⟨rfl, ⟨_, slot?_put _ _ _, rfl⟩, rfl⟩
  aborted := by
    intro c hf
    have started := Library.start_run hL (w.drop name).state
    simp only [hf] at started
    rcases hm : (L.maker counting).make (w.drop name).state with ⟨a | own, s⟩
    · cases (congrArg Prod.fst hm).symm.trans started
      have hbuild : (w.drop name).build name () (w.choice builder limit) =
          (.error (.noContext c.name), { w.drop name with state := s }) := build_error hm name _
      have before := (h.drop name).out
      have after := ((h.drop name).build (slot?_drop_self w name) () (w.choice builder limit)).out
      rw [hbuild] at after
      rw [rebuild, answer_build, hbuild]
      exact ⟨rfl, rfl, after.blocks.trans before.blocks.symm, after.inUse.trans before.inUse.symm,
        after.bytes.trans before.bytes.symm⟩
    · cases (congrArg Prod.fst hm).symm.trans started
  others := by
    intro other hne
    rw [rebuild, answer_build]
    rcases hm : (L.maker counting).make (w.drop name).state with ⟨_ | own, s⟩
    · rw [build_error hm]
      exact slot?_drop w hne
    · rw [build_ok hm]
      exact (slot?_put_ne _ hne _).trans (slot?_drop w hne)

theorem Sound.turns {O : L.Ownership} (h : w.Sound fun _ => O.account counting_keeps)
    (ts : List Turn) : (w.turns ts).Sound fun _ => O.account counting_keeps := by
  induction ts generalizing w with
  | nil => exact h
  | cons t rest ih =>
    cases t with
    | order order => exact ih (h.answer order)
    | limit limit => exact ih ⟨h.names, h.out.setLimit limit⟩

/-- Preparing any pattern with any matcher ends cleanly, and so does building any matcher. -/
structure Clean (O : L.Ownership) (noMemory : Int) (w : Limited L) : Prop where
  prepares : ∀ name slot pattern flags, w.slot? name = some slot →
    w.Prepares O noMemory name slot pattern flags
  builds : ∀ name builder limit, w.Builds name builder limit

/-- Whatever has happened before, however many requests the limit still allows and whatever there is room
for at each of them, all ends cleanly. -/
theorem turns_clean (O : L.Ownership) (hL : L.Refusals noMemory) (supply : Nat → Supply) (log : Log)
    (standard : UInt32) (builders : List (String × MatcherBuilder)) (ts : List Turn)
    (limit : Option UInt64) :
    (((opened { supply := supply } log standard builders : Limited L).turns ts).withLimit limit).Clean
      O noMemory := by
  have start : (opened { supply := supply } log standard builders : Limited L).Sound
      fun _ => O.account counting_keeps :=
    ⟨List.nodup_nil, Heap.empty_sound, rfl, rfl, rfl⟩
  have run := start.turns ts
  have sound : (((opened { supply := supply } log standard builders : Limited L).turns ts).withLimit
      limit).Sound fun _ => O.account counting_keeps :=
    ⟨run.names, run.out.setLimit limit⟩
  exact ⟨fun _ _ _ _ hs => sound.prepares hL hs, fun name builder l => sound.builds hL name builder l⟩

/-- A run over the backtracking library in which the limit has refused a pattern, and the heap another one.
It is about to prepare and build with four more requests. -/
theorem turns_clean_backtracking :
    Backtracking.library.Refusals Backtracking.noMemoryCode ∧
      (((opened { supply := Supply.intermittent } {} 10000000 [] :
          Limited Backtracking.library).turns
        [.order (.build "m" () none none), .order (.perform "m" (.prepare "(a|b)*c" .empty)),
          .limit (some 4), .order (.perform "m" (.prepare "a" .empty)), .limit none,
          .order (.perform "m" (.prepare "a+" .empty))]).withLimit (some 9)).Clean
        Backtracking.ownership Backtracking.noMemoryCode :=
  ⟨Backtracking.refusals,
    turns_clean Backtracking.ownership Backtracking.refusals _ {} 10000000 [] _ _⟩

end Workshop

end BoundedRegex
