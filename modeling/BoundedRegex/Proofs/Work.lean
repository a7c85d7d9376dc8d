import BoundedRegex.Matcher.Operation

/-!
# Work on a bench

How each kind of step runs, and what a property needs to survive all of them. An aborted step leaves
the bench as it has become, so a property is kept by work only if it holds after an abort as well.
-/
namespace BoundedRegex

/-- The subject and the start of a search. -/
def Operation.search? : Operation → Option (ByteArray × Nat)
  | .isMatch subject start => some (subject, start)
  | .find subject start => some (subject, start)
  | .findBytes subject start => some (subject, start)
  | .captures subject start => some (subject, start)
  | .capturesBytes subject start => some (subject, start)
  | _ => none

/-- Whether an operation searches, once or more often. -/
def Operation.searches : Operation → Bool
  | .sweep _ => true
  | o => o.search?.isSome

/-- What a matcher reports of itself. -/
def Matcher.inspected {σ : Type} {E : Engine σ} (m : Matcher E) : Reply :=
  .inspected m.prepared.isSome m.pattern m.flags m.depthLimit

namespace Bench

variable {σ : Type} {E : Engine σ} {α β : Type}

@[simp] theorem run_pure (a : α) (b : Bench E) : (pure a : Work E α).run b = (.ok a, b) := rfl

theorem run_bind (w : Work E α) (f : α → Work E β) (b : Bench E) :
    (w >>= f).run b =
      match w.run b with
      | (.ok a, b) => (f a).run b
      | (.error e, b) => (.error e, b) := by
  unfold ExceptT.run
  simp only [bind, ExceptT.bind, ExceptT.mk, StateT.bind, ExceptT.bindCont]
  cases w b with
  | mk result b => cases result <;> rfl

theorem run_reply (w : Work E α) (f : α → β) (b : Bench E) :
    (w >>= fun a => pure (f a) : Work E β).run b = ((w.run b).1.map f, (w.run b).2) := by
  rw [run_bind]
  rcases w.run b with ⟨_ | a, b⟩ <;> rfl

@[simp] theorem run_throw (e : Abort) (b : Bench E) :
    (throw e : Work E α).run b = (.error e, b) := rfl

@[simp] theorem run_get (b : Bench E) : (get : Work E (Bench E)).run b = (.ok b, b) := rfl

@[simp] theorem run_modify (f : Bench E → Bench E) (b : Bench E) :
    (modify f : Work E Unit).run b = (.ok (), f b) := rfl

@[simp] theorem run_ask (f : σ → α × σ) (b : Bench E) :
    (ask f : Work E α).run b = (.ok (f b.state).1, { b with state := (f b.state).2 }) := rfl

@[simp] theorem run_report (e : Event) (b : Bench E) :
    (report e : Work E Unit).run b = (.ok (), { b with log := b.log.add e }) := rfl

@[simp] theorem run_check (a : Except Abort α) (b : Bench E) :
    (check a : Work E α).run b = (a, b) := by
  cases a <;> rfl

theorem run_prepared (b : Bench E) :
    (prepared : Work E (Prepared E)).run b =
      match b.matcher.prepared with
      | some p => (.ok p, b)
      | none => (.error .notPrepared, b) := by
  cases h : b.matcher.prepared <;> simp [prepared, run_bind, h]

/-! ## Discarding and preparing -/

/-- A bench whose matcher has given its code and buffer back, the code first. -/
def cleared (b : Bench E) : Bench E :=
  match b.matcher.prepared with
  | some p =>
    { b with
      matcher := { b.matcher with prepared := none }
      state := E.releaseBuffer p.buffer (E.releaseCode p.code b.state) }
  | none => b

@[simp] theorem cleared_prepared (b : Bench E) : b.cleared.matcher.prepared = none := by
  cases h : b.matcher.prepared <;> simp [cleared, h]

@[simp] theorem cleared_depthLimit (b : Bench E) :
    b.cleared.matcher.depthLimit = b.matcher.depthLimit := by
  cases h : b.matcher.prepared <;> simp [cleared, h]

@[simp] theorem cleared_log (b : Bench E) : b.cleared.log = b.log := by
  cases h : b.matcher.prepared <;> simp [cleared, h]

@[simp] theorem cleared_spans (b : Bench E) : b.cleared.spans = b.spans := by
  cases h : b.matcher.prepared <;> simp [cleared, h]

@[simp] theorem cleared_views (b : Bench E) : b.cleared.views = b.views := by
  cases h : b.matcher.prepared <;> simp [cleared, h]

@[simp] theorem cleared_cleared (b : Bench E) : b.cleared.cleared = b.cleared := by
  simp only [cleared.eq_def b.cleared, cleared_prepared]

theorem cleared_toClient (b : Bench E) :
    b.cleared.toClient = { b.toClient with matcher := { b.matcher with prepared := none } } := by
  cases h : b.matcher.prepared with
  | none =>
    obtain ⟨⟨⟨prepared, limit⟩, spans, views⟩, state, log⟩ := b
    cases h
    rfl
  | some p => simp only [cleared, h]

@[simp] theorem run_clear (b : Bench E) : (clear : Work E Unit).run b = (.ok (), b.cleared) := by
  cases h : b.matcher.prepared <;> simp [clear, cleared, run_bind, h]

theorem run_prepare (pattern : String) (flags : Flags) (b : Bench E) :
    (prepare pattern flags : Work E _).run b =
      match E.compile pattern flags b.cleared.state with
      | (.error failure, s) =>
        let error := PrepareError.regex (E.message failure.code s).1 failure.offset
        (.ok (.error error),
          { b.cleared with
            state := (E.message failure.code s).2, log := b.cleared.log.add (.refused pattern error) })
      | (.ok code, s) =>
        match E.makeBuffer code s with
        | (none, s) =>
          (.ok (.error .outOfMemory),
            { b.cleared with
              state := E.releaseCode code s, log := b.cleared.log.add (.noBuffer pattern) })
        | (some buffer, s) =>
          (.ok (.ok ()),
            { b.cleared with
              matcher := { b.cleared.matcher with prepared := some ⟨pattern, flags, code, buffer⟩ }
              state := s, log := b.cleared.log.add (.prepared pattern flags) }) := by
  simp only [prepare, run_bind, run_clear, run_ask]
  rcases E.compile pattern flags b.cleared.state with ⟨failure | code, s⟩
  · simp only [run_bind, run_ask, run_report, run_pure]
  · simp only [run_bind, run_ask]
    rcases E.makeBuffer code s with ⟨_ | buffer, s⟩ <;>
      simp only [run_bind, run_ask, run_report, run_modify, run_pure]

/-- A failed preparation leaves a client as if the pattern had been cleared. -/
theorem toClient_of_refused {pattern : String} {flags : Flags} {b : Bench E} {e : PrepareError}
    (h : ((prepare pattern flags : Work E _).run b).1 = .ok (.error e)) :
    ((prepare pattern flags : Work E _).run b).2.toClient = b.cleared.toClient := by
  rw [run_prepare] at h ⊢
  rcases hc : E.compile pattern flags b.cleared.state with ⟨failure | code, s⟩ <;>
    simp only [hc] at h ⊢
  rcases hm : E.makeBuffer code s with ⟨_ | buffer, s'⟩ <;> simp only [hm] at h ⊢
  cases h

/-- A matcher that has failed to prepare a pattern has none. -/
theorem prepared_of_refused {pattern : String} {flags : Flags} {b : Bench E} {e : PrepareError}
    (h : ((prepare pattern flags : Work E _).run b).1 = .ok (.error e)) :
    ((prepare pattern flags : Work E _).run b).2.matcher.prepared = none := by
  rw [toClient_of_refused h]
  exact cleared_prepared b

/-! ## Searching -/

/-- A bench whose matcher has another buffer, and whose engine has another state. -/
def searched (b : Bench E) (p : Prepared E) (buffer : E.Buffer) (s : σ) : Bench E :=
  { b with matcher := { b.matcher with prepared := some { p with buffer := buffer } }, state := s }

theorem run_search (subject : ByteArray) (start : Nat) (b : Bench E) :
    (search subject start : Work E _).run b =
      if subject.size < start then (.error (.startPastEnd start subject.size), b)
      else
        match b.matcher.prepared with
        | none => (.error .notPrepared, b)
        | some p =>
          match E.execute p.code subject start b.matcher.depthLimit p.buffer b.state with
          | (.matched pairs, buffer, s) =>
            (.ok (.found ⟨E.unset, (E.output buffer s).1⟩),
              { b.searched p buffer (E.output buffer s).2 with
                log := b.log.add (.matched p.pattern start pairs) })
          | (.noMatch, buffer, s) => (.ok .noMatch, b.searched p buffer s)
          | (.depthLimitExceeded, buffer, s) =>
            (.ok .depthLimitExceeded,
              { b.searched p buffer s with
                log := b.log.add (.limitExceeded p.pattern b.matcher.depthLimit) })
          | (.failed code, buffer, s) =>
            if b.log.level.reports false then
              (.ok .noMatch,
                { b.searched p buffer (E.message code s).2 with
                  log := b.log.add (.searchFailed p.pattern code (E.message code s).1) })
            else (.ok .noMatch, b.searched p buffer s) := by
  unfold search
  by_cases h : subject.size < start
  · simp only [h, ↓reduceIte, run_bind, run_throw]
  · simp only [h, ↓reduceIte, run_bind, run_prepared]
    rcases hp : b.matcher.prepared with _ | p
    · rfl
    · rcases he : E.execute p.code subject start b.matcher.depthLimit p.buffer b.state with
        ⟨_ | _ | _ | code, buffer, s⟩ <;>
        simp only [run_bind, run_get, run_ask, run_modify, he]
      · simp only [run_report, run_pure, searched]
      · simp only [run_pure, searched]
      · simp only [run_report, run_pure, searched]
      · simp only [searched]
        by_cases hl : b.log.level.reports false
        · simp only [hl, ↓reduceIte, run_bind, run_ask, run_report, run_pure]
        · simp only [hl, Bool.false_eq_true, ↓reduceIte, run_pure]

/-! ## Reporting what has been found -/

theorem run_traverse_check (o : Outcome α) (f : α → Except Abort β) (b : Bench E) :
    (o.traverse (fun a => check (f a)) : Work E (Outcome β)).run b = (o.traverse f, b) := by
  cases o with
  | found a =>
    simp only [Outcome.traverse, run_bind, run_check]
    cases f a <;> rfl
  | noMatch => rfl
  | depthLimitExceeded => rfl

theorem run_isMatch (subject : ByteArray) (start : Nat) (b : Bench E) :
    (isMatch subject start : Work E _).run b =
      (((search subject start : Work E _).run b).1.map (·.map fun _ => ()),
        ((search subject start : Work E _).run b).2) := by
  rw [isMatch, run_bind]
  rcases (search subject start : Work E _).run b with ⟨_ | o, b⟩ <;> rfl

theorem run_find (subject : ByteArray) (start : Nat) (b : Bench E) :
    (find subject start : Work E _).run b =
      (((search subject start : Work E _).run b).1 >>= (·.traverse Groups.overallSpan),
        ((search subject start : Work E _).run b).2) := by
  rw [find, run_bind]
  rcases (search subject start : Work E _).run b with ⟨_ | o, b⟩
  · rfl
  · exact run_traverse_check o Groups.overallSpan b

theorem run_findBytes (subject : ByteArray) (start : Nat) (b : Bench E) :
    (findBytes subject start : Work E _).run b =
      (((search subject start : Work E _).run b).1 >>= (·.traverse (Groups.overallBytes subject)),
        ((search subject start : Work E _).run b).2) := by
  rw [findBytes, run_bind]
  rcases (search subject start : Work E _).run b with ⟨_ | o, b⟩
  · rfl
  · exact run_traverse_check o (Groups.overallBytes subject) b

theorem writeEach_cons (write : α → Bench E → Bench E) (value : Except Abort α)
    (rest : List (Except Abort α)) :
    (writeEach write (value :: rest) : Work E Unit) =
      (check value >>= fun a => modify (write a)) >>= fun _ => writeEach write rest := rfl

theorem run_writeEach (write : α → Bench E → Bench E) (values : List (Except Abort α)) (b : Bench E) :
    (writeEach write values : Work E Unit).run b =
      ((values.mapM id).map fun _ => (), (beforeAbort values).foldl (fun b a => write a b) b) := by
  induction values generalizing b with
  | nil => rfl
  | cons value rest ih =>
    rw [writeEach_cons, run_bind, run_bind, run_check, List.mapM_cons]
    cases value with
    | error e => rfl
    | ok a =>
      refine (ih (write a b)).trans ?_
      cases rest.mapM id <;> rfl

/-- Work that searches, empties something and then writes what each group of a match comes to. -/
theorem run_writing (empty : Bench E → Bench E) (write : α → Bench E → Bench E)
    (each : Groups → List (Except Abort α)) (subject : ByteArray) (start : Nat) (b : Bench E) :
    (search subject start >>= fun o => o.traverse fun g => modify empty >>= fun _ =>
        writeEach write (each g) : Work E (Outcome Unit)).run b =
      match (search subject start : Work E _).run b with
      | (.error a, b) => (.error a, b)
      | (.ok .noMatch, b) => (.ok .noMatch, b)
      | (.ok .depthLimitExceeded, b) => (.ok .depthLimitExceeded, b)
      | (.ok (.found g), b) =>
        (((each g).mapM id).map fun _ => .found (),
          (beforeAbort (each g)).foldl (fun b a => write a b) (empty b)) := by
  rw [run_bind]
  rcases (search subject start : Work E _).run b with ⟨_ | g | _ | _, b⟩
  · rfl
  · simp only [Outcome.traverse, run_bind, run_modify, run_writeEach]
    cases (each g).mapM id <;> rfl
  · rfl
  · rfl

theorem foldl_spans (spans : List Span) (b : Bench E) :
    spans.foldl (fun b span => { b with spans := b.spans ++ [span] }) b =
      { b with spans := b.spans ++ spans } := by
  induction spans generalizing b with
  | nil => rw [List.foldl_nil, List.append_nil]
  | cons span rest ih => rw [List.foldl_cons, ih, List.append_assoc, List.singleton_append]

theorem foldl_views (views : List ByteArray) (b : Bench E) :
    views.foldl (fun b view => { b with views := b.views ++ [view] }) b =
      { b with views := b.views ++ views } := by
  induction views generalizing b with
  | nil => rw [List.foldl_nil, List.append_nil]
  | cons view rest ih => rw [List.foldl_cons, ih, List.append_assoc, List.singleton_append]

theorem run_captures (subject : ByteArray) (start : Nat) (b : Bench E) :
    (captures subject start : Work E _).run b =
      match (search subject start : Work E _).run b with
      | (.error a, b) => (.error a, b)
      | (.ok .noMatch, b) => (.ok .noMatch, b)
      | (.ok .depthLimitExceeded, b) => (.ok .depthLimitExceeded, b)
      | (.ok (.found g), b) =>
        (g.spans.map fun _ => .found (), { b with spans := beforeAbort g.eachSpan }) := by
  rw [captures, run_writing]
  simp only [foldl_spans, List.nil_append]
  rfl

theorem run_capturesBytes (subject : ByteArray) (start : Nat) (b : Bench E) :
    (capturesBytes subject start : Work E _).run b =
      match (search subject start : Work E _).run b with
      | (.error a, b) => (.error a, b)
      | (.ok .noMatch, b) => (.ok .noMatch, b)
      | (.ok .depthLimitExceeded, b) => (.ok .depthLimitExceeded, b)
      | (.ok (.found g), b) =>
        ((g.views subject).map fun _ => .found (),
          { b with views := beforeAbort (g.eachView subject) }) := by
  rw [capturesBytes, run_writing]
  simp only [foldl_views, List.nil_append]
  rfl

/-- A match is replied with all of its groups, or with the abort of the first one that has none. The
vector holds what has been written until then. -/
theorem run_perform_captures (subject : ByteArray) (start : Nat) (b : Bench E) :
    (perform (.captures subject start) : Work E Reply).run b =
      match (search subject start : Work E _).run b with
      | (.error a, b) => (.error a, b)
      | (.ok .noMatch, b) => (.ok (.spans .noMatch b.spans), b)
      | (.ok .depthLimitExceeded, b) => (.ok (.spans .depthLimitExceeded b.spans), b)
      | (.ok (.found g), b) =>
        (g.spans.map (.spans (.found ())), { b with spans := beforeAbort g.eachSpan }) := by
  rw [perform, run_bind, run_captures]
  rcases (search subject start : Work E _).run b with ⟨_ | g | _ | _, b⟩
  · rfl
  · cases hg : g.spans with
    | error a => simp only [hg, Except.map]
    | ok spans =>
      obtain rfl := beforeAbort_of_mapM hg
      simp only [hg, Except.map, run_bind, run_get, run_pure]
  · rfl
  · rfl

theorem run_perform_capturesBytes (subject : ByteArray) (start : Nat) (b : Bench E) :
    (perform (.capturesBytes subject start) : Work E Reply).run b =
      match (search subject start : Work E _).run b with
      | (.error a, b) => (.error a, b)
      | (.ok .noMatch, b) => (.ok (.views .noMatch b.views), b)
      | (.ok .depthLimitExceeded, b) => (.ok (.views .depthLimitExceeded b.views), b)
      | (.ok (.found g), b) =>
        ((g.views subject).map (.views (.found ())),
          { b with views := beforeAbort (g.eachView subject) }) := by
  rw [perform, run_bind, run_capturesBytes]
  rcases (search subject start : Work E _).run b with ⟨_ | g | _ | _, b⟩
  · rfl
  · cases hg : g.views subject with
    | error a => simp only [hg, Except.map]
    | ok views =>
      obtain rfl := beforeAbort_of_mapM hg
      simp only [hg, Except.map, run_bind, run_get, run_pure]
  · rfl
  · rfl

@[simp] theorem run_attempt (subject : ByteArray) (start : Nat) (b : Bench E) :
    (attempt subject start : Work E _).run b =
      (.ok ((find subject start : Work E _).run b).1, ((find subject start : Work E _).run b).2) :=
  rfl

/-! ## Properties kept by work -/

/-- A property of benches that some work keeps, whether or not it is aborted. -/
def Keeps (I : Bench E → Prop) (w : Work E α) : Prop := ∀ b, I b → I (w.run b).2

namespace Keeps

variable {I : Bench E → Prop}

theorem pure (a : α) : Keeps I (Pure.pure a : Work E α) := fun _ h => h

theorem bind {w : Work E α} {f : α → Work E β} (hw : Keeps I w) (hf : ∀ a, Keeps I (f a)) :
    Keeps I (w >>= f) := by
  intro b hb
  rw [run_bind]
  have h := hw b hb
  rcases hr : w.run b with ⟨_ | a, b'⟩
  · rw [hr] at h; exact h
  · rw [hr] at h; exact hf a b' h

theorem mapM {γ : Type} {f : γ → Work E α} (hf : ∀ c, Keeps I (f c)) (cs : List γ) :
    Keeps I (cs.mapM f) := by
  induction cs with
  | nil => exact Keeps.pure []
  | cons c rest ih =>
    rw [List.mapM_cons]
    exact (hf c).bind fun a => ih.bind fun as => Keeps.pure (a :: as)

end Keeps

/-- Searching and writing to the vectors of a caller keep a property. -/
structure SearchKept (I : Bench E → Prop) : Prop where
  search : ∀ subject start, Keeps I (search subject start : Work E _)
  vectors : ∀ b spans views, I b → I { b with spans := spans, views := views }

/-- The kinds of steps that operations are made of keep a property. -/
structure Kept (I : Bench E → Prop) : Prop extends SearchKept I where
  clear : Keeps I (clear : Work E Unit)
  prepare : ∀ pattern flags, Keeps I (prepare pattern flags : Work E _)
  groupCount : Keeps I (groupCount : Work E Nat)
  groupNumber? : ∀ name, Keeps I (groupNumber? name : Work E _)

variable {I : Bench E → Prop}

namespace SearchKept

theorem isMatch (h : SearchKept I) (subject : ByteArray) (start : Nat) :
    Keeps I (isMatch subject start : Work E _) := by
  intro b hb
  rw [run_isMatch]
  exact h.search subject start b hb

theorem find (h : SearchKept I) (subject : ByteArray) (start : Nat) :
    Keeps I (find subject start : Work E _) := by
  intro b hb
  rw [run_find]
  exact h.search subject start b hb

theorem findBytes (h : SearchKept I) (subject : ByteArray) (start : Nat) :
    Keeps I (findBytes subject start : Work E _) := by
  intro b hb
  rw [run_findBytes]
  exact h.search subject start b hb

theorem captures (h : SearchKept I) (subject : ByteArray) (start : Nat) :
    Keeps I (captures subject start : Work E _) := by
  intro b hb
  rw [run_captures]
  have hs := h.search subject start b hb
  rcases hr : (Bench.search subject start : Work E _).run b with ⟨_ | g | _ | _, b'⟩ <;>
    rw [hr] at hs
  · exact hs
  · exact h.vectors b' (beforeAbort g.eachSpan) b'.views hs
  · exact hs
  · exact hs

theorem capturesBytes (h : SearchKept I) (subject : ByteArray) (start : Nat) :
    Keeps I (capturesBytes subject start : Work E _) := by
  intro b hb
  rw [run_capturesBytes]
  have hs := h.search subject start b hb
  rcases hr : (Bench.search subject start : Work E _).run b with ⟨_ | g | _ | _, b'⟩ <;>
    rw [hr] at hs
  · exact hs
  · exact h.vectors b' b'.spans (beforeAbort (g.eachView subject)) hs
  · exact hs
  · exact hs

/-- Every operation that searches keeps what searching keeps. -/
theorem perform (h : SearchKept I) {o : Operation} (ho : o.searches = true) :
    Keeps I (perform o : Work E Reply) := by
  have get : Keeps I (MonadState.get : Work E (Bench E)) := fun _ hb => hb
  cases o with
  | isMatch subject start => exact (h.isMatch subject start).bind fun _ => Keeps.pure _
  | find subject start => exact (h.find subject start).bind fun _ => Keeps.pure _
  | findBytes subject start => exact (h.findBytes subject start).bind fun _ => Keeps.pure _
  | captures subject start =>
    exact (h.captures subject start).bind fun _ => get.bind fun _ => Keeps.pure _
  | capturesBytes subject start =>
    exact (h.capturesBytes subject start).bind fun _ => get.bind fun _ => Keeps.pure _
  | sweep subject =>
    have attempt (start : Nat) : Keeps I (attempt subject start : Work E _) :=
      fun b hb => h.find subject start b hb
    exact (Keeps.mapM attempt _).bind fun _ => Keeps.pure _
  | _ => cases ho

end SearchKept

/-- Every operation keeps what these steps keep. -/
theorem Kept.perform (h : Kept I) (o : Operation) : Keeps I (perform o : Work E Reply) := by
  have get : Keeps I (MonadState.get : Work E (Bench E)) := fun _ hb => hb
  cases o with
  | prepare pattern flags => exact (h.prepare pattern flags).bind fun _ => Keeps.pure _
  | clear => exact h.clear.bind fun _ => Keeps.pure _
  | inspect => exact get.bind fun _ => Keeps.pure _
  | describe spreadOut => exact get.bind fun _ => Keeps.pure _
  | groupCount => exact h.groupCount.bind fun _ => Keeps.pure _
  | groupNumber name => exact (h.groupNumber? name).bind fun _ => Keeps.pure _
  | seed spans views =>
    have seed : Keeps I (modify fun b => { b with spans := spans, views := views } : Work E Unit) :=
      fun b hb => h.vectors b spans views hb
    exact seed.bind fun _ => Keeps.pure _
  | _ => exact h.toSearchKept.perform rfl

/-- Work with the groups of a pattern keeps what its questions keep. -/
theorem keeps_groupCount (counted : ∀ c b, I b → I { b with state := (E.groupCount c b.state).2 }) :
    Keeps I (groupCount : Work E Nat) := by
  intro b hb
  rw [groupCount, run_bind, run_prepared]
  cases b.matcher.prepared with
  | none => exact hb
  | some p => exact counted p.code b hb

theorem keeps_groupNumber? (counted : ∀ c b, I b → I { b with state := (E.groupCount c b.state).2 })
    (asked : ∀ c name b, I b → I { b with state := (E.groupNumber? c name b.state).2 }) (name : String) :
    Keeps I (groupNumber? name : Work E _) := by
  intro b hb
  rw [groupNumber?, run_bind, run_prepared]
  cases b.matcher.prepared with
  | none => exact hb
  | some p =>
    have hasked := asked p.code name b hb
    have hcounted := counted p.code _ hasked
    dsimp only
    rw [run_bind, run_ask]
    dsimp only
    cases (E.groupNumber? p.code name b.state).1 with
    | none => exact hasked
    | some n =>
      by_cases hn : n = 0
      · simp only [if_pos hn]
        exact hasked
      · simp only [if_neg hn, run_bind, run_ask]
        split <;> exact hcounted

/-- Each call of the engine keeps a property, and so does each change of another part of a bench. The
engine searches with the limit of the matcher only. -/
structure CallsKept (I : Bench E → Prop) : Prop where
  compile : ∀ pattern flags b, I b → I { b with state := (E.compile pattern flags b.state).2 }
  makeBuffer : ∀ c b, I b → I { b with state := (E.makeBuffer c b.state).2 }
  execute : ∀ c subject start buffer b, I b →
    I { b with state := (E.execute c subject start b.matcher.depthLimit buffer b.state).2.2 }
  output : ∀ buffer b, I b → I { b with state := (E.output buffer b.state).2 }
  groupCount : ∀ c b, I b → I { b with state := (E.groupCount c b.state).2 }
  groupNumber? : ∀ c name b, I b → I { b with state := (E.groupNumber? c name b.state).2 }
  message : ∀ failure b, I b → I { b with state := (E.message failure b.state).2 }
  releaseCode : ∀ c b, I b → I { b with state := E.releaseCode c b.state }
  releaseBuffer : ∀ buffer b, I b → I { b with state := E.releaseBuffer buffer b.state }
  prepared : ∀ b p, I b → I { b with matcher := { b.matcher with prepared := p } }
  log : ∀ b e, I b → I { b with log := b.log.add e }
  vectors : ∀ b spans views, I b → I { b with spans := spans, views := views }

namespace CallsKept

theorem cleared (h : CallsKept I) {b : Bench E} (hb : I b) : I b.cleared := by
  rw [Bench.cleared]
  cases hp : b.matcher.prepared with
  | none => exact hb
  | some p => exact h.releaseBuffer p.buffer _ (h.releaseCode p.code _ (h.prepared b none hb))

theorem prepare (h : CallsKept I) (pattern : String) (flags : Flags) :
    Keeps I (prepare pattern flags : Work E _) := by
  intro b hb
  rw [run_prepare]
  have compiled := h.compile pattern flags _ (h.cleared hb)
  generalize E.compile pattern flags b.cleared.state = run at compiled ⊢
  rcases run with ⟨failure | code, s⟩
  · exact h.log _ _ (h.message failure.code _ compiled)
  have made := h.makeBuffer code _ compiled
  dsimp only at made ⊢
  generalize E.makeBuffer code s = run at made ⊢
  rcases run with ⟨_ | buffer, s'⟩
  · exact h.releaseCode code _ (h.log _ _ made)
  · exact h.prepared _ _ (h.log _ _ made)

theorem search (h : CallsKept I) (subject : ByteArray) (start : Nat) :
    Keeps I (Bench.search subject start : Work E _) := by
  intro b hb
  rw [run_search]
  by_cases hs : subject.size < start
  · rwa [if_pos hs]
  rw [if_neg hs]
  cases hp : b.matcher.prepared with
  | none => exact hb
  | some p =>
    have executed := h.execute p.code subject start p.buffer b hb
    dsimp only
    generalize E.execute p.code subject start b.matcher.depthLimit p.buffer b.state = run at executed ⊢
    rcases run with ⟨answer, buffer, s⟩
    have searched : I (b.searched p buffer s) := h.prepared _ _ executed
    cases answer with
    | matched pairs => exact h.log _ _ (h.output buffer _ searched)
    | noMatch => exact searched
    | depthLimitExceeded => exact h.log _ _ searched
    | failed code =>
      dsimp only
      split
      · exact h.log _ _ (h.message code _ searched)
      · exact searched

/-- Whatever each call keeps is kept by all operations. -/
theorem kept (h : CallsKept I) : Kept I where
  search := h.search
  vectors := h.vectors
  clear := by
    intro b hb
    rw [run_clear]
    exact h.cleared hb
  prepare := h.prepare
  groupCount := keeps_groupCount h.groupCount
  groupNumber? := keeps_groupNumber? h.groupCount h.groupNumber?

end CallsKept

/-- A property is kept if it survives every change of a single part of a bench, apart from the limit. -/
theorem kept_of_parts (state : ∀ b s, I b → I { b with state := s })
    (prepared : ∀ b p, I b → I { b with matcher := { b.matcher with prepared := p } })
    (log : ∀ b e, I b → I { b with log := b.log.add e })
    (vectors : ∀ b spans views, I b → I { b with spans := spans, views := views }) : Kept I := by
  apply CallsKept.kept
  constructor
  case prepared => exact prepared
  case log => exact log
  case vectors => exact vectors
  all_goals
    intros
    apply state
    assumption

/-- Nothing that a matcher does changes how much is reported. -/
theorem level_kept (level : Level) : Kept fun b : Bench E => b.log.level = level := by
  refine kept_of_parts (fun _ _ h => h) (fun _ _ h => h) ?_ fun _ _ _ h => h
  intro b e h
  rw [← h, Log.add]
  split
  · rfl
  · rfl

end Bench

end BoundedRegex
