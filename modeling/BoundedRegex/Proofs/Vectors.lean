import BoundedRegex.Proofs.Matches

/-!
# The vectors of a caller

A matcher does not look at the vectors of its caller. Two operations write to them, one to each, and only
if they have found a match. Then nothing is left of what the vector held before: it has an entry for each
pair of offsets that the match has left, and no other.

So at every moment of a run a vector holds what the last match has put there, or what it held at first. The
one exception is a match whose bytes the subject does not have. It is aborted when the vector of bytes has
been emptied and the groups before these bytes have been written.
-/
namespace BoundedRegex

variable {σ : Type} {E : Engine σ} {α β γ : Type}

/-- Whether an operation may write to a vector. -/
def Operation.writes : Operation → Bool
  | .captures _ _ => true
  | .capturesBytes _ _ => true
  | .seed _ _ => true
  | _ => false

namespace Bench

/-- A bench with other vectors. -/
def withVectors (b : Bench E) (v : Vectors) : Bench E := { b with spans := v.spans, views := v.views }

section
variable (b : Bench E) (v : Vectors)

@[simp] theorem withVectors_matcher : (b.withVectors v).matcher = b.matcher := rfl

@[simp] theorem withVectors_state : (b.withVectors v).state = b.state := rfl

@[simp] theorem withVectors_log : (b.withVectors v).log = b.log := rfl

end

/-! ## Work that leaves vectors alone -/

/-- Some work does not look at vectors, and leaves them alone. -/
def Blind (w : Work E α) : Prop :=
  ∀ b v, w.run (b.withVectors v) = ((w.run b).1, (w.run b).2.withVectors v)

namespace Blind

theorem pure (a : α) : Blind (Pure.pure a : Work E α) := fun _ _ => rfl

theorem bind {w : Work E α} {f : α → Work E β} (hw : Blind w) (hf : ∀ a, Blind (f a)) :
    Blind (w >>= f) := by
  intro b v
  rw [run_bind, run_bind, hw b v]
  rcases w.run b with ⟨a | a, b'⟩
  · rfl
  · exact hf a b' v

theorem reply {w : Work E α} (hw : Blind w) (f : α → β) : Blind (w >>= fun a => Pure.pure (f a)) :=
  hw.bind fun a => pure (f a)

theorem read {φ : Bench E → α} (h : ∀ b v, φ (b.withVectors v) = φ b) :
    Blind (get >>= fun b => Pure.pure (φ b) : Work E α) :=
  fun b v => congrArg (fun a => (Except.ok a, b.withVectors v)) (h b v)

theorem spans {w : Work E α} (hw : Blind w) (b : Bench E) : (w.run b).2.spans = b.spans :=
  congrArg (fun r => r.2.spans) (hw b ⟨b.spans, b.views⟩)

theorem views {w : Work E α} (hw : Blind w) (b : Bench E) : (w.run b).2.views = b.views :=
  congrArg (fun r => r.2.views) (hw b ⟨b.spans, b.views⟩)

theorem ask (f : σ → α × σ) : Blind (Bench.ask f : Work E α) := fun _ _ => rfl

theorem mapM {f : γ → Work E α} (hf : ∀ c, Blind (f c)) (cs : List γ) : Blind (cs.mapM f) := by
  induction cs with
  | nil => exact pure []
  | cons c rest ih =>
    rw [List.mapM_cons]
    exact (hf c).bind fun a => ih.reply (a :: ·)

end Blind

theorem cleared_withVectors (b : Bench E) (v : Vectors) :
    (b.withVectors v).cleared = b.cleared.withVectors v := by
  rw [cleared, cleared, withVectors_matcher]
  cases b.matcher.prepared <;> rfl

theorem blind_clear : Blind (clear : Work E Unit) := by
  intro b v
  rw [run_clear, run_clear, cleared_withVectors]

theorem blind_prepare (pattern : String) (flags : Flags) :
    Blind (prepare pattern flags : Work E _) := by
  intro b v
  rw [run_prepare, run_prepare, cleared_withVectors]
  generalize b.cleared = b
  dsimp only [withVectors]
  rcases E.compile pattern flags b.state with ⟨failure | code, s⟩
  · rfl
  · dsimp only
    rcases E.makeBuffer code s with ⟨_ | buffer, t⟩ <;> rfl

theorem blind_prepared {f : Prepared E → Work E α} (hf : ∀ p, Blind (f p)) :
    Blind (prepared >>= f) := by
  intro b v
  rw [run_bind, run_bind, run_prepared, run_prepared, withVectors_matcher]
  cases b.matcher.prepared with
  | none => rfl
  | some p => exact hf p b v

theorem blind_groupCount : Blind (groupCount : Work E Nat) := blind_prepared fun _ => .ask _

theorem blind_groupNumber? (name : String) : Blind (groupNumber? name : Work E _) := by
  apply blind_prepared
  intro p
  apply (Blind.ask _).bind
  rintro (_ | n)
  · exact .pure none
  · by_cases hn : n = 0
    · simp only [if_pos hn]
      exact .pure none
    · simp only [if_neg hn]
      apply (Blind.ask _).bind
      intro count
      split
      · exact .pure (some n)
      · exact .pure none

theorem blind_search (subject : ByteArray) (start : Nat) :
    Blind (search subject start : Work E _) := by
  intro b v
  rw [run_search, run_search, withVectors_matcher, withVectors_state, withVectors_log]
  by_cases hs : subject.size < start
  · rw [if_pos hs, if_pos hs]
  rw [if_neg hs, if_neg hs]
  cases b.matcher.prepared with
  | none => rfl
  | some p =>
    dsimp only
    rcases E.execute p.code subject start b.matcher.depthLimit p.buffer b.state with
      ⟨_ | _ | _ | code, buffer, s⟩
    · rfl
    · rfl
    · rfl
    · by_cases hl : b.log.level.reports false
      · simp only [if_pos hl]
        rfl
      · simp only [if_neg hl]
        rfl

theorem blind_traverse {f : Groups → Except Abort α} (subject : ByteArray) (start : Nat) :
    Blind (search subject start >>= fun o => o.traverse fun g => check (f g) : Work E _) := by
  apply (blind_search subject start).bind
  intro o b v
  rw [run_traverse_check, run_traverse_check]

theorem blind_find (subject : ByteArray) (start : Nat) : Blind (find subject start : Work E _) :=
  blind_traverse subject start

theorem blind_perform {o : Operation} (ho : o.writes = false) : Blind (perform o : Work E Reply) := by
  cases o with
  | prepare pattern flags => exact (blind_prepare pattern flags).reply _
  | clear => exact blind_clear.reply _
  | inspect => exact .read fun _ _ => rfl
  | describe spreadOut => exact .read fun _ _ => rfl
  | groupCount => exact blind_groupCount.reply _
  | groupNumber name => exact (blind_groupNumber? name).reply _
  | isMatch subject start => exact ((blind_search subject start).reply _).reply _
  | find subject start => exact (blind_find subject start).reply _
  | findBytes subject start => exact (blind_traverse subject start).reply _
  | sweep subject =>
    have attempt (start : Nat) : Blind (attempt subject start : Work E _) := by
      intro b v
      rw [run_attempt, run_attempt, blind_find subject start b v]
    exact (Blind.mapM attempt _).reply _
  | _ => cases ho

end Bench

/-! ## What is put into vectors -/

/-- What has been found, if anything. -/
def found? (result : Except Abort (Outcome α)) : Option α := result.toOption.bind Outcome.value?

/-- The spans that a matcher tells of a match. -/
def Reply.spans? : Reply → Option (List Span)
  | .spans (.found ()) entries => some entries
  | _ => none

def Reply.views? : Reply → Option (List ByteArray)
  | .views (.found ()) entries => some entries
  | _ => none

namespace Bench

/-- The spans that an operation puts into the vector of its caller: all those of a match, or what the
caller likes. -/
def spansPut? : Operation → Bench E → Option (List Span)
  | .captures subject start, b => (b.reply (.captures subject start)).toOption.bind Reply.spans?
  | .seed spans _, _ => some spans
  | _, _ => none

def viewsPut? : Operation → Bench E → Option (List ByteArray)
  | .capturesBytes subject start, b =>
    (b.reply (.capturesBytes subject start)).toOption.bind Reply.views?
  | .seed _ views, _ => some views
  | _, _ => none

/-- An operation is about to write bytes that its subject does not have. -/
def Spills (o : Operation) (b : Bench E) : Prop :=
  ∃ subject start, o = .capturesBytes subject start ∧ b.reply o = .error .outsideSubject

/-- All values are found, unless one of them is an abort. -/
theorem found?_traverse {each : Groups → List (Except Abort α)} {one : Except Abort (Outcome Groups)}
    (whole : ∀ g a, one = .ok (.found g) → (each g).mapM id ≠ .error a) :
    found? (one >>= (·.traverse fun g => (each g).mapM id)) =
      (found? one).map fun g => beforeAbort (each g) := by
  rcases one with a | g | _ | _
  · rfl
  · cases hv : (each g).mapM id with
    | error a => exact absurd hv (whole g a rfl)
    | ok values =>
      obtain rfl := beforeAbort_of_mapM hv
      simp only [bind, Except.bind, Outcome.traverse, hv]
      rfl
  · rfl
  · rfl

section
variable (subject : ByteArray) (start : Nat) (b : Bench E)

theorem after_captures :
    b.after [.captures subject start] =
      { ((search subject start : Work E _).run b).2 with
        spans := ((found? ((search subject start : Work E _).run b).1).map
          fun g => beforeAbort g.eachSpan).getD b.spans } := by
  have kept := (blind_search subject start).spans b
  rw [after, List.foldl_cons, List.foldl_nil, run_perform_captures]
  rw [← kept]
  rcases (search subject start : Work E _).run b with ⟨_ | g | _ | _, b'⟩ <;> rfl

theorem after_capturesBytes :
    b.after [.capturesBytes subject start] =
      { ((search subject start : Work E _).run b).2 with
        views := ((found? ((search subject start : Work E _).run b).1).map
          fun g => beforeAbort (g.eachView subject)).getD b.views } := by
  have kept := (blind_search subject start).views b
  rw [after, List.foldl_cons, List.foldl_nil, run_perform_capturesBytes]
  rw [← kept]
  rcases (search subject start : Work E _).run b with ⟨_ | g | _ | _, b'⟩ <;> rfl

/-- The reply shows the vector, which is as before without a match. -/
theorem reply_captures_traverse :
    b.reply (.captures subject start) =
      (((search subject start : Work E _).run b).1 >>= (·.traverse Groups.spans)).map fun o =>
        .spans (o.map fun _ => ()) (o.value?.getD b.spans) := by
  have kept := (blind_search subject start).spans b
  rw [reply, run_perform_captures]
  rw [← kept]
  rcases (search subject start : Work E _).run b with ⟨_ | g | _ | _, b'⟩
  · rfl
  · simp only [bind, Except.bind, Outcome.traverse]
    cases g.spans <;> rfl
  · rfl
  · rfl

theorem reply_capturesBytes_traverse :
    b.reply (.capturesBytes subject start) =
      (((search subject start : Work E _).run b).1 >>= (·.traverse (Groups.views subject))).map fun o =>
        .views (o.map fun _ => ()) (o.value?.getD b.views) := by
  have kept := (blind_search subject start).views b
  rw [reply, run_perform_capturesBytes]
  rw [← kept]
  rcases (search subject start : Work E _).run b with ⟨_ | g | _ | _, b'⟩
  · rfl
  · simp only [bind, Except.bind, Outcome.traverse]
    cases g.views subject <;> rfl
  · rfl
  · rfl

theorem spansPut_captures :
    spansPut? (.captures subject start) b =
      found? (((search subject start : Work E _).run b).1 >>= (·.traverse Groups.spans)) := by
  rw [spansPut?, reply_captures_traverse]
  rcases ((search subject start : Work E _).run b).1 >>= (·.traverse Groups.spans) with
    a | spans | _ | _ <;> rfl

theorem viewsPut_capturesBytes :
    viewsPut? (.capturesBytes subject start) b =
      found? (((search subject start : Work E _).run b).1 >>= (·.traverse (Groups.views subject))) := by
  rw [viewsPut?, reply_capturesBytes_traverse]
  rcases ((search subject start : Work E _).run b).1 >>= (·.traverse (Groups.views subject)) with
    a | views | _ | _ <;> rfl

end

/-! ## One operation -/

section
variable (o : Operation) (b : Bench E)

/-- With other vectors, an operation does the same to everything else. -/
theorem after_withVectors (v : Vectors) :
    ∃ w, (b.withVectors v).after [o] = (b.after [o]).withVectors w := by
  cases o with
  | captures subject start =>
    rw [after_captures, after_captures, blind_search]
    exact ⟨⟨_, v.views⟩, rfl⟩
  | capturesBytes subject start =>
    rw [after_capturesBytes, after_capturesBytes, blind_search]
    exact ⟨⟨v.spans, _⟩, rfl⟩
  | seed spans views => exact ⟨⟨spans, views⟩, rfl⟩
  | _ => exact ⟨v, congrArg Prod.snd (blind_perform rfl b v)⟩

theorem spansPut_withVectors (v : Vectors) : spansPut? o (b.withVectors v) = spansPut? o b := by
  cases o with
  | captures subject start => rw [spansPut_captures, spansPut_captures, blind_search]
  | _ => rfl

theorem viewsPut_withVectors (v : Vectors) : viewsPut? o (b.withVectors v) = viewsPut? o b := by
  cases o with
  | capturesBytes subject start => rw [viewsPut_capturesBytes, viewsPut_capturesBytes, blind_search]
  | _ => rfl

variable {o b}

/-- The offsets of a sound matcher over an orderly engine come in pairs. -/
theorem paired_of_found (hE : E.Orderly) (hb : b.matcher.Sound) {subject : ByteArray} {start : Nat}
    {g : Groups} (hg : ((search subject start : Work E _).run b).1 = .ok (.found g)) : g.Paired := by
  obtain ⟨unset, pairs, found⟩ := search_found_iff.mp hg
  have paired := paired_of_left hE hb found
  rwa [← unset] at paired

theorem spans_after (hE : E.Orderly) (hb : b.matcher.Sound) :
    (b.after [o]).spans = (spansPut? o b).getD b.spans := by
  cases o with
  | captures subject start =>
    have whole : ∀ g a, ((search subject start : Work E _).run b).1 = .ok (.found g) →
        g.spans ≠ .error a := by
      intro g a hg failed
      cases failed.symm.trans (paired_of_found hE hb hg).spans_eq
    rw [after_captures, spansPut_captures]
    exact congrArg (Option.getD · b.spans) (found?_traverse whole).symm
  | capturesBytes subject start =>
    rw [after_capturesBytes]
    exact (blind_search subject start).spans b
  | seed spans views => rfl
  | _ => exact (blind_perform rfl).spans b

theorem views_after (hE : E.Orderly) (hb : b.matcher.Sound) (ho : ¬Spills o b) :
    (b.after [o]).views = (viewsPut? o b).getD b.views := by
  cases o with
  | captures subject start =>
    rw [after_captures]
    exact (blind_search subject start).views b
  | capturesBytes subject start =>
    have whole : ∀ g a, ((search subject start : Work E _).run b).1 = .ok (.found g) →
        g.views subject ≠ .error a := by
      intro g a hg failed
      -- The offsets come in pairs, so nothing but bytes can be missing.
      have paired := paired_of_found hE hb hg
      have captured := capturesBytes_found hg paired
      have views := Groups.Paired.views_eq paired subject
      by_cases outside : ∃ p ∈ g.pairs, Group.Outside g.unset p subject
      · rw [if_pos outside] at captured
        exact ho ⟨subject, start, rfl, by rw [reply_capturesBytes, captured]; rfl⟩
      · rw [if_neg outside] at views
        cases failed.symm.trans views
    rw [after_capturesBytes, viewsPut_capturesBytes]
    exact congrArg (Option.getD · b.views) (found?_traverse whole).symm
  | seed spans views => rfl
  | _ => exact (blind_perform rfl).views b

end

/-! ## Whole runs -/

/-- What the last of some operations has put, among those that have put something. -/
def latest (put? : Operation → Bench E → Option α) : List Operation → Bench E → Option α
  | [], _ => none
  | o :: rest, b => (latest put? rest (b.after [o])).or (put? o b)

/-- Something holds of each operation of a run, at the moment when it is carried out. -/
def Throughout (holds : Operation → Bench E → Prop) (ops : List Operation) (b : Bench E) : Prop :=
  ∀ before o rest, ops = before ++ o :: rest → holds o (b.after before)

section
variable {put? : Operation → Bench E → Option α} {holds : Operation → Bench E → Prop} {o : Operation}
  {ops rest : List Operation} {b : Bench E}

theorem Throughout.nil : Throughout holds [] b := by
  intro before o rest h
  cases (List.append_ne_nil_of_right_ne_nil before (List.cons_ne_nil o rest)) h.symm

theorem Throughout.cons (ho : holds o b) (h : Throughout holds rest (b.after [o])) :
    Throughout holds (o :: rest) b := by
  intro before o' rest' heq
  cases before with
  | nil =>
    cases heq
    exact ho
  | cons first before =>
    obtain ⟨rfl, rfl⟩ := List.cons.inj heq
    exact h before o' rest' rfl

theorem Throughout.head (h : Throughout holds (o :: rest) b) : holds o b := h [] o rest rfl

theorem Throughout.tail (h : Throughout holds (o :: rest) b) : Throughout holds rest (b.after [o]) := by
  rintro before o' rest' rfl
  exact h (o :: before) o' rest' rfl

/-- A vector holds what was put there last, if each operation leaves it as it is or puts something there. -/
theorem latest_getD (vector : Bench E → α)
    (step : ∀ o b, b.matcher.Sound → holds o b → vector (b.after [o]) = (put? o b).getD (vector b))
    (hb : b.matcher.Sound) (h : Throughout holds ops b) :
    vector (b.after ops) = (latest put? ops b).getD (vector b) := by
  induction ops generalizing b with
  | nil => rfl
  | cons o rest ih =>
    have sound : (b.after [o]).matcher.Sound := sound_kept.after hb [o]
    calc vector (b.after (o :: rest))
      _ = vector ((b.after [o]).after rest) := rfl
      _ = (latest put? rest (b.after [o])).getD (vector (b.after [o])) := ih sound h.tail
      _ = (latest put? rest (b.after [o])).getD ((put? o b).getD (vector b)) := by
        rw [step o b hb h.head]
      _ = (latest put? (o :: rest) b).getD (vector b) := by
        rw [latest]
        cases latest put? rest (b.after [o]) <;> rfl

/-- What is put there does not depend on what there has been before. -/
theorem latest_withVectors (step : ∀ o b v, put? o (b.withVectors v) = put? o b) (v : Vectors) :
    latest put? ops (b.withVectors v) = latest put? ops b := by
  induction ops generalizing b v with
  | nil => rfl
  | cons o rest ih =>
    obtain ⟨w, left⟩ := after_withVectors o b v
    rw [latest, latest, step, left, ih]

end

/-- What becomes of the vectors of a caller over some operations. -/
structure Retains (b : Bench E) (ops : List Operation) : Prop where
  spans : (b.after ops).spans = (latest spansPut? ops b).getD b.spans
  views : Throughout (fun o b => ¬Spills o b) ops b →
    (b.after ops).views = (latest viewsPut? ops b).getD b.views
  blind : ∀ v, latest spansPut? ops (b.withVectors v) = latest spansPut? ops b ∧
    latest viewsPut? ops (b.withVectors v) = latest viewsPut? ops b
  /-- A match puts a span there for each pair of offsets that the engine has left, and nothing else. -/
  matched_spans : Throughout (fun o b => ∀ subject start spans, o = .captures subject start →
    b.reply o = .ok (.spans (.found ()) spans) →
    ∃ pairs offsets, b.left? subject start = some (pairs, offsets) ∧
      spans = (inPairs offsets).map (Group.spanOf E.unset) ∧ spans.length = offsets.length / 2) ops b
  matched_views : Throughout (fun o b => ∀ subject start views, o = .capturesBytes subject start →
    b.reply o = .ok (.views (.found ()) views) →
    ∃ pairs offsets, b.left? subject start = some (pairs, offsets) ∧
      views = (inPairs offsets).map (Group.bytesOf E.unset · subject) ∧
      views.length = offsets.length / 2) ops b

/-- At each moment, a vector holds all of what the last match has put there, or what it held at first. -/
theorem vectors_whole (hE : E.Orderly) {b : Bench E} (hb : b.matcher.Sound) (ops : List Operation) :
    b.Retains ops := by
  have paired {before : List Operation} {subject : ByteArray} {start : Nat} :
      ∀ m, (b.after before).left? subject start = some m → (⟨E.unset, m.2⟩ : Groups).Paired :=
    fun m left => paired_of_left hE (sound_kept.after hb before) left
  constructor
  case spans =>
    have all : Throughout (fun (_ : Operation) (_ : Bench E) => True) ops b := fun _ _ _ _ => trivial
    exact latest_getD (fun b => b.spans) (fun _ _ hb _ => spans_after hE hb) hb all
  case views =>
    intro inside
    exact latest_getD (fun b => b.views) (fun _ _ hb ho => views_after hE hb ho) hb inside
  case blind =>
    intro v
    exact ⟨latest_withVectors spansPut_withVectors v, latest_withVectors viewsPut_withVectors v⟩
  case matched_spans =>
    rintro before _ rest - subject start spans rfl hr
    obtain ⟨m, left, rfl⟩ := (reply_captures_iff paired).mp hr
    exact ⟨m.1, m.2, left, rfl, by rw [List.length_map, length_inPairs]⟩
  case matched_views =>
    rintro before _ rest - subject start views rfl hr
    obtain ⟨m, left, -, rfl⟩ := (reply_capturesBytes_iff paired).mp hr
    exact ⟨m.1, m.2, left, rfl, by rw [List.length_map, length_inPairs]⟩

/-- Two patterns with different groups, and matches that are followed by failures of all kinds. -/
theorem vectors_whole_scripted :
    let first : ScriptedCode := { runs := [.matched [some 1, some 3] none] }
    let second : ScriptedCode :=
      { groups := 2
        runs := [.matched [some 0, some 2, none, none, some 1, some 1] none, .noMatch,
          .depthLimitExceeded, .failed 3] }
    let E := Scenario.engine { patterns := [("a", .ok first), ("b", .ok second)] } 7
    let b := built E {} 5 () {} (.replicate 4 .unset) [⟨#[1]⟩]
    let subject : ByteArray := ⟨#[97, 98, 99]⟩
    let ops : List Operation := [.prepare "a" .empty, .capturesBytes subject 0, .captures subject 0,
      .prepare "b" .empty, .captures subject 0, .captures subject 0, .captures subject 1,
      .captures subject 2, .captures subject 9, .prepare "c" .empty, .captures subject 0]
    E.Orderly ∧ b.matcher.Sound ∧ b.Retains ops ∧ Throughout (fun o b => ¬Spills o b) ops b ∧
      (b.after ops).spans = [⟨0, 2, by decide⟩, .unset, ⟨1, 0, by decide⟩] ∧
      (b.after ops).views = [⟨#[98, 99]⟩] := by
  intro first second E b subject ops
  have hE : E.Orderly := by
    apply Engine.Sized.orderly
    apply Scenario.sized
    intro pattern code hl
    simp only [List.lookup_cons, List.lookup_nil] at hl
    split at hl
    · cases hl
      decide
    · split at hl
      · cases hl
        decide
      · cases hl
  have hb : b.matcher.Sound := nofun
  have inside : Throughout (fun o b => ¬Spills o b) ops b := by
    repeat
      refine .cons ?_ ?_
      · rintro ⟨subject, start, ⟨⟩, h⟩
        all_goals cases h
    exact .nil
  exact ⟨hE, hb, vectors_whole hE hb ops, inside, by decide +kernel, by decide +kernel⟩

end Bench

end BoundedRegex
