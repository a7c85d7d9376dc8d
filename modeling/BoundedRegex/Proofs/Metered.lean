import BoundedRegex.Engine.MatchContext
import BoundedRegex.Proofs.Dialog
import BoundedRegex.Proofs.Vectors
import BoundedRegex.Search

/-!
# Searches within larger bounds

A computation counts its entries, and a bound stops it as soon as the count passes it. Until then the bound
makes no difference. So what the computation comes to within a bound, it comes to within each larger one, and
the bounds that stop it are all below those that do not.

A library is metered if each of its searches is such a computation, which is given by the pattern, its flags,
the subject and the start. Neither earlier searches nor the bound of one that came before have a part in it.
Then a matcher with a larger limit replies the same to every search that has been decided.
-/
namespace BoundedRegex
open Memory

/-! ## Computations that count their entries -/

/-- How a computation goes on. -/
inductive Progress (γ ρ : Type) where
  /-- By one more entry. -/
  | enter (next : γ)
  /-- By counting its entries anew. -/
  | anew (next : γ)
  | ends (result : ρ)

/-- What a computation that has counted some entries comes to within a limit: a result, or none if the
count passes the limit. -/
inductive Comes {γ ρ : Type} (step : γ → Progress γ ρ) (limit : Nat) :
    Nat → Progress γ ρ → Option ρ → Prop
  | ends (count : Nat) (result : ρ) : Comes step limit count (.ends result) (some result)
  | anew {count : Nat} {s : γ} {r : Option ρ} :
      Comes step limit 0 (step s) r → Comes step limit count (.anew s) r
  | enter {count : Nat} {s : γ} {r : Option ρ} :
      count < limit → Comes step limit (count + 1) (step s) r → Comes step limit count (.enter s) r
  | passed {count : Nat} {s : γ} : limit ≤ count → Comes step limit count (.enter s) none

namespace Comes

variable {γ ρ : Type} {step : γ → Progress γ ρ} {limit limit' count : Nat} {p : Progress γ ρ}
  {r r' : Option ρ} {result : ρ}

/-- A limit that has not been passed makes no difference, and neither does a larger one. -/
theorem mono (h : Comes step limit count p r) (hr : r = some result) (hl : limit ≤ limit') :
    Comes step limit' count p r := by
  induction h with
  | ends count result => exact .ends count result
  | anew _ ih => exact .anew (ih hr)
  | enter below _ ih => exact .enter (Nat.lt_of_lt_of_le below hl) (ih hr)
  | passed => cases hr

theorem unique (h : Comes step limit count p r) (h' : Comes step limit count p r') : r' = r := by
  induction h with
  | ends =>
    cases h'
    rfl
  | anew _ ih =>
    cases h' with
    | anew rest => exact ih rest
  | enter below _ ih =>
    cases h' with
    | enter _ rest => exact ih rest
    | passed above => exact absurd above (Nat.not_le.mpr below)
  | passed above =>
    cases h' with
    | enter below => exact absurd above (Nat.not_le.mpr below)
    | passed => rfl

/-- What has been decided within a limit is decided within each larger one in the same way. -/
theorem decided (h : Comes step limit count p (some result)) (hl : limit ≤ limit')
    (h' : Comes step limit' count p r) : r = some result :=
  (h.mono rfl hl).unique h'

/-- A result is what the computation ends with, at the start or after a step. -/
theorem ended (h : Comes step limit count p r) {Q : ρ → Prop} (hp : ∀ result, p = .ends result → Q result)
    (hs : ∀ s result, step s = .ends result → Q result) (hr : r = some result) : Q result := by
  induction h with
  | ends count result' =>
    cases hr
    exact hp result rfl
  | anew _ ih => exact ih (hs _) hr
  | enter _ _ ih => exact ih (hs _) hr
  | passed => cases hr

end Comes

/-! ## Metered libraries -/

/-- The computations that the searches of a library are. They end with a status and offsets. -/
structure Meter where
  State : Type
  step : State → Progress State (Int × List UInt64)
  start : String → Flags → ByteArray → Nat → Progress State (Int × List UInt64)
  /-- The limit that the pattern itself asks for. -/
  own : String → Flags → Option Nat

/-- What a search comes to within a limit of its caller. -/
def Meter.Comes (M : Meter) (pattern : String) (flags : Flags) (subject : ByteArray) (start : Nat)
    (limit : UInt32) (r : Option (Int × List UInt64)) : Prop :=
  BoundedRegex.Comes M.step (Search.lesser limit.toNat (M.own pattern flags)) 0
    (M.start pattern flags subject start) r

namespace Library

variable (L : Library)

def Compiles (pattern : String) (flags : Flags) (code : L.Code) : Prop :=
  ∃ (σ : Type) (S : Source σ) (s : σ), ((L.compile pattern flags).run S s).1 = .ok code

/-- A buffer has been made for a code, and used by whatever searches with it. -/
inductive Serves (code : L.Code) : L.Buffer → Prop
  | new {σ : Type} {S : Source σ} {s : σ} {buffer : L.Buffer} :
      ((L.makeBuffer code).run S s).1 = some buffer → Serves code buffer
  | used {buffer : L.Buffer} {σ : Type} (S : Source σ) (s : σ) (subject : ByteArray) (start : Nat)
      (limit : UInt32) : Serves code buffer →
      Serves code ((L.search code subject start limit buffer).run S s).1.2

/-- The status and the buffer of a search are those of its result, or it has been stopped. -/
def Concludes : Option (Int × List UInt64) → Int × L.Buffer → Prop
  | none, answer => answer.1 = limitStatus
  | some (status, offsets), answer => answer.1 = status ∧ (0 ≤ status → L.offsets answer.2 = offsets)

/-- A library whose searches are the computations of a meter, unless a request is refused. No other
end than being stopped has the status for it. -/
structure Metered (M : Meter) : Prop where
  start_ends : ∀ pattern flags subject start status offsets,
    M.start pattern flags subject start = .ends (status, offsets) → status ≠ limitStatus
  step_ends : ∀ s status offsets, M.step s = .ends (status, offsets) → status ≠ limitStatus
  search : ∀ {pattern flags code buffer}, L.Compiles pattern flags code → L.Serves code buffer →
    ∀ (subject : ByteArray) (start : Nat) (limit : UInt32) (σ : Type) (S : Source σ) (s : σ),
      (L.search code subject start limit buffer).refused S s = false →
      ∃ r, M.Comes pattern flags subject start limit r ∧
        L.Concludes r ((L.search code subject start limit buffer).run S s).1

end Library

/-! ## Runs of engines -/

/-- What an engine answers to a search, and the offsets that it tells then. -/
def Engine.ran {σ : Type} (E : Engine σ) (code : E.Code) (subject : ByteArray) (start : Nat) (limit : UInt32)
    (buffer : E.Buffer) (s : σ) : Execution × List UInt64 :=
  let (answer, buffer, s) := E.execute code subject start limit buffer s
  (answer, (E.output buffer s).1)

theorem Engine.ran_of_execute {σ : Type} {E : Engine σ} {code : E.Code} {subject : ByteArray} {start : Nat}
    {limit : UInt32} {buffer left : E.Buffer} {s s' : σ} {answer : Execution}
    (h : E.execute code subject start limit buffer s = (answer, left, s')) :
    E.ran code subject start limit buffer s = (answer, (E.output left s').1) := by
  simp only [ran, h]

/-- If the first run of an engine has been decided, then the second one has been in the same way. -/
structure Confirms (x y : Execution × List UInt64) : Prop where
  decided : x.1 ≠ .depthLimitExceeded → y.1 = x.1
  offsets : ∀ pairs, x.1 = .matched pairs → y.2 = x.2
  exceeded : y.1 = .depthLimitExceeded → x.1 = .depthLimitExceeded

theorem Execution.ofStatus_of_neg {status : Int} (h : status < 0) (offsets offsets' : List UInt64) :
    Execution.ofStatus status offsets = .ofStatus status offsets' := by
  rw [ofStatus, ofStatus]
  simp only [if_pos h]

theorem Execution.ofStatus_eq_exceeded {status : Int} {offsets : List UInt64} :
    Execution.ofStatus status offsets = .depthLimitExceeded ↔ status = limitStatus := by
  rw [ofStatus]
  constructor
  · intro h
    by_contra other
    simp only [if_neg other] at h
    split at h
    · cases h
    · split at h
      · cases h
      · split at h <;> cases h
  · rintro rfl
    rfl

theorem Execution.nonneg_of_matched {status : Int} {offsets : List UInt64} {pairs : Nat}
    (h : Execution.ofStatus status offsets = .matched pairs) : 0 ≤ status := by
  by_contra negative
  have below : status < 0 := Int.not_le.mp negative
  rw [ofStatus] at h
  simp only [if_pos below] at h
  split at h
  · cases h
  · split at h <;> cases h

namespace Library

variable {L : Library} {M : Meter} {σ τ : Type} {S : Source σ} {T : Source τ}

/-- A search of a compiled pattern is about to be run, and none of its requests will be refused. -/
structure Poised (L : Library) (S : Source σ) (pattern : String) (flags : Flags) (subject : ByteArray)
    (start : Nat) (limit : UInt32) (code : L.Code) (buffer : L.Buffer) (s : σ) : Prop where
  compiled : L.Compiles pattern (effective flags) code
  serves : L.Serves code buffer
  unrefused : (L.search code subject start limit buffer).refused S s = false

/-- What an engine answers is what the computation has come to. -/
def Answers : Option (Int × List UInt64) → Execution × List UInt64 → Prop
  | none, x => x.1 = .depthLimitExceeded
  | some (status, offsets), x =>
    status ≠ limitStatus ∧ x.1 = .ofStatus status offsets ∧ (0 ≤ status → x.2 = offsets)

theorem Answers.exceeded_iff {r : Option (Int × List UInt64)} {x : Execution × List UInt64}
    (h : Answers r x) : x.1 = .depthLimitExceeded ↔ r = none := by
  rcases r with _ | ⟨status, offsets⟩
  · exact iff_of_true h rfl
  · obtain ⟨other, answer, -⟩ := h
    rw [answer, Execution.ofStatus_eq_exceeded]
    exact iff_of_false other nofun

variable {pattern : String} {flags : Flags} {subject : ByteArray} {start : Nat} {limit limit' : UInt32}
  {code code' : L.Code} {buffer buffer' : L.Buffer} {s : σ} {t : τ}

theorem Metered.ran (hL : L.Metered M) (h : L.Poised S pattern flags subject start limit code buffer s) :
    ∃ r, M.Comes pattern (effective flags) subject start limit r ∧
      Answers r ((L.engine S).ran code subject start limit buffer s) := by
  obtain ⟨r, comes, concluded⟩ := hL.search h.compiled h.serves subject start limit σ S s h.unrefused
  refine ⟨r, comes, ?_⟩
  simp only [Engine.ran, engine]
  generalize (L.search code subject start limit buffer).run S s = run at concluded ⊢
  obtain ⟨⟨status, left⟩, s'⟩ := run
  rcases hr : r with _ | ⟨result, offsets⟩
  · subst hr
    exact Execution.ofStatus_eq_exceeded.mpr concluded
  · subst hr
    obtain ⟨same, told⟩ := concluded
    dsimp only at same told
    subst same
    refine ⟨?_, ?_, told⟩
    · exact comes.ended (Q := fun result => result.1 ≠ limitStatus)
        (fun _ h => hL.start_ends _ _ _ _ _ _ h) (fun _ _ h => hL.step_ends _ _ _ h) rfl
    · rcases lt_or_ge status 0 with negative | positive
      · exact Execution.ofStatus_of_neg negative _ _
      · rw [told positive]

/-- A larger limit changes nothing that has been decided. -/
theorem Answers.confirms {r r' : Option (Int × List UInt64)} {x y : Execution × List UInt64}
    (hr : M.Comes pattern flags subject start limit r) (hx : Answers r x)
    (hr' : M.Comes pattern flags subject start limit' r') (hy : Answers r' y) (hl : limit ≤ limit') :
    Confirms x y := by
  have wider : Search.lesser limit.toNat (M.own pattern flags) ≤
      Search.lesser limit'.toNat (M.own pattern flags) := by
    have below : limit.toNat ≤ limit'.toNat := hl
    cases M.own pattern flags with
    | none => exact below
    | some asked => exact min_le_min_right asked below
  rcases hr₀ : r with _ | ⟨status, offsets⟩
  · rw [hr₀] at hx
    refine ⟨fun decided => absurd hx decided, ?_, fun _ => hx⟩
    intro pairs matched
    cases hx.symm.trans matched
  · rw [hr₀] at hr hx
    -- Within the larger limit, the computation goes the same way to the same end.
    have same : r' = some (status, offsets) := hr.decided wider hr'
    rw [same] at hy
    obtain ⟨other, answer, told⟩ := hx
    obtain ⟨-, answer', told'⟩ := hy
    have equal : y.1 = x.1 := answer'.trans answer.symm
    refine ⟨fun _ => equal, ?_, fun exceeded => equal.symm.trans exceeded⟩
    intro pairs matched
    have positive : 0 ≤ status := Execution.nonneg_of_matched (answer.symm.trans matched)
    rw [told positive, told' positive]

theorem Metered.confirms (hL : L.Metered M)
    (h : L.Poised S pattern flags subject start limit code buffer s)
    (h' : L.Poised T pattern flags subject start limit' code' buffer' t) (hl : limit ≤ limit') :
    Confirms ((L.engine S).ran code subject start limit buffer s)
      ((L.engine T).ran code' subject start limit' buffer' t) := by
  obtain ⟨r, comes, answers⟩ := hL.ran h
  obtain ⟨r', comes', answers'⟩ := hL.ran h'
  exact answers.confirms comes comes' answers' hl

/-- A search is given up only if the computation passes the limit. -/
theorem Metered.exceeded_iff (hL : L.Metered M)
    (h : L.Poised S pattern flags subject start limit code buffer s) :
    ((L.engine S).ran code subject start limit buffer s).1 = .depthLimitExceeded ↔
      M.Comes pattern (effective flags) subject start limit none := by
  obtain ⟨r, comes, answers⟩ := hL.ran h
  rw [answers.exceeded_iff]
  constructor
  · rintro rfl
    exact comes
  · intro stopped
    exact (comes.unique stopped).symm

/-- The match context holds whatever bound has been set for an earlier search, to no effect. -/
theorem ran_contextual (code : L.Code) (subject : ByteArray) (start : Nat) (limit : UInt32)
    (buffer : L.Buffer) (s : Bounded σ) :
    (L.contextual S).ran code subject start limit buffer s =
      (L.engine S).ran code subject start limit buffer s.state := rfl

theorem compiles_of_contextual {code : L.Code}
    (h : (L.contextual S).Compiles pattern flags code) : L.Compiles pattern (effective flags) code := by
  obtain ⟨s, made⟩ := h
  exact ⟨σ, S, s.state, made⟩

theorem serves_of_contextual {code : (L.contextual S).Code} {buffer : (L.contextual S).Buffer}
    (h : (L.contextual S).Serves code buffer) : L.Serves code buffer := by
  induction h with
  | @new s buffer made => exact .new (S := S) (s := s.state) made
  | used subject start limit s _ _ ih => exact .used S s.state subject start limit ih

end Library

/-! ## Replies of matchers -/

/-- What is replied to an operation that searches, by what the search comes to and by what the vectors of
the caller hold. -/
def Operation.tell (o : Operation) (one : Except Abort (Outcome Groups)) (v : Vectors) : Except Abort Reply :=
  match o with
  | .isMatch _ _ => one.map fun x => .matched (x.map fun _ => ())
  | .find _ _ => (one >>= (·.traverse Groups.overallSpan)).map .span
  | .findBytes subject _ => (one >>= (·.traverse (Groups.overallBytes subject))).map .bytes
  | .captures _ _ =>
    (one >>= (·.traverse Groups.spans)).map fun x => .spans (x.map fun _ => ()) (x.value?.getD v.spans)
  | .capturesBytes subject _ =>
    (one >>= (·.traverse (Groups.views subject))).map fun x =>
      .views (x.map fun _ => ()) (x.value?.getD v.views)
  | _ => .ok .done

namespace Bench

variable {σ τ : Type} {E : Engine σ} {A : Engine τ} {o : Operation} {subject : ByteArray} {start : Nat}

theorem reply_eq_tell (ho : o.search? = some (subject, start)) (b : Bench E) :
    b.reply o = o.tell ((search subject start : Work E _).run b).1 ⟨b.spans, b.views⟩ := by
  cases o <;> cases ho
  case isMatch =>
    rw [reply_isMatch, run_isMatch]
    cases ((search subject start : Work E _).run b).1 <;> rfl
  case find => rw [reply_find, run_find, Operation.tell]
  case findBytes => rw [reply_findBytes, run_findBytes, Operation.tell]
  case captures => rw [reply_captures_traverse, Operation.tell]
  case capturesBytes => rw [reply_capturesBytes_traverse, Operation.tell]

/-- If an operation has not been given up on one bench, then on another one it is replied to in the same
way. The vectors of the callers may differ where no match is written to them. -/
structure Repeats (o : Operation) (b : Bench E) (a : Bench A) : Prop where
  found : ∀ r, b.reply o = .ok r → r.verdict? = some (.found ()) → a.reply o = .ok r
  noMatch : ∀ r, b.reply o = .ok r → r.verdict? = some .noMatch →
    ∃ r', a.reply o = .ok r' ∧ r'.verdict? = some .noMatch
  aborted : ∀ e, b.reply o = .error e → a.reply o = .error e
  exceeded : ∀ r', a.reply o = .ok r' → r'.verdict? = some .depthLimitExceeded →
    ∃ r, b.reply o = .ok r ∧ r.verdict? = some .depthLimitExceeded

/-- What a match or an abort is replied with does not depend on the vectors of the caller. -/
theorem tell_congr (ho : o.search? = some (subject, start)) {one : Except Abort (Outcome Groups)}
    (hn : one ≠ .ok .noMatch) (hd : one ≠ .ok .depthLimitExceeded) (v w : Vectors) :
    o.tell one v = o.tell one w := by
  cases o <;> cases ho
  case captures =>
    rcases one with e | g | _ | _
    · rfl
    · simp only [Operation.tell, bind, Except.bind, Outcome.traverse]
      cases g.spans <;> rfl
    · exact absurd rfl hn
    · exact absurd rfl hd
  case capturesBytes =>
    rcases one with e | g | _ | _
    · rfl
    · simp only [Operation.tell, bind, Except.bind, Outcome.traverse]
      cases g.views subject <;> rfl
    · exact absurd rfl hn
    · exact absurd rfl hd
  all_goals rfl

/-- A search without a match is replied to with its outcome. -/
theorem tell_unfound (ho : o.search? = some (subject, start)) (one : Outcome Groups)
    (unfound : ∀ g, one ≠ .found g) (v : Vectors) :
    ∃ r, o.tell (.ok one) v = .ok r ∧ r.verdict? = some (one.map fun _ => ()) := by
  cases one with
  | found g => exact absurd rfl (unfound g)
  | noMatch => cases o <;> cases ho <;> exact ⟨_, rfl, rfl⟩
  | depthLimitExceeded => cases o <;> cases ho <;> exact ⟨_, rfl, rfl⟩

theorem reply_unfound (ho : o.search? = some (subject, start)) {b : Bench E} {one : Outcome Groups}
    (h : ((search subject start : Work E _).run b).1 = .ok one) (unfound : ∀ g, one ≠ .found g) :
    ∃ r, b.reply o = .ok r ∧ r.verdict? = some (one.map fun _ => ()) := by
  rw [reply_eq_tell ho, h]
  exact tell_unfound ho one unfound _

/-- A search is reported as given up if it has been, and not otherwise. -/
theorem reply_exceeded_iff (ho : o.search? = some (subject, start)) {b : Bench E} :
    (∃ r, b.reply o = .ok r ∧ r.verdict? = some .depthLimitExceeded) ↔
      ((search subject start : Work E _).run b).1 = .ok .depthLimitExceeded := by
  constructor
  · rintro ⟨r, hr, hv⟩
    cases hs : ((search subject start : Work E _).run b).1 with
    | error e =>
      rw [reply_eq_tell ho, hs] at hr
      cases o <;> cases ho <;> cases hr
    | ok one =>
      have verdict := hv.symm.trans (verdict_reply hs ho hr)
      cases one with
      | found g => cases verdict
      | noMatch => cases verdict
      | depthLimitExceeded => rfl
  · intro exceeded
    exact reply_unfound ho exceeded fun _ => nofun

namespace Repeats

variable {b : Bench E} {a : Bench A} {r r' : Reply}

theorem of_eq (same : a.reply o = b.reply o) : Repeats o b a where
  found _ hr _ := same.trans hr
  noMatch r hr hv := ⟨r, same.trans hr, hv⟩
  aborted _ hr := same.trans hr
  exceeded r hr hv := ⟨r, same.symm.trans hr, hv⟩

theorem of_noMatch (hr : b.reply o = .ok r) (hv : r.verdict? = some .noMatch) (hr' : a.reply o = .ok r')
    (hv' : r'.verdict? = some .noMatch) : Repeats o b a where
  found x hx found := by
    cases hr.symm.trans hx
    cases hv.symm.trans found
  noMatch _ _ _ := ⟨r', hr', hv'⟩
  aborted e he := by cases hr.symm.trans he
  exceeded x hx exceeded := by
    cases hr'.symm.trans hx
    cases hv'.symm.trans exceeded

/-- A search that has been given up does not say anything about others. -/
theorem of_exceeded (hr : b.reply o = .ok r) (hv : r.verdict? = some .depthLimitExceeded) :
    Repeats o b a where
  found x hx found := by
    cases hr.symm.trans hx
    cases hv.symm.trans found
  noMatch x hx noMatch := by
    cases hr.symm.trans hx
    cases hv.symm.trans noMatch
  aborted e he := by cases hr.symm.trans he
  exceeded _ _ _ := ⟨r, hr, hv⟩

end Repeats

/-- Searches that come to the same, unless the first one is given up, are replied to in the same way. -/
theorem repeats_of_search (ho : o.search? = some (subject, start)) {b : Bench E} {a : Bench A}
    (h : ((search subject start : Work E _).run b).1 ≠ .ok .depthLimitExceeded →
      ((search subject start : Work A _).run a).1 = ((search subject start : Work E _).run b).1) :
    Repeats o b a := by
  by_cases exceeded : ((search subject start : Work E _).run b).1 = .ok .depthLimitExceeded
  · obtain ⟨r, hr, hv⟩ := (reply_exceeded_iff ho).mpr exceeded
    exact .of_exceeded hr hv
  have same := h exceeded
  by_cases noMatch : ((search subject start : Work E _).run b).1 = .ok .noMatch
  · obtain ⟨r, hr, hv⟩ := reply_unfound ho noMatch fun _ => nofun
    obtain ⟨r', hr', hv'⟩ := reply_unfound ho (same.trans noMatch) fun _ => nofun
    exact .of_noMatch hr hv hr' hv'
  · apply Repeats.of_eq
    rw [reply_eq_tell ho, reply_eq_tell ho, same]
    exact tell_congr ho noMatch exceeded _ _

end Bench

/-! ## Larger limits -/

/-- What a search reports when its engine has answered this. -/
def Execution.outcome (unset : UInt64) : Execution × List UInt64 → Outcome Groups
  | (.matched _, offsets) => .found ⟨unset, offsets⟩
  | (.noMatch, _) => .noMatch
  | (.depthLimitExceeded, _) => .depthLimitExceeded
  | (.failed _, _) => .noMatch

theorem Confirms.outcome {x y : Execution × List UInt64} (h : Confirms x y) (unset : UInt64)
    (hx : x.1 ≠ .depthLimitExceeded) : Execution.outcome unset y = Execution.outcome unset x := by
  obtain ⟨answer, offsets⟩ := x
  obtain ⟨answer', offsets'⟩ := y
  have same : answer' = answer := h.decided hx
  subst same
  cases answer' with
  | matched pairs =>
    have told : offsets' = offsets := h.offsets pairs rfl
    rw [told]
  | noMatch => rfl
  | depthLimitExceeded => rfl
  | failed code => rfl

theorem Execution.outcome_eq_exceeded {unset : UInt64} {x : Execution × List UInt64} :
    Execution.outcome unset x = .depthLimitExceeded ↔ x.1 = .depthLimitExceeded := by
  obtain ⟨answer, offsets⟩ := x
  cases answer with
  | depthLimitExceeded => exact iff_of_true rfl rfl
  | _ => exact iff_of_false nofun nofun

/-- What a search comes to is a matter of what its engine answers. -/
theorem Bench.search_ran {σ : Type} {E : Engine σ} {b : Bench E} {p : Prepared E}
    (hp : b.matcher.prepared = some p) {subject : ByteArray} {start : Nat} (inside : ¬subject.size < start) :
    ((search subject start : Work E _).run b).1 =
      .ok (Execution.outcome E.unset (E.ran p.code subject start b.matcher.depthLimit p.buffer b.state)) := by
  rw [run_search, if_neg inside, hp]
  dsimp only
  rcases run : E.execute p.code subject start b.matcher.depthLimit p.buffer b.state with ⟨answer, buffer, s⟩
  rw [Engine.ran_of_execute run]
  cases answer with
  | matched pairs => rfl
  | noMatch => rfl
  | depthLimitExceeded => rfl
  | failed code =>
    dsimp only
    split <;> rfl

namespace Library

variable {L : Library} {M : Meter} {σ τ : Type} {S : Source σ} {T : Source τ} {pattern : String}
  {flags : Flags} {subject : ByteArray} {start : Nat}

/-- A matcher has been prepared with a pattern and flags, and has searched as often as it likes since. None
of the requests of its next search will be refused. -/
structure Awaits (S : Source σ) (pattern : String) (flags : Flags) (subject : ByteArray) (start : Nat)
    (b : Bench (L.contextual S)) (p : Prepared (L.contextual S)) : Prop where
  sound : b.matcher.Sound
  prepared : b.matcher.prepared = some p
  pattern : p.pattern = pattern
  flags : p.flags = flags
  unrefused :
    (L.search p.code subject start b.matcher.depthLimit p.buffer).refused S b.state.state = false

theorem Awaits.poised {b : Bench (L.contextual S)} {p : Prepared (L.contextual S)}
    (h : L.Awaits S pattern flags subject start b p) :
    L.Poised S pattern flags subject start b.matcher.depthLimit p.code p.buffer b.state.state := by
  obtain ⟨compiled, serves⟩ := h.sound p h.prepared
  rw [h.pattern, h.flags] at compiled
  exact ⟨compiles_of_contextual compiled, serves_of_contextual serves, h.unrefused⟩

/-- A search is repeated by one with a larger limit. -/
theorem Metered.repeats (hL : L.Metered M) {b : Bench (L.contextual S)} {a : Bench (L.contextual T)}
    {p : Prepared (L.contextual S)} {q : Prepared (L.contextual T)}
    (hb : L.Awaits S pattern flags subject start b p) (ha : L.Awaits T pattern flags subject start a q)
    (hl : b.matcher.depthLimit ≤ a.matcher.depthLimit) {o : Operation}
    (ho : o.search? = some (subject, start)) : Bench.Repeats o b a := by
  apply Bench.repeats_of_search ho
  intro decided
  by_cases outside : subject.size < start
  · rw [Bench.run_search, Bench.run_search, if_pos outside, if_pos outside]
  · rw [Bench.search_ran hb.prepared outside] at decided ⊢
    rw [Bench.search_ran ha.prepared outside]
    have confirms := hL.confirms hb.poised ha.poised hl
    refine congrArg Except.ok (confirms.outcome L.unset fun exceeded => decided ?_)
    exact congrArg Except.ok (Execution.outcome_eq_exceeded.mpr exceeded)

theorem Metered.reply_exceeded_iff (hL : L.Metered M) {b : Bench (L.contextual S)}
    {p : Prepared (L.contextual S)} (hb : L.Awaits S pattern flags subject start b p)
    (inside : start ≤ subject.size) {o : Operation} (ho : o.search? = some (subject, start)) :
    (∃ r, b.reply o = .ok r ∧ r.verdict? = some .depthLimitExceeded) ↔
      M.Comes pattern (effective flags) subject start b.matcher.depthLimit none := by
  rw [Bench.reply_exceeded_iff ho, Bench.search_ran hb.prepared (Nat.not_lt.mpr inside), Except.ok.injEq,
    Execution.outcome_eq_exceeded]
  exact hL.exceeded_iff hb.poised

/-- What has been decided within a limit is decided within each larger one in the same way, by engines and by
matchers, whatever has been searched before. Within a limit a search is given up exactly if the computation
that it is passes the limit. -/
theorem larger_limit (hL : L.Metered M) (S : Source σ) (T : Source τ) (pattern : String) (flags : Flags)
    (subject : ByteArray) (start : Nat) :
    (∀ {limit limit' : UInt32} {code code' : L.Code} {buffer buffer' : L.Buffer} {s : Bounded σ}
        {t : Bounded τ},
      L.Poised S pattern flags subject start limit code buffer s.state →
      L.Poised T pattern flags subject start limit' code' buffer' t.state → limit ≤ limit' →
      Confirms ((L.contextual S).ran code subject start limit buffer s)
        ((L.contextual T).ran code' subject start limit' buffer' t)) ∧
    (∀ {limit : UInt32} {code : L.Code} {buffer : L.Buffer} {s : Bounded σ},
      L.Poised S pattern flags subject start limit code buffer s.state →
      (((L.contextual S).ran code subject start limit buffer s).1 = .depthLimitExceeded ↔
        M.Comes pattern (effective flags) subject start limit none)) ∧
    (∀ {b : Bench (L.contextual S)} {a : Bench (L.contextual T)} {p : Prepared (L.contextual S)}
        {q : Prepared (L.contextual T)},
      L.Awaits S pattern flags subject start b p → L.Awaits T pattern flags subject start a q →
      b.matcher.depthLimit ≤ a.matcher.depthLimit →
      ∀ o : Operation, o.search? = some (subject, start) → Bench.Repeats o b a) ∧
    (∀ {b : Bench (L.contextual S)} {p : Prepared (L.contextual S)},
      L.Awaits S pattern flags subject start b p → start ≤ subject.size →
      ∀ o : Operation, o.search? = some (subject, start) →
        ((∃ r, b.reply o = .ok r ∧ r.verdict? = some .depthLimitExceeded) ↔
          M.Comes pattern (effective flags) subject start b.matcher.depthLimit none)) := by
  refine ⟨?confirms, ?exceeded, ?repeats, ?givenUp⟩
  case confirms =>
    intro limit limit' code code' buffer buffer' s t h h' hl
    rw [ran_contextual, ran_contextual]
    exact hL.confirms h h' hl
  case exceeded =>
    intro limit code buffer s h
    rw [ran_contextual]
    exact hL.exceeded_iff h
  case repeats =>
    intro b a p q hb ha hl o ho
    exact hL.repeats hb ha hl ho
  case givenUp =>
    intro b p hb inside o ho
    exact hL.reply_exceeded_iff hb inside ho

end Library

end BoundedRegex
