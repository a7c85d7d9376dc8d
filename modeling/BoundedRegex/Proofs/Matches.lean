import BoundedRegex.Proofs.Compliance
import BoundedRegex.Proofs.Searches

/-!
# What matches leave

Right after a match, the engine tells two offsets for each group from the buffer of the matcher. What a
search reports is a matter of these offsets, so they are all that is said here about a match: whether
there is one, how many pairs the engine counts as set, and the offsets themselves.

An engine is orderly if its offsets come in pairs, and sized if there is one pair for the whole match and
one for each group. It has to be so only for codes that the engine has compiled and for buffers that it
has made for them. A matcher holds nothing else, from one operation to the next.
-/
namespace BoundedRegex

variable {σ : Type} {E : Engine σ}

/-! ## Matchers from one operation to the next -/

namespace Bench

/-- Whatever operations keep is kept by a run of them. -/
theorem Kept.after {I : Bench E → Prop} (h : Kept I) {b : Bench E} (hb : I b) (ops : List Operation) :
    I (b.after ops) := by
  induction ops generalizing b with
  | nil => exact hb
  | cons o rest ih => exact ih (h.perform o b hb)

theorem sound_cleared (b : Bench E) : b.cleared.matcher.Sound := by
  intro p hp
  rw [cleared_prepared] at hp
  cases hp

/-- A search that is not aborted leaves the matcher with the buffer that it has used. -/
theorem search_matcher (subject : ByteArray) (start : Nat) (b : Bench E) :
    ((search subject start : Work E _).run b).2 = b ∨
      ∃ p, b.matcher.prepared = some p ∧ start ≤ subject.size ∧
        ((search subject start : Work E _).run b).2.matcher =
          { b.matcher with
            prepared := some { p with
              buffer :=
                (E.execute p.code subject start b.matcher.depthLimit p.buffer b.state).2.1 } } := by
  rw [run_search]
  by_cases hs : subject.size < start
  · rw [if_pos hs]
    exact .inl rfl
  rw [if_neg hs]
  cases hp : b.matcher.prepared with
  | none => exact .inl rfl
  | some p =>
    refine .inr ⟨p, rfl, Nat.not_lt.mp hs, ?_⟩
    dsimp only
    rcases E.execute p.code subject start b.matcher.depthLimit p.buffer b.state with
      ⟨_ | _ | _ | code, buffer, s⟩
    · rfl
    · rfl
    · rfl
    · dsimp only
      split <;> rfl

theorem sound_search {b : Bench E} (h : b.matcher.Sound) (subject : ByteArray) (start : Nat) :
    ((search subject start : Work E _).run b).2.matcher.Sound := by
  rcases search_matcher subject start b with same | ⟨p, hp, hs, left⟩
  · rwa [same]
  · obtain ⟨compiled, serves⟩ := h p hp
    intro q hq
    rw [left] at hq
    cases hq
    exact ⟨compiled, .used subject start b.matcher.depthLimit b.state hs serves⟩

theorem sound_prepare (pattern : String) (flags : Flags) (b : Bench E) :
    ((prepare pattern flags : Work E _).run b).2.matcher.Sound := by
  rw [run_prepare]
  rcases hc : E.compile pattern flags b.cleared.state with ⟨failure | code, s⟩
  · exact sound_cleared b
  · dsimp only
    rcases hm : E.makeBuffer code s with ⟨_ | buffer, t⟩
    · exact sound_cleared b
    · intro p hp
      cases hp
      have compiled : E.Compiles pattern flags code := ⟨b.cleared.state, by rw [hc]⟩
      have made : (E.makeBuffer code s).1 = some buffer := by rw [hm]
      exact ⟨compiled, .new made⟩

/-- A matcher never holds anything but a code that has been compiled, with a buffer for it. -/
theorem sound_kept : Kept fun b : Bench E => b.matcher.Sound where
  search subject start b h := sound_search h subject start
  vectors _ _ _ h := h
  clear := by
    intro b _
    rw [run_clear]
    exact sound_cleared b
  prepare pattern flags b _ := sound_prepare pattern flags b
  groupCount := keeps_groupCount fun _ _ h => h
  groupNumber? := keeps_groupNumber? (fun _ _ h => h) fun _ _ _ h => h

end Bench

/-! ## The offsets of a match -/

namespace Bench

/-- What a search leaves if it finds a match: how many pairs of offsets the engine counts as set, and all
offsets that it tells. -/
def left? (b : Bench E) (subject : ByteArray) (start : Nat) : Option (Nat × List UInt64) :=
  if subject.size < start then none
  else
    match b.matcher.prepared with
    | none => none
    | some p =>
      match E.execute p.code subject start b.matcher.depthLimit p.buffer b.state with
      | (.matched pairs, buffer, s) => some (pairs, (E.output buffer s).1)
      | _ => none

section
variable {b : Bench E} {subject : ByteArray} {start : Nat}

/-- Something is left only by a match of the prepared pattern. -/
theorem matched_of_left {m : Nat × List UInt64} (h : b.left? subject start = some m) :
    ∃ p buffer s, b.matcher.prepared = some p ∧ start ≤ subject.size ∧
      E.execute p.code subject start b.matcher.depthLimit p.buffer b.state = (.matched m.1, buffer, s) ∧
      (E.output buffer s).1 = m.2 := by
  rw [left?] at h
  by_cases hs : subject.size < start
  · rw [if_pos hs] at h
    cases h
  rw [if_neg hs] at h
  cases hp : b.matcher.prepared with
  | none =>
    rw [hp] at h
    cases h
  | some p =>
    rw [hp] at h
    dsimp only at h
    split at h
    next pairs buffer s hx =>
      cases h
      exact ⟨p, buffer, s, rfl, Nat.not_lt.mp hs, hx, rfl⟩
    next => cases h

/-- A search finds what is left. -/
theorem search_found_iff {g : Groups} :
    ((search subject start : Work E _).run b).1 = .ok (.found g) ↔
      g.unset = E.unset ∧ ∃ pairs, b.left? subject start = some (pairs, g.offsets) := by
  rw [run_search, left?]
  by_cases hs : subject.size < start
  · simp only [if_pos hs, reduceCtorEq, exists_false, and_false]
  simp only [if_neg hs]
  cases hp : b.matcher.prepared with
  | none => simp only [reduceCtorEq, exists_false, and_false]
  | some p =>
    dsimp only
    obtain ⟨unset, offsets⟩ := g
    rcases E.execute p.code subject start b.matcher.depthLimit p.buffer b.state with
      ⟨_ | _ | _ | code, buffer, s⟩
    · constructor
      · intro h
        cases h
        exact ⟨rfl, _, rfl⟩
      · rintro ⟨rfl, pairs, h⟩
        cases h
        rfl
    · simp only [Except.ok.injEq, reduceCtorEq, exists_false, and_false]
    · simp only [Except.ok.injEq, reduceCtorEq, exists_false, and_false]
    · dsimp only
      split <;> simp only [Except.ok.injEq, reduceCtorEq, exists_false, and_false]

theorem search_of_left {m : Nat × List UInt64} (h : b.left? subject start = some m) :
    ((search subject start : Work E _).run b).1 = .ok (.found ⟨E.unset, m.2⟩) :=
  search_found_iff.mpr ⟨rfl, m.1, h⟩

/-- An aborted search leaves everything as it was. -/
theorem search_aborted {a : Abort} {b' : Bench E}
    (h : (search subject start : Work E _).run b = (.error a, b')) : b' = b := by
  by_cases hs : subject.size < start
  · rw [run_search, if_pos hs] at h
    cases h
    rfl
  cases hp : b.matcher.prepared with
  | none =>
    rw [run_search, if_neg hs, hp] at h
    cases h
    rfl
  | some p =>
    obtain ⟨o, answered⟩ := search_answers hp (Nat.not_lt.mp hs)
    rw [h] at answered
    cases answered

/-- A match is reported only where one is left. -/
theorem left_of_reply {o : Operation} (ho : o.search? = some (subject, start)) {r : Reply}
    (hr : b.reply o = .ok r) (hv : r.verdict? = some (.found ())) :
    ∃ m, b.left? subject start = some m := by
  rcases hs : (search subject start : Work E _).run b with ⟨a | one, b'⟩
  · -- A search is aborted before it has done anything, and so is the whole operation.
    rw [search_aborted hs] at hs
    rw [reply, perform_aborted ho hs] at hr
    cases hr
  · have found : ((search subject start : Work E _).run b).1 = .ok one := by rw [hs]
    obtain ⟨g, rfl⟩ := found_of_verdict found ho hr hv
    obtain ⟨-, pairs, left⟩ := search_found_iff.mp found
    exact ⟨_, left⟩

/-- The spans of a match are those of all pairs of offsets. -/
theorem reply_captures_iff
    (paired : ∀ m, b.left? subject start = some m → (⟨E.unset, m.2⟩ : Groups).Paired)
    {spans : List Span} :
    b.reply (.captures subject start) = .ok (.spans (.found ()) spans) ↔
      ∃ m, b.left? subject start = some m ∧ spans = (inPairs m.2).map (Group.spanOf E.unset) := by
  constructor
  · intro hr
    obtain ⟨m, left⟩ := left_of_reply rfl hr rfl
    exact ⟨m, left, spans_of_found (search_of_left left) (paired m left) hr⟩
  · rintro ⟨m, left, rfl⟩
    obtain ⟨captured, vector⟩ := captures_found (search_of_left left) (paired m left)
    rw [reply_captures, captured, vector]
    rfl

theorem reply_capturesBytes_iff
    (paired : ∀ m, b.left? subject start = some m → (⟨E.unset, m.2⟩ : Groups).Paired)
    {views : List ByteArray} :
    b.reply (.capturesBytes subject start) = .ok (.views (.found ()) views) ↔
      ∃ m, b.left? subject start = some m ∧
        (∀ p ∈ inPairs m.2, ¬Group.Outside E.unset p subject) ∧
        views = (inPairs m.2).map (Group.bytesOf E.unset · subject) := by
  constructor
  · intro hr
    obtain ⟨m, left⟩ := left_of_reply rfl hr rfl
    obtain ⟨inside, views⟩ := views_of_found (search_of_left left) (paired m left) hr
    exact ⟨m, left, inside, views⟩
  · rintro ⟨m, left, inside, rfl⟩
    have captured := capturesBytes_found (search_of_left left) (paired m left)
    have none : ¬∃ p ∈ (⟨E.unset, m.2⟩ : Groups).pairs, Group.Outside E.unset p subject := by
      rintro ⟨p, hp, outside⟩
      exact inside p hp outside
    rw [if_neg none] at captured
    rw [reply_capturesBytes, captured.1, captured.2]
    rfl

end

end Bench

/-- The two offsets of a group stand in the places of its number. -/
theorem getElem?_inPairs (offsets : List UInt64) (i : Nat) :
    (inPairs offsets)[i]? =
      offsets[2 * i]?.bind fun start => offsets[2 * i + 1]?.map fun stop => (start, stop) := by
  induction i generalizing offsets with
  | zero =>
    rcases offsets with _ | ⟨start, _ | ⟨stop, rest⟩⟩
    · rfl
    · rfl
    · rfl
  | succ i ih =>
    rcases offsets with _ | ⟨start, _ | ⟨stop, rest⟩⟩
    · rfl
    · rfl
    · exact ih rest

/-- Where there are offsets for all groups, each number up to that of the last group has its pair. -/
theorem pair_of_length {offsets : List UInt64} {count i : Nat}
    (length : offsets.length = 2 * (count + 1)) (hi : i ≤ count) :
    ∃ lo hi, offsets[2 * i]? = some lo ∧ offsets[2 * i + 1]? = some hi ∧
      (inPairs offsets)[i]? = some (lo, hi) := by
  have first : 2 * i < offsets.length := by omega
  have second : 2 * i + 1 < offsets.length := by omega
  refine ⟨offsets[2 * i], offsets[2 * i + 1], List.getElem?_eq_getElem first,
    List.getElem?_eq_getElem second, ?_⟩
  rw [getElem?_inPairs, List.getElem?_eq_getElem first, List.getElem?_eq_getElem second]
  rfl

/-! ## Engines with well-formed offsets -/

namespace Engine

/-- Each match leaves offsets in pairs, at least one. -/
structure Orderly (E : Engine σ) : Prop where
  paired : ∀ {pattern flags c b}, E.Compiles pattern flags c → E.Serves c b →
    ∀ {subject : ByteArray} {start}, start ≤ subject.size → ∀ limit s {pairs buffer t},
    E.execute c subject start limit b s = (.matched pairs, buffer, t) →
    (⟨E.unset, (E.output buffer t).1⟩ : Groups).Paired

/-- The number of groups is a matter of the code, and each match leaves a pair of offsets for each of
them, after the pair of the whole match. -/
structure Sized (E : Engine σ) : Prop where
  groupCount : ∀ {pattern flags c}, E.Compiles pattern flags c →
    ∀ s t, (E.groupCount c s).1 = (E.groupCount c t).1
  length_output : ∀ {pattern flags c b}, E.Compiles pattern flags c → E.Serves c b →
    ∀ {subject : ByteArray} {start}, start ≤ subject.size → ∀ limit s {pairs buffer t},
    E.execute c subject start limit b s = (.matched pairs, buffer, t) →
    (E.output buffer t).1.length = 2 * ((E.groupCount c s).1 + 1)

theorem Sized.orderly (hE : E.Sized) : E.Orderly where
  paired := by
    intro pattern flags c b hc hb subject start hs limit s pairs buffer t hx
    have length := hE.length_output hc hb hs limit s hx
    constructor
    · dsimp only
      omega
    · dsimp only
      omega

end Engine

namespace Bench

variable {b : Bench E} {subject : ByteArray} {start : Nat} {m : Nat × List UInt64}

theorem paired_of_left (hE : E.Orderly) (hb : b.matcher.Sound)
    (h : b.left? subject start = some m) : (⟨E.unset, m.2⟩ : Groups).Paired := by
  obtain ⟨p, buffer, s, hp, hs, hx, hm⟩ := matched_of_left h
  obtain ⟨compiled, serves⟩ := hb p hp
  rw [← hm]
  exact hE.paired compiled serves hs b.matcher.depthLimit b.state hx

theorem length_of_left (hE : E.Sized) (hb : b.matcher.Sound) {p : Prepared E}
    (hp : b.matcher.prepared = some p) (h : b.left? subject start = some m) :
    m.2.length = 2 * ((E.groupCount p.code b.state).1 + 1) := by
  obtain ⟨q, buffer, s, hq, hs, hx, hm⟩ := matched_of_left h
  obtain rfl : p = q := Option.some.inj (hp.symm.trans hq)
  obtain ⟨compiled, serves⟩ := hb p hp
  rw [← hm]
  exact hE.length_output compiled serves hs b.matcher.depthLimit b.state hx

end Bench

/-! ## Scripted engines -/

/-- A match of a code has offsets for all its groups. -/
def ScriptedCode.fits (c : ScriptedCode) : ScriptedRun → Bool
  | .matched offsets _ => offsets.length == 2 * (c.groups + 1)
  | _ => true

namespace Scenario

variable {scenario : Scenario} {unset : UInt64}

/-- The answers of a scripted search are among those of the code, and leave its offsets. -/
theorem run_of_matched {c : ScriptedCode} {subject : ByteArray} {start : Nat} {limit : UInt32}
    {b : ScriptedBuffer} {s : Unit} {pairs : Nat} {buffer : ScriptedBuffer} {t : Unit}
    (hx : (scenario.engine unset).execute c subject start limit b s = (.matched pairs, buffer, t)) :
    ∃ offsets set, .matched offsets set ∈ c.runs ∧ buffer.offsets = offsets.map (·.getD unset) := by
  simp only [engine] at hx
  cases hr : c.runs[b.searches % c.runs.length]? with
  | none =>
    rw [hr] at hx
    cases hx
  | some run =>
    have mem : run ∈ c.runs := List.mem_of_getElem? hr
    rw [hr] at hx
    cases run with
    | matched offsets set =>
      cases hx
      exact ⟨offsets, set, mem, rfl⟩
    | noMatch => cases hx
    | depthLimitExceeded => cases hx
    | failed code => cases hx

/-- A scenario is sized if all its matches have offsets for the groups of their codes. -/
theorem sized
    (h : ∀ pattern code, scenario.patterns.lookup pattern = some (.ok code) →
      ∀ run ∈ code.runs, code.fits run = true) : (scenario.engine unset).Sized where
  groupCount _ _ _ := rfl
  length_output := by
    intro pattern flags c b hc _ subject start _ limit s pairs buffer t hx
    obtain ⟨offsets, set, mem, left⟩ := run_of_matched hx
    have length := h pattern c (compiles_lookup hc) _ mem
    calc buffer.offsets.length = offsets.length := by rw [left, List.length_map]
      _ = 2 * (c.groups + 1) := beq_iff_eq.mp length

end Scenario

end BoundedRegex
