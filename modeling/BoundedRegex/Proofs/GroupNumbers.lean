import BoundedRegex.Proofs.Offsets

/-!
# Numbers of groups

Three answers of an engine have to fit together before the number of a group is of use: which number a
name has, how many groups there are, and how many offsets a match leaves. The first is not relied upon. A
number is told only if it lies between one and the number of groups, and if the offsets are as many as the
groups need, then it points into the vectors of every later match, at the pair of offsets with this number,
as long as the matcher keeps its pattern.

A library ends names at a zero character. A name that holds one is not looked up at all, so the part before
it finds no group.
-/
namespace BoundedRegex
open Memory

variable {σ : Type} {E : Engine σ}

/-- Whether an operation discards the pattern of a matcher. -/
def Operation.replaces : Operation → Bool
  | .prepare _ _ => true
  | .clear => true
  | _ => false

namespace Bench

/-! ## Keeping a pattern -/

/-- A matcher holds a pattern, with whatever buffer. -/
def Carries (p : Prepared E) (b : Bench E) : Prop :=
  ∃ buffer, b.matcher.prepared = some { p with buffer := buffer }

variable {b : Bench E} {p : Prepared E}

theorem carries_searches (p : Prepared E) : SearchKept (Carries p) where
  search := by
    intro subject start b h
    rcases search_matcher subject start b with same | ⟨q, hq, -, left⟩
    · rwa [same]
    · obtain ⟨buffer, hp⟩ := h
      cases hp.symm.trans hq
      exact ⟨_, congrArg Matcher.prepared left⟩
  vectors _ _ _ h := h

theorem carries_perform (h : b.Carries p) {o : Operation} (ho : o.replaces = false) :
    Carries p ((perform o : Work E Reply).run b).2 := by
  cases o with
  | prepare pattern flags => cases ho
  | clear => cases ho
  | inspect => exact h
  | describe spreadOut => exact h
  | groupCount =>
    rw [perform, run_reply]
    exact keeps_groupCount (fun _ _ h => h) b h
  | groupNumber name =>
    rw [perform, run_reply]
    exact keeps_groupNumber? (fun _ _ h => h) (fun _ _ _ h => h) name b h
  | seed spans views => exact h
  | _ => exact (carries_searches p).perform rfl b h

theorem carries_after (h : b.Carries p) {ops : List Operation}
    (hops : ∀ o ∈ ops, o.replaces = false) : (b.after ops).Carries p := by
  induction ops generalizing b with
  | nil => exact h
  | cons o rest ih =>
    have first := carries_perform h (hops o List.mem_cons_self)
    exact ih first fun o ho => hops o (List.mem_cons_of_mem _ ho)

/-! ## What is told about groups -/

theorem reply_groupCount (hp : b.matcher.prepared = some p) :
    b.reply .groupCount = .ok (.number (E.groupCount p.code b.state).1) := by
  simp only [reply, perform, groupCount, run_bind, run_prepared, hp, run_ask]
  rfl

theorem reply_groupNumber (hp : b.matcher.prepared = some p) (name : String) :
    b.reply (.groupNumber name) =
      .ok (.maybeNumber ((E.groupNumber? p.code name b.state).1.filter fun n =>
        decide (1 ≤ n) &&
          decide (n ≤ (E.groupCount p.code (E.groupNumber? p.code name b.state).2).1))) := by
  simp only [reply, perform, groupNumber?, run_bind, run_prepared, hp, run_ask]
  rcases (E.groupNumber? p.code name b.state).1 with _ | n
  · rfl
  · by_cases hn : n = 0
    · subst hn
      rfl
    · have positive : 1 ≤ n := Nat.one_le_iff_ne_zero.mpr hn
      simp only [if_neg hn, run_bind, run_ask, Option.filter, positive, decide_true, Bool.true_and]
      by_cases hle : n ≤ (E.groupCount p.code (E.groupNumber? p.code name b.state).2).1
      · simp only [hle, run_pure, decide_true, if_true]
      · simp only [hle, run_pure, decide_false, Bool.false_eq_true, if_false]

/-- A name has a number if the engine says so and there is a group with this number. -/
theorem reply_groupNumber_iff (hp : b.matcher.prepared = some p) {count : Nat}
    (hcount : ∀ s, (E.groupCount p.code s).1 = count) (name : String) (i : Nat) :
    b.reply (.groupNumber name) = .ok (.maybeNumber (some i)) ↔
      (E.groupNumber? p.code name b.state).1 = some i ∧ 1 ≤ i ∧ i ≤ count := by
  rw [reply_groupNumber hp, hcount]
  simp only [Except.ok.injEq, Reply.maybeNumber.injEq, Option.filter_eq_some_iff, Bool.and_eq_true,
    decide_eq_true_eq]

/-! ## Places in vectors -/

/-- A number leads into the vectors of a match: there is one place for the whole match and one for each
group, and what stands in the place of this number is decoded from the pair of offsets with this number. -/
structure Refers (b : Bench E) (count i : Nat) (subject : ByteArray) (start : Nat) : Prop where
  spans : ∀ spans, b.reply (.captures subject start) = .ok (.spans (.found ()) spans) →
    spans.length = count + 1 ∧ i < spans.length ∧
    ∃ pairs offsets lo hi span, b.left? subject start = some (pairs, offsets) ∧
      offsets[2 * i]? = some lo ∧ offsets[2 * i + 1]? = some hi ∧
      spans[i]? = some span ∧ (Group.ofOffsets E.unset lo hi).span = .ok span
  views : ∀ views, b.reply (.capturesBytes subject start) = .ok (.views (.found ()) views) →
    views.length = count + 1 ∧ i < views.length ∧
    ∃ pairs offsets lo hi view, b.left? subject start = some (pairs, offsets) ∧
      offsets[2 * i]? = some lo ∧ offsets[2 * i + 1]? = some hi ∧
      views[i]? = some view ∧ (Group.ofOffsets E.unset lo hi).bytes subject = .ok view

theorem refers_of_sized (hE : E.Sized) (hb : b.matcher.Sound) (hp : b.matcher.prepared = some p)
    {count i : Nat} (hcount : (E.groupCount p.code b.state).1 = count) (hi : i ≤ count)
    (subject : ByteArray) (start : Nat) : b.Refers count i subject start := by
  have paired {m : Nat × List UInt64} (left : b.left? subject start = some m) :=
    paired_of_left hE.orderly hb left
  have length {m : Nat × List UInt64} (left : b.left? subject start = some m) :
      m.2.length = 2 * (count + 1) := by
    rw [length_of_left hE hb hp left, hcount]
  constructor
  case spans =>
    intro spans hr
    obtain ⟨m, left, rfl⟩ := (reply_captures_iff fun _ => paired).mp hr
    obtain ⟨lo, hi, hlo, hhi, pair⟩ := pair_of_length (length left) hi
    have places : ((inPairs m.2).map (Group.spanOf E.unset)).length = count + 1 := by
      rw [List.length_map, length_inPairs, length left]
      omega
    refine ⟨places, by omega, m.1, m.2, lo, hi, Group.spanOf E.unset (lo, hi), left, hlo, hhi, ?_, ?_⟩
    · rw [List.getElem?_map, pair]
      rfl
    · exact Group.span_ofOffsets E.unset (lo, hi)
  case views =>
    intro views hr
    obtain ⟨m, left, inside, rfl⟩ := (reply_capturesBytes_iff fun _ => paired).mp hr
    obtain ⟨lo, hi, hlo, hhi, pair⟩ := pair_of_length (length left) hi
    have places : ((inPairs m.2).map (Group.bytesOf E.unset · subject)).length = count + 1 := by
      rw [List.length_map, length_inPairs, length left]
      omega
    have inside : ¬Group.Outside E.unset (lo, hi) subject :=
      inside (lo, hi) (List.mem_of_getElem? pair)
    refine ⟨places, by omega, m.1, m.2, lo, hi, Group.bytesOf E.unset (lo, hi) subject, left, hlo, hhi,
      ?_, ?_⟩
    · rw [List.getElem?_map, pair]
      rfl
    · exact (Group.bytes_ofOffsets subject E.unset (lo, hi)).trans (if_neg inside)

/-- What the number that a matcher tells for a name is good for. -/
structure Numbers (b : Bench E) (p : Prepared E) (name : String) (count : Nat) : Prop where
  counted : b.reply .groupCount = .ok (.number count)
  answered : ∃ answer, b.reply (.groupNumber name) = .ok (.maybeNumber answer)
  number_iff : ∀ i, b.reply (.groupNumber name) = .ok (.maybeNumber (some i)) ↔
    (E.groupNumber? p.code name b.state).1 = some i ∧ 1 ≤ i ∧ i ≤ count
  /-- It leads into the vectors of every match until the pattern is discarded. -/
  refers : ∀ i, b.reply (.groupNumber name) = .ok (.maybeNumber (some i)) →
    ∀ ops : List Operation, (∀ o ∈ ops, o.replaces = false) →
    (b.after (.groupNumber name :: ops)).reply .groupCount = .ok (.number count) ∧
    ∀ subject start, (b.after (.groupNumber name :: ops)).Refers count i subject start

theorem numbers_of_sized (hE : E.Sized) (hb : b.matcher.Sound) (hp : b.matcher.prepared = some p)
    (name : String) : b.Numbers p name (E.groupCount p.code b.state).1 := by
  obtain ⟨compiled, -⟩ := hb p hp
  have count (s : σ) : (E.groupCount p.code s).1 = (E.groupCount p.code b.state).1 :=
    hE.groupCount compiled s b.state
  constructor
  case counted => exact reply_groupCount hp
  case answered => exact ⟨_, reply_groupNumber hp name⟩
  case number_iff => exact reply_groupNumber_iff hp count name
  case refers =>
    intro i hr ops hops
    obtain ⟨-, -, hi⟩ := (reply_groupNumber_iff hp count name i).mp hr
    have carries : b.Carries p := ⟨p.buffer, hp⟩
    have later : (b.after (.groupNumber name :: ops)).Carries p := by
      apply carries_after carries
      intro o ho
      rcases List.mem_cons.mp ho with rfl | ho
      · rfl
      · exact hops o ho
    have sound : (b.after (.groupNumber name :: ops)).matcher.Sound := sound_kept.after hb _
    obtain ⟨buffer, held⟩ := later
    refine ⟨?_, refers_of_sized hE sound held (count _) hi⟩
    rw [reply_groupCount held, count]

end Bench

/-! ## Names in libraries -/

namespace Library

theorem groupNumber?_eq_some_iff (L : Library) (code : L.Code) (name : String) (i : Nat) :
    L.groupNumber? code name = some i ↔
      Char.ofNat 0 ∉ name.toList ∧ L.groupNumber code name = i := by
  have zero : name.toList.any (·.toNat == 0) = true ↔ Char.ofNat 0 ∈ name.toList := by
    rw [List.any_eq_true]
    constructor
    · rintro ⟨c, hc, h⟩
      have : c = Char.ofNat 0 := by
        rw [← Char.ofNat_toNat c, beq_iff_eq.mp h]
      rwa [← this]
    · intro h
      exact ⟨_, h, rfl⟩
  rw [groupNumber?]
  by_cases h : name.toList.any (·.toNat == 0) = true
  · rw [if_pos h]
    simp only [reduceCtorEq, zero.mp h, not_true_eq_false, false_and]
  · rw [if_neg h]
    simp only [mt zero.mpr h, not_false_eq_true, true_and]
    by_cases negative : L.groupNumber code name < 0
    · rw [if_pos negative]
      constructor
      · intro h
        cases h
      · intro h
        omega
    · rw [if_neg negative, Option.some.injEq]
      omega

/-- How an engine over a library looks up a name. A negative status stands for a name that no group has,
or several. -/
structure LooksUp {τ : Type} (L : Library) {S : Source τ} (a : Bench (L.engine S))
    (q : Prepared (L.engine S)) (name : String) : Prop where
  number_iff : ∀ i, a.reply (.groupNumber name) = .ok (.maybeNumber (some i)) ↔
    Char.ofNat 0 ∉ name.toList ∧ L.groupNumber q.code name = i ∧ 1 ≤ i ∧ i ≤ L.groupCount q.code
  /-- It makes no difference whether a group has the part of the name before the zero character. -/
  terminated : Char.ofNat 0 ∈ name.toList → a.reply (.groupNumber name) = .ok (.maybeNumber none)

theorem looksUp {τ : Type} (L : Library) {S : Source τ} {a : Bench (L.engine S)}
    {q : Prepared (L.engine S)} (hq : a.matcher.prepared = some q) (name : String) :
    L.LooksUp a q name := by
  have number_iff (i : Nat) : a.reply (.groupNumber name) = .ok (.maybeNumber (some i)) ↔
      Char.ofNat 0 ∉ name.toList ∧ L.groupNumber q.code name = i ∧ 1 ≤ i ∧ i ≤ L.groupCount q.code := by
    have named := L.groupNumber?_eq_some_iff q.code name i
    have counted (s : τ) : ((L.engine S).groupCount q.code s).1 = L.groupCount q.code := rfl
    have told := Bench.reply_groupNumber_iff hq counted name i
    exact told.trans ((and_congr_left' named).trans and_assoc)
  constructor
  case number_iff => exact number_iff
  case terminated =>
    intro zero
    have answer := Bench.reply_groupNumber hq name
    rw [answer]
    congr 2
    rw [Option.eq_none_iff_forall_ne_some]
    intro i hi
    rw [hi] at answer
    exact ((number_iff i).mp answer).1 zero

end Library

/-! ## A pattern with a named group -/

namespace Backtracking
open Program

/-- What is read of a pattern with one named group for one letter. -/
def namedText : Pattern.Parsed where
  settings := {}
  body := .seq (.group (.capture 1) (.seq (.literal 97 none) .empty)) .empty
  groups := 1
  names := [⟨['x'], 1⟩]
  sharedNumbers := false

def lettered : Program.Code :=
  .branch 0 (.group (.capture 1) .always .no (.branch 0 (.one (.literal 97 false []) .done) .done) .done)
    .done

/-- What is made of it. -/
def named : Program where
  settings := {}
  code := lettered
  groups := 1
  bodies := #[lettered, .branch 0 (.one (.literal 97 false []) .done) .done]
  names := [⟨['x'], 1⟩]
  hints := { first := some { byte := 97, other := 97 }, minLength := 1 }
  lookback := 0
  changesBranch := false
  writesNewline := false

theorem lowerPattern_namedText :
    lowerPattern namedText = ⟨⟨lettered, .known 97 false false, .undecided, false⟩, {}⟩ := by
  simp only [namedText, lowerPattern, lowerBranches, lowerBranch, lowerItem]
  rfl

theorem hints_lettered :
    StartHints.of {} ⟨⟨lettered, .known 97 false false, .undecided, false⟩, {}⟩ = named.hints := by
  have shortest : shortestMatch false lettered = 1 := by
    simp only [lettered, shortestMatch, shortestBody, shortestOf, shortestBranch]
    rfl
  simp only [StartHints.of, shortest]
  rfl

theorem draft_named : Program.draft "(?<x>a)".toUTF8 {} {} = .ok ⟨named, none⟩ := by
  have parse : Pattern.parse "(?<x>a)".toUTF8 {} {} = .ok namedText := by with_unfolding_all rfl
  have size : "(?<x>a)".toUTF8.size = 7 := rfl
  have check : namedText.check 7 = .ok ⟨0, none⟩ := by
    simp only [namedText, Pattern.Parsed.check, Pattern.furthestStepBack, Pattern.checkLookbehinds]
    rfl
  simp only [Program.draft, parse, bind, Except.bind, size, check, lowerPattern_namedText]
  rw [show namedText.settings = {} from rfl, hints_lettered]
  rfl

/-- A matcher that has just been prepared with it. -/
def readyNamed : Bench (engine .system) :=
  (Bench.built _ {} 5 {} {} [] []).after [.prepare "(?<x>a)" .empty]

def preparedNamed : Prepared (engine .system) :=
  ⟨"(?<x>a)", .empty, ⟨named, 32⟩, { block := ⟨240, 128⟩, offsets := List.replicate 4 unset }⟩

theorem prepared_readyNamed : readyNamed.matcher.prepared = some preparedNamed := by
  have drafted : Program.draft "(?<x>a)".toUTF8 (settingsOf (effective .empty))
      (optionsOf (effective .empty)) = .ok ⟨named, none⟩ := draft_named
  have compiled : (engine .system).compile "(?<x>a)" .empty ({} : Memory) =
      (.ok ⟨named, 32⟩, (Memory.allocate .system 192 {}).2) := by
    simp only [engine, Library.engine, library, compile, drafted]
    rfl
  simp only [readyNamed, Bench.after, List.foldl_cons, List.foldl_nil, Bench.perform, Bench.run_reply,
    Bench.run_prepare, Bench.cleared, Bench.built, MatcherBuilder.build, compiled]
  rfl

end Backtracking

/-! ## Numbers that matchers tell -/

namespace Bench

/-- The number of a group that a matcher tells is safe to use until the pattern is discarded, whatever
number its engine has for the name; and libraries look up whole names only. -/
theorem groupNumber_safe (hE : E.Sized) {b : Bench E} (hb : b.matcher.Sound) {p : Prepared E}
    (hp : b.matcher.prepared = some p) (name : String) :
    (∃ count, b.Numbers p name count) ∧
      ∀ (τ : Type) (L : Library) (S : Source τ) (a : Bench (L.engine S)) (q : Prepared (L.engine S)),
        a.matcher.prepared = some q → L.LooksUp a q name :=
  ⟨⟨_, numbers_of_sized hE hb hp name⟩, fun _ L _ _ _ hq => L.looksUp hq name⟩

/-- An engine that has numbers for names which no group has, and the backtracking one with a pattern that
has a group named by one letter. -/
theorem groupNumber_safe_scripted :
    let names := [("x", 2), ("whole", 0), ("past", 3), ("far", 0xFFFFFFFFFFFFFFFF)]
    let code : ScriptedCode :=
      { groups := 2, names := names
        runs := [.matched [some 0, some 2, some 0, some 1, none, none] none, .noMatch] }
    let E := Scenario.engine { patterns := [("a", .ok code)] } 7
    let p : Prepared E := ⟨"a", .empty, code, {}⟩
    let b : Bench E := { matcher := { prepared := some p, depthLimit := 5 }, state := () }
    let B := Backtracking.engine .system
    let a : Bench B := Backtracking.readyNamed
    let q : Prepared B := Backtracking.preparedNamed
    E.Sized ∧ b.matcher.Sound ∧ b.matcher.prepared = some p ∧
      (∃ count, b.Numbers p "x" count) ∧
      names.map (fun n => b.reply (.groupNumber n.1)) =
        [some 2, none, none, none].map (fun n => .ok (Reply.maybeNumber n)) ∧
      B.Sized ∧ a.matcher.Sound ∧ a.matcher.prepared = some q ∧
      (∃ count, a.Numbers q "x" count) ∧
      a.reply (.groupNumber "x") = .ok (.maybeNumber (some 1)) ∧
      a.reply (.groupNumber "x\u0000y") = .ok (.maybeNumber none) := by
  intro names code E p b B a q
  have hE : E.Sized := by
    apply Scenario.sized
    intro pattern c hl
    simp only [List.lookup_cons, List.lookup_nil] at hl
    split at hl
    · cases hl
      decide
    · cases hl
  have hb : b.matcher.Sound := by
    rintro _ ⟨⟩
    exact ⟨⟨(), rfl⟩, .new (s := ()) rfl⟩
  have hB : B.Sized := Backtracking.measured.sized
  have ha : a.matcher.Sound := by
    apply sound_kept.after
    intro p prepared
    cases prepared
  have hq : a.matcher.prepared = some q := Backtracking.prepared_readyNamed
  have safe (name : String) := groupNumber_safe hB ha hq name
  have looksUp (name : String) := (safe name).2 _ Backtracking.library _ a q hq
  have number : Backtracking.library.groupNumber q.code "x" = 1 := by
    decide +kernel
  have named : a.reply (.groupNumber "x") = .ok (.maybeNumber (some 1)) :=
    ((looksUp "x").number_iff 1).mpr ⟨by decide, number, by decide, by decide⟩
  exact ⟨hE, hb, rfl, (groupNumber_safe hE hb rfl "x").1, rfl, hB, ha, hq, (safe "x").1, named,
    (looksUp "x\u0000y").terminated (by decide)⟩

end Bench

end BoundedRegex
