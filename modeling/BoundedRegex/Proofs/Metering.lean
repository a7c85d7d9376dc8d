import BoundedRegex.Proofs.Charges
import BoundedRegex.Proofs.Oblivious
import BoundedRegex.Proofs.Offsets

/-!
# The meter of the backtracking library

What the backtracking library searches with is a program and a buffer. The buffer brings along the block for
entries that earlier searches have left, but all such blocks come to the same room. So a search comes to what its
program comes to, and the library is metered.
-/
namespace BoundedRegex.Backtracking
open Memory Search

/-! ## Buffers -/

/-- The entries of a buffer lie in a block that has grown from the first one. -/
def Buffer.Grown (p : Program) (b : Buffer) : Prop := Search.Grown p (b.frames.map (·.size))

theorem grown_frameBlocks {p : Program} {b : Buffer} (hb : b.Grown p) {depth size : Nat}
    (h : size ∈ frameBlocks p b.frames depth) : Search.Grown p (some size) := by
  rintro _ ⟨⟩
  unfold frameBlocks at h
  cases hf : b.frames with
  | some f =>
    rw [hf] at h
    obtain ⟨first, hfirst, follows⟩ := hb f.size (by rw [hf]; rfl)
    exact ⟨first, hfirst, follows.trans (follows_of_mem h)⟩
  | none =>
    rw [hf] at h
    cases hfirst : firstBlock? p.heapLimit p.groups with
    | none =>
      simp only [hfirst] at h
      cases h
    | some first =>
      simp only [hfirst] at h
      refine ⟨first, rfl, ?_⟩
      cases h with
      | head => exact .refl
      | tail _ later => exact follows_of_mem later

theorem replaceFrames_grown {p : Program} {sizes : List Nat}
    (hs : ∀ size ∈ sizes, Search.Grown p (some size)) {b : Buffer} (hb : b.Grown p) :
    (replaceFrames sizes b).Yields fun result => result.2.Grown p := by
  induction sizes generalizing b with
  | nil => exact .pure hb
  | cons size rest ih =>
    refine (Dialog.Yields.any (Dialog.request size)).bind ?_
    rintro (_ | address) -
    · exact .pure hb
    · refine (Dialog.Yields.any _).bind fun _ _ => ?_
      exact ih (fun size' later => hs size' (List.mem_cons_of_mem size later)) (hs size (List.mem_cons_self ..))

theorem conclude_frames (v : Verdict) (b : Buffer) : (conclude v b).2.frames = b.frames := by
  cases v <;> rfl

theorem search_grown {c : Code} {b : Buffer} (hb : b.Grown c.program) (subject : ByteArray) (start : Nat)
    (limit : UInt32) : (search c subject start limit b).Yields fun result => result.2.Grown c.program := by
  unfold search
  have concluded {b : Buffer} (hb : b.Grown c.program) (v : Verdict) :
      (conclude v b).2.Grown c.program := by
    rw [Buffer.Grown, conclude_frames]
    exact hb
  dsimp only
  split
  · exact .pure (concluded hb _)
  · refine (replaceFrames_grown (fun size => grown_frameBlocks hb) hb).bind ?_
    rintro ⟨_ | _, b'⟩ hb'
    · exact .pure hb'
    · exact .pure (concluded hb' _)

theorem makeBuffer_grown (c : Code) :
    (makeBuffer c).Yields fun made => ∀ b, made = some b → b.Grown c.program := by
  refine (Dialog.Yields.any (Dialog.request (bufferSize c.program))).bind ?_
  rintro (_ | address) -
  · exact .pure nofun
  · refine .pure ?_
    rintro b ⟨⟩
    exact nofun

theorem grown_of_serves {c : library.Code} {b : library.Buffer} (h : library.Serves c b) :
    Buffer.Grown (Code.program c) b := by
  induction h with
  | @new σ S s buffer made => exact makeBuffer_grown c σ S s buffer made
  | used S s subject start limit _ ih => exact search_grown ih subject start limit _ S s

/-- All blocks have been made if no request is refused. -/
theorem replaceFrames_unrefused {σ : Type} (S : Source σ) {sizes : List Nat} {b : Buffer} {s : σ}
    (h : (replaceFrames sizes b).refused S s = false) : ((replaceFrames sizes b).run S s).1.1 = true := by
  induction sizes generalizing b s with
  | nil => rfl
  | cons size rest ih =>
    rw [replaceFrames, Dialog.refused_bind, Bool.or_eq_false_iff, Dialog.refused_request,
      Dialog.run_request] at h
    rw [replaceFrames, Dialog.run_bind, Dialog.run_request]
    obtain ⟨served, later⟩ := h
    cases made : (S.allocate size s).1 with
    | none =>
      rw [made] at served
      cases served
    | some address =>
      rw [made] at later
      exact ih later

/-! ## The meter -/

/-- The status and the offsets of a verdict. -/
def told : Verdict → Int × List UInt64
  | .found r => (pairsOf r, offsetsOf r)
  | .absent => (noMatchStatus, [])
  | .failed f => (f.code, [])

/-- What the searches of the backtracking library count. -/
def meter : Meter where
  State := Stage
  step s := s.step.map told
  start pattern flags subject start :=
    match Program.draft pattern.toUTF8 (settingsOf flags) (optionsOf flags) with
    | .ok draft => (pursue draft.program subject start).map told
    | .error _ => .ends (told .absent)
  own pattern flags :=
    match Program.draft pattern.toUTF8 (settingsOf flags) (optionsOf flags) with
    | .ok draft => draft.program.settings.matchLimit
    | .error _ => none

theorem told_status {v : Verdict} (h : v.Unstopped) : (told v).1 ≠ limitStatus := by
  cases v with
  | found r =>
    have positive : (0 : Int) ≤ pairsOf r := Int.natCast_nonneg _
    rw [told, limitStatus]
    dsimp only
    omega
  | absent => decide
  | failed f => exact h f rfl

theorem conclude_concludes (v : Verdict) (b : Buffer) :
    library.Concludes (v.decided?.map told) (conclude v b) := by
  cases v with
  | found r => exact ⟨rfl, fun _ => rfl⟩
  | absent => exact ⟨rfl, fun negative => absurd negative (by decide)⟩
  | failed f =>
    unfold Verdict.decided?
    split
    · rename_i stopped
      cases stopped
      rfl
    · exact ⟨rfl, fun negative => absurd (code_neg f) (Int.not_lt.mpr negative)⟩

theorem compile_program (pattern : String) (flags : Flags) :
    (compile pattern flags).Yields fun made => ∀ c, made = .ok c →
      ∃ draft, Program.draft pattern.toUTF8 (settingsOf flags) (optionsOf flags) = .ok draft ∧
        c.program = draft.program := by
  simp only [compile]
  cases Program.draft pattern.toUTF8 (settingsOf flags) (optionsOf flags) with
  | error fault =>
    refine .pure ?_
    rintro c ⟨⟩
  | ok draft =>
    refine (Dialog.Yields.any (Dialog.request (codeSize draft.program))).bind ?_
    rintro (_ | block) -
    · refine .pure ?_
      rintro c ⟨⟩
    · cases hl : draft.late with
      | some fault =>
        refine (Dialog.Yields.any (Dialog.release (some block))).bind fun _ _ => .pure ?_
        rintro c ⟨⟩
      | none =>
        refine .pure ?_
        rintro c ⟨⟩
        exact ⟨draft, rfl, rfl⟩

theorem meter_comes {pattern : String} {flags : Flags} {draft : Program.Draft}
    (hd : Program.draft pattern.toUTF8 (settingsOf flags) (optionsOf flags) = .ok draft) (subject : ByteArray)
    (start : Nat) (limit : UInt32) :
    meter.Comes pattern flags subject start limit
      ((draft.program.search subject start limit.toNat 0).verdict.decided?.map told) := by
  have comes := (comes_search draft.program subject start limit.toNat).map told
  simp only [Meter.Comes, meter, hd]
  exact comes

/-- What a search comes to does not depend on the buffer, if no request is refused. -/
theorem search_concludes {σ : Type} (S : Source σ) {c : Code} {b : Buffer} {s : σ} {subject : ByteArray}
    {start : Nat} {limit : UInt32} (hb : b.Grown c.program)
    (unrefused : (search c subject start limit b).refused S s = false) :
    library.Concludes ((c.program.search subject start limit.toNat 0).verdict.decided?.map told)
      ((search c subject start limit b).run S s).1 := by
  have grown := Search.search_grown c.program subject start limit.toNat hb
  simp only [search, grown] at unrefused ⊢
  generalize c.program.search subject start limit.toNat 0 = report at unrefused ⊢
  cases hd : report.deepest with
  | none => exact conclude_concludes report.verdict b
  | some depth =>
    rw [hd] at unrefused
    dsimp only at unrefused ⊢
    rw [Dialog.refused_bind, Bool.or_eq_false_iff] at unrefused
    rw [Dialog.run_bind]
    have made := replaceFrames_unrefused S unrefused.1
    generalize (replaceFrames (frameBlocks c.program b.frames depth) b).run S s = run at made ⊢
    obtain ⟨⟨served, b'⟩, s'⟩ := run
    have made : served = true := made
    subst made
    exact conclude_concludes report.verdict b'

/-- The backtracking library is metered. -/
theorem metered : library.Metered meter where
  start_ends := by
    intro pattern flags subject start status offsets ends
    simp only [meter] at ends
    split at ends
    · obtain ⟨v, ends, same⟩ := Progress.map_eq_ends ends
      have := told_status (unstopped_of_pursue ends)
      rwa [same] at this
    · cases ends
      decide
  step_ends := by
    intro s status offsets ends
    obtain ⟨v, ends, same⟩ := Progress.map_eq_ends ends
    have := told_status (Stage.unstopped_of_step ends)
    rwa [same] at this
  search := by
    intro pattern flags c b ⟨σ', S', s', compiled⟩ serves subject start limit σ S s unrefused
    obtain ⟨draft, hdraft, program⟩ := compile_program pattern flags σ' S' s' c compiled
    have concluded := search_concludes S (grown_of_serves serves) unrefused
    rw [program] at concluded
    exact ⟨_, meter_comes hdraft subject start limit, concluded⟩

/-! ## A pattern of one letter -/

section
open Program

/-- What is read of a pattern of one letter. -/
def letterText : Pattern.Parsed where
  settings := {}
  body := .seq (.literal 97 none) .empty
  groups := 0
  names := []
  sharedNumbers := false

/-- What is made of it. -/
def letter : Program where
  settings := {}
  code := .branch 0 (.one (.literal 97 false []) .done) .done
  groups := 0
  bodies := #[.branch 0 (.one (.literal 97 false []) .done) .done]
  names := []
  hints := { first := some { byte := 97, other := 97 }, minLength := 1 }
  lookback := 0
  changesBranch := false
  writesNewline := false

theorem lowerPattern_letterText :
    lowerPattern letterText = ⟨⟨letter.code, .known 97 false false, .undecided, false⟩, {}⟩ := by
  simp only [letterText, lowerPattern, lowerBranches, lowerBranch, lowerItem]
  rfl

theorem hints_letter :
    StartHints.of {} ⟨⟨letter.code, .known 97 false false, .undecided, false⟩, {}⟩ = letter.hints := by
  have shortest : shortestMatch false letter.code = 1 := by
    simp only [letter, shortestMatch, shortestBody, shortestOf, shortestBranch]
    rfl
  simp only [StartHints.of, shortest]
  rfl

theorem draft_letter : Program.draft "a".toUTF8 {} {} = .ok ⟨letter, none⟩ := by
  have parse : Pattern.parse "a".toUTF8 {} {} = .ok letterText := by with_unfolding_all rfl
  have size : "a".toUTF8.size = 1 := rfl
  have check : letterText.check 1 = .ok ⟨0, none⟩ := by
    simp only [letterText, Pattern.Parsed.check, Pattern.furthestStepBack, Pattern.checkLookbehinds]
    rfl
  simp only [Program.draft, parse, bind, Except.bind, size, check, lowerPattern_letterText]
  rw [show letterText.settings = {} from rfl, hints_letter]
  rfl

end

/-- A matcher of that pattern with a limit. The match context still holds another one. -/
def ready (limit : UInt32) : Bench (library.contextual .endless) :=
  (Bench.built _ ⟨some limit⟩ standardDepthLimit ⟨(), 5⟩ {} [] []).after [.prepare "a" .empty]

def blank : Buffer := { block := ⟨0, 112⟩, offsets := [unset, unset] }

theorem compile_letter (s : Bounded Unit) :
    (library.contextual .endless).compile "a" .empty s = (.ok ⟨letter, 0⟩, s) := by
  have drafted : Program.draft "a".toUTF8 (settingsOf (effective .empty)) (optionsOf (effective .empty)) =
      .ok ⟨letter, none⟩ := draft_letter
  have run : (compile "a" (effective .empty)).run .endless s.state = (.ok ⟨letter, 0⟩, s.state) := by
    simp only [compile, drafted]
    rfl
  exact congrArg (fun run => (run.1, { s with state := run.2 })) run

theorem makeBuffer_letter (s : Bounded Unit) :
    (library.contextual .endless).makeBuffer ⟨letter, 0⟩ s = (some blank, s) := rfl

theorem matcher_ready (limit : UInt32) :
    (ready limit).matcher = ⟨some ⟨"a", .empty, ⟨letter, 0⟩, blank⟩, limit⟩ := by
  simp only [ready, Bench.after, List.foldl_cons, List.foldl_nil, Bench.perform, Bench.run_reply,
    Bench.run_prepare, compile_letter, makeBuffer_letter]
  rfl

theorem poised_letter {limit : UInt32} {b : Buffer} (h : library.Serves ⟨letter, 0⟩ b) :
    library.Poised .endless "a" .empty ⟨#[97]⟩ 0 limit ⟨letter, 0⟩ b () where
  compiled := ⟨Unit, .endless, (), congrArg Prod.fst (compile_letter ⟨(), 0⟩)⟩
  serves := h
  unrefused := Dialog.refused_of_serves (fun _ _ => Option.some_ne_none 0) _ ()

theorem awaits_ready (limit : UInt32) :
    library.Awaits .endless "a" .empty ⟨#[97]⟩ 0 (ready limit) ⟨"a", .empty, ⟨letter, 0⟩, blank⟩ where
  sound := by
    apply Bench.sound_kept.after
    intro p prepared
    cases prepared
  prepared := by rw [matcher_ready]
  pattern := rfl
  flags := rfl
  unrefused := Dialog.refused_of_serves (fun _ _ => Option.some_ne_none 0) _ ()

theorem search_ready (limit : UInt32) :
    ((Bench.search ⟨#[97]⟩ 0 : Work _ _).run (ready limit)).1 =
      .ok (Execution.outcome unset
        ((library.engine .endless).ran ⟨letter, 0⟩ ⟨#[97]⟩ 0 limit blank ())) := by
  rw [Bench.search_ran (awaits_ready limit).prepared (by decide), matcher_ready]
  rfl

/-- One entry is too few to find the letter, and two are enough, whatever has been searched before. -/
theorem larger_limit_backtracking :
    let subject : ByteArray := ⟨#[97]⟩
    let used : Buffer := ((search ⟨letter, 0⟩ subject 0 1 blank).run .endless ()).1.2
    library.Metered meter ∧
      library.Poised .endless "a" .empty subject 0 2 ⟨letter, 0⟩ blank () ∧
      library.Poised .endless "a" .empty subject 0 9 ⟨letter, 0⟩ used () ∧
      Confirms ((library.contextual .endless).ran ⟨letter, 0⟩ subject 0 2 blank ⟨(), 1⟩)
        ((library.contextual .endless).ran ⟨letter, 0⟩ subject 0 9 used ⟨(), 0⟩) ∧
      Bench.Repeats (.find subject 0) (ready 2) (ready 9) ∧
      (ready 1).reply (.find subject 0) = .ok (.span .depthLimitExceeded) ∧
      (ready 2).reply (.find subject 0) = .ok (.span (.found ⟨0, 1, by decide⟩)) := by
  intro subject used
  have made : library.Serves ⟨letter, 0⟩ blank := .new (S := .endless) (s := ()) rfl
  have served : library.Serves ⟨letter, 0⟩ used := .used .endless () subject 0 1 made
  obtain ⟨engines, -, matchers, -⟩ :=
    Library.larger_limit metered .endless .endless "a" .empty subject 0
  have larger : (ready 2).matcher.depthLimit ≤ (ready 9).matcher.depthLimit := by
    rw [matcher_ready, matcher_ready]
    decide
  refine ⟨metered, poised_letter made, poised_letter served, ?confirms, ?repeats, ?exceeded, ?found⟩
  case confirms => exact engines (poised_letter made) (poised_letter served) (by decide)
  case repeats => exact matchers (awaits_ready 2) (awaits_ready 9) larger (.find subject 0) rfl
  case exceeded =>
    have ran : ((library.engine .endless).ran ⟨letter, 0⟩ subject 0 1 blank ()).1 = .depthLimitExceeded := by
      decide +kernel
    rw [Bench.reply_find, Bench.run_find, search_ready, Execution.outcome_eq_exceeded.mpr ran]
    rfl
  case found =>
    have ran : (library.engine .endless).ran ⟨letter, 0⟩ subject 0 2 blank () = (.matched 1, [0, 1]) := by
      decide +kernel
    rw [Bench.reply_find, Bench.run_find, search_ready, ran]
    rfl

end BoundedRegex.Backtracking
