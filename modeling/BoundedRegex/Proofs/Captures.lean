import BoundedRegex.Search

/-!
# The captures of a match

Each attempt begins with a place for each group of its program. Whatever a machine does, it changes such
places but neither adds nor drops one: not in its registers, not in those which continuations and what has
been put down come back to, and not in an answer. So whatever a search finds has a place for each group.

What fits is what holds registers with that many places only. Each function of the machine makes a step
that fits out of what fits, and so do all steps of a run.
-/
namespace BoundedRegex.Search
open Pattern Program

/-! ## What has a place for each group -/

def Registers.Fits (n : Nat) (r : Registers) : Prop := r.captures.size = n

namespace Continuation

/-- The registers that a continuation comes back to have a place for each group. -/
def Fits (n : Nat) : Continuation → Prop
  | .finish => True
  | .endGroup _ _ _ _ _ _ outer => outer.Fits n
  | .endCall _ saved _ _ _ _ outer => saved.Fits n ∧ outer.Fits n
  | .endCondition _ _ outer => outer.Fits n

end Continuation

def Answer.Fits (n : Nat) : Answer → Prop
  | .failed => True
  | .holds r => r.Fits n
  | .accepted r => r.Fits n
  | .again r => r.Fits n
  | .steered _ _ => True

def Pending.Fits (n : Nat) : Pending → Prop
  | .resume _ k r => k.Fits n ∧ r.Fits n
  | .branches _ k r _ _ => k.Fits n ∧ r.Fits n
  | .possessive _ _ _ _ r _ _ outer => outer.Fits n ∧ r.Fits n
  | .assertion _ k r _ outer => k.Fits n ∧ r.Fits n ∧ outer.Fits n
  | .refusal _ k r _ outer => k.Fits n ∧ r.Fits n ∧ outer.Fits n
  | .condition _ k r _ _ _ _ _ _ _ outer => k.Fits n ∧ r.Fits n ∧ outer.Fits n
  | .called _ _ k r _ => k.Fits n ∧ r.Fits n
  | .positions _ _ _ k r => k.Fits n ∧ r.Fits n
  | .growing _ _ _ k r => k.Fits n ∧ r.Fits n
  | .mark _ _ => True
  | .steering _ _ => True
  | .pass => True

def Machine.Fits (n : Nat) (m : Machine) : Prop := ∀ e ∈ m.stack, e.2.Fits n

def Task.Fits (n : Nat) : Task → Prop
  | .run _ k r => k.Fits n ∧ r.Fits n
  | .back a => a.Fits n

def Ending.Fits (n : Nat) : Ending → Prop
  | .matched r => r.Fits n
  | _ => True

def Step.Fits (n : Nat) : Step → Prop
  | .go t m => t.Fits n ∧ m.Fits n
  | .enter t m => t.Fits n ∧ m.Fits n
  | .stop e _ => e.Fits n

section
variable {n : Nat} {k outer : Continuation} {r : Registers} {m : Machine} {a : Answer}

theorem Registers.Fits.close (h : r.Fits n) (group opened : Nat) : (r.close group opened).Fits n := by
  rw [Registers.Fits, Registers.close]
  exact Array.size_setIfInBounds.trans h

/-- The call that code returns from. -/
theorem Continuation.Fits.innermostCall (h : k.Fits n) {saved : Registers} {height depth : Nat}
    {next : Code} (hk : k.innermostCall? = some (saved, height, depth, next, outer)) :
    saved.Fits n ∧ outer.Fits n := by
  induction k with
  | finish => cases hk
  | endGroup _ _ _ _ _ _ _ ih => exact ih h hk
  | endCall _ _ _ _ _ _ _ _ =>
    cases hk
    exact h
  | endCondition _ _ _ ih => exact ih h hk

namespace Machine.Fits

theorem stack (h : m.Fits n) {depth : Nat} {p : Pending} {rest : List (Nat × Pending)}
    (hs : m.stack = (depth, p) :: rest) : p.Fits n ∧ ∀ e ∈ rest, e.2.Fits n := by
  rw [Fits, hs] at h
  exact List.forall_mem_cons.mp h

theorem push {p : Pending} (h : m.Fits n) (hp : p.Fits n) : (m.push p).Fits n :=
  List.forall_mem_cons.mpr ⟨hp, h⟩

theorem cut (h : m.Fits n) (height : Nat) : (m.cut height).Fits n :=
  fun e he => h e (List.mem_of_mem_drop he)

theorem settle (h : m.Fits n) : m.settle.Fits n := by
  -- Only the code of what lies on top changes.
  rw [Machine.settle]
  split
  next hs =>
    obtain ⟨top, rest⟩ := h.stack hs
    exact List.forall_mem_cons.mpr ⟨top, rest⟩
  next hs =>
    obtain ⟨top, rest⟩ := h.stack hs
    exact List.forall_mem_cons.mpr ⟨top, rest⟩
  next => exact h

theorem reach (h : m.Fits n) (pos : Nat) : (m.reach pos).Fits n := h

end Machine.Fits

theorem Step.Fits.fail (hm : m.Fits n) : (Step.fail m).Fits n := ⟨trivial, hm⟩

end

namespace Environment

variable {n : Nat} {env : Environment} {k outer : Continuation} {r : Registers} {m : Machine}

/-! ## Strides -/

theorem fits_tryPositions (ps : List Nat) (lastFree : Bool) (next : Code) (hk : k.Fits n)
    (hr : r.Fits n) (hm : m.Fits n) : (tryPositions ps lastFree next k r m).Fits n := by
  cases ps with
  | nil => exact .fail hm
  | cons p rest =>
    rw [tryPositions]
    split
    · exact ⟨⟨hk, hr⟩, hm⟩
    · exact ⟨⟨hk, hr⟩, hm.push ⟨hk, hr⟩⟩

theorem fits_repeatStride (stride : Stride) (lo : Nat) (hi : Option Nat) (greed : Greed)
    (lastFree : Bool) (next : Code) (hk : k.Fits n) (hr : r.Fits n) (hm : m.Fits n) :
    (env.repeatStride stride lo hi greed lastFree next k r m).Fits n := by
  rw [repeatStride]
  split
  · exact .fail hm
  · split
    · exact ⟨⟨hk, hr⟩, hm⟩
    · cases greed with
      | lazy => exact ⟨⟨hk, hr⟩, hm.push ⟨hk, hr⟩⟩
      | greedy => exact fits_tryPositions _ lastFree next hk hr hm
      | possessive =>
        dsimp only
        split
        · exact ⟨⟨hk, hr⟩, hm⟩
        · exact .fail hm

theorem fits_runBackref (groups : List Nat) (rule : Option CaseRule) (lo : Nat) (hi : Option Nat)
    (greed : Greed) (next : Code) (hk : k.Fits n) (hr : r.Fits n) (hm : m.Fits n) :
    (env.runBackref groups rule lo hi greed next k r m).Fits n := by
  rw [runBackref]
  split
  · split
    · exact ⟨⟨hk, hr⟩, hm⟩
    · exact .fail hm
  · split
    · exact ⟨⟨hk, hr⟩, hm⟩
    · exact fits_repeatStride _ lo hi greed false next hk hr hm

theorem fits_runStepBack (lo hi : Nat) (next : Code) (hk : k.Fits n) (hr : r.Fits n) (hm : m.Fits n) :
    (env.runStepBack lo hi next k r m).Fits n := by
  rw [runStepBack]
  split
  · split
    · exact ⟨⟨hk, hr⟩, hm⟩
    · exact .fail hm
  · split
    · exact fits_tryPositions _ false next hk hr hm
    · exact .fail hm

/-! ## Groups -/

theorem fits_tryBranches (body : Code) (framed later : Bool) (hk : k.Fits n) (hr : r.Fits n)
    (hm : m.Fits n) : (tryBranches body k r framed later m).Fits n := by
  unfold tryBranches
  split
  · split
    · exact ⟨⟨hk, hr⟩, hm.push ⟨hk, hr⟩⟩
    · exact ⟨⟨hk, hr⟩, hm⟩
  · exact .fail hm

theorem fits_tryAssertion (body next : Code) (hk : k.Fits n) (hr : r.Fits n) (ho : outer.Fits n)
    (hm : m.Fits n) : (tryAssertion body k r next outer m).Fits n := by
  unfold tryAssertion
  split
  · exact ⟨⟨hk, hr⟩, hm.push ⟨hk, hr, ho⟩⟩
  · exact .fail hm

theorem fits_tryRefusal (body next : Code) (hk : k.Fits n) (hr : r.Fits n) (ho : outer.Fits n)
    (hm : m.Fits n) : (tryRefusal body k r next outer m).Fits n := by
  unfold tryRefusal
  split
  · exact ⟨⟨hk, hr⟩, hm.push ⟨hk, hr, ho⟩⟩
  · exact ⟨⟨ho, hr⟩, hm⟩

theorem fits_tryPossessive (body : Code) (kind : Program.GroupKind) (whole next : Code)
    (mayEnd later : Bool) (hr : r.Fits n) (ho : outer.Fits n) (hm : m.Fits n) :
    (tryPossessive body kind whole next r mayEnd later outer m).Fits n := by
  unfold tryPossessive
  split
  · exact ⟨⟨ho, hr⟩, hm.push (And.intro ho hr)⟩
  · split
    · exact ⟨⟨ho, hr⟩, hm⟩
    · exact .fail hm

theorem fits_tryCalled (group : Nat) (body : Code) (later : Bool) (hk : k.Fits n) (hr : r.Fits n)
    (hm : m.Fits n) : (tryCalled group body k r later m).Fits n := by
  unfold tryCalled
  split
  · exact ⟨⟨hk, hr⟩, hm.push ⟨hk, hr⟩⟩
  · exact .fail hm

theorem fits_takeBranch (branch : Code) (kind : Program.GroupKind) (checksEmpty : Bool) (again : Again)
    (whole next : Code) (ho : outer.Fits n) (hr : r.Fits n) (hm : m.Fits n) :
    (takeBranch branch kind checksEmpty again whole next outer r m).Fits n := by
  rw [takeBranch]
  split
  · exact ⟨⟨ho, hr⟩, hm.push trivial⟩
  · exact ⟨⟨ho, hr⟩, hm⟩

theorem fits_tryCondition (body : Code) (negated : Bool) (taken : Bool → Code) (checksEmpty : Bool)
    (again : Again) (whole next : Code) (kind : Program.GroupKind) (hk : k.Fits n) (hr : r.Fits n)
    (ho : outer.Fits n) (hm : m.Fits n) :
    (tryCondition body k r negated taken checksEmpty again whole next kind outer m).Fits n := by
  unfold tryCondition
  split
  · exact ⟨⟨hk, hr⟩, hm.push ⟨hk, hr, ho⟩⟩
  · exact fits_takeBranch _ kind checksEmpty again whole next ho hr hm

theorem fits_runConditional (q : Question) (checksEmpty : Bool) (again : Again) (body next : Code)
    (hk : k.Fits n) (hr : r.Fits n) (hm : m.Fits n) :
    (runConditional q checksEmpty again body next k r m).Fits n := by
  have take (answer : Bool) :
      (takeBranch (branchFor body answer) (.conditional q checksEmpty) checksEmpty again body next k r
        m).Fits n :=
    fits_takeBranch _ _ checksEmpty again body next hk hr hm
  unfold runConditional
  split
  · split
    · exact fits_tryCondition _ _ _ checksEmpty again body next _ hk hr hk hm
    · exact take false
  · exact take (answerTo _ r)

theorem fits_runGroup (kind : Program.GroupKind) (again : Again) (body next : Code) (hk : k.Fits n)
    (hr : r.Fits n) (hm : m.Fits n) : (env.runGroup kind again body next k r m).Fits n := by
  -- The continuation that ends a group comes back to what the one around it does.
  cases kind with
  | plain checksEmpty => exact fits_tryBranches body _ _ hk hr hm
  | capture group => exact fits_tryBranches body _ _ hk hr hm
  | atomic => exact fits_tryBranches body _ _ hk hr hm
  | scriptRun => exact fits_tryBranches body _ _ hk hr hm
  | lookahead negated keepsChoices =>
    cases negated with
    | false => exact fits_tryAssertion body next hk hr hk hm
    | true => exact fits_tryRefusal body next hk hr hk hm
  | lookbehind negated keepsChoices =>
    cases negated with
    | false => exact fits_tryAssertion body next hk hr hk hm
    | true => exact fits_tryRefusal body next hk hr hk hm
  | conditional q checksEmpty => exact fits_runConditional q checksEmpty again body next hk hr hm

theorem fits_runEntry (kind : Program.GroupKind) (entry : Entry) (again : Again) (body next : Code)
    (hk : k.Fits n) (hr : r.Fits n) (hm : m.Fits n) :
    (env.runEntry kind entry again body next k r m).Fits n := by
  cases entry with
  | never => exact ⟨⟨hk, hr⟩, hm⟩
  | always =>
    rw [runEntry]
    split
    · exact fits_tryPossessive body kind body next false false hr hk hm
    · exact fits_runGroup kind again body next hk hr hm
  | tryFirst =>
    rw [runEntry]
    split
    · exact fits_tryPossessive body kind body next true false hr hk hm
    · exact ⟨⟨hk, hr⟩, hm.push ⟨hk, hr⟩⟩
  | skipFirst => exact ⟨⟨hk, hr⟩, hm.push ⟨hk, hr⟩⟩

theorem fits_runCall (group : Nat) (next : Code) (hk : k.Fits n) (hr : r.Fits n) (hm : m.Fits n) :
    (env.runCall group next k r m).Fits n := by
  rw [runCall]
  split
  · trivial
  · exact fits_tryCalled group _ false ⟨hr, hk⟩ hr hm

/-! ## Ends -/

theorem fits_finish (hr : r.Fits n) (hm : m.Fits n) : (env.finish r m).Fits n := by
  rw [finish]
  split
  · trivial
  · split
    · exact .fail hm
    · exact hr

theorem fits_returnFromCall (hk : k.Fits n) (hm : m.Fits n) : (returnFromCall k r m).Fits n := by
  rw [returnFromCall]
  split
  next saved height depth next outer hc =>
    obtain ⟨hsaved, houter⟩ := hk.innermostCall hc
    exact ⟨⟨houter, hsaved⟩, hm.cut _⟩
  next => trivial

theorem fits_endOfGroup (kind : Program.GroupKind) (again : Again) (body next : Code)
    (opened : Option Nat) (height : Nat) (ho : outer.Fits n) (hr : r.Fits n) (hm : m.Fits n) :
    (endOfGroup kind again body next opened height outer r m).Fits n := by
  cases again with
  | no => exact ⟨⟨ho, hr⟩, hm⟩
  | possessive => exact ⟨hr, hm.cut height⟩
  | greedy =>
    rw [endOfGroup]
    split
    · exact ⟨⟨ho, hr⟩, hm⟩
    · exact ⟨⟨ho, hr⟩, hm.push ⟨ho, hr⟩⟩
  | lazy =>
    rw [endOfGroup]
    split
    · exact ⟨⟨ho, hr⟩, hm⟩
    · exact ⟨⟨ho, hr⟩, hm.push ⟨ho, hr⟩⟩

theorem fits_runEnd (hk : k.Fits n) (hr : r.Fits n) (hm : m.Fits n) : (env.runEnd k r m).Fits n := by
  cases k with
  | finish => exact fits_finish hr hm
  | endCall group saved furthest height depth next outer =>
    rw [runEnd]
    split
    · exact fits_returnFromCall hk hm
    · exact ⟨⟨hk.2, hk.1⟩, hm⟩
  | endCondition opened height outer => exact ⟨hr, hm.cut height⟩
  | endGroup kind again body next opened height outer =>
    have goOn {r : Registers} {m : Machine} (hr : r.Fits n) (hm : m.Fits n) :
        (endOfGroup kind again body next opened height outer r m).Fits n :=
      fits_endOfGroup kind again body next opened height hk hr hm
    have positive (keepsChoices : Bool) :
        Machine.Fits n (if keepsChoices then m.reach r.pos else ((m.reach r.pos).cut height).settle) := by
      split
      · exact hm
      · exact ((hm.reach r.pos).cut height).settle
    cases kind with
    | plain checksEmpty => exact goOn hr hm
    | conditional q checksEmpty => exact goOn hr hm
    | capture group => exact goOn (hr.close group _) hm
    | atomic => exact goOn hr (hm.cut height).settle
    | scriptRun =>
      simp only [runEnd]
      split
      · exact goOn hr hm
      · exact .fail hm
    | lookahead negated keepsChoices =>
      cases negated with
      | false => exact goOn hr (positive keepsChoices)
      | true => exact ⟨hr, hm.cut height⟩
    | lookbehind negated keepsChoices =>
      cases negated with
      | false => exact goOn hr (positive keepsChoices)
      | true => exact ⟨hr, hm.cut height⟩

/-- Groups that are closed on the way to an end from inside. -/
theorem fits_closed (k : Continuation) (closes : List Nat) (hr : r.Fits n) :
    (closes.foldl (fun r n => (k.opened? n).elim r (r.close n)) r).Fits n := by
  induction closes generalizing r with
  | nil => exact hr
  | cons group rest ih =>
    apply ih
    dsimp only
    cases k.opened? group with
    | none => exact hr
    | some opened => exact hr.close group opened

theorem fits_runAccept (inAssertion : Bool) (closes : List Nat) (hk : k.Fits n) (hr : r.Fits n)
    (hm : m.Fits n) : (env.runAccept inAssertion closes k r m).Fits n := by
  simp only [runAccept]
  generalize hr' : (if r.calling.isSome then r else
    closes.foldl (fun r n => (k.opened? n).elim r (r.close n)) r) = r'
  have fits : r'.Fits n := by
    rw [← hr']
    split
    · exact hr
    · exact fits_closed k closes hr
  split
  · exact ⟨fits, hm⟩
  · split
    · exact fits_returnFromCall hk hm
    · exact fits_finish fits hm

theorem fits_runVerb (v : Verb) (next : Code) (hk : k.Fits n) (hr : r.Fits n) (hm : m.Fits n) :
    (env.runVerb v next k r m).Fits n := by
  cases v with
  | skipTo name =>
    simp only [runVerb]
    split
    · exact ⟨⟨hk, hr⟩, hm⟩
    · exact ⟨⟨hk, hr⟩, hm.push trivial⟩
  | next => exact ⟨⟨hk, hr⟩, hm⟩
  | _ => exact ⟨⟨hk, hr⟩, hm.push trivial⟩

/-! ## Steps -/

theorem fits_stepRun (code : Code) (hk : k.Fits n) (hr : r.Fits n) (hm : m.Fits n) :
    (env.stepRun code k r m).Fits n := by
  cases code with
  | done => exact fits_runEnd hk hr hm
  | one i next =>
    rw [stepRun]
    split
    · exact ⟨⟨hk, hr⟩, hm⟩
    · exact .fail hm
  | many i lo hi greed next => exact fits_repeatStride (.item i) lo hi greed _ next hk hr hm
  | backref groups rule lo hi greed next => exact fits_runBackref groups rule lo hi greed next hk hr hm
  | anchor a next =>
    have checked {m' : Machine} (h : m'.Fits n) :
        Step.Fits n (if env.subject.holds a r.pos then .go (.run next k r) m' else .fail m') := by
      split
      · exact ⟨⟨hk, hr⟩, h⟩
      · exact .fail h
    unfold stepRun
    dsimp only
    apply checked
    split
    · split
      · exact hm.reach _
      · exact hm
    · exact hm
  | setStart next => exact ⟨⟨hk, hr⟩, hm⟩
  | verb v next => exact fits_runVerb v next hk hr hm
  | nextBranch address next => exact ⟨⟨hk, hr⟩, hm.push trivial⟩
  | fail => exact .fail hm
  | accept inAssertion closes => exact fits_runAccept inAssertion closes hk hr hm
  | call group next => exact fits_runCall group next hk hr hm
  | stepBack lo hi next => exact fits_runStepBack lo hi next hk hr hm
  | arrive next =>
    unfold stepRun
    dsimp only
    split
    · split
      · exact ⟨⟨hk, hr⟩, hm⟩
      · exact .fail hm
    · split
      · exact ⟨⟨hk, hr⟩, hm⟩
      · exact .fail hm
    · exact ⟨⟨hk, hr⟩, hm⟩
  | group kind entry again body next => exact fits_runEntry kind entry again body next hk hr hm
  | branch stop first others => exact fits_tryBranches (.branch stop first others) false false hk hr hm

/-! ## Going back

One lemma for each kind of what has been put down that does not only take the answer further back. -/

theorem fits_answerWithin {a : Answer} (ha : a.Fits n) (body : Code) (later : Bool) :
    (answerWithin body later a).Fits n := by
  unfold answerWithin
  split
  · split
    · trivial
    · trivial
  · exact ha

section
variable {a : Answer}

theorem fits_backTo (ha : a.Fits n) (hm : m.Fits n) : (Step.go (.back a) m).Fits n := ⟨ha, hm⟩

theorem fits_backToBranches (body : Code) (framed later : Bool) (hk : k.Fits n) (hr : r.Fits n)
    (ha : a.Fits n) (hm : m.Fits n) : (env.stepBack (.branches body k r framed later) a m).Fits n := by
  have within : (if framed then answerWithin body later a else a).Fits n := by
    split
    · exact fits_answerWithin ha body later
    · exact ha
  unfold stepBack
  dsimp only
  split
  · exact fits_tryBranches _ framed true hk hr hm
  · exact ⟨within, hm⟩

theorem fits_backToPossessive (body : Code) (kind : Program.GroupKind) (whole next : Code)
    (mayEnd later : Bool) (ho : outer.Fits n) (hr : r.Fits n) (ha : a.Fits n) (hm : m.Fits n) :
    (env.stepBack (.possessive body kind whole next r mayEnd later outer) a m).Fits n := by
  have within : (answerWithin body later a).Fits n := fits_answerWithin ha body later
  unfold stepBack
  dsimp only
  split
  next r' hr' =>
    have again : r'.Fits n := by rwa [hr'] at within
    split
    · exact ⟨⟨ho, again⟩, hm⟩
    · exact fits_tryPossessive whole kind whole next true false again ho hm
  next => exact fits_tryPossessive _ kind whole next mayEnd true hr ho hm
  next => exact ⟨within, hm⟩

theorem fits_backToAssertion (body next : Code) (hk : k.Fits n) (hr : r.Fits n) (ho : outer.Fits n)
    (ha : a.Fits n) (hm : m.Fits n) : (env.stepBack (.assertion body k r next outer) a m).Fits n := by
  have others : (tryAssertion (otherBranches body) k r next outer m).Fits n :=
    fits_tryAssertion _ next hk hr ho hm
  cases a with
  | accepted r' => exact ⟨⟨ho, ha⟩, hm⟩
  | failed => exact others
  | steered s calling =>
    cases s with
    | nextBranch address => exact others
    | _ => exact fits_backTo ha hm
  | _ => exact fits_backTo ha hm

theorem fits_backToRefusal (body next : Code) (hk : k.Fits n) (hr : r.Fits n) (ho : outer.Fits n)
    (ha : a.Fits n) (hm : m.Fits n) : (env.stepBack (.refusal body k r next outer) a m).Fits n := by
  have others : (tryRefusal (otherBranches body) k r next outer m).Fits n :=
    fits_tryRefusal _ next hk hr ho hm
  have onward : (Step.go (.run next outer r) m).Fits n := ⟨⟨ho, hr⟩, hm⟩
  cases a with
  | accepted r' => exact .fail hm
  | holds r' => exact .fail hm
  | failed => exact others
  | again r' => exact fits_backTo ha hm
  | steered s calling =>
    cases s with
    | nextBranch address => exact others
    | skipTo name => exact fits_backTo ha hm
    | _ => exact onward

theorem fits_backToCondition (body : Code) (negated : Bool) (taken : Bool → Code) (checksEmpty : Bool)
    (again : Again) (whole next : Code) (kind : Program.GroupKind) (hk : k.Fits n) (hr : r.Fits n)
    (ho : outer.Fits n) (ha : a.Fits n) (hm : m.Fits n) :
    (env.stepBack (.condition body k r negated taken checksEmpty again whole next kind outer) a m).Fits
      n := by
  have take (answer : Bool) {r : Registers} (hr : r.Fits n) :
      (takeBranch (taken answer) kind checksEmpty again whole next outer r m).Fits n :=
    fits_takeBranch _ kind checksEmpty again whole next ho hr hm
  have others : (tryCondition (otherBranches body) k r negated taken checksEmpty again whole next kind
      outer m).Fits n :=
    fits_tryCondition _ negated taken checksEmpty again whole next kind hk hr ho hm
  cases a with
  | accepted r' => exact take (!negated) (r := { r with captures := r'.captures }) ha
  | holds r' => exact take (!negated) (r := { r with captures := r'.captures }) ha
  | failed => exact others
  | again r' => exact fits_backTo ha hm
  | steered s calling =>
    cases s with
    | nextBranch address => exact others
    | skipTo name => exact fits_backTo ha hm
    | _ => exact take negated hr

theorem fits_backToCalled (group : Nat) (body : Code) (later : Bool) (hk : k.Fits n) (hr : r.Fits n)
    (ha : a.Fits n) (hm : m.Fits n) : (env.stepBack (.called group body k r later) a m).Fits n := by
  have others : (tryCalled group (otherBranches body) k r true m).Fits n :=
    fits_tryCalled group _ true hk hr hm
  cases a with
  | failed => exact others
  | steered s calling =>
    unfold stepBack
    dsimp only
    split
    · split
      · exact others
      · exact .fail hm
    · exact fits_backTo ha hm
  | _ => exact fits_backTo ha hm

theorem fits_backToGrowing (stride : Stride) (left : Option Nat) (next : Code) (hk : k.Fits n)
    (hr : r.Fits n) (ha : a.Fits n) (hm : m.Fits n) :
    (env.stepBack (.growing stride left next k r) a m).Fits n := by
  cases a with
  | failed =>
    unfold stepBack
    dsimp only
    split
    · exact .fail hm
    · split
      · exact ⟨⟨hk, hr⟩, hm.push (And.intro hk hr)⟩
      · exact .fail hm
  | _ => exact fits_backTo ha hm

theorem fits_backToMark (name : List Nat) (pos : Nat) (ha : a.Fits n) (hm : m.Fits n) :
    (env.stepBack (.mark name pos) a m).Fits n := by
  cases a with
  | steered s calling =>
    cases s with
    | skipTo wanted =>
      unfold stepBack
      dsimp only
      split
      · exact ⟨trivial, hm⟩
      · exact fits_backTo ha hm
    | _ => exact fits_backTo ha hm
  | _ => exact fits_backTo ha hm

theorem fits_stepBack {p : Pending} (hp : p.Fits n) (ha : a.Fits n) (hm : m.Fits n) :
    (env.stepBack p a m).Fits n := by
  cases p with
  | resume code k r =>
    cases a with
    | failed => exact ⟨hp, hm⟩
    | _ => exact fits_backTo ha hm
  | branches body k r framed later => exact fits_backToBranches body framed later hp.1 hp.2 ha hm
  | possessive body kind whole next r mayEnd later outer =>
    exact fits_backToPossessive body kind whole next mayEnd later hp.1 hp.2 ha hm
  | assertion body k r next outer => exact fits_backToAssertion body next hp.1 hp.2.1 hp.2.2 ha hm
  | refusal body k r next outer => exact fits_backToRefusal body next hp.1 hp.2.1 hp.2.2 ha hm
  | condition body k r negated taken checksEmpty again whole next kind outer =>
    exact fits_backToCondition body negated taken checksEmpty again whole next kind hp.1 hp.2.1 hp.2.2 ha hm
  | called group body k r later => exact fits_backToCalled group body later hp.1 hp.2 ha hm
  | positions rest lastFree next k r =>
    cases a with
    | failed => exact fits_tryPositions rest lastFree next hp.1 hp.2 hm
    | _ => exact fits_backTo ha hm
  | growing stride left next k r => exact fits_backToGrowing stride left next hp.1 hp.2 ha hm
  | mark name pos => exact fits_backToMark name pos ha hm
  | steering s calling =>
    cases a with
    | failed => exact ⟨trivial, hm⟩
    | _ => exact fits_backTo ha hm
  | pass => exact fits_backTo ha hm

end

/-- A step neither adds nor drops a place for a group. -/
theorem fits_step {t : Task} (ht : t.Fits n) (hm : m.Fits n) : (env.step t m).Fits n := by
  cases t with
  | run code k r => exact fits_stepRun code ht.1 ht.2 hm
  | back a =>
    unfold step
    dsimp only
    split
    next hs =>
      obtain ⟨top, rest⟩ := hm.stack hs
      exact fits_stepBack top ht rest
    next => cases a <;> trivial

/-! ## Attempts -/

theorem fits_runToEntry (fuel : Nat) {t : Task} (ht : t.Fits n) (hm : m.Fits n) :
    (env.runToEntry fuel t m).Fits n := by
  induction fuel generalizing t m with
  | zero => trivial
  | succ fuel ih =>
    have stepped : (env.step t m).Fits n := fits_step ht hm
    rw [runToEntry]
    split
    next t' m' hs =>
      rw [hs] at stepped
      exact ih stepped.1 stepped.2
    next => exact stepped

/-- Within whatever bounds an attempt is made, its match has a place for each group. -/
theorem fits_runBounded {b : Bounds} {t : Task} {deepest left : Nat} (ht : t.Fits n) (hm : m.Fits n)
    (h : (env.runBounded b t m deepest left).answer = .ok (.matched r)) : r.Fits n := by
  have reached : (env.runToEntry stepFuel t m).Fits n := fits_runToEntry stepFuel ht hm
  fun_induction env.runBounded b t m deepest left with
  | case2 _ _ _ _ ending _ hs =>
    rw [hs] at reached
    cases h
    exact reached
  | case6 _ _ _ _ _ hs _ _ _ _ ih =>
    rw [hs] at reached
    exact ih reached.1 reached.2 h (fits_runToEntry stepFuel reached.1 reached.2)
  | _ => cases h

theorem fits_attempt {b : Bounds} {p : Nat} (h : (env.attempt b p).answer = .ok (.matched r)) :
    r.Fits env.program.groups := by
  rw [attempt] at h
  split at h
  · cases h
  · split at h
    · cases h
    · refine fits_runBounded ?_ ?_ h
      · exact ⟨trivial, Array.size_replicate⟩
      · exact fun _ he => nomatch he

end Environment

/-! ## Searches -/

/-- What an attempt settles on is found only if the attempt has matched. -/
theorem matched_of_settled {s : Subject} {p : Nat} {a : Attempt} {r : Registers}
    (h : courseAfter s p a = .settled (.found r)) : a.answer = .ok (.matched r) := by
  unfold courseAfter at h
  cases ha : a.answer with
  | error x =>
    rw [ha] at h
    cases h
  | ok ending =>
    rw [ha] at h
    cases ending with
    | matched r' =>
      cases h
      rfl
    | failed => cases h
    | broken b => cases h
    | steered steer =>
      cases steer with
      | skip q =>
        dsimp only at h
        split at h
        · cases h
        · cases h
      | _ => cases h

theorem fits_tryFrom {program : Program} {s : Subject} {b : Bounds} {fuel p ignoredSkips : Nat}
    {seen : Option Nat} {deepest : Nat} {r : Registers}
    (h : (tryFrom program s b fuel p ignoredSkips seen deepest).verdict = .found r) :
    r.Fits program.groups := by
  induction fuel generalizing p ignoredSkips seen deepest with
  | zero => cases h
  | succ fuel ih =>
    rw [tryFrom] at h
    split at h
    · cases h
    · dsimp only at h
      split at h
      next v hc =>
        cases h
        exact Environment.fits_attempt (matched_of_settled hc)
      next =>
        split at h
        · cases h
        · exact ih h

/-- A match has a place for each group of the program. -/
theorem fits_search {program : Program} {bytes : ByteArray} {start limit block : Nat} {r : Registers}
    (h : (program.search bytes start limit block).verdict = .found r) : r.Fits program.groups := by
  rw [Program.search] at h
  split at h
  · cases h
  · split at h
    · cases h
    · exact fits_tryFrom h

end BoundedRegex.Search
