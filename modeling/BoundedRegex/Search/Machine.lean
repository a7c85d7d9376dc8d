import BoundedRegex.Program
import BoundedRegex.Search.ScriptRun

/-!
# The matching machine

A machine runs code against a subject. Where there is a choice it puts down what it will do if the
first way fails, and enters the first way; what was put down is picked up again when the way comes
back with an answer. Each such entry is one unit of the effort that callers can bound. The machine
itself knows no bound: it says when it is about to enter, and whoever drives it decides.

What has been put down lies on a stack, the latest on top. The code that follows the group at hand is
a chain of continuations, the innermost first. Both only refer to values, so that going back needs no
undoing.
-/
namespace BoundedRegex.Search
open Pattern Program

/-- What changes along a way and is restored when going back. -/
structure Registers where
  pos : Nat
  start : Nat
  /-- What the groups have matched, from the first on. -/
  captures : Array (Option (Nat × Nat))
  /-- The group that is being called; zero stands for the whole code. -/
  calling : Option Nat

namespace Registers

/-- At another position. -/
@[inline] def moveTo (r : Registers) (pos : Nat) : Registers := { r with pos := pos }

def group? (r : Registers) (n : Nat) : Option (Nat × Nat) := (r.captures[n - 1]?).join

/-- With a group that has matched from `opened` on. -/
def close (r : Registers) (n opened : Nat) : Registers :=
  { r with captures := r.captures.setIfInBounds (n - 1) (some (opened, r.pos)) }

end Registers

/-- What follows the code at hand. -/
inductive Continuation where
  /-- The end of the match. -/
  | finish
  /-- The end of a group. `opened` is where it started, if that matters, and `height` how much had
  been put down when it was entered. -/
  | endGroup (kind : Program.GroupKind) (again : Again) (body next : Code) (opened : Option Nat)
      (height : Nat) (outer : Continuation)
  | endCall (n : Nat) (saved : Registers) (furthest height depth : Nat) (next : Code)
      (outer : Continuation)
  /-- The end of an assertion that decides a condition, and where it started. -/
  | endCondition (opened height : Nat) (outer : Continuation)

namespace Continuation

/-- Where the innermost open group of a number started. -/
def opened? (n : Nat) : Continuation → Option Nat
  | .finish => none
  | .endGroup kind _ _ _ opened _ outer => if kind == .capture n then opened else outer.opened? n
  | .endCall _ _ _ _ _ _ outer => outer.opened? n
  | .endCondition _ _ outer => outer.opened? n

/-- The position and reach at the innermost call of a number. -/
def callOf? (n : Nat) : Continuation → Option (Nat × Nat)
  | .finish => none
  | .endGroup _ _ _ _ _ _ outer => outer.callOf? n
  | .endCall m saved furthest _ _ _ outer =>
    if m == n then some (saved.pos, furthest) else outer.callOf? n
  | .endCondition _ _ outer => outer.callOf? n

def innermostCall? : Continuation → Option (Registers × Nat × Nat × Code × Continuation)
  | .finish => none
  | .endGroup _ _ _ _ _ _ outer => outer.innermostCall?
  | .endCall _ saved _ height depth next outer => some (saved, height, depth, next, outer)
  | .endCondition _ _ outer => outer.innermostCall?

end Continuation

/-- How a verb steers the search once it has been backtracked onto. -/
inductive Steer where
  /-- No further attempt. -/
  | commit
  /-- No further way from this start. -/
  | prune
  /-- On to this position. -/
  | skip (pos : Nat)
  /-- On to the position of the mark of that name. -/
  | skipTo (name : List Nat)
  | nextBranch (address : Nat)
  deriving DecidableEq, Repr

/-- What a way comes back with. -/
inductive Answer where
  | failed
  /-- The assertion that decides something has matched. -/
  | holds (r : Registers)
  /-- The assertion has been ended from inside. -/
  | accepted (r : Registers)
  /-- The group that repeats without a way back has matched once more. -/
  | again (r : Registers)
  /-- A verb steers, met while this group was being called. -/
  | steered (s : Steer) (calling : Option Nat)

/-- What may repeat one character or copy at a time. -/
inductive Stride where
  | item (i : Item)
  | copy (rule : Option CaseRule) (p stop : Nat)

/-- What has been put down. -/
inductive Pending where
  | resume (code : Code) (k : Continuation) (r : Registers)
  /-- Goes on with the other branches of a body. A framed body enters its last branch too, and is
  where moving on to the next branch ends. `later` tells that branches came before. -/
  | branches (body : Code) (k : Continuation) (r : Registers) (framed later : Bool)
  /-- Goes on with the other branches, or behind the group if it may be. -/
  | possessive (body : Code) (kind : Program.GroupKind) (whole next : Code) (r : Registers)
      (mayEnd later : Bool) (outer : Continuation)
  /-- Goes on with the other branches of an assertion that must hold. -/
  | assertion (body : Code) (k : Continuation) (r : Registers) (next : Code) (outer : Continuation)
  /-- Goes on with the other branches of an assertion that must not hold, or behind it. -/
  | refusal (body : Code) (k : Continuation) (r : Registers) (next : Code) (outer : Continuation)
  /-- Goes on with the other branches of an assertion that decides, or with what it decides. -/
  | condition (body : Code) (k : Continuation) (r : Registers) (negated : Bool)
      (taken : Bool → Code) (checksEmpty : Bool) (again : Again) (whole next : Code)
      (kind : Program.GroupKind) (outer : Continuation)
  /-- Goes on with the other branches of a called group. -/
  | called (n : Nat) (body : Code) (k : Continuation) (r : Registers) (later : Bool)
  /-- Goes on from the other positions. The last one needs no entry if `lastFree`. -/
  | positions (rest : List Nat) (lastFree : Bool) (next : Code) (k : Continuation) (r : Registers)
  /-- Goes on behind one more stride, so many times at most. -/
  | growing (stride : Stride) (left : Option Nat) (next : Code) (k : Continuation) (r : Registers)
  | mark (name : List Nat) (pos : Nat)
  | steering (s : Steer) (calling : Option Nat)
  /-- Only takes the answer back. -/
  | pass

/-- A machine at rest between two entries: what has been put down, each with its depth. -/
structure Machine where
  stack : List (Nat × Pending) := []
  /-- How much has been put down. -/
  height : Nat := 0
  /-- How deep entries are nested, those counted that nothing goes back to. -/
  depth : Nat := 0
  /-- The furthest position that an assertion has looked at. -/
  furthest : Nat
  /-- How often a skip to a mark has been met. -/
  skips : Nat := 0

namespace Machine

/-- Puts something down. -/
def push (m : Machine) (p : Pending) : Machine :=
  { m with stack := (m.depth, p) :: m.stack, height := m.height + 1, depth := m.depth + 1 }

/-- Forgets what has been put down above a height. -/
def cut (m : Machine) (height : Nat) : Machine :=
  { m with stack := m.stack.drop (m.height - height), height := min m.height height }

/-- The other branches of a body are no longer tried. -/
def settle (m : Machine) : Machine :=
  match m.stack with
  | (d, .branches body k r framed later) :: rest =>
    { m with stack := (d, .branches body.lastBranch k r framed (later || body.hasChoice)) :: rest }
  | (d, .assertion body k r next outer) :: rest =>
    { m with stack := (d, .assertion body.lastBranch k r next outer) :: rest }
  | _ => m

/-- Looks as far as a position. -/
def reach (m : Machine) (pos : Nat) : Machine := { m with furthest := max m.furthest pos }

end Machine

structure Environment where
  program : Program
  subject : Subject
  /-- This many skips to marks pass without effect. -/
  ignoredSkips : Nat

inductive Task where
  | run (code : Code) (k : Continuation) (r : Registers)
  | back (a : Answer)

/-- Why a machine gives up. -/
inductive Breakdown where
  /-- A group calls itself without moving. -/
  | endlessCall
  /-- The match starts before the search or behind its own end. -/
  | misplacedStart
  /-- An assertion has been ended from outside. -/
  | strayAccept
  /-- The machine has not come to an end. -/
  | stuck
  deriving DecidableEq, Repr

inductive Ending where
  | matched (r : Registers)
  | failed
  | steered (s : Steer)
  | broken (b : Breakdown)

inductive Step where
  /-- Another step. -/
  | go (t : Task) (m : Machine)
  /-- An entry, and what is done there. -/
  | enter (t : Task) (m : Machine)
  | stop (e : Ending) (m : Machine)

/-- Goes back with a failure. -/
@[inline] def Step.fail (m : Machine) : Step := .go (.back .failed) m

namespace Environment

/-! ## Strides -/

/-- The position behind one stride. -/
def strideEnd? (env : Environment) (stride : Stride) (p : Nat) : Option Nat :=
  match stride with
  | .item i => env.subject.after? i p
  | .copy rule q stop => env.subject.copyEnd? rule stop (stop - q) q p

/-- The position behind a number of strides. -/
def advance? (env : Environment) (stride : Stride) : Nat → Nat → Option Nat
  | 0, p => some p
  | n + 1, p =>
    match env.strideEnd? stride p with
    | some q => env.advance? stride n q
    | none => none

/-- The positions behind further strides, the last first; `seen` are those before. `fuel` bounds
their number. -/
def extend (env : Environment) (stride : Stride) : Nat → Nat → List Nat → List Nat
  | 0, _, seen => seen
  | fuel + 1, p, seen =>
    match env.strideEnd? stride p with
    | some q => env.extend stride fuel q (q :: seen)
    | none => seen

/-- How many strides may still come: no more than the counts allow and bytes are left. -/
def strideFuel (env : Environment) (lo : Nat) (hi : Option Nat) (p : Nat) : Nat :=
  let left := env.subject.size - p
  match hi with
  | some hi => min (hi - lo) left
  | none => left

/-- Tries positions in turn. -/
def tryPositions (ps : List Nat) (lastFree : Bool) (next : Code) (k : Continuation) (r : Registers)
    (m : Machine) : Step :=
  match ps with
  | [] => .fail m
  | p :: rest =>
    if lastFree && rest.isEmpty then .go (.run next k (r.moveTo p)) m
    else .enter (.run next k (r.moveTo p)) (m.push (.positions rest lastFree next k r))

def repeatStride (env : Environment) (stride : Stride) (lo : Nat) (hi : Option Nat) (greed : Greed)
    (lastFree : Bool) (next : Code) (k : Continuation) (r : Registers) (m : Machine) : Step :=
  match env.advance? stride lo r.pos with
  | none => .fail m
  | some p =>
    if hi == some lo then .go (.run next k (r.moveTo p)) m
    else
      match greed with
      | .lazy =>
        let r := r.moveTo p
        .enter (.run next k r) (m.push (.growing stride (hi.map (· - lo)) next k r))
      | .greedy => tryPositions (env.extend stride (env.strideFuel lo hi p) p [p]) lastFree next k r m
      | .possessive =>
        match env.extend stride (env.strideFuel lo hi p) p [p] with
        | q :: _ => .go (.run next k (r.moveTo q)) m
        | [] => .fail m

/-- Whether a repeat of an item enters the way with its least count too. -/
def entersLast : Item → Bool
  | .cls _ => true
  | _ => false

/-- Matches a reference. A group that is not set matches nothing, and one that is empty matches any
number of times. -/
def runBackref (env : Environment) (groups : List Nat) (rule : Option CaseRule) (lo : Nat)
    (hi : Option Nat) (greed : Greed) (next : Code) (k : Continuation) (r : Registers) (m : Machine) :
    Step :=
  match groups.findSome? r.group? with
  | none => if lo == 0 then .go (.run next k r) m else .fail m
  | some (p, q) =>
    if p == q then .go (.run next k r) m
    else env.repeatStride (.copy rule p q) lo hi greed false next k r m

/-- Steps back, and tries each place that is far enough. -/
def runStepBack (env : Environment) (lo hi : Nat) (next : Code) (k : Continuation) (r : Registers)
    (m : Machine) : Step :=
  if lo == hi then
    match stepBack? env.subject.checked lo r.pos with
    | some p => .go (.run next k (r.moveTo p)) m
    | none => .fail m
  else
    match stepBack? 0 lo r.pos with
    | some p => tryPositions (places (hi - lo) p []) false next k r m
    | none => .fail m
where
  /-- The position a number of characters back, not before the limit. -/
  stepBack? (limit : Nat) : Nat → Nat → Option Nat
    | 0, p => some p
    | n + 1, p =>
      if env.subject.utf then
        if p ≤ limit then none else stepBack? limit n (env.subject.beforeChar p)
      else if p == 0 then none
      else stepBack? limit n (p - 1)
  /-- The positions up to so many characters further back, the furthest first. -/
  places : Nat → Nat → List Nat → List Nat
    | 0, p, seen => p :: seen
    | n + 1, p, seen =>
      if p == 0 then p :: seen else places n (env.subject.beforeChar p) (p :: seen)

/-! ## Groups -/

def tryBranches (body : Code) (k : Continuation) (r : Registers) (framed later : Bool) (m : Machine) :
    Step :=
  match body with
  | .branch _ first others =>
    if framed || others.isBranch then
      .enter (.run first k r) (m.push (.branches body k r framed later))
    else .go (.run first k r) m
  | _ => .fail m

/-- Tries the branches of an assertion that must hold. -/
def tryAssertion (body : Code) (k : Continuation) (r : Registers) (next : Code) (outer : Continuation)
    (m : Machine) : Step :=
  match body with
  | .branch _ first _ => .enter (.run first k r) (m.push (.assertion body k r next outer))
  | _ => .fail m

/-- Tries the branches of an assertion that must not hold. -/
def tryRefusal (body : Code) (k : Continuation) (r : Registers) (next : Code) (outer : Continuation)
    (m : Machine) : Step :=
  match body with
  | .branch _ first _ => .enter (.run first k r) (m.push (.refusal body k r next outer))
  | _ => .go (.run next outer r) m

/-- Tries the branches of a group that repeats without a way back, once more. -/
def tryPossessive (body : Code) (kind : Program.GroupKind) (whole next : Code) (r : Registers)
    (mayEnd later : Bool) (outer : Continuation) (m : Machine) : Step :=
  match body with
  | .branch _ first _ =>
    let k := .endGroup kind .possessive whole next (some r.pos) (m.height + 1) outer
    .enter (.run first k r) (m.push (.possessive body kind whole next r mayEnd later outer))
  | _ => if mayEnd then .go (.run next outer r) m else .fail m

/-- Tries the branches of a called group. -/
def tryCalled (n : Nat) (body : Code) (k : Continuation) (r : Registers) (later : Bool) (m : Machine) :
    Step :=
  match body with
  | .branch _ first _ =>
    .enter (.run first k { r with calling := some n }) (m.push (.called n body k r later))
  | _ => .fail m

def takeBranch (branch : Code) (kind : Program.GroupKind) (checksEmpty : Bool) (again : Again)
    (whole next : Code) (outer : Continuation) (r : Registers) (m : Machine) : Step :=
  let opened := if checksEmpty then some r.pos else none
  let k := .endGroup kind again whole next opened (m.height + 1) outer
  if checksEmpty then .enter (.run branch k r) (m.push .pass) else .go (.run branch k r) m

/-- The branch of a conditional group that an answer takes. -/
def branchFor (body : Code) (answer : Bool) : Code :=
  match body with
  | .branch _ first others =>
    if answer then first
    else
      match others with
      | .branch _ second _ => second
      | _ => .done
  | _ => .done

/-- Tries the branches of an assertion that decides. -/
def tryCondition (body : Code) (k : Continuation) (r : Registers) (negated : Bool)
    (taken : Bool → Code) (checksEmpty : Bool) (again : Again) (whole next : Code)
    (kind : Program.GroupKind) (outer : Continuation) (m : Machine) : Step :=
  match body with
  | .branch _ first _ =>
    .enter (.run first k r)
      (m.push (.condition body k r negated taken checksEmpty again whole next kind outer))
  | _ => takeBranch (taken negated) kind checksEmpty again whole next outer r m

def answerTo (q : Question) (r : Registers) : Bool :=
  match q with
  | .isSet groups => groups.any fun n => (r.group? n).isSome
  | .isCalled none => r.calling.isSome
  | .isCalled (some groups) => r.calling.any groups.contains
  | .fixed answer => answer
  | .assertion => false

def runConditional (q : Question) (checksEmpty : Bool) (again : Again) (body next : Code)
    (k : Continuation) (r : Registers) (m : Machine) : Step :=
  let kind : Program.GroupKind := .conditional q checksEmpty
  let take (answer : Bool) : Step :=
    takeBranch (branchFor body answer) kind checksEmpty again body next k r m
  match q with
  | .assertion =>
    match branchFor body true with
    | .group lookKind _ _ look rest =>
      let negated :=
        match lookKind with
        | .lookahead negated _ => negated
        | .lookbehind negated _ => negated
        | _ => false
      let taken (answer : Bool) : Code := if answer then rest else branchFor body false
      tryCondition look (.endCondition r.pos (m.height + 1) k) r negated taken checksEmpty again body next
        kind k m
    | _ => take false
  | _ => take (answerTo q r)

def runGroup (env : Environment) (kind : Program.GroupKind) (again : Again) (body next : Code)
    (k : Continuation) (r : Registers) (m : Machine) : Step :=
  let endHere (opened : Option Nat) : Continuation :=
    .endGroup kind again body next opened (m.height + 1) k
  match kind with
  | .plain checksEmpty =>
    tryBranches body (endHere (if checksEmpty then some r.pos else none)) r
      (checksEmpty || env.program.changesBranch || m.depth == 0) false m
  | .capture _ => tryBranches body (endHere (some r.pos)) r true false m
  | .atomic => tryBranches body (endHere (some r.pos)) r true false m
  | .scriptRun => tryBranches body (endHere (some r.pos)) r true false m
  | .lookahead false _ => tryAssertion body (endHere (some r.pos)) r next k m
  | .lookbehind false _ => tryAssertion body (endHere (some r.pos)) r next k m
  | .lookahead true _ => tryRefusal body (endHere (some r.pos)) r next k m
  | .lookbehind true _ => tryRefusal body (endHere (some r.pos)) r next k m
  | .conditional q checksEmpty => runConditional q checksEmpty again body next k r m

/-- Runs a group that may be left out, or need not be matched at all. -/
def runEntry (env : Environment) (kind : Program.GroupKind) (entry : Entry) (again : Again)
    (body next : Code) (k : Continuation) (r : Registers) (m : Machine) : Step :=
  let whole : Code := .group kind .always again body next
  match entry with
  | .never => .go (.run next k r) m
  | .always =>
    if again == .possessive then tryPossessive body kind body next r false false k m
    else env.runGroup kind again body next k r m
  | .tryFirst =>
    if again == .possessive then tryPossessive body kind body next r true false k m
    else .enter (.run whole k r) (m.push (.resume next k r))
  | .skipFirst => .enter (.run next k r) (m.push (.resume whole k r))

def runCall (env : Environment) (n : Nat) (next : Code) (k : Continuation) (r : Registers)
    (m : Machine) : Step :=
  let endless :=
    r.calling.isSome && k.callOf? n == some (r.pos, m.furthest)
  if endless then .stop (.broken .endlessCall) m
  else
    let k := .endCall n r m.furthest (m.height + 1) m.depth next k
    tryCalled n (env.program.bodies.getD n .fail) k r false m

/-! ## Ends -/

/-- Ends the match. -/
def finish (env : Environment) (r : Registers) (m : Machine) : Step :=
  let settings := env.program.settings
  if r.start < env.subject.start || r.start > r.pos then .stop (.broken .misplacedStart) m
  else if r.pos == r.start &&
      (settings.notEmpty || (settings.notEmptyAtStart && r.start == env.subject.start)) then .fail m
  else .stop (.matched r) m

/-- Goes on behind the innermost call; nothing goes back into it. -/
def returnFromCall (k : Continuation) (r : Registers) (m : Machine) : Step :=
  match k.innermostCall? with
  | some (saved, height, depth, next, outer) =>
    .go (.run next outer { saved with pos := r.pos, start := r.start })
      { m.cut (height - 1) with depth := depth }
  | none => .stop (.broken .stuck) m

/-- Repeats a group that has ended, or goes on behind it. -/
def endOfGroup (kind : Program.GroupKind) (again : Again) (body next : Code) (opened : Option Nat)
    (height : Nat) (outer : Continuation) (r : Registers) (m : Machine) : Step :=
  let whole : Code := .group kind .always again body next
  match again with
  | .no => .go (.run next outer r) m
  | .possessive => .go (.back (.again r)) (m.cut height)
  | .greedy =>
    if opened == some r.pos then .go (.run next outer r) m
    else .enter (.run whole outer r) (m.push (.resume next outer r))
  | .lazy =>
    if opened == some r.pos then .go (.run next outer r) m
    else .enter (.run next outer r) (m.push (.resume whole outer r))

def runEnd (env : Environment) (k : Continuation) (r : Registers) (m : Machine) : Step :=
  match k with
  | .finish => env.finish r m
  | .endCall n saved _ _ _ next outer =>
    if n == 0 then returnFromCall k r m
    else
      .go (.run next outer { r with captures := saved.captures, calling := saved.calling }) m
  | .endCondition _ height _ => .go (.back (.holds r)) (m.cut height)
  | .endGroup kind again body next opened height outer =>
    let goOn (r : Registers) (m : Machine) :=
      endOfGroup kind again body next opened height outer r m
    let assertion (negated keepsChoices : Bool) : Step :=
      if negated then .go (.back (.holds r)) (m.cut height)
      else
        let m := m.reach r.pos
        goOn (r.moveTo (opened.getD r.pos)) (if keepsChoices then m else (m.cut height).settle)
    match kind with
    | .plain _ => goOn r m
    | .conditional _ _ => goOn r m
    | .capture n => goOn (r.close n (opened.getD r.pos)) m
    | .atomic => goOn r (m.cut height).settle
    | .scriptRun =>
      if env.subject.isScriptRun (opened.getD r.pos) r.pos then goOn r m else .fail m
    | .lookahead negated keepsChoices => assertion negated keepsChoices
    | .lookbehind negated keepsChoices => assertion negated keepsChoices

/-- Ends the match, the call or the assertion at hand from inside. -/
def runAccept (env : Environment) (inAssertion : Bool) (closes : List Nat) (k : Continuation)
    (r : Registers) (m : Machine) : Step :=
  let r :=
    if r.calling.isSome then r
    else closes.foldl (fun r n => (k.opened? n).elim r (r.close n)) r
  if inAssertion then .go (.back (.accepted r)) (m.reach r.pos)
  else if r.calling.isSome then returnFromCall k r m
  else env.finish r m

def runVerb (env : Environment) (v : Verb) (next : Code) (k : Continuation) (r : Registers)
    (m : Machine) : Step :=
  let enter (p : Pending) (m : Machine) : Step := .enter (.run next k r) (m.push p)
  match v with
  | .mark name => enter (.mark name r.pos) m
  | .commit => enter (.steering .commit r.calling) m
  | .prune => enter (.steering .prune r.calling) m
  | .skip => enter (.steering (.skip r.pos) r.calling) m
  | .skipTo name =>
    let m := { m with skips := m.skips + 1 }
    if m.skips ≤ env.ignoredSkips then .go (.run next k r) m
    else enter (.steering (.skipTo name) r.calling) m
  | .next => .go (.run next k r) m

/-! ## Steps -/

def stepRun (env : Environment) (code : Code) (k : Continuation) (r : Registers) (m : Machine) : Step :=
  match code with
  | .done => env.runEnd k r m
  | .one i next =>
    match env.subject.after? i r.pos with
    | some p => .go (.run next k (r.moveTo p)) m
    | none => .fail m
  | .many i lo hi greed next =>
    env.repeatStride (.item i) lo hi greed (!entersLast i) next k r m
  | .backref groups rule lo hi greed next => env.runBackref groups rule lo hi greed next k r m
  | .anchor a next =>
    let m :=
      match a with
      | .wordBoundary _ _ =>
        if r.pos < env.subject.size then m.reach (env.subject.afterChar r.pos) else m
      | _ => m
    if env.subject.holds a r.pos then .go (.run next k r) m else .fail m
  | .setStart next => .go (.run next k { r with start := r.pos }) m
  | .verb v next => env.runVerb v next k r m
  | .nextBranch address next =>
    .enter (.run next k r) (m.push (.steering (.nextBranch address) r.calling))
  | .fail => .fail m
  | .accept inAssertion closes => env.runAccept inAssertion closes k r m
  | .call n next => env.runCall n next k r m
  | .stepBack lo hi next => env.runStepBack lo hi next k r m
  | .arrive next =>
    match k with
    | .endGroup _ _ _ _ opened _ _ =>
      if opened == some r.pos then .go (.run next k r) m else .fail m
    | .endCondition opened _ _ => if opened == r.pos then .go (.run next k r) m else .fail m
    | _ => .go (.run next k r) m
  | .group kind entry again body next => env.runEntry kind entry again body next k r m
  | .branch _ _ _ => tryBranches code k r false false m

/-- What an answer means to the branches of a body: moving on to the next branch ends in a body with
others that holds the address. -/
def answerWithin (body : Code) (later : Bool) (a : Answer) : Answer :=
  match a, body with
  | .steered (.nextBranch address) _, .branch stop _ others =>
    if address < stop && (later || others.isBranch) then .failed else a
  | a, _ => a

def otherBranches : Code → Code
  | .branch _ _ others => others
  | code => code

/-- Picks up what has been put down. -/
def stepBack (env : Environment) (p : Pending) (a : Answer) (m : Machine) : Step :=
  let pass : Step := .go (.back a) m
  match p with
  | .resume code k r =>
    match a with
    | .failed => .go (.run code k r) m
    | _ => pass
  | .branches body k r framed later =>
    match if framed then answerWithin body later a else a with
    | .failed => tryBranches (otherBranches body) k r framed true m
    | a => .go (.back a) m
  | .possessive body kind whole next r mayEnd later outer =>
    match answerWithin body later a with
    | .again r' =>
      if r'.pos == r.pos then .go (.run next outer r') m
      else tryPossessive whole kind whole next r' true false outer m
    | .failed => tryPossessive (otherBranches body) kind whole next r mayEnd true outer m
    | a => .go (.back a) m
  | .assertion body k r next outer =>
    match a with
    | .accepted r' => .go (.run next outer { r with captures := r'.captures }) m
    | .failed => tryAssertion (otherBranches body) k r next outer m
    | .steered (.nextBranch _) _ => tryAssertion (otherBranches body) k r next outer m
    | _ => pass
  | .refusal body k r next outer =>
    match a with
    | .accepted _ => .fail m
    | .holds _ => .fail m
    | .failed => tryRefusal (otherBranches body) k r next outer m
    | .steered (.nextBranch _) _ => tryRefusal (otherBranches body) k r next outer m
    | .steered .commit _ => .go (.run next outer r) m
    | .steered .prune _ => .go (.run next outer r) m
    | .steered (.skip _) _ => .go (.run next outer r) m
    | _ => pass
  | .condition body k r negated taken checksEmpty again whole next kind outer =>
    let take (answer : Bool) (r : Registers) : Step :=
      takeBranch (taken answer) kind checksEmpty again whole next outer r m
    let others : Step :=
      tryCondition (otherBranches body) k r negated taken checksEmpty again whole next kind outer m
    match a with
    | .accepted r' => take (!negated) { r with captures := r'.captures }
    | .holds r' => take (!negated) { r with captures := r'.captures }
    | .failed => others
    | .steered (.nextBranch _) _ => others
    | .steered .commit _ => take negated r
    | .steered .prune _ => take negated r
    | .steered (.skip _) _ => take negated r
    | _ => pass
  | .called n body k r later =>
    match a with
    | .failed => tryCalled n (otherBranches body) k r true m
    | .steered _ calling =>
      if calling == some n then
        match answerWithin body later a with
        | .failed => tryCalled n (otherBranches body) k r true m
        | _ => .fail m
      else pass
    | _ => pass
  | .positions rest lastFree next k r =>
    match a with
    | .failed => tryPositions rest lastFree next k r m
    | _ => pass
  | .growing stride left next k r =>
    match a with
    | .failed =>
      if left == some 0 then .fail m
      else
        match env.strideEnd? stride r.pos with
        | some p =>
          let r := r.moveTo p
          .enter (.run next k r) (m.push (.growing stride (left.map (· - 1)) next k r))
        | none => .fail m
    | _ => pass
  | .mark name pos =>
    match a with
    | .steered (.skipTo wanted) calling =>
      if wanted == name then .go (.back (.steered (.skip pos) calling)) m else pass
    | _ => pass
  | .steering s calling =>
    match a with
    | .failed => .go (.back (.steered s calling)) m
    | _ => pass
  | .pass => pass

def step (env : Environment) (t : Task) (m : Machine) : Step :=
  match t with
  | .run code k r => env.stepRun code k r m
  | .back a =>
    match m.stack with
    | (depth, p) :: rest =>
      env.stepBack p a { m with stack := rest, height := m.height - 1, depth := depth }
    | [] =>
      match a with
      | .failed => .stop .failed m
      | .steered s _ => .stop (.steered s) m
      | .accepted _ => .stop (.broken .strayAccept) m
      | _ => .stop (.broken .stuck) m

end Environment

end BoundedRegex.Search
