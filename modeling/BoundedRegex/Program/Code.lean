import BoundedRegex.Pattern.Syntax

/-!
# Code

What a pattern is turned into before it is run. Names have become numbers, repeats of groups have
become copies, and each item holds the code that follows it, so that a machine can run code by
walking it. A branch ends in `done`. The body of a group is a chain of `branch` cells, the last of
which has `done` for the others.
-/
namespace BoundedRegex.Program
open Pattern

/-- What matches a stretch of the subject by itself, in most cases one character. -/
inductive Item where
  /-- A character, or one of its case variants. -/
  | literal (c : Nat) (caseless : Bool) (variants : List Nat)
  /-- Any other character. -/
  | notLiteral (c : Nat) (caseless : Bool) (variants : List Nat)
  /-- One of several case variants, or a character that is none of them. -/
  | variantOf (cs : List Nat) (negated : Bool)
  | dot (newlines : Bool)
  /-- A single byte. -/
  | unit
  /-- A character that passes a test. -/
  | test (t : CharTest)
  | cls (k : CharClass)
  | newlineSequence (narrow : Bool)
  | cluster
  deriving Repr

/-- What a group asks before it takes a branch. -/
inductive Question where
  | isSet (groups : List Nat)
  /-- Whether one of these groups is being called; none stands for any. -/
  | isCalled (groups : Option (List Nat))
  | fixed (answer : Bool)
  /-- The assertion that comes first in the body. -/
  | assertion
  deriving DecidableEq, Repr

/-- The kinds of groups. Those that check for an empty match remember where they started and do not
repeat after one. -/
inductive GroupKind where
  | plain (checksEmpty : Bool)
  | capture (n : Nat)
  | atomic
  | lookahead (negated keepsChoices : Bool)
  | lookbehind (negated keepsChoices : Bool)
  | conditional (q : Question) (checksEmpty : Bool)
  | scriptRun
  deriving DecidableEq, Repr

/-- Whether a group must be matched. -/
inductive Entry where
  | always
  /-- It may be skipped, which is tried last. -/
  | tryFirst
  /-- It may be skipped, which is tried first. -/
  | skipFirst
  /-- It is there for others to call. -/
  | never
  deriving DecidableEq, Repr

/-- What may follow the end of a group. -/
inductive Again where
  /-- Only what comes next. -/
  | no
  /-- The group once more, as often as it can. -/
  | greedy
  /-- The group once more, if need be. -/
  | lazy
  /-- The group as often as it can, without a way back. -/
  | possessive
  deriving DecidableEq, Repr

inductive Code where
  /-- The end of a branch, or no further branch. -/
  | done
  | one (i : Item) (next : Code)
  /-- An item, repeated; no greatest count means no bound. -/
  | many (i : Item) (lo : Nat) (hi : Option Nat) (greed : Greed) (next : Code)
  /-- What the first of these groups that is set has matched, repeated. -/
  | backref (groups : List Nat) (rule : Option CaseRule) (lo : Nat) (hi : Option Nat) (greed : Greed)
      (next : Code)
  | anchor (a : Anchor) (next : Code)
  /-- The match starts here. -/
  | setStart (next : Code)
  | verb (v : Verb) (next : Code)
  | nextBranch (address : Nat) (next : Code)
  | fail
  /-- Ends the match, or the assertion around it, and closes the groups around it. -/
  | accept (inAssertion : Bool) (closes : List Nat)
  /-- The body of a group, run here; zero stands for the whole pattern. -/
  | call (n : Nat) (next : Code)
  /-- Back by so many characters, as many as possible first. -/
  | stepBack (lo hi : Nat) (next : Code)
  /-- The end of a stretch that began with a varying step back: it must be where that began. -/
  | arrive (next : Code)
  | group (kind : GroupKind) (entry : Entry) (again : Again) (body next : Code)
  | branch (stop : Nat) (first others : Code)
  deriving Repr

namespace Code

def isBranch : Code → Bool
  | .branch .. => true
  | _ => false

/-- Whether a body has more than one branch. -/
def hasChoice : Code → Bool
  | .branch _ _ (.branch ..) => true
  | _ => false

def lastBranch : Code → Code
  | .branch stop first others =>
    match others with
    | .branch .. => others.lastBranch
    | _ => .branch stop first .done
  | c => c

/-- The bodies of all capturing groups, in order, with their numbers. -/
def bodies : Code → List (Nat × Code)
  | .one _ next => next.bodies
  | .many _ _ _ _ next => next.bodies
  | .backref _ _ _ _ _ next => next.bodies
  | .anchor _ next => next.bodies
  | .setStart next => next.bodies
  | .verb _ next => next.bodies
  | .nextBranch _ next => next.bodies
  | .call _ next => next.bodies
  | .stepBack _ _ next => next.bodies
  | .arrive next => next.bodies
  | .group (.capture n) _ _ body next => (n, body) :: (body.bodies ++ next.bodies)
  | .group _ _ _ body next => body.bodies ++ next.bodies
  | .branch _ first others => first.bodies ++ others.bodies
  | _ => []

/-- Gives addresses, counted up from `n`, to the ends of branches and to the places that move on to
the next branch. Returns the code and the next address. -/
def withAddresses : Code → Nat → Code × Nat
  | .one i next, n => let (next, m) := next.withAddresses n; (.one i next, m)
  | .many i lo hi greed next, n =>
    let (next, m) := next.withAddresses n
    (.many i lo hi greed next, m)
  | .backref groups rule lo hi greed next, n =>
    let (next, m) := next.withAddresses n
    (.backref groups rule lo hi greed next, m)
  | .anchor a next, n => let (next, m) := next.withAddresses n; (.anchor a next, m)
  | .setStart next, n => let (next, m) := next.withAddresses n; (.setStart next, m)
  | .verb v next, n => let (next, m) := next.withAddresses n; (.verb v next, m)
  | .nextBranch _ next, n =>
    let (next, m) := next.withAddresses (n + 1)
    (.nextBranch n next, m)
  | .call k next, n => let (next, m) := next.withAddresses n; (.call k next, m)
  | .stepBack lo hi next, n => let (next, m) := next.withAddresses n; (.stepBack lo hi next, m)
  | .arrive next, n => let (next, m) := next.withAddresses n; (.arrive next, m)
  | .group kind entry again body next, n =>
    let (body, m) := body.withAddresses n
    let (next, k) := next.withAddresses m
    (.group kind entry again body next, k)
  | .branch _ first others, n =>
    let (first, m) := first.withAddresses n
    let (others, k) := others.withAddresses m
    (.branch m first others, k)
  | c, n => (c, n)

end Code

end BoundedRegex.Program
