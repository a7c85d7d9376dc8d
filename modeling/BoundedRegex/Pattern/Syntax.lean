import BoundedRegex.Pattern.CharKind
import BoundedRegex.Pattern.Options
import BoundedRegex.Pattern.Source

/-!
# Patterns as trees

What a pattern says once it has been read. A branch is a chain of `seq` cells that ends in `empty`;
the body of a group is a chain of `alt` cells whose last link is a branch. Options are already part
of the items they affect, and references keep the offset at which a fault would be reported.
-/
namespace BoundedRegex.Pattern

/-- A test of one character against a set or its complement. -/
inductive CharTest where
  | kind (k : CharKind) (negated : Bool)
  | property (p : Property) (negated : Bool)
  deriving Repr

/-- Whether a character passes a test. -/
def CharTest.accepts : CharTest → Nat → Bool
  | .kind k negated, c => k.contains c != negated
  | .property p negated, c => p.contains c != negated

/-- One part of a character class. -/
inductive ClassItem where
  /-- The characters from `lo` to `hi`. -/
  | range (lo hi : Nat)
  /-- The characters that pass a test. -/
  | test (t : CharTest)
  deriving Repr

/-- A character class. Only its ranges follow the case rule. -/
structure CharClass where
  negated : Bool
  caseRule : Option CaseRule
  items : List ClassItem
  deriving Repr

/-- Whether one part of a class takes a character. -/
def ClassItem.accepts (rule : Option CaseRule) (c : Nat) : ClassItem → Bool
  | .range lo hi =>
    between lo hi c ||
      match rule with
      | some rule => (rule.variants c).any (between lo hi)
      | none => false
  | .test t => t.accepts c

/-- Whether a class takes a character. -/
def CharClass.accepts (k : CharClass) (c : Nat) : Bool :=
  k.items.any (·.accepts k.caseRule c) != k.negated

/-- A condition on the place in the subject that consumes nothing. -/
inductive Anchor where
  /-- `\A`: the start of the subject. -/
  | textStart
  /-- `^`: the start of the subject. -/
  | start
  /-- `^` over many lines. -/
  | lineStart
  /-- `\z`: the end of the subject. -/
  | textEnd
  /-- `$` and `\Z`: the end of the subject, or before a newline that ends it. -/
  | nearEnd
  /-- `$` over many lines. -/
  | lineEnd
  /-- `\G`: where the search started. -/
  | searchStart
  /-- `\b` and `\B`: between a word character and another, or not. -/
  | wordBoundary (negated ucp : Bool)
  deriving DecidableEq, Repr

/-- How a repeat chooses its count. -/
inductive Greed where
  /-- As many as possible first. -/
  | greedy
  /-- As few as possible first. -/
  | lazy
  /-- As many as possible, and never fewer. -/
  | possessive
  deriving DecidableEq, Repr

/-- How often an item repeats; no greatest count means no bound. -/
structure Quantifier where
  lo : Nat
  hi : Option Nat
  greed : Greed
  deriving DecidableEq, Repr

/-- Items that steer backtracking. -/
inductive Verb where
  /-- Names the current place for a later skip. -/
  | mark (name : List Nat)
  /-- Backtracking onto it ends the search. -/
  | commit
  /-- Backtracking onto it ends the attempt at this start. -/
  | prune
  /-- Backtracking onto it moves the start here. -/
  | skip
  /-- Backtracking onto it moves the start to the place of that name. -/
  | skipTo (name : List Nat)
  /-- Backtracking onto it moves on to the next branch. -/
  | next
  deriving DecidableEq, Repr

/-- What a conditional group asks, other than an assertion. -/
inductive Condition where
  | groupSet (n offset : Nat)
  | nameSet (name : Name)
  /-- Whether a group is being called: `R` or `R` with a number, unless a group has that name. -/
  | callOf (name : Name)
  | callOfName (name : Name)
  /-- Never: the group only defines what others call. -/
  | define (offset : Nat)
  | version (atLeast : Bool) (major minor : Nat)
  deriving DecidableEq, Repr

inductive GroupKind where
  /-- Captures under a number. -/
  | capture (n : Nat)
  /-- Groups only. -/
  | plain
  /-- Keeps its first match. -/
  | atomic
  /-- Looks ahead. -/
  | lookahead (negated keepsChoices : Bool)
  /-- Looks behind. -/
  | lookbehind (negated keepsChoices : Bool) (offset : Nat)
  /-- Takes a branch by a condition. -/
  | conditional (c : Condition)
  /-- Takes a branch by the assertion that comes first in its body. -/
  | conditionalOnAssertion
  /-- Matches characters of one script only. -/
  | scriptRun
  deriving DecidableEq, Repr

/-- A pattern or a part of one. -/
inductive Node where
  /-- The end of a branch. -/
  | empty
  /-- An item and the rest of the branch. -/
  | seq (first rest : Node)
  /-- A branch and the other branches. -/
  | alt (first rest : Node)
  /-- A character, in either case under a rule. -/
  | literal (c : Nat) (rule : Option CaseRule)
  | dot (newlines : Bool)
  /-- A single byte. -/
  | unit
  /-- A character that passes a test. -/
  | test (t : CharTest)
  | cls (k : CharClass)
  /-- `\R`: a newline of any form. -/
  | newlineSequence
  /-- `\X`: a grapheme cluster. -/
  | cluster
  | anchor (a : Anchor)
  /-- `\K`: the match starts here. -/
  | setStart
  /-- What a group matched, once more. -/
  | backref (n : Nat) (rule : Option CaseRule) (offset : Nat)
  /-- What a group of that name matched, once more. -/
  | namedBackref (name : Name) (rule : Option CaseRule)
  /-- The pattern of a group, run here; zero stands for the whole pattern. -/
  | call (n offset : Nat)
  /-- The pattern of the group of that name, run here. -/
  | namedCall (name : Name)
  | group (kind : GroupKind) (body : Node)
  | repeated (item : Node) (q : Quantifier)
  | verb (v : Verb)
  /-- Ends the match here with success. -/
  | accept
  | fail
  /-- A point where a caller could look on; nothing happens. -/
  | callout
  deriving Repr

namespace Node

def ofItems : List Node → Node
  | [] => .empty
  | item :: rest => .seq item (ofItems rest)

def ofBranches : List Node → Node
  | [] => .empty
  | [branch] => branch
  | branch :: rest => .alt branch (ofBranches rest)

end Node

structure NamedGroup where
  /-- The bytes of the name, each as the character of that code. -/
  name : List Char
  number : Nat
  deriving DecidableEq, Repr

/-- A pattern as read: its tree, its groups and what holds for all of it. -/
structure Parsed where
  settings : Settings
  body : Node
  /-- The number of capturing groups. -/
  groups : Nat
  names : List NamedGroup
  /-- Some group shares its number with another. -/
  sharedNumbers : Bool

end BoundedRegex.Pattern
