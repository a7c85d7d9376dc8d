import BoundedRegex.Pattern.GroupTable

/-!
# Measuring lookbehinds

A lookbehind steps back before it matches, so the number of characters that each of its branches can
match must be bounded. This module measures branches. It follows references and calls into the
groups they name, but not into a group from inside itself, which has no bound. A pattern that takes
too many branches to measure is refused.
-/
namespace BoundedRegex.Pattern

/-- The fewest and the most characters that a part of a pattern can match. -/
structure Extent where
  lo : Nat := 0
  hi : Nat := 0
  deriving DecidableEq, Repr

namespace Extent

/-- Exactly one character. -/
def one : Extent := ⟨1, 1⟩

/-- What holds for either of two branches. -/
def join (a b : Extent) : Extent := ⟨min a.lo b.lo, max a.hi b.hi⟩

end Extent

/-- The most characters of a branch. -/
def maxBranchExtent : Nat := 65535

/-- The most characters of a branch in a lookbehind whose branches vary in length. -/
def maxVaryingExtent : Nat := 255

/-- The most branches measured in one pattern. -/
def maxBranchVisits : Nat := 2000

/-- What measuring has found so far. -/
structure Survey where
  /-- Branches measured. -/
  visits : Nat := 0
  /-- Groups measured. -/
  known : List (Nat × Extent) := []
  /-- The most characters that any lookbehind steps back. -/
  furthest : Nat := 0

/-- Why something has no measure. The offset is that of the innermost lookbehind unless the cause
has one of its own. -/
structure Unmeasured where
  cause : Cause
  offset : Option Nat := none

abbrev Measure := StateT Survey (Except Unmeasured)

def unmeasured {α : Type} (cause : Cause) (offset : Option Nat) : Measure α :=
  fun _ => .error ⟨cause, offset⟩

def reportAt {α : Type} (offset : Nat) (m : Measure α) : Measure α := fun s =>
  match m s with
  | .ok r => .ok r
  | .error e => .error { e with offset := some (e.offset.getD offset) }

def visitBranch : Measure Unit := do
  let s ← get
  if s.visits > maxBranchVisits then unmeasured .lookbehindTooComplex none
  else set { s with visits := s.visits + 1 }

/-- An extent, if it is not too long for a branch. -/
def bounded (e : Extent) : Measure Extent :=
  if e.hi > maxBranchExtent then unmeasured .lookbehindTooLong none else pure e

def addRepeated (acc item : Extent) (lo hi : Nat) : Measure Extent := do
  let _ ← bounded ⟨acc.lo, acc.hi + item.hi⟩
  bounded ⟨acc.lo + lo * item.lo, acc.hi + hi * item.hi⟩

def Node.endsBranch : Node → Bool
  | .accept => true
  | .fail => true
  | _ => false

/-- Whether an item is a lookahead, whose quantifier does not matter. -/
def Node.isLookahead : Node → Bool
  | .group (.lookahead _ _) _ => true
  | _ => false

/-- Notes how far a lookbehind with these branches steps back, and refuses it if it varies in length
and is too long. -/
def settleLookbehind (branches : List Extent) (offset : Nat) : Measure Unit := do
  let most := branches.foldl (fun n e => max n e.hi) 0
  modify fun s => { s with furthest := max s.furthest most }
  if branches.any (fun e => e.lo != e.hi) && most > maxVaryingExtent then
    unmeasured .variableLookbehindTooLong (some offset)

mutual

def measureBranches (t : GroupTable) (utf : Bool) (depth : Nat) (around : List Nat) (body : Node) :
    Measure (List Extent) :=
  match body with
  | .alt first rest => do
    visitBranch
    let e ← measureBranch t utf depth around {} first
    return e :: (← measureBranches t utf depth around rest)
  | branch => do
    visitBranch
    return [← measureBranch t utf depth around {} branch]
termination_by (depth, sizeOf body, 2)

/-- Measures a branch, of which `acc` has been measured. -/
def measureBranch (t : GroupTable) (utf : Bool) (depth : Nat) (around : List Nat) (acc : Extent)
    (branch : Node) : Measure Extent :=
  match branch with
  | .seq (.repeated item q) rest => do
    let e ← measureItem t utf depth around item
    let acc ←
      if item.isLookahead then pure acc
      else
        match q.hi with
        | some hi => addRepeated acc e q.lo hi
        | none => unmeasured .unboundedLookbehind none
    measureBranch t utf depth around acc rest
  | .seq item rest => do
    if item.endsBranch then return acc
    let e ← measureItem t utf depth around item
    measureBranch t utf depth around (← addRepeated acc e 1 1) rest
  | _ => return acc
termination_by (depth, sizeOf branch, 1)

def measureItem (t : GroupTable) (utf : Bool) (depth : Nat) (around : List Nat) (item : Node) :
    Measure Extent :=
  match item with
  | .literal _ _ => return .one
  | .dot _ => return .one
  | .test _ => return .one
  | .cls _ => return .one
  | .unit => if utf then unmeasured .codeUnitInLookbehind none else return .one
  | .newlineSequence => return ⟨1, 2⟩
  | .cluster => unmeasured .unboundedLookbehind none
  | .backref n _ offset =>
    if t.sharedNumbers then unmeasured .unboundedLookbehind none
    else measureGroup t utf depth around n (t.referenceOffset n offset)
  | .namedBackref name _ =>
    match t.numbersOf name.bytes with
    | [] => unmeasured .unknownGroup (some name.offset)
    | [n] =>
      if t.sharedNumbers then unmeasured .unboundedLookbehind none
      else measureGroup t utf depth around n name.offset
    | _ => unmeasured .unboundedLookbehind none
  | .call n offset => measureGroup t utf depth around n offset
  | .namedCall name =>
    match t.numbersOf name.bytes with
    | [] => unmeasured .unknownGroup (some name.offset)
    | n :: _ => measureGroup t utf depth around n name.offset
  | .group (.lookahead _ _) body => do
    checkLookbehinds t utf depth around body
    return {}
  | .group (.lookbehind _ _ offset) body => do
    let branches ← reportAt offset (measureBranches t utf depth around body)
    settleLookbehind branches offset
    return {}
  | .group (.conditional (.define _)) _ => return {}
  | .group kind body => do
    match kind with
    | .capture n =>
      match (← get).known.lookup n with
      | some e => if t.sharedNumbers then measureBody t utf depth around body else return e
      | none => do
        let e ← measureBody t utf depth around body
        modify fun s => { s with known := (n, e) :: s.known }
        return e
    | _ => measureBody t utf depth around body
  | .repeated item _ => measureItem t utf depth around item
  | _ => return {}
termination_by (depth, sizeOf item, 0)

def measureBody (t : GroupTable) (utf : Bool) (depth : Nat) (around : List Nat) (body : Node) :
    Measure Extent := do
  match ← measureBranches t utf depth around body with
  | [] => return {}
  | e :: rest => return rest.foldl Extent.join e
termination_by (depth, sizeOf body, 3)

/-- Measures a group that is referred to. The groups that are being followed are `around`; a group
that would be followed twice has no bound. -/
def measureGroup (t : GroupTable) (utf : Bool) (depth : Nat) (around : List Nat) (n offset : Nat) :
    Measure Extent :=
  if n > t.count then unmeasured .unknownGroup (some offset)
  else if n == 0 || around.contains n then unmeasured .unboundedLookbehind none
  else
    match depth, t.body? n with
    | depth + 1, some body => do
      match (← get).known.lookup n with
      | some e =>
        if t.sharedNumbers then measureBody t utf depth (n :: around) body else return e
      | none => do
        let e ← measureBody t utf depth (n :: around) body
        modify fun s => { s with known := (n, e) :: s.known }
        return e
    | _, _ => unmeasured .unboundedLookbehind none
termination_by (depth, 0, 0)

/-- Measures every lookbehind in a part of a pattern. -/
def checkLookbehinds (t : GroupTable) (utf : Bool) (depth : Nat) (around : List Nat) (node : Node) :
    Measure Unit :=
  match node with
  | .seq first rest => do
    checkLookbehinds t utf depth around first
    checkLookbehinds t utf depth around rest
  | .alt first rest => do
    checkLookbehinds t utf depth around first
    checkLookbehinds t utf depth around rest
  | .repeated item _ => checkLookbehinds t utf depth around item
  | .group (.lookbehind _ _ offset) body => do
    let branches ← reportAt offset (measureBranches t utf depth around body)
    settleLookbehind branches offset
  | .group _ body => checkLookbehinds t utf depth around body
  | _ => return ()
termination_by (depth, sizeOf node, 0)

end

/-- Measures all lookbehinds of a pattern and tells how far they step back at most. -/
def furthestStepBack (t : GroupTable) (utf : Bool) (body : Node) : Except Fault Nat :=
  match (checkLookbehinds t utf (t.count + 1) [] body).run {} with
  | .ok ((), s) => .ok s.furthest
  | .error e => .error ⟨e.cause, e.offset.getD 0⟩

/-- For each branch of a lookbehind, the fewest and most characters to step back. Branches of a fixed
length step back by that. -/
def stepsBack (t : GroupTable) (utf : Bool) (body : Node) : List Extent :=
  match (measureBranches t utf (t.count + 1) [] body).run {} with
  | .ok (branches, _) =>
    if branches.any (fun e => e.lo != e.hi) then
      let least := branches.foldl (fun n e => min n e.lo) maxBranchExtent
      branches.map fun e => ⟨min least e.hi, e.hi⟩
    else branches
  | .error _ => []

end BoundedRegex.Pattern
