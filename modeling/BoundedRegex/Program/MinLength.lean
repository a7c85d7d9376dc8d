import BoundedRegex.Program.Code

/-!
# The shortest match

A lower bound on the number of characters of a match. References and calls count as the group they
name, except inside that group, where they count as nothing and their branch is passed over if
another one tells more. A pattern that takes too long to measure has no bound.
-/
namespace BoundedRegex.Program
open Pattern

/-- Lengths are not counted further than this. -/
def maxLength : Nat := 65535

/-- The most bodies looked at in one pattern. -/
def maxBodyVisits : Nat := 1000

/-- What has been found so far. -/
structure LengthSurvey where
  visits : Nat := 0
  references : List (Nat × Nat) := []

/-- A computation of lengths; none means that there is no bound. -/
abbrev Shortest := OptionT (StateM LengthSurvey)

/-- The groups that references lead to. -/
structure Targets where
  bodies : List (Nat × Code)
  utf : Bool

/-- Whether a number belongs to more than one group. -/
def Targets.isShared (t : Targets) (n : Nat) : Bool :=
  (t.bodies.filter (·.1 == n)).length > 1

/-- A length with whether its branch refers to a group from inside it. -/
structure BranchLength where
  length : Nat
  refersInside : Bool

def BranchLength.add (b : BranchLength) (n : Nat) : BranchLength :=
  { b with length := min maxLength (b.length + n) }

/-- The call that a group consists of, if it is one. -/
def soleCall? : Code → Option Nat
  | .branch _ (.call n .done) .done => some n
  | _ => none

mutual

def shortestBody (t : Targets) (depth : Nat) (inside following : List Nat) (body : Code) :
    Shortest Nat := do
  let s ← get
  if s.visits > maxBodyVisits then failure
  set { s with visits := s.visits + 1 }
  shortestOf t depth inside following none body
termination_by (depth, sizeOf body, 1)

def shortestOf (t : Targets) (depth : Nat) (inside following : List Nat) (before : Option Nat)
    (body : Code) : Shortest Nat :=
  match body with
  | .branch _ first others => do
    let b ← shortestBranch t depth inside following ⟨0, false⟩ first
    let length :=
      match before with
      | none => b.length
      | some n => if b.refersInside then n else min n b.length
    if length == 0 then return 0
    match others with
    | .branch stop first' others' =>
      shortestOf t depth inside following (some length) (.branch stop first' others')
    | _ => return length
  | _ => return before.getD 0
termination_by (depth, sizeOf body, 0)

/-- The length of a branch, of which `acc` has been counted. -/
def shortestBranch (t : Targets) (depth : Nat) (inside following : List Nat) (acc : BranchLength)
    (code : Code) : Shortest BranchLength :=
  match code with
  | .one i next =>
    match i with
    | .unit => if t.utf then failure else shortestBranch t depth inside following (acc.add 1) next
    | _ => shortestBranch t depth inside following (acc.add 1) next
  | .many _ lo _ _ next => shortestBranch t depth inside following (acc.add lo) next
  | .backref groups _ lo _ _ next => do
    let (d, refersInside) ← shortestReference t depth inside following groups
    shortestBranch t depth inside following
      { (acc.add (lo * d)) with refersInside := acc.refersInside || refersInside } next
  | .call n next => do
    let acc ← afterCall n acc
    shortestBranch t depth inside following acc next
  | .group kind entry _ body next => do
    let acc ←
      if entry != .always then pure acc
      else
        match kind with
        | .lookahead _ _ => pure acc
        | .lookbehind _ _ => pure acc
        | .conditional _ checksEmpty =>
          if checksEmpty || !body.hasChoice then pure acc
          else pure (acc.add (← shortestBody t depth inside following body))
        | .plain true => pure acc
        | .plain false =>
          match soleCall? body with
          | some n => afterCall n acc
          | none => pure (acc.add (← shortestBody t depth inside following body))
        | .capture n => pure (acc.add (← shortestBody t depth (n :: inside) following body))
        | _ => pure (acc.add (← shortestBody t depth inside following body))
    shortestBranch t depth inside following acc next
  | .anchor _ next => shortestBranch t depth inside following acc next
  | .setStart next => shortestBranch t depth inside following acc next
  | .verb _ next => shortestBranch t depth inside following acc next
  | .nextBranch _ next => shortestBranch t depth inside following acc next
  | .stepBack _ _ next => shortestBranch t depth inside following acc next
  | .arrive next => shortestBranch t depth inside following acc next
  | _ => return acc
termination_by (depth, sizeOf code, 0)
where
  afterCall (n : Nat) (acc : BranchLength) : Shortest BranchLength :=
    if n == 0 || inside.contains n || following.contains n then
      return { acc with refersInside := true }
    else
      match depth, t.bodies.lookup n with
      | depth + 1, some body => do
        return acc.add (← shortestBody t depth [n] (n :: following) body)
      | _, _ => return acc
  termination_by (depth, 0, 0)

/-- The length of the shortest of some groups that are referred to, and whether the reference is from
inside. -/
def shortestReference (t : Targets) (depth : Nat) (inside following groups : List Nat) :
    Shortest (Nat × Bool) :=
  match groups with
  | [] => return (0, false)
  | n :: rest => do
    let (d, refersInside) ←
      match (← get).references.lookup n with
      | some d => pure (d, false)
      | none => do
        let (d, refersInside) ←
          if t.isShared n then pure (0, false)
          else if inside.contains n || following.contains n then pure (0, true)
          else
            match depth, t.bodies.lookup n with
            | depth + 1, some body =>
              pure (← shortestBody t depth [n] (n :: following) body, false)
            | _, _ => pure (0, false)
        modify fun s => { s with references := (n, d) :: s.references }
        pure (d, refersInside)
    if d == 0 || rest.isEmpty then return (d, refersInside)
    let (d', refersInside') ← shortestReference t depth inside following rest
    return (min d d', refersInside || refersInside')
termination_by (depth, 0, groups.length)

end

/-- The most groups that lengths are kept for. -/
def maxLengthReferences : Nat := 128

/-- A lower bound on the length of a match of some code. -/
def shortestMatch (utf : Bool) (code : Code) : Nat :=
  let bodies := code.bodies
  (((shortestBody ⟨bodies, utf⟩ (bodies.length + 1) [] [] code).run {}).1).getD 0

end BoundedRegex.Program
