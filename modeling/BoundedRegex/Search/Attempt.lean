import BoundedRegex.Search.Machine

/-!
# Bounded attempts

An attempt lets a machine run from one start position. Each entry is charged once, before anything
is done there, and the first one is charged too. The steps between two entries are free. The bounds
stand outside the machine, so two attempts under different bounds agree on everything up to the entry
that exceeds the tighter ones.
-/
namespace BoundedRegex.Search
open Program

structure Bounds where
  entries : Nat
  /-- The depth of each entry stays below this. -/
  nesting : Nat
  /-- Memory holds entries of a depth below this, and the first one in any case. -/
  room : Nat
  deriving DecidableEq, Repr

/-- Which bound has been exceeded. -/
inductive Excess where
  | entries
  | nesting
  | memory
  deriving DecidableEq, Repr

structure Attempt where
  answer : Except Excess Ending
  /-- How many skips to marks have been met. -/
  skips : Nat
  /-- The greatest depth of an entry that memory was needed for. -/
  deepest : Nat

/-- More steps than any machine takes between two entries: each of them shortens the code that is
left, or picks up something that has been put down. -/
def stepFuel : Nat := 0x1000000000000

namespace Environment

def runToEntry (env : Environment) : Nat → Task → Machine → Step
  | 0, _, m => .stop (.broken .stuck) m
  | fuel + 1, t, m =>
    match env.step t m with
    | .go t m => env.runToEntry fuel t m
    | s => s

/-- Runs to the end, with so many entries left. -/
def runBounded (env : Environment) (b : Bounds) (t : Task) (m : Machine) (deepest left : Nat) :
    Attempt :=
  match env.runToEntry stepFuel t m with
  | .go _ m => ⟨.ok (.broken .stuck), m.skips, deepest⟩
  | .stop e m => ⟨.ok e, m.skips, deepest⟩
  | .enter t m =>
    let deepest := max deepest m.depth
    if b.room ≤ m.depth then ⟨.error .memory, m.skips, deepest⟩
    else
      match left with
      | 0 => ⟨.error .entries, m.skips, deepest⟩
      | left + 1 =>
        if b.nesting ≤ m.depth then ⟨.error .nesting, m.skips, deepest⟩
        else env.runBounded b t m deepest left

def attempt (env : Environment) (b : Bounds) (p : Nat) : Attempt :=
  let r : Registers := ⟨p, p, Array.replicate env.program.groups none, none⟩
  let t : Task := .run (.group (.plain false) .always .no env.program.code .done) .finish r
  match b.entries with
  | 0 => ⟨.error .entries, 0, 0⟩
  | left + 1 =>
    if b.nesting = 0 then ⟨.error .nesting, 0, 0⟩
    else env.runBounded b t { furthest := p } 0 left

end Environment

end BoundedRegex.Search
