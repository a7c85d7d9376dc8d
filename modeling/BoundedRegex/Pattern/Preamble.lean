import BoundedRegex.Pattern.Options
import BoundedRegex.Pattern.Source

/-!
# Settings at the start of a pattern

A pattern may begin with settings such as `(*UTF)` or `(*LIMIT_MATCH=1000)`, any number of them.
They hold for all of the pattern.
-/
namespace BoundedRegex.Pattern

/-- The settings without a value. -/
def plainSettings : List (String × (Settings → Settings)) := [
  ("BSR_ANYCRLF)", fun s => { s with narrowNewlineSequence := true }),
  ("BSR_UNICODE)", fun s => { s with narrowNewlineSequence := false }),
  ("CR)", fun s => { s with newline := .cr }),
  ("CRLF)", fun s => { s with newline := .crlf }),
  ("LF)", fun s => { s with newline := .lf }),
  ("ANY)", fun s => { s with newline := .any }),
  ("NUL)", fun s => { s with newline := .nul }),
  ("ANYCRLF)", fun s => { s with newline := .anyCrlf }),
  ("UTF)", fun s => { s with utf := true }),
  ("UCP)", fun s => { s with ucp := true }),
  ("NOTEMPTY)", fun s => { s with notEmpty := true }),
  ("NOTEMPTY_ATSTART)", fun s => { s with notEmptyAtStart := true }),
  ("NO_AUTO_POSSESS)", fun s => { s with autoPossess := false }),
  ("NO_DOTSTAR_ANCHOR)", fun s => { s with dotStarAnchor := false }),
  ("NO_JIT)", id),
  ("NO_START_OPT)", fun s => { s with startOptimize := false })]

def numberSettings : List (String × (Nat → Settings → Settings)) := [
  ("LIMIT_HEAP=", fun n s => { s with heapLimit := some n }),
  ("LIMIT_MATCH=", fun n s => { s with matchLimit := some n }),
  ("LIMIT_DEPTH=", fun n s => { s with nestingLimit := some n }),
  ("LIMIT_RECURSION=", fun n s => { s with nestingLimit := some n })]

/-- The digits from `i` on that keep the number within 32 bits. -/
def readLimit (s : Source) (n i : Nat) : Nat × Nat :=
  if i < s.size then
    match s.at? i with
    | some c =>
      if c.isDigit && n ≤ 429496728 then readLimit s (10 * n + (c.toNat - '0'.toNat)) (i + 1)
      else (n, i)
    | none => (n, i)
  else (n, i)
termination_by s.size - i

/-- Reads the settings that start at `i`, if any, and whether caseless matching is restricted. Each
round reads at least three bytes, which `fuel` counts. -/
def readSettings (s : Source) :
    Nat → Settings → Bool → Nat → Except Fault ((Settings × Bool) × Nat)
  | 0, settings, restrict, i => .ok ((settings, restrict), i)
  | fuel + 1, settings, restrict, i =>
    if !s.startsAt i ['(', '*'] then .ok ((settings, restrict), i)
    else
      let i' := i + 2
      match plainSettings.find? (fun p => s.startsAt i' p.1.toList) with
      | some (name, apply) =>
        readSettings s fuel (apply settings) restrict (i' + name.length)
      | none =>
        if s.startsAt i' "CASELESS_RESTRICT)".toList then
          readSettings s fuel settings true (i' + 18)
        else
          match numberSettings.find? (fun p => s.startsAt i' p.1.toList) with
          | some (name, apply) =>
            let start := i' + name.length
            let (n, j) := readLimit s 0 start
            if j == start || !s.isAt j ')' then failAt .unknownVerb j
            else readSettings s fuel (apply n settings) restrict (j + 1)
          | none => .ok ((settings, restrict), i)

end BoundedRegex.Pattern
