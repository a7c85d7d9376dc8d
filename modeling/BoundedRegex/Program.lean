import BoundedRegex.Pattern.Check
import BoundedRegex.Pattern.Reader
import BoundedRegex.Program.Start

/-!
# Programs

A program is a pattern ready to run: its code, what is known about its groups, and hints about where
it can match. `draft` makes one from the text of a pattern or says why it cannot.
-/
namespace BoundedRegex
open Pattern Program

/-- A pattern ready to run. -/
structure Program where
  settings : Settings
  code : Code
  /-- The number of capturing groups. -/
  groups : Nat
  /-- The bodies of the groups, by number; the first is the whole code. -/
  bodies : Array Code
  names : List NamedGroup
  hints : StartHints
  /-- How many characters before its start a match may look at. -/
  lookback : Nat
  /-- Backtracking may move on to the next branch of a group. -/
  changesBranch : Bool
  /-- A carriage return or line feed is written in the pattern. -/
  writesNewline : Bool

namespace Program

/-- A program with a fault that shows only when the program is stored. -/
structure Draft where
  program : Program
  late : Option Fault

/-- Makes a program of the text of a pattern. -/
def draft (bytes : ByteArray) (settings : Settings) (options : Options) : Except Fault Draft := do
  let parsed ← parse bytes settings options
  let checked ← parsed.check bytes.size
  let settings := parsed.settings
  let lowered := lowerPattern parsed
  let hints := StartHints.of settings lowered
  let code :=
    if settings.autoPossess then lowered.body.code.possess settings.utf lowered.findings.calls []
    else lowered.body.code
  let found := code.bodies
  let bodies := (List.range (parsed.groups + 1)).map fun n =>
    if n == 0 then code else (found.lookup n).getD .fail
  return {
    program := {
      settings := settings, code := code, groups := parsed.groups, bodies := bodies.toArray
      names := parsed.names, hints := hints
      lookback := max checked.furthest (if lowered.findings.looksBack then 1 else 0)
      changesBranch := lowered.findings.changesBranch
      writesNewline := lowered.findings.writesNewline }
    late := checked.late }

/-- The number of the group of a name in bytes, unless several groups have it. -/
def groupNumber? (p : Program) (name : List Char) : Option Nat :=
  match p.names.filter (·.name == name) with
  | [g] => some g.number
  | _ => none

end Program

end BoundedRegex
