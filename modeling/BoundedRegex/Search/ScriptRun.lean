import BoundedRegex.Search.Subject
import BoundedRegex.Unicode.Script
import BoundedRegex.Unicode.Category

/-!
# Script runs

A stretch of characters is a script run if all of them can belong to one script and all decimal digits
come from one set of ten. Characters shared by all scripts count for each. Writing systems that mix
scripts, such as the Japanese, count as scripts of their own.
-/
namespace BoundedRegex.Search
open Unicode

def mixedSystems : String → List String
  | "hani" => ["jpan", "hanb", "kore"]
  | "hira" => ["jpan"]
  | "kana" => ["jpan"]
  | "hang" => ["kore"]
  | "bopo" => ["hanb"]
  | _ => []

/-- The scripts and writing systems that a character can belong to; none stands for all. -/
def systemsOf (c : Nat) : Option (List String) :=
  let own := scriptOf c
  let shared := (scriptExtensions c).map (·.code)
  if shared.isEmpty then
    if own.code == "zyyy" || own.code == "zinh" then none
    else some (own.code :: mixedSystems own.code)
  else some (shared.flatMap fun code => code :: mixedSystems code)

def narrowSystems (left : Option (List String)) (c : Nat) : Option (List String) :=
  match left, systemsOf c with
  | none, systems => systems
  | left, none => left
  | some a, some b => some (a.filter b.contains)

def digitZero? (c : Nat) : Option Nat :=
  if isDecimalDigit c then
    some (((List.range 10).map (c - ·)).foldl
      (fun least d => if least == d + 1 && isDecimalDigit d then d else least) c)
  else none

def isRun (cs : List Nat) : Bool :=
  match cs with
  | [] => true
  | [_] => true
  | _ =>
    let systems := cs.foldl narrowSystems none
    let zeros := (cs.filterMap digitZero?).eraseDups
    !cs.any (fun c => (scriptOf c).code == "zzzz") && systems != some [] && zeros.length ≤ 1

namespace Subject

/-- The characters between two positions; `fuel` bounds their number. -/
def charsBetween (s : Subject) (stop : Nat) : Nat → Nat → List Nat
  | 0, _ => []
  | fuel + 1, p => if stop ≤ p then [] else s.charAt p :: s.charsBetween stop fuel (s.afterChar p)

def isScriptRun (s : Subject) (p stop : Nat) : Bool :=
  isRun (s.charsBetween stop (stop - p) p)

end Subject

end BoundedRegex.Search
