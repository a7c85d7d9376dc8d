import BoundedRegex.Program.Lowering
import BoundedRegex.Program.MinLength
import BoundedRegex.Program.StartSet

/-!
# Where a match can start

What can be told from code about the places where a search need not try: whether a match must start
where the search does or at the start of a line, with which byte or bytes it must begin, which byte
it must contain, and how long it must be. The search consults this before it runs any code.
-/
namespace BoundedRegex.Program
open Text Unicode Pattern

structure EitherByte where
  byte : Nat
  other : Nat
  deriving DecidableEq, Repr

def EitherByte.accepts (e : EitherByte) (b : Nat) : Bool := b == e.byte || b == e.other

/-- What is known about the start of a match. -/
structure StartHints where
  /-- A match starts where the search does. -/
  anchored : Bool := false
  /-- A match starts where the search does or behind a newline. -/
  startsLine : Bool := false
  /-- The byte that a match begins with. -/
  first : Option EitherByte := none
  /-- For each byte, whether a match can begin with it. -/
  startSet : Option (Array Bool) := none
  /-- A byte that a match contains, behind the first byte if that is known. -/
  required : Option EitherByte := none
  /-- A match has at least this many characters. -/
  minLength : Nat := 0
  deriving Repr

/-- Whether references lead to a group. Groups from 32 on are not told apart. -/
def isReferenced (references : List Nat) (n : Nat) : Bool :=
  if n < 32 then references.contains n else references.any (· ≥ 32)

/-- What a leading `.*` is judged by. -/
structure DotStar where
  /-- Whether a leading `.*` may anchor at all. -/
  allowed : Bool
  references : List Nat

/-- Whether every branch starts at the start of the search. `bound` tells that what a leading `.*` has
taken matters to something else. -/
def Code.isAnchored (d : DotStar) (bound : Bool) : Code → Bool
  | .branch _ first others =>
    first.isAnchored d bound && (!others.isBranch || others.isAnchored d bound)
  | .verb (.mark _) next => next.isAnchored d bound
  | .verb (.skipTo _) next => next.isAnchored d bound
  | .many (.dot true) 0 none _ _ => !bound && d.allowed
  | .anchor .start _ => true
  | .anchor .textStart _ => true
  | .anchor .searchStart _ => true
  | .group kind entry _ body next =>
    match entry, kind with
    | .never, _ => next.isAnchored d bound
    | .always, .plain _ => body.isAnchored d bound
    | .always, .capture n => body.isAnchored d (bound || isReferenced d.references n)
    | .always, .lookahead false _ => body.isAnchored d true
    | .always, .atomic => body.isAnchored d true
    | .always, .conditional q _ =>
      if body.hasChoice then body.isAnchored d bound
      else q == .fixed false && next.isAnchored d bound
    | _, _ => false
  | _ => false

def Code.startsLine (d : DotStar) (bound : Bool) : Code → Bool
  | .branch _ first others =>
    first.startsLine d bound && (!others.isBranch || others.startsLine d bound)
  | .verb (.mark _) next => next.startsLine d bound
  | .verb (.skipTo _) next => next.startsLine d bound
  | .many (.dot false) 0 none _ _ => !bound && d.allowed
  | .anchor .start _ => true
  | .anchor .lineStart _ => true
  | .group kind entry _ body next =>
    match entry, kind with
    | .never, _ => next.startsLine d bound
    | .always, .plain _ => body.startsLine d bound
    | .always, .capture n => body.startsLine d (bound || isReferenced d.references n)
    | .always, .lookahead false _ => body.startsLine d true
    | .always, .atomic => body.startsLine d true
    | .always, .conditional .assertion false =>
      match body with
      | .branch _ (.group _ _ _ look rest) _ => look.startsLine d true && rest.startsLine d bound
      | _ => false
    | .always, .conditional (.fixed false) _ => !body.hasChoice && next.startsLine d bound
    | _, _ => false
  | _ => false

/-! ## Bytes that a lookahead asserts -/

/-- The first byte of a branch, whether it may be in either case, and whether it comes from a group. -/
structure AssertedByte where
  byte : Nat
  caseless : Bool
  fromGroup : Bool

/-- The byte that all branches share, if they do. -/
def sharedByte? : List AssertedByte → Option (Nat × Bool)
  | [] => none
  | b :: rest =>
    if rest.all (fun c => c.byte == b.byte && (!c.fromGroup || c.caseless == b.caseless)) then
      some (b.byte, b.caseless)
    else none

/-- The byte of a character inside a lookahead. A caseless one must be in ASCII. -/
def assertedLiteral? (utf inLook : Bool) (c : Nat) (caseless : Bool) : Option (List AssertedByte) :=
  if inLook && (!caseless || c < 0x80) then some [⟨leadOf utf c, caseless, false⟩] else none

/-- The first bytes of all branches as far as lookaheads assert them. -/
def Code.assertedBytes? (utf inLook : Bool) : Code → Option (List AssertedByte)
  | .branch _ first others => do
    let a ← first.assertedBytes? utf inLook
    if others.isBranch then return a ++ (← others.assertedBytes? utf inLook) else return a
  | .one (.literal c caseless _) _ => assertedLiteral? utf inLook c caseless
  | .many (.literal c caseless _) lo _ _ _ =>
    if lo > 0 then assertedLiteral? utf inLook c caseless else none
  | .anchor (.wordBoundary _ _) next => next.assertedBytes? utf inLook
  | .verb (.mark _) next => next.assertedBytes? utf inLook
  | .verb (.skipTo _) next => next.assertedBytes? utf inLook
  | .group kind entry _ body next =>
    let through (bytes : Option (List AssertedByte)) : Option (List AssertedByte) :=
      (bytes.bind sharedByte?).map fun b => [⟨b.1, b.2, true⟩]
    match entry, kind with
    | .never, _ => next.assertedBytes? utf inLook
    | .always, .lookahead true _ => next.assertedBytes? utf inLook
    | .always, .lookbehind _ _ => next.assertedBytes? utf inLook
    | .always, .conditional (.fixed false) _ =>
      if body.hasChoice then none else next.assertedBytes? utf inLook
    | .always, .plain checksEmpty =>
      if checksEmpty then none else through (body.assertedBytes? utf inLook)
    | .always, .capture _ => through (body.assertedBytes? utf inLook)
    | .always, .lookahead false _ => through (body.assertedBytes? utf true)
    | .always, .atomic => through (body.assertedBytes? utf inLook)
    | .always, .scriptRun => through (body.assertedBytes? utf inLook)
    | _, _ => none
  | _ => none

/-- The byte that every match begins with as far as lookaheads assert it. -/
def Code.assertedByte? (utf : Bool) (code : Code) : Option (Nat × Bool) :=
  (code.assertedBytes? utf false).bind sharedByte?

/-! ## All hints together -/

def otherCase (settings : Settings) (b : Nat) : Nat :=
  let variants :=
    if b < 128 then asciiVariants b
    else if settings.ucp && !settings.utf then (caseVariants b).filter (· < 256)
    else []
  variants.headD b

/-- A byte in one case or in both. -/
def eitherByte (settings : Settings) (b : Nat) (caseless : Bool) : EitherByte :=
  ⟨b, if caseless then otherCase settings b else b⟩

/-- What a set of one byte, or of one byte in both cases, comes down to. -/
def narrowSet? (settings : Settings) : List Nat → Option EitherByte
  | [a] => if settings.utf && a > 127 then none else some ⟨a, a⟩
  | [a, b] =>
    if a / 8 == b / 8 || (settings.utf && b > 127) then none
    else
      let variants :=
        if b > 127 && (settings.utf || settings.ucp) then caseVariants b else asciiVariants b
      let simple := !(settings.utf || settings.ucp) || (caseVariants b).length < 2
      if simple && variants.headD b == a then some ⟨a, b⟩ else none
  | _ => none

def flagsOf (bytes : List Nat) : Array Bool :=
  bytes.foldl (fun flags b => flags.setIfInBounds b true) (Array.replicate 256 false)

/-- Whether the required byte is part of another character than the first byte. -/
def isOwnCharacter (utf : Bool) (first : Option (Nat × Bool)) (b : Nat) : Bool :=
  match first with
  | some (f, _) => !utf || f < 0x80 || b < 0x80
  | none => true

def StartHints.of (settings : Settings) (p : LoweredPattern) : StartHints :=
  let code := p.body.code
  let d : DotStar :=
    ⟨settings.dotStarAnchor && !p.findings.movesStart, p.findings.references⟩
  let anchored := code.isAnchored d false
  if !settings.startOptimize then { anchored := anchored }
  else
    let required := if p.findings.accepts then .absent else p.body.required
    let first : Option (Nat × Bool) :=
      match p.body.first with
      | .known b caseless _ => some (b, caseless)
      | _ =>
        match code.assertedByte? settings.utf, required with
        | some (b, caseless), .known r _ _ => if b == r then none else some (b, caseless)
        | asserted, _ => asserted
    let startsLine := first.isNone && !anchored && code.startsLine d false
    let least :=
      first.toList.length +
        match required with
        | .known b _ _ => if isOwnCharacter settings.utf first b then 1 else 0
        | _ => 0
    let required : Option EitherByte :=
      match required with
      | .known b caseless varying =>
        if !anchored || varying then some (eitherByte settings b caseless) else none
      | _ => none
    let set := if first.isNone && !startsLine then code.startSet? settings.utf else none
    let narrow := set.bind (narrowSet? settings)
    let required :=
      match narrow, required with
      | some n, some r => if n.accepts r.byte then none else some r
      | _, r => r
    let startSet := if narrow.isSome then none else set.map flagsOf
    let least := if startSet.isSome && least == 0 then 1 else least
    let measured :=
      if p.body.canBeEmpty || p.findings.accepts ||
          p.findings.references.any (· > maxLengthReferences) then 0
      else shortestMatch settings.utf code
    { anchored := anchored, startsLine := startsLine
      first := (first.map fun f => eitherByte settings f.1 f.2) <|> narrow
      startSet := startSet, required := required, minLength := max least measured }

end BoundedRegex.Program
