import BoundedRegex.Pattern.Lookbehind
import BoundedRegex.Program.Repeat

/-!
# From patterns to code

The items of a pattern are turned into code from left to right. On the way this module keeps account
of bytes that every match must have: a first byte with which each match begins, and a required byte
that comes later. The account errs on the side of knowing nothing.
-/
namespace BoundedRegex.Program
open Text Unicode Pattern

/-- What is known of a byte that a match must have. -/
inductive ByteHint where
  /-- Nothing has been matched yet. -/
  | undecided
  /-- There is no such byte. -/
  | absent
  /-- This byte, perhaps in either case, and perhaps after something of varying length. -/
  | known (byte : Nat) (caseless varying : Bool)
  deriving DecidableEq, Repr

namespace ByteHint

def isKnown : ByteHint → Bool
  | .known _ _ _ => true
  | _ => false

/-- The same byte, after something of varying length if `varying` says so. -/
def orVarying (varying : Bool) : ByteHint → ByteHint
  | .known b caseless v => .known b caseless (v || varying)
  | h => h

/-- Nothing undecided stays so. -/
def decided : ByteHint → ByteHint
  | .undecided => .absent
  | h => h

/-- Whether two hints are alike but for what comes before. -/
def sameByte : ByteHint → ByteHint → Bool
  | .known b caseless _, .known b' caseless' _ => b == b' && caseless == caseless'
  | .undecided, .undecided => true
  | .absent, .absent => true
  | _, _ => false

end ByteHint

/-- The account of a branch. The last two are what the first two go back to if the last item turns
out to be optional. -/
structure Account where
  first : ByteHint := .undecided
  required : ByteHint := .undecided
  optionalFirst : ByteHint := .undecided
  optionalRequired : ByteHint := .undecided
  /-- The last group has set the first byte. -/
  firstFromGroup : Bool := false

namespace Account

/-- After an item of one character that could be many. -/
def afterSet (a : Account) : Account :=
  let first := a.first.decided
  { a with first := first, optionalFirst := first, optionalRequired := a.required }

/-- After an item that matches no character. -/
def afterAnchor (a : Account) : Account :=
  { a with optionalFirst := a.first, optionalRequired := a.required }

/-- After something unknown that the account of optional items does not follow. -/
def afterUnknown (a : Account) : Account :=
  match a.first with
  | .undecided => { a with first := .absent, optionalFirst := .absent }
  | _ => a

def afterCall (a : Account) : Account :=
  let first := a.first.decided
  { a with first := first, optionalFirst := first, firstFromGroup := false }

def afterLiteral (a : Account) (bytes : List Nat) (caseless varying : Bool) : Account :=
  let simple := bytes.length == 1 || !caseless
  let last := ByteHint.known (bytes.getLastD 0) caseless varying
  match a.first with
  | .undecided =>
    let a := { a with optionalFirst := .absent, optionalRequired := a.required }
    if simple then
      { a with
        first := .known (bytes.headD 0) caseless false
        required := if bytes.length == 1 then a.required else .known (bytes.getLastD 0) false varying }
    else { a with first := .absent, required := .absent }
  | first =>
    { a with
      optionalFirst := first, optionalRequired := a.required
      required := if simple then last else a.required }

/-- After a group whose own account ends with these bytes. `varying` tells what came before it. -/
def afterGroup (a : Account) (first required : ByteHint) (varying : Bool) : Account :=
  let a := { a with optionalRequired := a.required, optionalFirst := a.first, firstFromGroup := false }
  let (a, required) :=
    if a.first == .undecided && first != .undecided then
      ({ a with
        first := first.decided, firstFromGroup := first.isKnown, optionalFirst := .absent },
        required)
    else if first.isKnown && !required.isKnown then (a, first.orVarying varying)
    else (a, required)
  if required.isKnown then { a with required := required } else a

def afterLookahead (a : Account) (first required : ByteHint) : Account :=
  let a := { a with optionalRequired := a.required, optionalFirst := a.first, firstFromGroup := false }
  if first.isKnown && required.isKnown then { a with required := required } else a

/-- Once the last item has turned out to be optional. -/
def madeOptional (a : Account) : Account :=
  { a with first := a.optionalFirst, required := a.optionalRequired }

end Account

/-- A branch in code with the end of its account. -/
structure LoweredBranch where
  code : Code
  first : ByteHint
  required : ByteHint
  canBeEmpty : Bool

/-- What two branches have in common: the first byte if it is the same, and the required byte. The
first byte of a branch counts as required where it is no first byte of both. -/
def joinHints (a b : ByteHint × ByteHint) : ByteHint × ByteHint :=
  let same := a.1 == b.1
  let required := if !same && a.1.isKnown && !a.2.isKnown then a.1 else a.2
  let first := if same then a.1 else .absent
  let other := if !first.isKnown && b.1.isKnown && !b.2.isKnown then b.1 else b.2
  let required :=
    if required.sameByte other then
      match other with
      | .known _ _ varying => required.orVarying varying
      | _ => required
    else .absent
  (first, required)

/-- A body in code with its account. -/
structure LoweredBody where
  code : Code
  first : ByteHint
  required : ByteHint
  canBeEmpty : Bool

/-- Puts branches together. -/
def joinBranches (branches : List LoweredBranch) : LoweredBody :=
  let code := branches.foldr (fun b others => Code.branch 0 b.code others) .done
  match branches with
  | [] => ⟨code, .undecided, .undecided, true⟩
  | b :: rest =>
    let (first, required) :=
      rest.foldl (fun hints b => joinHints hints (b.first, b.required)) (b.first, b.required)
    ⟨code, first, required, branches.any (·.canBeEmpty)⟩

/-- What is kept for a whole pattern while it is turned into code. -/
structure Findings where
  /-- Something of varying length has come. -/
  varying : Bool := false
  /-- There is an item that ends the match. -/
  accepts : Bool := false
  movesStart : Bool := false
  /-- There is a verb that moves on to the next branch. -/
  changesBranch : Bool := false
  /-- A carriage return or line feed is written in the pattern. -/
  writesNewline : Bool := false
  calls : Bool := false
  /-- Some item looks at the character before it. -/
  looksBack : Bool := false
  references : List Nat := []

/-- A computation that turns a pattern into code. -/
abbrev Lower := StateM Findings

/-- What stays the same inside a group. -/
structure Surroundings where
  table : GroupTable
  settings : Settings
  inAssertion : Bool := false
  /-- The capturing groups around, up to the innermost assertion. -/
  openGroups : List Nat := []

def Surroundings.bytesOf (s : Surroundings) (c : Nat) : List Nat :=
  if s.settings.utf then encode c else [c]

def literalItem (c : Nat) : Option CaseRule → Item
  | none => .literal c false []
  | some rule =>
    let variants := rule.variants c
    if variants.length ≥ 2 then .variantOf (c :: variants) false else .literal c true variants

def notLiteralItem (c : Nat) (rule : Option CaseRule) : Item :=
  match literalItem c rule with
  | .variantOf cs _ => .variantOf cs true
  | .literal c caseless variants => .notLiteral c caseless variants
  | i => i

/-- The character that a class of two characters stands for in either case. -/
def casePair? (settings : Settings) (c d : Nat) : Option Nat :=
  let variants :=
    if (settings.utf || settings.ucp) && c > 127 then caseVariants c else asciiVariants c
  if (caseVariants c).length < 2 && c != d && variants == [d] then some c else none

/-- A class as an item. Classes of one character, or of one in both cases, are literals. -/
def classItem (settings : Settings) (k : CharClass) : Item :=
  match k.items with
  | [.range lo hi] =>
    if lo == hi then
      if k.negated then notLiteralItem lo k.caseRule else literalItem lo k.caseRule
    else .cls k
  | [.range lo hi, .range lo' hi'] =>
    if !k.negated && lo == hi && lo' == hi' && (casePair? settings lo lo').isSome then
      .literal lo true [lo']
    else .cls k
  | _ => .cls k

/-- Whether a class writes a carriage return or line feed. -/
def classWritesNewline (k : CharClass) : Bool :=
  k.items.any fun
    | .range lo hi => lo == 13 || lo == 10 || hi == 13 || hi == 10
    | .test _ => false

/-- The version that conditions compare with. -/
def versionMajor : Nat := 10

/-- The second part of that version. -/
def versionMinor : Nat := 46

/-- What a condition asks, with names turned into numbers. -/
def questionOf (t : GroupTable) : Condition → Question
  | .groupSet n _ => .isSet [n]
  | .nameSet name => .isSet (t.numbersOf name.bytes)
  | .callOfName name => .isCalled (some (t.numbersOf name.bytes))
  | .callOf name =>
    match t.numbersOf name.bytes with
    | [] =>
      let n := decimal (name.bytes.drop 1)
      .isCalled (if n == 0 then none else some [n])
    | ns => .isSet ns
  | .define _ => .fixed false
  | .version atLeast major minor =>
    .fixed (if atLeast then versionMajor > major || (versionMajor == major && versionMinor ≥ minor)
      else versionMajor == major && versionMinor == minor)

def kindOf (t : GroupTable) : Pattern.GroupKind → GroupKind
  | .capture n => .capture n
  | .plain => .plain false
  | .atomic => .atomic
  | .lookahead negated keeps => .lookahead negated keeps
  | .lookbehind negated keeps _ => .lookbehind negated keeps
  | .conditional c => .conditional (questionOf t c) false
  | .conditionalOnAssertion => .conditional .assertion false
  | .scriptRun => .scriptRun

/-- What holds inside a group. -/
def Surroundings.within (s : Surroundings) : Pattern.GroupKind → Surroundings
  | .capture n => { s with openGroups := n :: s.openGroups }
  | .lookahead _ _ => { s with inAssertion := true, openGroups := [] }
  | .lookbehind _ _ _ => { s with inAssertion := true, openGroups := [] }
  | _ => s

def isDefinition : Pattern.GroupKind → Bool
  | .conditional (.define _) => true
  | _ => false

/-- A group in code, not yet repeated. -/
structure LoweredGroup where
  kind : GroupKind
  body : Code
  canBeEmpty : Bool

/-- An item in code, not yet repeated. -/
inductive Lowered where
  | code (emit : Code → Code)
  | item (i : Item)
  | backref (groups : List Nat) (rule : Option CaseRule)
  | call (n : Nat)
  | group (g : LoweredGroup)

/-- An item under a quantifier. -/
def Lowered.repeated (l : Lowered) (q : Quantifier) : Code → Code :=
  match l with
  | .code emit => emit
  | .item i => repeatItem i q
  | .backref groups rule => repeatBackref groups rule q
  | .call n => repeatCall n q
  | .group g => repeatGroup g.kind g.body g.canBeEmpty q

/-- An item as often as it is written. -/
def Lowered.once (l : Lowered) : Code → Code :=
  l.repeated ⟨1, some 1, .greedy⟩

def afterQuantifier (a : Account) (l : Lowered) (bytes : List Nat) (q : Quantifier) (varying : Bool) :
    Account :=
  let a := if q.lo == 0 then a.madeOptional else a
  if q.lo > 1 then
    match l with
    | .item (.literal _ caseless _) =>
      match bytes with
      | [b] => { a with required := .known b caseless varying }
      | _ => a
    | .group _ =>
      if a.firstFromGroup && !a.required.isKnown then { a with required := a.first } else a
    | _ => a
  else a

/-- The bytes of an item that is a single character. -/
def Lowered.bytes (s : Surroundings) : Lowered → List Nat
  | .item (.literal c _ _) => s.bytesOf c
  | _ => []

def noteItem (s : Surroundings) (a : Account) (i : Item) : Lower Account := do
  match i with
  | .literal c caseless _ =>
    if c == 13 || c == 10 then modify fun f => { f with writesNewline := true }
    return a.afterLiteral (s.bytesOf c) caseless (← get).varying
  | .variantOf _ false => return a.afterUnknown
  | _ => return a.afterSet

mutual

/-- Turns the branches of a body into code. Branches of a lookbehind first step back, by `steps`. -/
def lowerBranches (s : Surroundings) (steps : List Extent) (body : Node) : Lower (List LoweredBranch) :=
  match body with
  | .alt first rest => do
    let branch ← lowerBranch s {} false false first
    return stepped steps.head? branch :: (← lowerBranches s steps.tail rest)
  | branch => do
    let branch ← lowerBranch s {} false false branch
    return [stepped steps.head? branch]
termination_by (sizeOf body, 2)
where
  stepped (step : Option Extent) (branch : LoweredBranch × (Code → Code)) : LoweredBranch :=
    let (b, emit) := branch
    match step with
    | some e =>
      if e.hi == 0 then { b with code := emit .done }
      else if e.lo == e.hi then { b with code := .stepBack e.lo e.hi (emit .done) }
      else { b with code := .stepBack e.lo e.hi (emit (.arrive .done)) }
    | none => { b with code := emit .done }

/-- Turns the rest of a branch into code. `matched` tells whether a character has been matched for
sure, `accepted` whether the branch has ended before its end. -/
def lowerBranch (s : Surroundings) (a : Account) (matched accepted : Bool) (branch : Node) :
    Lower (LoweredBranch × (Code → Code)) :=
  match branch with
  | .seq (.repeated item q) rest => do
    let (l, a, m) ← lowerItem s a true item
    let a := afterQuantifier a l (l.bytes s) q (← get).varying
    if q.hi != some q.lo then modify fun f => { f with varying := true }
    let matched := matched || (m && q.lo > 0 && !accepted)
    let (b, emit) ← lowerBranch s a matched accepted rest
    return (b, fun next => l.repeated q (emit next))
  | .seq item rest => do
    let (l, a, m) ← lowerItem s a false item
    let accepted := accepted || (match item with | .accept => true | _ => false)
    let (b, emit) ← lowerBranch s a (matched || (m && !accepted)) accepted rest
    return (b, fun next => l.once (emit next))
  | _ => return (⟨.done, a.first, a.required, !matched⟩, id)
termination_by (sizeOf branch, 1)

/-- Turns an item into code. Returns it with the account after it and whether it is sure to match a
character. -/
def lowerItem (s : Surroundings) (a : Account) (quantified : Bool) (item : Node) :
    Lower (Lowered × Account × Bool) :=
  match item with
  | .literal c rule => do
    let i := literalItem c rule
    return (.item i, ← noteItem s a i, true)
  | .dot newlines => return (.item (.dot newlines), a.afterSet, true)
  | .unit =>
    return (.item (if s.settings.utf then .unit else .dot true), a.afterSet, true)
  | .test t => return (.item (.test t), a.afterSet, true)
  | .cls k => do
    let i := classItem s.settings k
    if classWritesNewline k then modify fun f => { f with writesNewline := true }
    return (.item i, ← noteItem s a i, true)
  | .newlineSequence =>
    return (.item (.newlineSequence s.settings.narrowNewlineSequence), a.afterSet, true)
  | .cluster => return (.item .cluster, a.afterSet, true)
  | .anchor anchor => do
    match anchor with
    | .wordBoundary _ _ => modify fun f => { f with looksBack := true }
    | .textStart => modify fun f => { f with looksBack := true }
    | _ => pure ()
    let a :=
      match anchor with
      | .start => a
      | .lineStart => a.afterUnknown
      | .lineEnd => a
      | _ => a.afterAnchor
    return (.code (.anchor anchor), a, false)
  | .setStart => return (.code .setStart, a.afterAnchor, false)
  | .backref n rule _ => do
    modify fun f => { f with references := n :: f.references }
    return (.backref [n] rule, a.afterUnknown, false)
  | .namedBackref name rule => do
    let groups := s.table.numbersOf name.bytes
    modify fun f => { f with references := groups ++ f.references }
    return (.backref groups rule, a.afterUnknown, false)
  | .call n _ => do
    modify fun f => { f with calls := true }
    return (.call n, a.afterCall, false)
  | .namedCall name => do
    modify fun f => { f with calls := true }
    return (.call ((s.table.numbersOf name.bytes).headD 0), a.afterCall, false)
  | .verb v => do
    match v with
    | .next => do
      modify fun f => { f with changesBranch := true }
      return (.code (.nextBranch 0), a, false)
    | .prune => modify fun f => { f with movesStart := true }
    | .skip => modify fun f => { f with movesStart := true }
    | .skipTo _ => modify fun f => { f with movesStart := true }
    | _ => pure ()
    return (.code (.verb v), a, false)
  | .accept => do
    modify fun f => { f with accepts := true }
    return (.code (fun _ => .accept s.inAssertion s.openGroups), { a with first := a.first.decided },
      false)
  | .fail => return (.code (fun _ => .fail), a, false)
  | .group kind body => do
    if !quantified && neverHolds kind body then return (.code (fun _ => .fail), a, false)
    let varying := (← get).varying
    let steps :=
      match kind with
      | .lookbehind _ _ _ => stepsBack s.table s.settings.utf body
      | _ => []
    let lowered := joinBranches (← lowerBranches (s.within kind) steps body)
    let g : LoweredGroup := ⟨kindOf s.table kind, lowered.code, lowered.canBeEmpty⟩
    if isDefinition kind then return (.group g, a, false)
    match g.kind with
    | .conditional _ _ =>
      if g.body.hasChoice then
        return (.group g, a.afterGroup lowered.first lowered.required varying, !lowered.canBeEmpty)
      else return (.group g, a.afterGroup .absent .absent varying, false)
    | .lookahead false _ => return (.group g, a.afterLookahead lowered.first lowered.required, false)
    | .lookahead true _ => return (.group g, a.afterLookahead .absent .absent, false)
    | .lookbehind _ _ => return (.group g, a.afterLookahead .absent .absent, false)
    | _ =>
      return (.group g, a.afterGroup lowered.first lowered.required varying, !lowered.canBeEmpty)
  | .repeated item _ => lowerItem s a true item
  | _ => return (.code id, a, false)
termination_by (sizeOf item, 0)
where
  /-- A negative lookahead for nothing fails at once. -/
  neverHolds : Pattern.GroupKind → Node → Bool
    | .lookahead true _, .empty => true
    | _, _ => false

end

/-- A whole pattern in code. -/
structure LoweredPattern where
  body : LoweredBody
  findings : Findings

/-- Turns a pattern into code. -/
def lowerPattern (p : Parsed) : LoweredPattern :=
  let s : Surroundings := { table := p.table, settings := p.settings }
  let (branches, findings) := (lowerBranches s [] p.body).run {}
  let body := joinBranches branches
  ⟨if findings.changesBranch then { body with code := (body.code.withAddresses 0).1 } else body, findings⟩

end BoundedRegex.Program
