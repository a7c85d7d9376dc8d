import BoundedRegex.Pattern.Lookbehind

/-!
# Checks on whole patterns

What can be judged only once all of a pattern has been read: whether references lead anywhere,
whether lookbehinds have a measure, whether the compiled form stays within its bound, and whether
conditional groups have no more branches than they can use. The last is judged after the memory for
the compiled form has been taken, and is therefore a check of its own.
-/
namespace BoundedRegex.Pattern
open Text

/-- The bound on the size of a compiled form, in bytes. -/
def maxCompiledSize : Nat := 65536

/-! ## References -/

/-- The group number that a call condition writes in digits. -/
def calledNumber (name : Name) : Nat := decimal (name.bytes.drop 1)

def checkCondition (t : GroupTable) : Condition → Except Fault Unit
  | .groupSet n offset => if n > t.count then failAt .unknownGroup offset else .ok ()
  | .nameSet name => if (t.numbersOf name.bytes).isEmpty then failAt .unknownGroup name.offset else .ok ()
  | .callOfName name =>
    if (t.numbersOf name.bytes).isEmpty then failAt .unknownGroup name.offset else .ok ()
  | .callOf name =>
    if !(t.numbersOf name.bytes).isEmpty then .ok ()
    else
      match (List.range name.bytes.length).find? (fun i => decimal ((name.bytes.take (i + 1)).drop 1) > maxGroup) with
      | some i => failAt .groupNumberTooLarge (name.offset + i)
      | none => if calledNumber name > t.count then failAt .unknownGroup name.offset else .ok ()
  | _ => .ok ()

/-- Checks that all references lead to groups and that no lookaround sets the match start. Faults
without a place are reported at the end of the pattern. -/
def checkReferences (t : GroupTable) (patternEnd : Nat) (inLookaround : Bool) : Node → Except Fault Unit
  | .seq first rest => do
    checkReferences t patternEnd inLookaround first
    checkReferences t patternEnd inLookaround rest
  | .alt first rest => do
    checkReferences t patternEnd inLookaround first
    checkReferences t patternEnd inLookaround rest
  | .repeated item _ => checkReferences t patternEnd inLookaround item
  | .setStart => if inLookaround then failAt .startInLookaround patternEnd else .ok ()
  | .backref n _ offset =>
    if n > t.count then failAt .unknownGroup (t.referenceOffset n offset) else .ok ()
  | .call n offset => if n > t.count then failAt .unknownGroup offset else .ok ()
  | .namedBackref name _ =>
    if (t.numbersOf name.bytes).isEmpty then failAt .unknownGroup name.offset else .ok ()
  | .namedCall name =>
    if (t.numbersOf name.bytes).isEmpty then failAt .unknownGroup name.offset else .ok ()
  | .group kind body => do
    match kind with
    | .conditional c => checkCondition t c
    | _ => .ok ()
    let inLookaround :=
      match kind with
      | .lookahead _ _ => true
      | .lookbehind _ _ _ => true
      | _ => inLookaround
    checkReferences t patternEnd inLookaround body
  | _ => .ok ()

/-! ## Size -/

def nestedCopy (size : Nat) : Nat := size + 7

def repeatedGroupSize (size : Nat) (q : Quantifier) : Nat :=
  match q.lo, q.hi with
  | 0, none => size + 1
  | 0, some hi => if hi ≤ 1 then size + 1 else size + 4 + (hi - 1) * nestedCopy size - 6
  | lo, none => lo * size
  | lo, some hi => lo * size + if hi > lo then (hi - lo) * nestedCopy size - 6 else 0

/-- The size of a quantified item whose test takes `size` bytes. -/
def repeatedItemSize (size : Nat) (q : Quantifier) : Nat :=
  let counted := size + 2
  match q.lo, q.hi with
  | 0, some hi => if hi == 0 then 0 else if hi == 1 then size else counted
  | 0, none => size
  | 1, none => size
  | 1, some hi => if hi == 1 then size else size + counted
  | _, none => counted + size
  | lo, some hi => if hi == lo then counted else counted + if hi == lo + 1 then size else counted

def repeatedClassSize (size : Nat) (q : Quantifier) : Nat :=
  match q.lo, q.hi with
  | 0, some 0 => 0
  | 1, some 1 => size
  | 0, none => size + 1
  | 1, none => size + 1
  | 0, some 1 => size + 1
  | _, _ => size + 5

def CharTest.size : CharTest → Nat
  | .kind _ _ => 1
  | .property _ _ => 3

/-- The size of one part of a class, beyond its map of single bytes. -/
def ClassItem.size : ClassItem → Nat
  | .range lo hi => if hi > 255 then (encode lo).length + (encode hi).length + 1 else 0
  | .test (.kind _ _) => 0
  | .test (.property _ _) => 3

def CharClass.size (k : CharClass) : Nat :=
  match k.items with
  | [.range lo hi] => if lo == hi then 1 + (encode lo).length else 33
  | items => items.foldl (fun n i => n + i.size) 33

def Condition.size : Condition → Nat
  | .define _ => 1
  | .version _ _ _ => 1
  | _ => 3

def Verb.size : Verb → Nat
  | .mark name => 3 + name.length
  | .skipTo name => 3 + name.length
  | _ => 1

/-- The size of an item in the compiled form, brackets included. -/
def Node.size (utf : Bool) : Node → Nat
  | .empty => 0
  | .seq first rest => first.size utf + rest.size utf
  | .alt first rest => first.size utf + 3 + rest.size utf
  | .literal c _ => if utf then 1 + (encode c).length else 2
  | .dot _ => 1
  | .unit => 1
  | .test t => t.size
  | .cls k => k.size
  | .newlineSequence => 1
  | .cluster => 1
  | .anchor _ => 1
  | .setStart => 1
  | .backref _ rule _ => if rule.isSome then 4 else 3
  | .namedBackref _ rule => if rule.isSome then 6 else 5
  | .call _ _ => 3
  | .namedCall _ => 3
  | .verb v => v.size
  | .accept => 1
  | .fail => 1
  | .callout => 6
  | .group kind body =>
    let inside := body.size utf
    match kind with
    | .capture _ => inside + 8
    | .conditional c => inside + 6 + c.size
    | .lookbehind _ _ _ => inside + 9
    | _ => inside + 6
  | .repeated item q =>
    let size := item.size utf
    match item with
    | .group (.conditional (.define _)) _ => size
    | .group (.lookahead _ _) _ =>
      repeatedGroupSize size { q with hi := some (q.hi.getD (q.lo + 1)) }
    | .group (.lookbehind _ _ _) _ =>
      repeatedGroupSize size { q with hi := some (q.hi.getD (q.lo + 1)) }
    | .group _ _ => repeatedGroupSize size q
    | .call _ _ => repeatedGroupSize size q
    | .namedCall _ => repeatedGroupSize size q
    | .cls _ => repeatedClassSize size q
    | .backref _ _ _ => repeatedClassSize size q
    | .namedBackref _ _ => repeatedClassSize size q
    | _ => repeatedItemSize size q

/-- The size of the brackets around a whole pattern and of its end. -/
def outerSize : Nat := 7

/-! ## Conditional groups -/

/-- The number of branches of a body. -/
def Node.branchCount : Node → Nat
  | .alt _ rest => rest.branchCount + 1
  | _ => 1

/-- The offset that a reference leaves behind for later faults in its branch. -/
def Node.offset? (t : GroupTable) : Node → Option Nat
  | .backref n _ offset => some (t.referenceOffset n offset)
  | .namedBackref name _ => some name.offset
  | .call _ offset => some offset
  | .namedCall name => some name.offset
  | _ => none

/-- The offset that the condition of a group leaves behind; a number points to its group. -/
def Condition.offset? : Condition → Option Nat
  | .groupSet _ offset => some (offset - 2)
  | .nameSet name => some name.offset
  | .callOf name => some name.offset
  | .callOfName name => some name.offset
  | .define offset => some offset
  | .version _ _ _ => none

/-- Checks that conditional groups have at most two branches, and definitions one. `last` is the
offset left behind in the branch. Returns the offset left behind in the end. -/
def checkConditionals (t : GroupTable) (last : Nat) : Node → Except Fault Nat
  | .seq first rest => do
    let last ← checkConditionals t last first
    checkConditionals t last rest
  | .alt first rest => do
    let _ ← checkConditionals t 0 first
    checkConditionals t 0 rest
  | .repeated item _ => checkConditionals t last item
  | .group kind body => do
    let last :=
      match kind with
      | .conditional c => c.offset?.getD last
      | _ => last
    let _ ← checkConditionals t 0 body
    match kind with
    | .conditional (.define _) =>
      if body.branchCount > 1 then failAt .branchesInDefinition last else .ok last
    | .conditional _ => if body.branchCount > 2 then failAt .tooManyBranches last else .ok last
    | .conditionalOnAssertion =>
      if body.branchCount > 2 then failAt .tooManyBranches last else .ok last
    | _ => .ok last
  | item => .ok ((item.offset? t).getD last)

/-! ## All of them -/

structure Checked where
  /-- How many characters lookbehinds step back at most. -/
  furthest : Nat
  /-- A fault that shows only when the compiled form is written. -/
  late : Option Fault

def Parsed.check (p : Parsed) (patternEnd : Nat) : Except Fault Checked := do
  let t := p.table
  let furthest ← furthestStepBack t p.settings.utf p.body
  checkReferences t patternEnd false p.body
  if p.body.size p.settings.utf + outerSize > maxCompiledSize then failAt .tooLarge patternEnd
  else
    match checkConditionals t 0 p.body with
    | .ok _ => .ok ⟨furthest, none⟩
    | .error fault => .ok ⟨furthest, some fault⟩

end BoundedRegex.Pattern
