import BoundedRegex.Program.Code

/-!
# Repeats without a way back

A repeat need not give back what it has taken if nothing that follows could match a character it
gives back. Such repeats are made possessive, which changes how long a search takes and never what
it finds. Whether two items have a character in common is decided on the safe side.
-/
namespace BoundedRegex.Program
open Unicode Pattern

def Item.characters? : Item → Option (List Nat)
  | .literal c _ variants => some (c :: variants)
  | .variantOf cs false => some cs
  | _ => none

/-- Whether an item surely does not match a character. -/
def Item.excludes (i : Item) (c : Nat) : Bool :=
  match i with
  | .literal d _ variants => c != d && !variants.contains c
  | .notLiteral d _ variants => c == d || variants.contains c
  | .variantOf cs negated => cs.contains c == negated
  | .test t => !t.accepts c
  | .cls k => !k.accepts c
  | .newlineSequence _ => !isVertical c
  | _ => false

def ClassItem.isProperty : ClassItem → Bool
  | .test (.property _ _) => true
  | _ => false

/-- Whether a class takes no character above 255, or there are none. -/
def isNarrow (utf : Bool) (k : CharClass) : Bool :=
  !utf || (!k.negated && k.items.all fun
    | .range _ hi => hi < 256 && (k.caseRule == none || k.caseRule == some .ascii)
    | .test (.kind kind negated) => !negated && kind != .horizontal && kind != .vertical
    | .test (.property _ _) => false)

/-- The items whose characters up to 255 can be compared one by one. -/
def Item.hasMap : Item → Bool
  | .cls k => !k.items.any ClassItem.isProperty
  | .test (.kind _ _) => true
  | _ => false

/-- Whether no character up to 255 passes both items. -/
def disjointUpTo255 (a b : Item) : Bool :=
  (List.range 256).all fun c => a.excludes c || b.excludes c

/-- Whether a fixed set or its complement holds a character above 255. -/
def isWide (k : CharKind) (negated : Bool) : Bool :=
  negated || k == .horizontal || k == .vertical

/-- Whether two fixed sets, or their complements, have no character in common. -/
def disjointKinds (a : CharKind) (na : Bool) (b : CharKind) (nb : Bool) : Bool :=
  let wide := isWide a na && isWide b nb && !(a == b && na != nb) && (na || nb || a == b)
  !wide && disjointUpTo255 (.test (.kind a na)) (.test (.kind b nb))

/-- Whether one property surely implies another. -/
def impliesProperty : Property → Property → Bool
  | .category a, .category b => a == b
  | .category a, .group g => a.group == g
  | .category a, .alnum => a.group == 'l' || a.group == 'n'
  | .category a, .word => a.group == 'l' || a.group == 'n' || a == .mn || a == .pc
  | .group a, .group b => a == b
  | .group a, .alnum => a == 'l' || a == 'n'
  | .group a, .word => a == 'l' || a == 'n'
  | .alnum, .alnum => true
  | .alnum, .word => true
  | .space, .space => true
  | .word, .word => true
  | .script a, .script b => a == b
  | _, _ => false

/-- Whether two properties surely exclude each other. -/
def excludesProperty : Property → Property → Bool
  | .category a, .category b => a != b
  | .category a, .group g => a.group != g
  | .group g, .category a => a.group != g
  | .group a, .group b => a != b
  | .space, .word => true
  | .word, .space => true
  | .space, .alnum => true
  | .alnum, .space => true
  | .space, .category a => a.group == 'l' || a.group == 'n'
  | .category a, .space => a.group == 'l' || a.group == 'n'
  | .space, .group g => g == 'l' || g == 'n'
  | .group g, .space => g == 'l' || g == 'n'
  | .script a, .script b => a != b
  | _, _ => false

/-- Whether two tests surely have no character in common. -/
def disjointTests : CharTest → CharTest → Bool
  | .kind a na, .kind b nb => disjointKinds a na b nb
  | .property a false, .property b false => excludesProperty a b
  | .property a false, .property b true => impliesProperty a b
  | .property a true, .property b false => impliesProperty b a
  | _, _ => false

/-- Whether two items surely have no first character in common. -/
def Item.disjoint (utf : Bool) (a b : Item) : Bool :=
  match a.characters?, b.characters? with
  | some cs, _ => cs.all b.excludes
  | none, some cs => cs.all a.excludes
  | none, none =>
    match a, b with
    | .cls k, _ =>
      if isNarrow utf k && a.hasMap && b.hasMap then disjointUpTo255 a b
      else
        match b with
        | .cls k' => isNarrow utf k' && a.hasMap && b.hasMap && disjointUpTo255 a b
        | _ => false
    | _, .cls k => isNarrow utf k && a.hasMap && b.hasMap && disjointUpTo255 a b
    | .test s, .test t => disjointTests s t
    | .test (.kind .digit false), .newlineSequence _ => true
    | .test (.kind .word false), .newlineSequence _ => true
    | .dot false, .newlineSequence _ => true
    | .newlineSequence _, .test (.kind .digit false) => true
    | .newlineSequence _, .test (.kind .word false) => true
    | .newlineSequence _, .dot false => true
    | _, _ => false

/-- Whether an item surely does not match what may follow an anchor for ends. -/
def Item.endsBefore (i : Item) (a : Anchor) : Bool :=
  match a with
  | .textEnd =>
    match i with
    | .cls _ => false
    | .notLiteral _ _ _ => false
    | .variantOf _ true => false
    | _ => true
  | .nearEnd => beforeNewline
  | .lineEnd => beforeNewline
  | _ => false
where
  beforeNewline : Bool :=
    match i.characters?, i with
    | some cs, _ => cs.all fun c => !isVertical c
    | none, .test (.kind .digit false) => true
    | none, .test (.kind .word false) => true
    | none, .test (.kind .space true) => true
    | none, _ => false

/-- A group around a place in the code. -/
structure Enclosing where
  kind : GroupKind
  again : Again
  next : Code

/-- What a repeat is compared under. -/
structure Repeat where
  utf : Bool
  /-- The pattern has calls, so that the end of a group need not be followed by what is written
  there. -/
  hasCalls : Bool
  item : Item
  greedy : Bool

/-- Whether a repeat never needs to give back, judged by the code that follows. `entered` tells that a
group was entered on the way. The state counts down what may still be looked at. -/
def Repeat.holdsBefore (r : Repeat) : Nat → Bool → List Enclosing → Code → StateM Nat Bool
  | 0, _, _, _ => return false
  | fuel + 1, entered, around, code => do
    let budget ← get
    if budget == 0 then return false
    set (budget - 1)
    match code with
    | .done =>
      if !r.greedy then return false
      match around with
      | [] => return true
      | e :: around =>
        if e.again == .greedy || e.again == .lazy then return false
        match e.kind with
        | .plain _ => r.holdsBefore fuel entered around e.next
        | .conditional _ _ => r.holdsBefore fuel entered around e.next
        | .capture _ => if r.hasCalls then return false else r.holdsBefore fuel entered around e.next
        | .scriptRun =>
          if r.item.characters?.isSome then r.holdsBefore fuel entered around e.next
          else return false
        | .atomic => return !entered
        | .lookahead _ keepsChoices => return !keepsChoices && !entered
        | .lookbehind _ _ => return false
    | .one i _ => return r.item.disjoint r.utf i
    | .many i lo _ _ next =>
      if r.item.disjoint r.utf i then
        if lo > 0 then return true else r.holdsBefore fuel entered around next
      else return false
    | .anchor a _ => return r.item.endsBefore a
    | .group kind entry again body next =>
      let plain :=
        match kind with
        | .plain checksEmpty => !checksEmpty
        | .capture _ => true
        | .atomic => true
        | _ => false
      if !plain || again == .possessive || entry == .never then return false
      let skipped ← if entry == .always then pure true else r.holdsBefore fuel entered around next
      if skipped then r.holdsBefore fuel true (⟨kind, again, next⟩ :: around) body else return false
    | .branch _ first others =>
      let holds ← r.holdsBefore fuel entered around first
      if holds && others.isBranch then r.holdsBefore fuel entered around others else return holds
    | _ => return false

/-- How much code is looked at for one repeat. -/
def lookAheadBudget : Nat := 1000

/-- Makes repeats possessive where nothing is lost. -/
def Code.possess (utf hasCalls : Bool) (around : List Enclosing) : Code → Code
  | .one i next => .one i (next.possess utf hasCalls around)
  | .many i lo hi greed next =>
    let r : Repeat := ⟨utf, hasCalls, i, greed == .greedy⟩
    let greed :=
      if greed == .possessive || hi == some lo then greed
      else if ((r.holdsBefore lookAheadBudget false around next).run lookAheadBudget).1 then .possessive
      else greed
    .many i lo hi greed (next.possess utf hasCalls around)
  | .backref groups rule lo hi greed next =>
    .backref groups rule lo hi greed (next.possess utf hasCalls around)
  | .anchor a next => .anchor a (next.possess utf hasCalls around)
  | .setStart next => .setStart (next.possess utf hasCalls around)
  | .verb v next => .verb v (next.possess utf hasCalls around)
  | .nextBranch address next => .nextBranch address (next.possess utf hasCalls around)
  | .call n next => .call n (next.possess utf hasCalls around)
  | .stepBack lo hi next => .stepBack lo hi (next.possess utf hasCalls around)
  | .arrive next => .arrive (next.possess utf hasCalls around)
  | .group kind entry again body next =>
    .group kind entry again (body.possess utf hasCalls (⟨kind, again, next⟩ :: around))
      (next.possess utf hasCalls around)
  | .branch stop first others =>
    .branch stop (first.possess utf hasCalls around) (others.possess utf hasCalls around)
  | code => code

end BoundedRegex.Program
