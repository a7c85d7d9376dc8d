import BoundedRegex.Program.Possess
import BoundedRegex.Text.Utf8

/-!
# The bytes a match can start with

For many patterns the first byte of a match comes from a small set. The set is gathered from the code:
optional items add their bytes and let the search go on behind them, the first item that must match
ends it. Some items leave the set open; then nothing is known. In text of characters a set of
characters stands for the set of their leading bytes.
-/
namespace BoundedRegex.Program
open Text Unicode Pattern

/-- The leading bytes of characters above 255. -/
def wideLeads : List Nat := (List.range 0x3C).map (· + 0xC4)

/-- The bytes that a character can start with. -/
def leadOf (utf : Bool) (c : Nat) : Nat := if utf then (encode c).headD 0 else c

/-- The leading bytes of the characters up to 255 that pass a test. -/
def leadsUpTo255 (utf : Bool) (test : Nat → Bool) : List Nat :=
  ((List.range 256).filter test).map (leadOf utf)

def leadsOfRange (lo hi : Nat) : List Nat :=
  let first := leadOf true lo
  (List.range (leadOf true hi + 1 - first)).map (· + first)

/-- The leading bytes of a fixed set or its complement. -/
def kindLeads (utf : Bool) (k : CharKind) (negated : Bool) : List Nat :=
  let low := leadsUpTo255 utf fun c => k.contains c != negated
  if !utf then low
  else if negated then low ++ (List.range 0x40).map (· + 0xC0)
  else
    match k with
    | .horizontal => low ++ [0xC2, 0xE1, 0xE2, 0xE3]
    | .vertical => low ++ [0xC2, 0xE2]
    | _ => low

/-- The characters above 255 that a part of a class names, as leading bytes. -/
def ClassItem.wideLeads (rule : Option CaseRule) : ClassItem → List Nat
  | .range lo hi =>
    let own := if hi > 255 then leadsOfRange (max lo 256) hi else []
    match rule with
    | some rule =>
      let variants := ((List.range (min hi 0x1F000 + 1 - lo)).map (· + lo)).flatMap rule.variants
      own ++ (variants.filter (· > 255)).map (leadOf true)
    | none => own
  | .test (.kind k negated) =>
    if negated then Program.wideLeads
    else
      match k with
      | .horizontal => [0xE1, 0xE2, 0xE3]
      | .vertical => [0xE2]
      | _ => []
  | .test (.property _ _) => []

/-- The leading bytes of a class, if they are known. -/
def classLeads? (utf : Bool) (k : CharClass) : Option (List Nat) :=
  if k.items.any ClassItem.isProperty then none
  else
    let low := leadsUpTo255 utf k.accepts
    if !utf then some low
    else
      let wide := k.items.flatMap (ClassItem.wideLeads k.caseRule)
      if k.negated then
        let namesLow := (List.range 256).any fun c => !k.accepts c
        if !wide.isEmpty && !namesLow then none else some (low ++ wideLeads)
      else some (low ++ wide)

/-- The first bytes of an item, if they are known. -/
def Item.leads? (utf : Bool) : Item → Option (List Nat)
  | .literal c _ variants => some ((c :: variants).map (leadOf utf))
  | .variantOf cs false => some (cs.map (leadOf utf))
  | .test (.kind k negated) =>
    if negated && (k == .horizontal || k == .vertical) then none else some (kindLeads utf k negated)
  | .cls k => classLeads? utf k
  | .newlineSequence _ => some (kindLeads utf .vertical false)
  | _ => none

/-- The first bytes of an item that may be left out, if they are known. -/
def Item.optionalLeads? (utf : Bool) : Item → Option (List Nat)
  | .variantOf _ _ => none
  | i => i.leads? utf

/-- What a stretch of code can start with: the bytes, and whether one of them must come. -/
structure Leads where
  bytes : List Nat
  needed : Bool

/-- What comes first in a stretch or behind it. -/
def Leads.union (a b : Leads) : Leads := ⟨a.bytes ++ b.bytes, b.needed⟩

/-- The first bytes of code, if they are known. -/
def Code.leads? (utf : Bool) : Code → Option Leads
  | .done => some ⟨[], false⟩
  | .one i _ => (i.leads? utf).map (⟨·, true⟩)
  | .many i lo _ _ next =>
    if lo > 0 then (i.leads? utf).map (⟨·, true⟩)
    else do
      let bytes ← i.optionalLeads? utf
      let rest ← next.leads? utf
      return (Leads.mk bytes false).union rest
  | .anchor a next =>
    match a with
    | .start => next.leads? utf
    | .wordBoundary _ _ => next.leads? utf
    | _ => none
  | .group kind entry _ body next =>
    let through : Option Leads := do
      let inside ← body.leads? utf
      if inside.needed && entry == .always then return inside
      let rest ← next.leads? utf
      return inside.union rest
    match entry, kind with
    | .never, _ => next.leads? utf
    | _, .conditional _ _ => none
    | .always, .lookahead true _ => next.leads? utf
    | .always, .lookbehind _ _ => next.leads? utf
    | _, _ => through
  | .branch _ first others => do
    let a ← first.leads? utf
    if others.isBranch then
      let b ← others.leads? utf
      return ⟨a.bytes ++ b.bytes, a.needed && b.needed⟩
    else return a
  | _ => none

/-- The set of bytes that a match must start with, in increasing order, if it is known. -/
def Code.startSet? (utf : Bool) (code : Code) : Option (List Nat) :=
  match code.leads? utf with
  | some ⟨bytes, true⟩ => some ((List.range 256).filter bytes.contains)
  | _ => none

end BoundedRegex.Program
