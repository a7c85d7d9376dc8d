import BoundedRegex.Program.Code

/-!
# Repeats

A repeated group is written out as copies: as many as it must match, then nested optional copies up
to a bound, or a last copy that may come again without one. A repeated item stays one cell. A repeat
without a way back becomes an atomic group unless the code has a form of its own for it.
-/
namespace BoundedRegex.Program
open Pattern

def GroupKind.isAssertion : GroupKind → Bool
  | .lookahead _ _ => true
  | .lookbehind _ _ => true
  | _ => false

def GroupKind.checkingEmpty : GroupKind → GroupKind
  | .plain _ => .plain true
  | .conditional q _ => .conditional q true
  | kind => kind

def soleBranch (code : Code) : Code := .branch 0 code .done

def inAtomic (inside next : Code) : Code :=
  .group .atomic .always .no (soleBranch inside) next

def copies (kind : GroupKind) (body : Code) : Nat → Code → Code
  | 0, next => next
  | n + 1, next => .group kind .always .no body (copies kind body n next)

def optionalCopies (kind : GroupKind) (entry : Entry) (body : Code) : Nat → Code → Code
  | 0, next => next
  | 1, next => .group kind entry .no body next
  | n + 2, next =>
    .group (.plain false) entry .no
      (soleBranch (.group kind .always .no body (optionalCopies kind entry body (n + 1) .done))) next

/-- How an optional copy is entered. -/
def entryFor : Greed → Entry
  | .lazy => .skipFirst
  | _ => .tryFirst

/-- How a group without a bound comes again. -/
def againFor : Greed → Again
  | .lazy => .lazy
  | _ => .greedy

/-- The last copy of a group without a bound, and whether it still needs an atomic group around it
to have no way back. -/
def lastCopy (kind : GroupKind) (body : Code) (canBeEmpty : Bool) (entry : Entry) (greed : Greed)
    (lo : Nat) (next : Code) : Code × Bool :=
  let possessive := greed == .possessive
  let kind := if kind == .atomic && possessive then .plain false else kind
  if kind == .atomic || kind == .scriptRun then
    (.group kind entry (againFor greed) body next, possessive)
  else
    let kind := if canBeEmpty then kind.checkingEmpty else kind
    match kind with
    | .conditional q checksEmpty =>
      let checksEmpty := checksEmpty || !body.hasChoice
      let kind : GroupKind := .conditional q checksEmpty
      if possessive then
        (.group (.plain checksEmpty) entry .possessive
          (soleBranch (.group kind .always .no body .done)) next, decide (lo ≥ 2))
      else (.group kind entry (againFor greed) body next, false)
    | kind =>
      if possessive then (.group kind entry .possessive body next, decide (lo ≥ 2))
      else (.group kind entry (againFor greed) body next, false)

/-- A repeated group. A group that never matches is not repeated. -/
def repeatGroup (kind : GroupKind) (body : Code) (canBeEmpty : Bool) (q : Quantifier) (next : Code) :
    Code :=
  let never :=
    match kind with
    | .conditional (.fixed false) _ => !body.hasChoice
    | _ => false
  let possessive := q.greed == .possessive
  let entry := entryFor q.greed
  let hi := if kind.isAssertion then some (q.hi.getD (q.lo + 1)) else q.hi
  if never || (q.lo == 1 && hi == some 1 && !possessive) then .group kind .always .no body next
  else
    match hi with
    | some 0 => .group kind .never .no body next
    | some hi =>
      let code (next : Code) :=
        copies kind body q.lo (optionalCopies kind entry body (hi - q.lo) next)
      if possessive then inAtomic (code .done) next else code next
    | none =>
      let first := if q.lo == 0 then entry else .always
      let code (next : Code) :=
        let (last, open') := lastCopy kind body canBeEmpty first q.greed q.lo next
        (copies kind body (q.lo - 1) last, open')
      if (code next).2 then inAtomic (code .done).1 next else (code next).1

/-- A number of calls in a row. -/
def calls (n : Nat) : Nat → Code → Code
  | 0, next => next
  | k + 1, next => .call n (calls n k next)

/-- A repeated call. Calls that need not be made stand in a group. -/
def repeatCall (n : Nat) (q : Quantifier) (next : Code) : Code :=
  let possessive := q.greed == .possessive
  let asGroup (q : Quantifier) (next : Code) :=
    repeatGroup (.plain false) (soleBranch (.call n .done)) true q next
  if q.lo == 1 && q.hi == some 1 && !possessive then .call n next
  else
    match q.hi with
    | some hi =>
      let greed := if possessive then .greedy else q.greed
      let code (next : Code) :=
        calls n q.lo (if hi == q.lo then (if hi == 0 then asGroup ⟨0, some 0, greed⟩ next else next)
          else asGroup ⟨0, some (hi - q.lo), greed⟩ next)
      if possessive && hi != 0 then inAtomic (code .done) next else code next
    | none =>
      if q.lo ≤ 1 then asGroup q next
      else calls n q.lo (asGroup { q with lo := 0 } next)

def repeatItem (i : Item) (q : Quantifier) (next : Code) : Code :=
  if q.hi == some 0 then next
  else if q.lo == 1 && q.hi == some 1 then .one i next
  else .many i q.lo q.hi q.greed next

def repeatBackref (groups : List Nat) (rule : Option CaseRule) (q : Quantifier) (next : Code) : Code :=
  if q.hi == some 0 then next
  else if q.greed == .possessive && !(q.lo == 1 && q.hi == some 1) then
    inAtomic (.backref groups rule q.lo q.hi .greedy .done) next
  else .backref groups rule q.lo q.hi q.greed next

end BoundedRegex.Program
