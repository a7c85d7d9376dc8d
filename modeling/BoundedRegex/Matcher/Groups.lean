import BoundedRegex.Matcher.Error
import BoundedRegex.Span

/-!
# Groups

What the offsets of a match say about its groups. Whether a group took part is kept apart from where
it lies, so that the mark of an unset group never enters into any arithmetic. A group that ends before
it starts counts as empty.
-/
namespace BoundedRegex

structure Group where
  offset : UInt64
  length : UInt64
  /-- The group took part in the match. -/
  isSet : Bool
  deriving DecidableEq, Repr

namespace Group

def ofOffsets (unset start stop : UInt64) : Group :=
  if start = unset then ⟨0, 0, false⟩
  else ⟨start, if start ≤ stop then stop - start else 0, true⟩

def span (g : Group) : Except Abort Span :=
  if g.isSet then
    match Span.make? g.offset.toNat g.length.toNat with
    | some s => .ok s
    | none => .error .spanTooLong
  else .ok .unset

/-- What a group has matched. An empty group looks at no subject. -/
def bytes (subject : ByteArray) (g : Group) : Except Abort ByteArray :=
  if !g.isSet || g.length = 0 then .ok .empty
  else
    let stop := g.offset.toNat + g.length.toNat
    if stop ≤ subject.size then .ok (subject.extract g.offset.toNat stop)
    else .error .outsideSubject

end Group

/-- The values before the first abort. -/
def beforeAbort {α : Type} : List (Except Abort α) → List α
  | .ok a :: rest => a :: beforeAbort rest
  | _ => []

theorem beforeAbort_of_mapM {α : Type} {values : List (Except Abort α)} {as : List α}
    (h : values.mapM id = .ok as) : beforeAbort values = as := by
  induction values generalizing as with
  | nil =>
    cases h
    rfl
  | cons value rest ih =>
    rw [List.mapM_cons] at h
    cases value with
    | error a => cases h
    | ok a =>
      cases hr : rest.mapM id with
      | error e =>
        rw [hr] at h
        cases h
      | ok as =>
        rw [hr] at h
        cases h
        rw [beforeAbort, ih hr]

/-- The groups of a match, the whole match first. -/
structure Groups where
  unset : UInt64
  offsets : List UInt64

namespace Groups

/-- The groups of pairs of offsets, in turn. An offset left over at the end makes no group. -/
def ofPairs (unset : UInt64) : List UInt64 → List (Except Abort Group)
  | [] => []
  | [_] => [.error .malformedOffsets]
  | start :: stop :: rest => .ok (.ofOffsets unset start stop) :: ofPairs unset rest

def all (g : Groups) : List (Except Abort Group) := ofPairs g.unset g.offsets

/-- The whole match. -/
def overall (g : Groups) : Except Abort Group :=
  match g.offsets with
  | start :: stop :: _ => .ok (.ofOffsets g.unset start stop)
  | _ => .error .malformedOffsets

/-- Where the whole match lies. -/
def overallSpan (g : Groups) : Except Abort Span := do (← g.overall).span

/-- What the whole match is. -/
def overallBytes (subject : ByteArray) (g : Groups) : Except Abort ByteArray := do
  (← g.overall).bytes subject

/-- Where the groups lie, one after another. -/
def eachSpan (g : Groups) : List (Except Abort Span) := g.all.map (· >>= Group.span)

/-- What the groups have matched, one after another. -/
def eachView (subject : ByteArray) (g : Groups) : List (Except Abort ByteArray) :=
  g.all.map (· >>= Group.bytes subject)

def spans (g : Groups) : Except Abort (List Span) := g.eachSpan.mapM id

def views (subject : ByteArray) (g : Groups) : Except Abort (List ByteArray) :=
  (g.eachView subject).mapM id

end Groups

end BoundedRegex
