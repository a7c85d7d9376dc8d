import BoundedRegex.Search.Fault
import BoundedRegex.Search.Frames

/-!
# Searches

A search tries one start position after another, each in an attempt of its own, until one of them
matches or none is left. The hints of the program rule out most positions ahead of any attempt, and
the verbs of the program steer where the next one is made. The bound on entries holds for each
attempt by itself.

A search needs memory for its entries but does not ask for it: its report says how deep entries were
nested, and whoever keeps the memory sees from that which blocks are needed.
-/
namespace BoundedRegex
open Text Pattern Program

namespace Search

/-- The bound on the depth of entries unless the pattern asks for less. -/
def standardNesting : Nat := 10000000

/-- The bound on memory for entries, in units of 1024 bytes, unless the pattern asks for less. -/
def standardHeap : Nat := 20000000

def lesser (bound : Nat) (asked : Option Nat) : Nat := (asked.map (min bound)).getD bound

inductive Verdict where
  | found (r : Registers)
  | absent
  | failed (f : Fault)

/-- What a search comes to, and the greatest depth of an entry. No depth means that no memory was
needed. -/
structure Report where
  verdict : Verdict
  deepest : Option Nat

namespace Subject

/-- So many characters back. -/
def back (s : Subject) : Nat → Nat → Nat
  | 0, p => p
  | n + 1, p => if p = 0 then 0 else s.back n (s.beforeChar p)

def checked? (settings : Settings) (lookback : Nat) (bytes : ByteArray) (start : Nat) :
    Except Fault Subject :=
  let s : Subject :=
    { bytes := bytes, utf := settings.utf, newline := settings.newline, start := start, checked := 0 }
  if bytes.size < start then .error .startPastEnd
  else if !settings.utf then .ok s
  else if start < bytes.size && isContinuation (byteAt bytes start) then
    .error (if start = 0 then .notText .isolated else .startInsideCharacter)
  else
    let first := s.back lookback start
    match fault? bytes first with
    | some f => .error (.notText f)
    | none => .ok { s with checked := first }

/-- The first position from `p` on whose byte is accepted, or else the end. -/
def seekByte (s : Subject) (accepts : Nat → Bool) (p : Nat) : Nat :=
  if p < s.size then
    if accepts (byteAt s.bytes p) then p else s.seekByte accepts (p + 1)
  else s.size
termination_by s.size - p

/-- The first position from `p` on that lies behind a newline, or else the end. -/
def seekLine (s : Subject) (p : Nat) : Nat :=
  if p < s.size then
    if s.isAfterNewline p then p else s.seekLine (max (p + 1) (s.afterChar p))
  else p
termination_by s.size - p

/-- Whether a line feed at a position continues a carriage return before it. -/
def continuesNewline (s : Subject) (p : Nat) : Bool :=
  decide (0 < p) && s.isByte (p - 1) 13 && s.isByte p 10

end Subject

/-! ## Start positions -/

/-- A required byte is looked for in subjects shorter than this. -/
def seekBound : Nat := 5000

/-- The first position from `p` on where an attempt is worth while, with the place where the required
byte has been seen. `seen` is such a place from before. -/
def candidate? (h : StartHints) (s : Subject) (p : Nat) (seen : Option Nat) :
    Option (Nat × Option Nat) := do
  let q ← place?
  guard (h.minLength ≤ s.size - q)
  let behind := if h.first.isSome then q + 1 else q
  let left := s.size - q
  match h.required with
  | some e =>
    if seen.any (behind ≤ ·) then return (q, seen)
    else if left < seekBound || (!h.anchored && left < seekBound * 1000) then
      let place := s.seekByte e.accepts behind
      guard (place < s.size)
      return (q, some place)
    else return (q, seen)
  | none => return (q, seen)
where
  /-- Whether a byte may begin a match. -/
  begins (b : Nat) : Bool :=
    h.first.any (·.accepts b) || h.startSet.any (fun set => set.getD b false)
  /-- The position that the first byte and the start of a line allow. -/
  place? : Option Nat :=
    if h.anchored then
      if h.first.isNone && h.startSet.isNone then some p
      else if p < s.size && begins (byteAt s.bytes p) then some p
      else none
    else if h.first.isSome || (!h.startsLine && h.startSet.isSome) then
      let q := s.seekByte begins p
      if q < s.size then some q else none
    else if h.startsLine && s.start < p then
      let q := s.seekLine p
      let skips := s.newline == .any || s.newline == .anyCrlf
      some (if skips && s.continuesNewline q then q + 1 else q)
    else some p

/-- Where the search goes on after an attempt. -/
inductive Course where
  /-- Nowhere. -/
  | settled (v : Verdict)
  /-- At a position, where this many skips to marks have no effect. -/
  | onward (p ignoredSkips : Nat)

/-- Where the search goes on after an attempt from `p`. -/
def courseAfter (s : Subject) (p : Nat) (a : Attempt) : Course :=
  let advance : Course := .onward (if p < s.size then max (p + 1) (s.afterChar p) else p + 1) 0
  match a.answer with
  | .error x => .settled (.failed (.exceeded x))
  | .ok (.matched r) => .settled (.found r)
  | .ok (.broken b) => .settled (.failed (.broken b))
  | .ok .failed => advance
  | .ok (.steered .commit) => .settled .absent
  | .ok (.steered .prune) => advance
  | .ok (.steered (.skip q)) => if p < q then .onward q 0 else advance
  | .ok (.steered (.skipTo _)) => .onward p a.skips
  | .ok (.steered (.nextBranch _)) => advance

/-- The next position, which is not between a carriage return and its line feed where both together
are a newline that the pattern does not write. -/
def Subject.nextStart (s : Subject) (writesNewline : Bool) (p : Nat) : Nat :=
  let joined := s.newline == .any || s.newline == .anyCrlf || s.newline == .crlf
  if joined && !writesNewline && decide (s.start < p) && s.continuesNewline p then p + 1 else p

/-- Makes one attempt after another from `p` on. `fuel` bounds their number. -/
def tryFrom (program : Program) (s : Subject) (b : Bounds) :
    Nat → Nat → Nat → Option Nat → Nat → Report
  | 0, _, _, _, deepest => ⟨.failed (.broken .stuck), some deepest⟩
  | fuel + 1, p, ignoredSkips, seen, deepest =>
    match candidate? program.hints s p seen with
    | none => ⟨.absent, some deepest⟩
    | some (p, seen) =>
      let a := Environment.attempt ⟨program, s, ignoredSkips⟩ b p
      let deepest := max deepest a.deepest
      match courseAfter s p a with
      | .settled v => ⟨v, some deepest⟩
      | .onward q ignoredSkips =>
        if program.hints.anchored || s.size < q then ⟨.absent, some deepest⟩
        else
          tryFrom program s b fuel (s.nextStart program.writesNewline q) ignoredSkips seen deepest

/-- More attempts than any search makes: each moves on or ignores more skips than the one before. -/
def attemptFuel : Nat := 0x1000000000000

end Search

namespace Program
open Search

/-- The bound on memory for entries. -/
def heapLimit (p : Program) : Nat := lesser standardHeap p.settings.heapLimit

/-- Searches a subject from a start position. `limit` bounds the entries of each attempt, and `block`
is the size of the memory for entries that has been made already. -/
def search (p : Program) (bytes : ByteArray) (start limit block : Nat) : Report :=
  match Subject.checked? p.settings p.lookback bytes start with
  | .error f => ⟨.failed f, none⟩
  | .ok s =>
    match firstBlock? p.heapLimit p.groups with
    | none => ⟨.failed (.exceeded .memory), none⟩
    | some first =>
      let b : Bounds :=
        { entries := lesser limit p.settings.matchLimit
          nesting := lesser standardNesting p.settings.nestingLimit
          room := greatestRoom p.heapLimit p.groups (max first block) }
      tryFrom p s b attemptFuel start 0 none 0

end Program

end BoundedRegex
