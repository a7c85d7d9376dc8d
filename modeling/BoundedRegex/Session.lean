import BoundedRegex.Engine.Backtracking
import BoundedRegex.Engine.Recorded
import BoundedRegex.Engine.Scripted
import BoundedRegex.Workshop

/-!
# Sessions

A workshop whose engines are backtracking ones, which share the memory, and scripted ones, which share
the record of what they are asked. Besides what any workshop does, a session tells what the counting
allocator has counted, and changes how much it may serve.
-/
namespace BoundedRegex
open Memory

/-- What the engines of a session share. -/
structure World where
  memory : Memory := {}
  recorded : Recorded Unit := { state := () }

namespace World

def memoryPart : Part Memory World := ⟨World.memory, fun m w => { w with memory := m }⟩

def recordedPart : Part (Recorded Unit) World :=
  ⟨World.recorded, fun r w => { w with recorded := r }⟩

end World

inductive EngineKind where
  | backtracking (allocator : Allocator)
  /-- A scripted engine with its mark of unset groups. -/
  | scripted (unset : UInt64)
  deriving DecidableEq, Repr

def EngineKind.maker (scenario : Scenario) : EngineKind → Maker World
  | .backtracking a => (Backtracking.library.maker a.source).within World.memoryPart
  | .scripted unset => (scenario.engine unset).maker.recorded.within World.recordedPart

structure Session (scenario : Scenario) extends Workshop (EngineKind.maker scenario) where
  state := {}

inductive Command where
  | getDefault
  | setDefault (limit : UInt32)
  | builder (name : String) (limits : List UInt32) (spreadOut : Bool)
  | cloneBuilder (name target : String)
  | allocatorCounts
  /-- Lets the counting allocator serve so many more requests. -/
  | allowAllocations (more : Option UInt64)
  | build (name : String) (kind : EngineKind) (builder : Option String) (limit : Option UInt32)
  | drop (name : String)
  /-- Takes a block from the allocator of a matcher, and gives it back. -/
  | allocateThrough (name : String) (size : Nat)
  | perform (name : String) (operation : Operation)

namespace Session

variable {scenario : Scenario}

def memory (s : Session scenario) : Memory := s.state.memory

/-- What scripted engines have been asked. -/
def recorded (s : Session scenario) : Recorded Unit := s.state.recorded

def withMemory (s : Session scenario) (m : Memory) : Session scenario :=
  { s with state := { s.state with memory := m } }

/-- Takes a block through an allocator and gives it back. -/
def tryAllocator (s : Session scenario) (a : Allocator) (size : Nat) :
    Except Abort Reply × Session scenario :=
  let before := s.memory.counts
  let (p, taken) := s.memory.allocate a size
  let given := taken.deallocate a p
  (.ok (.tried p.isNone (taken.counts.total - before.total).toNat
      (taken.counts.blocks - given.counts.blocks).toNat),
    s.withMemory given)

/-- Answers an order as a workshop. -/
def follow (s : Session scenario) (order : Order EngineKind) :
    Except Abort Reply × Session scenario :=
  let (reply, w) := s.toWorkshop.answer order
  (reply, ⟨w⟩)

def answer (s : Session scenario) : Command → Except Abort Reply × Session scenario
  | .getDefault => s.follow .getDefault
  | .setDefault limit => s.follow (.setDefault limit)
  | .builder name limits spreadOut => s.follow (.builder name limits spreadOut)
  | .cloneBuilder name target => s.follow (.cloneBuilder name target)
  | .allocatorCounts =>
    (.ok (.counted s.memory.counts.blocks.toNat s.memory.counts.total.toNat), s)
  | .allowAllocations more => (.ok .done, s.withMemory (s.memory.allowMore more))
  | .build name kind builder limit => s.follow (.build name kind builder limit)
  | .drop name => s.follow (.drop name)
  | .allocateThrough name size =>
    match s.slot? name with
    | some ⟨.backtracking a, _, _⟩ => s.tryAllocator a size
    | _ => (.error .noMatcher, s)
  | .perform name operation => s.follow (.perform name operation)

/-- With nothing recorded or reported. -/
def refreshed (s : Session scenario) : Session scenario :=
  { s with
    state := { s.state with recorded := { s.recorded with calls := [] } }
    log := { s.log with records := [] } }

/-- Discards all matchers. -/
def close (s : Session scenario) : Session scenario := ⟨s.toWorkshop.close⟩

end Session

end BoundedRegex
