import BoundedRegex.Engine.Maker
import BoundedRegex.Matcher.Builder
import BoundedRegex.Matcher.Operation

/-!
# Workshops

Matchers and builders under names, each matcher with an engine of its own. The engines come from
several makers over one state; besides that state, matchers share the log and the default depth limit.
A workshop answers one order after another. An order that is aborted leaves everything usable.
-/
namespace BoundedRegex

/-- A matcher with its vectors, and what its engine holds. -/
structure Slot {ι σ : Type} (M : ι → Maker σ) where
  kind : ι
  own : (M kind).Own
  client : Client (M kind).engine

/-- Matchers and what they share. -/
structure Workshop {ι σ : Type} (M : ι → Maker σ) where
  state : σ
  log : Log := {}
  defaultLimit : UInt32 := standardDepthLimit
  builders : List (String × MatcherBuilder) := []
  slots : List (String × Slot M) := []

inductive Order (ι : Type) where
  | getDefault
  | setDefault (limit : UInt32)
  /-- Gives a builder limits in turn, and shows it. -/
  | builder (name : String) (limits : List UInt32) (spreadOut : Bool)
  | cloneBuilder (name target : String)
  /-- Builds a matcher in place of the one of that name, by a builder, or else with a limit. -/
  | build (name : String) (kind : ι) (builder : Option String) (limit : Option UInt32)
  | drop (name : String)
  | perform (name : String) (operation : Operation)

namespace Workshop

variable {ι σ : Type} {M : ι → Maker σ}

def work {α : Type} (w : Workshop M) (slot : Slot M) (job : Work (M slot.kind).engine α) :
    Except Abort α × Slot M × Workshop M :=
  let bench : Bench (M slot.kind).engine := { slot.client with state := w.state, log := w.log }
  let (result, bench) := job.run bench
  (result, { slot with client := bench.toClient }, { w with state := bench.state, log := bench.log })

def slot? (w : Workshop M) (name : String) : Option (Slot M) := w.slots.lookup name

def without (w : Workshop M) (name : String) : Workshop M :=
  { w with slots := w.slots.filter (·.1 != name) }

def put (w : Workshop M) (name : String) (slot : Slot M) : Workshop M :=
  { w with slots := (name, slot) :: w.slots.filter (·.1 != name) }

/-- Discards a matcher: its pattern, and then its engine. -/
def discard (w : Workshop M) (slot : Slot M) : Workshop M :=
  let (_, slot, w) := w.work slot Bench.clear
  { w with state := (M slot.kind).unmake slot.own w.state }

/-- Discards the matcher of a name, if there is one. -/
def drop (w : Workshop M) (name : String) : Workshop M :=
  match w.slot? name with
  | some slot => (w.without name).discard slot
  | none => w

def builderOf (w : Workshop M) (name : String) : MatcherBuilder :=
  (w.builders.lookup name).getD {}

def putBuilder (w : Workshop M) (name : String) (b : MatcherBuilder) : Workshop M :=
  { w with builders := (name, b) :: w.builders.filter (·.1 != name) }

def build (w : Workshop M) (name : String) (kind : ι) (b : MatcherBuilder) :
    Except Abort Reply × Workshop M :=
  match (M kind).make w.state with
  | (.ok own, s) =>
    (.ok .done, { w with state := s }.put name ⟨kind, own, { matcher := b.build w.defaultLimit _ }⟩)
  | (.error a, s) => (.error a, { w with state := s })

def answer (w : Workshop M) : Order ι → Except Abort Reply × Workshop M
  | .getDefault => (.ok (.number w.defaultLimit.toNat), w)
  | .setDefault limit =>
    (.ok (.number w.defaultLimit.toNat), { w with defaultLimit := limit })
  | .builder name limits spreadOut =>
    let b := limits.foldl MatcherBuilder.withLimit (w.builderOf name)
    (.ok (.text (b.shown.render spreadOut)), w.putBuilder name b)
  | .cloneBuilder name target => (.ok .done, w.putBuilder target (w.builderOf name))
  | .build name kind builder limit =>
    let b : MatcherBuilder :=
      match builder with
      | some b => w.builderOf b
      | none => ⟨limit⟩
    (w.drop name).build name kind b
  | .drop name => (.ok .done, w.drop name)
  | .perform name operation =>
    match w.slot? name with
    | some slot =>
      let (result, slot, w) := w.work slot (Bench.perform operation)
      (result, w.put name slot)
    | none => (.error .noMatcher, w)

/-- Discards all matchers. -/
def close (w : Workshop M) : Workshop M :=
  w.slots.foldl (fun w slot => w.drop slot.1) w

end Workshop

end BoundedRegex
