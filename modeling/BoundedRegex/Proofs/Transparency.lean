import BoundedRegex.Proofs.Counted
import BoundedRegex.Proofs.Sites

/-!
# Counting without a trace

The counting allocator takes its blocks from where the other one takes them, and the same request finds
the same supply at both. As long as its limit refuses nothing, no one can tell them apart: matchers and
clients get the same answers from both, at the same addresses, and so all that follows from these answers
is the same.

What the limit refuses is noted beside the memory. A request counts as refused by the limit only if there
would have been a block for it otherwise. Without a limit of its own, an allocator that starts to count at
zero refuses nothing before its counter is full.
-/
namespace BoundedRegex.Memory

/-! ## The same heap under different counts -/

/-- Two memories that differ in their counts at most. -/
structure SameHeap (m n : Memory) : Prop where
  supply : n.supply = m.supply
  asked : n.asked = m.asked
  heap : n.heap = m.heap

section
variable {m n : Memory}

theorem SameHeap.refl (m : Memory) : m.SameHeap m := ⟨rfl, rfl, rfl⟩

theorem SameHeap.trans {k : Memory} (h : m.SameHeap n) (h' : n.SameHeap k) : m.SameHeap k :=
  ⟨h'.supply.trans h.supply, h'.asked.trans h.asked, h'.heap.trans h.heap⟩

theorem SameHeap.next (h : m.SameHeap n) : m.next.SameHeap n.next :=
  ⟨h.supply, congrArg (· + 1) h.asked, h.heap⟩

theorem SameHeap.take (h : m.SameHeap n) (size : Nat) :
    (m.take size).1 = (n.take size).1 ∧ (m.take size).2.SameHeap (n.take size).2 := by
  simp only [Memory.take, h.supply, h.asked, h.heap]
  split
  · exact ⟨rfl, h⟩
  · split
    · exact ⟨rfl, h⟩
    · cases (m.supply m.asked).base? m.heap (size + header) with
      | none => exact ⟨rfl, h⟩
      | some base => exact ⟨rfl, rfl, rfl, rfl⟩

/-- Whether the limit refuses a request that could be served. -/
def limits (m : Memory) (size : Nat) : Bool :=
  m.counts.limit ≤ m.counts.total && (m.take size).1.isSome

/-- A request that the limit does not refuse is answered as if nothing were counted. -/
theorem takeCounted_of_not_limits {size : Nat} (h : m.limits size = false) :
    (m.takeCounted size).1 = (m.take size).1 ∧ (m.takeCounted size).2.SameHeap (m.take size).2 := by
  by_cases hl : m.counts.limit ≤ m.counts.total
  · rw [takeCounted, if_pos hl]
    rcases m.take_cases size with refused | ⟨base, -, taken⟩
    · rw [refused]
      exact ⟨rfl, .refl m⟩
    · rw [limits, taken, decide_eq_true hl] at h
      cases h
  · rw [takeCounted, if_neg hl]
    rcases m.take size with ⟨_ | p, m'⟩
    · exact ⟨rfl, .refl m'⟩
    · exact ⟨rfl, rfl, rfl, rfl⟩

theorem SameHeap.allocate (h : m.SameHeap n) {size : Nat} (hl : m.limits size = false) :
    (m.allocate .counting size).1 = (n.allocate .system size).1 ∧
      (m.allocate .counting size).2.SameHeap (n.allocate .system size).2 := by
  obtain ⟨counted, after⟩ := takeCounted_of_not_limits hl
  obtain ⟨taken, after'⟩ := h.take size
  exact ⟨counted.trans taken, (after.trans after').next⟩

theorem SameHeap.deallocate (h : m.SameHeap n) (block : Option Nat) :
    (m.deallocate .counting block).SameHeap (n.deallocate .system block) := by
  cases block with
  | none => exact h
  | some p =>
    refine ⟨h.supply, h.asked, ?_⟩
    simp only [Memory.deallocate, give, giveCounted, Memory.sizeOf, h.heap]

theorem SameHeap.fill (h : m.SameHeap n) (p length : Nat) (byte : UInt8) :
    (m.fill p length byte).SameHeap (n.fill p length byte) := by
  refine ⟨h.supply, h.asked, ?_⟩
  simp only [Memory.fill, h.heap]

end

/-! ## Clients -/

namespace Holdings

/-- A client that takes a block has it counted once, whether or not it frees another one for it. -/
theorem obtain_counts (m : Memory) (held : List Holding) (name : String) (size : Nat) :
    let after := (Holdings.obtain ⟨.counting, m, held⟩ name size).2.memory
    after.counts.limit = (m.takeCounted size).2.counts.limit ∧
      after.counts.total = (m.takeCounted size).2.counts.total := by
  simp only [Holdings.obtain, allocate_counting]
  rcases m.takeCounted size with ⟨_ | p, m'⟩
  · exact ⟨rfl, rfl⟩
  · exact ⟨deallocate_limit _ _, deallocate_total _ _⟩

/-- Two clients with the same blocks, one of each allocator. -/
structure Same (h k : Holdings) : Prop where
  counting : h.allocator = .counting
  system : k.allocator = .system
  held : k.held = h.held
  memory : h.memory.SameHeap k.memory

namespace Same

variable {h k : Holdings}

theorem find? (hk : h.Same k) (name : String) : k.find? name = h.find? name := by
  rw [Holdings.find?, Holdings.find?, hk.held]

theorem release (hk : h.Same k) (name : String) : (h.release name).Same (k.release name) := by
  refine ⟨hk.counting, hk.system, ?_, ?_⟩
  · simp only [Holdings.release, hk.held]
  · simp only [Holdings.release, hk.counting, hk.system, hk.find?]
    exact hk.memory.deallocate _

theorem obtain (hk : h.Same k) (name : String) {size : Nat} (hl : h.memory.limits size = false) :
    (h.obtain name size).1 = (k.obtain name size).1 ∧ (h.obtain name size).2.Same (k.obtain name size).2 := by
  obtain ⟨_, m, _⟩ := h
  obtain ⟨_, n, blocks⟩ := k
  obtain ⟨rfl, rfl, rfl, hmn⟩ := hk
  have allocated := hmn.allocate hl
  rw [Holdings.obtain, Holdings.obtain]
  dsimp only at allocated ⊢
  generalize m.allocate .counting size = run at allocated ⊢
  generalize n.allocate .system size = run' at allocated ⊢
  obtain ⟨x, m'⟩ := run
  obtain ⟨y, n'⟩ := run'
  obtain ⟨rfl, after⟩ := allocated
  cases x with
  | none => exact ⟨rfl, rfl, rfl, rfl, after⟩
  | some p =>
    have filled : Same ⟨.counting, m'.fill p size (mark name), blocks⟩
        ⟨.system, n'.fill p size (mark name), blocks⟩ :=
      ⟨rfl, rfl, rfl, after.fill p size (mark name)⟩
    exact ⟨rfl, rfl, rfl, rfl, (filled.release name).memory⟩

/-- Whatever is asked, but for how the allocator is shown, both clients are told the same. -/
theorem answer (hk : h.Same k) {r : Request} (hr : r.describes = false)
    (hl : ∀ size ∈ r.size?, h.memory.limits size = false) :
    (h.answer r).1 = (k.answer r).1 ∧ (h.answer r).2.Same (k.answer r).2 := by
  cases r with
  | allocate name size =>
    obtain ⟨same, after⟩ := hk.obtain name (hl size rfl)
    exact ⟨congrArg Answer.allocated same, after⟩
  | deallocate name =>
    refine ⟨?_, hk.release name⟩
    simp only [Holdings.answer, hk.find?]
  | check name =>
    refine ⟨?_, hk⟩
    simp only [Holdings.answer, hk.find?, isFilled, hk.memory.heap]
  | setLimit limit =>
    have memory : (h.memory.setLimit limit).SameHeap (k.memory.setLimit limit) :=
      ⟨hk.memory.supply, hk.memory.asked, hk.memory.heap⟩
    exact ⟨rfl, hk.counting, hk.system, hk.held, memory⟩
  | describe spreadOut => cases hr

end Same

end Holdings

end BoundedRegex.Memory

namespace BoundedRegex
open Memory

variable {ι : Type}

/-! ## What the limit refuses -/

/-- Memory, and what has become of the requests to its counting allocator. -/
structure Watched where
  memory : Memory
  /-- How many requests have been served. -/
  served : Nat := 0
  /-- Whether the limit has refused a request that could have been served. -/
  limited : Bool := false

namespace Watched

/-- Notes what becomes of a request. -/
def note (size : Nat) (w : Watched) : Watched :=
  { w with
    served := if (w.memory.takeCounted size).1.isSome then w.served + 1 else w.served
    limited := w.limited || w.memory.limits size }

/-- The memory of a counting allocator that is watched. -/
def ground : Ground Watched := ⟨.counting, ⟨memory, fun m w => { w with memory := m }⟩, note⟩

/-- The limit has refused something. -/
def Limited (w : Watched) : Prop := w.limited = true

@[simp] theorem memory_noted (r : Request) (w : Watched) : (ground.noted r w).memory = w.memory := by
  cases r <;> rfl

theorem limited_note {w : Watched} (h : w.Limited) (size : Nat) : (w.note size).Limited := by
  rw [Limited] at h
  rw [Limited, note, h, Bool.true_or]

/-- To watch an allocator makes no difference. -/
theorem alike_plain :
    ground.Alike (.plain .counting) (fun _ => False) fun w m => m = w.memory where
  source :=
    { allocate := by
        rintro size w _ rfl
        exact .inr ⟨rfl, rfl⟩
      deallocate := by
        rintro block w _ rfl
        rfl
      persists := ⟨fun _ _ h => h, fun _ _ h => h⟩ }
  ask := by
    rintro r held w _ - rfl
    cases r <;> exact .inr ⟨rfl, rfl⟩
  persists _ _ _ h := h

/-- As long as the limit refuses nothing, the other allocator makes no difference either. -/
theorem alike_system :
    ground.Alike (.plain .system) Limited fun w m => w.memory.SameHeap m where
  source :=
    { allocate := by
        intro size w m h
        cases hl : w.memory.limits size with
        | true =>
          refine .inl ?_
          simp only [Limited, Ground.source, Part.act, ground, note, hl, Bool.or_true]
        | false => exact .inr (h.allocate hl)
      deallocate := fun block w m h => h.deallocate block
      persists := ⟨fun size w h => limited_note h size, fun _ _ h => h⟩ }
  ask := by
    intro r held w m hr h
    by_cases hl : ∀ size ∈ r.size?, w.memory.limits size = false
    · have same : Holdings.Same ⟨.counting, (ground.noted r w).memory, held⟩ ⟨.system, m, held⟩ :=
        ⟨rfl, rfl, rfl, by rwa [memory_noted]⟩
      rw [← memory_noted r] at hl
      obtain ⟨told, after⟩ := same.answer hr hl
      refine .inr ?_
      simp only [Ground.ask, Ground.noted_plain]
      exact ⟨Prod.ext told after.held.symm, after.memory⟩
    · -- What the limit refuses is noted before it is answered.
      simp only [not_forall, Bool.not_eq_false] at hl
      obtain ⟨size, hsize, hl⟩ := hl
      have limited : (ground.noted r w).Limited := by
        rw [Ground.noted, hsize]
        simp only [Limited, ground, note, hl, Bool.or_true]
      exact .inl limited
  persists := by
    intro r held w h
    have limited : (ground.noted r w).Limited := by
      rw [Ground.noted]
      cases r.size? with
      | none => exact h
      | some size => exact limited_note h size
    exact limited

/-! ## Without a limit -/

/-- No limit has been set, and all requests that were served have been counted. -/
structure Unlimited (w : Watched) : Prop where
  limit : w.memory.counts.limit = 0xFFFFFFFFFFFFFFFF
  total : w.memory.counts.total.toNat = w.served
  /-- Nothing has been refused before the counter was full. -/
  full : w.Limited → w.served = 0xFFFFFFFFFFFFFFFF

namespace Unlimited

theorem of_counts {w v : Watched} (h : w.Unlimited)
    (hlimit : v.memory.counts.limit = w.memory.counts.limit)
    (htotal : v.memory.counts.total = w.memory.counts.total) (hserved : v.served = w.served)
    (hlimited : v.limited = w.limited) : v.Unlimited := by
  refine ⟨hlimit.trans h.limit, ?_, ?_⟩
  · rw [htotal, hserved, h.total]
  · rw [Limited, hlimited, hserved]
    exact h.full

theorem allocate {w : Watched} (h : w.Unlimited) (size : Nat) :
    (ground.source.allocate size w).2.Unlimited := by
  have step : (ground.source.allocate size w).2 =
      { w.note size with memory := (w.memory.takeCounted size).2.next } := rfl
  have max : (0xFFFFFFFFFFFFFFFF : UInt64).toNat = 0xFFFFFFFFFFFFFFFF := rfl
  have bound := w.memory.counts.total.toNat_lt
  have reached : w.memory.counts.limit ≤ w.memory.counts.total ↔ w.served = 0xFFFFFFFFFFFFFFFF := by
    rw [h.limit, UInt64.le_iff_toNat_le, max, h.total]
    rw [h.total] at bound
    omega
  have full : (w.note size).Limited → w.served = 0xFFFFFFFFFFFFFFFF := by
    intro limited
    rw [Limited, note, Bool.or_eq_true] at limited
    rcases limited with before | now
    · exact h.full before
    · rw [Memory.limits, Bool.and_eq_true, decide_eq_true_eq] at now
      exact reached.mp now.1
  -- The counter has not been full before, so it counts all requests that are served.
  rw [step]
  rcases w.memory.takeCounted_cases size with refused | ⟨p, m, served, unreached, limit, total⟩
  · have same : (w.note size).served = w.served := by
      simp only [note, refused]
      rfl
    refine ⟨?_, ?_, fun limited => same.trans (full limited)⟩
    · simp only [refused, next_counts, h.limit]
    · simp only [same, refused, next_counts, h.total]
  · have more : (w.note size).served = w.served + 1 := by
      simp only [note, served]
      rfl
    refine ⟨?_, ?_, fun limited => absurd (reached.mpr (full limited)) unreached⟩
    · simp only [served, next_counts, limit, h.limit]
    · have one : (1 : UInt64).toNat = 1 := rfl
      have room : w.served ≠ 0xFFFFFFFFFFFFFFFF := mt reached.mpr unreached
      rw [h.total] at bound
      simp only [more, served, next_counts, total, UInt64.toNat_add, h.total, one]
      omega

theorem persists : ground.source.Persists Unlimited where
  allocate size _ h := h.allocate size
  deallocate block _ h :=
    h.of_counts (deallocate_limit _ block) (deallocate_total _ block) rfl rfl

/-- What a client asks for does not set a limit, unless it asks for one. -/
theorem ask {w : Watched} (h : w.Unlimited) {r : Request} (hr : ∀ limit, r ≠ .setLimit (some limit))
    (held : List Holding) : (ground.ask r held w).2.Unlimited := by
  cases r with
  | allocate name size =>
    obtain ⟨limit, total⟩ := Holdings.obtain_counts w.memory held name size
    exact (h.allocate size).of_counts limit total rfl rfl
  | deallocate name =>
    exact h.of_counts (deallocate_limit _ _) (deallocate_total _ _) rfl rfl
  | check name => exact h.of_counts rfl rfl rfl rfl
  | setLimit limit =>
    cases limit with
    | none => exact ⟨rfl, h.total, h.full⟩
    | some limit => exact absurd rfl (hr limit)
  | describe spreadOut => exact h.of_counts rfl rfl rfl rfl

end Unlimited

end Watched

/-! ## Runs -/

section
variable {σ τ : Type} {L : ι → Library} {S : Source σ} {S' : Source τ}

/-- The same matcher over another source. -/
def Slot.onto (S' : Source τ) (slot : Slot fun i => (L i).maker S) : Slot fun i => (L i).maker S' where
  kind := slot.kind
  own := slot.own
  client :=
    { matcher :=
        { prepared := slot.client.matcher.prepared.map fun p => ⟨p.pattern, p.flags, p.code, p.buffer⟩
          depthLimit := slot.client.matcher.depthLimit }
      spans := slot.client.spans
      views := slot.client.views }

theorem Slot.onto_onto {ρ : Type} {S'' : Source ρ} (slot : Slot fun i => (L i).maker S) :
    (slot.onto S').onto S'' = slot.onto S'' := by
  simp only [onto, Option.map_map]
  rfl

theorem Slot.eq_onto {Spoilt : σ → Prop} {state : σ → τ → Prop} {h : S.Alike S' Spoilt state}
    {slot : Slot fun i => (L i).maker S} {slot' : Slot fun i => (L i).maker S'}
    (hs : Slot.Alike (fun i => (L i).likeness h) slot slot') : slot' = slot.onto S' := by
  obtain @⟨kind, own, _, ⟨⟨prepared, limit⟩, spans, views⟩, ⟨⟨prepared', limit'⟩, spans', views'⟩, owns,
    hprepared, hlimit, hspans, hviews⟩ := hs
  cases owns
  cases hlimit
  cases hspans
  cases hviews
  cases hprepared with
  | none => rfl
  | @some p q same =>
    obtain ⟨pattern, flags, code, buffer⟩ := p
    obtain ⟨pattern', flags', code', buffer'⟩ := q
    obtain ⟨hpattern, hflags, hcode, hbuffer⟩ := same
    cases hpattern
    cases hflags
    cases hcode
    cases hbuffer
    rfl

end

namespace Site

variable {L : ι → Library}

/-- What becomes of the same deeds at a site of the counting allocator and at one of the other. -/
structure Transparent (deeds : List (Deed ι)) (w : Site (.plain .counting) L)
    (v : Site (.plain .system) L) : Prop where
  told : v.told deeds = w.told deeds
  log : (v.run deeds).log = (w.run deeds).log
  /-- The matchers are the same, with their codes and buffers and with the vectors of their callers. -/
  slots : (v.run deeds).slots = (w.run deeds).slots.map (Prod.map id (Slot.onto _))
  defaultLimit : (v.run deeds).defaultLimit = (w.run deeds).defaultLimit
  builders : (v.run deeds).builders = (w.run deeds).builders
  /-- The client has the same blocks, at the same addresses, and all memory has the same bytes. -/
  held : (v.run deeds).held = (w.run deeds).held
  heap : (w.run deeds).state.SameHeap (v.run deeds).state

/-- What has been noted while deeds were done at a site of the counting allocator. -/
def watch (L : ι → Library) (m : Memory) (log : Log) (limit : UInt32)
    (builders : List (String × MatcherBuilder)) (deeds : List (Deed ι)) : Watched :=
  ((opened Watched.ground L { memory := m } log limit builders).run deeds).state

variable {m : Memory} {log : Log} {limit : UInt32} {builders : List (String × MatcherBuilder)}
  {deeds : List (Deed ι)}

/-- Without a limit, nothing is refused before the counter is full. -/
theorem unlimited (hm : m.counts = {})
    (hd : ∀ r, .request r ∈ deeds → ∀ n, r.1 ≠ .setLimit (some n))
    (hs : (watch L m log limit builders deeds).served < 0xFFFFFFFFFFFFFFFF) :
    (watch L m log limit builders deeds).limited = false := by
  have start : Watched.Unlimited { memory := m } := ⟨by rw [hm], by rw [hm]; rfl, nofun⟩
  have unlimited : (watch L m log limit builders deeds).Unlimited :=
    run_persists Watched.Unlimited.persists (fun r held _ hr h => h.ask (hd r hr) held) start
  rw [← Bool.not_eq_true]
  intro limited
  exact Nat.lt_irrefl _ (unlimited.full limited ▸ hs)

/-- Counting leaves no trace if the limit refuses nothing, and in particular if there is none and fewer
requests are served than can be counted. -/
theorem transparent (L : ι → Library) (m : Memory) (log : Log) (limit : UInt32)
    (builders : List (String × MatcherBuilder)) (deeds : List (Deed ι))
    (h : (watch L m log limit builders deeds).limited = false ∨
      m.counts = {} ∧ (∀ r, .request r ∈ deeds → ∀ n, r.1 ≠ .setLimit (some n)) ∧
        (watch L m log limit builders deeds).served < 0xFFFFFFFFFFFFFFFF) :
    Transparent deeds (opened (.plain .counting) L m log limit builders)
      (opened (.plain .system) L m log limit builders) := by
  have unrefused : (watch L m log limit builders deeds).limited = false := by
    rcases h with unrefused | ⟨hm, hd, hs⟩
    · exact unrefused
    · exact unlimited hm hd hs
  -- Both sites are compared with the one that is watched.
  have counting := (Alike.opened (L := L) (h := Watched.alike_plain) (s := { memory := m }) rfl log limit
    builders).run deeds
  have system := (Alike.opened (L := L) (h := Watched.alike_system) (s := { memory := m }) (.refl m) log
    limit builders).run deeds
  obtain ⟨told, alike⟩ := counting.resolve_left id
  obtain ⟨told', alike'⟩ := system.resolve_left (Bool.eq_false_iff.mp unrefused)
  refine ⟨told'.trans told.symm, alike'.logs.symm.trans alike.logs, ?slots,
    alike'.defaultLimit.trans alike.defaultLimit.symm, alike'.builders.trans alike.builders.symm,
    alike'.held.trans alike.held.symm, ?heap⟩
  case slots =>
    rw [Named.eq_map (fun _ _ => Slot.eq_onto) alike.slots,
      Named.eq_map (fun _ _ => Slot.eq_onto) alike'.slots, List.map_map]
    exact List.map_congr_left fun e _ => congrArg (Prod.mk e.1) (Slot.onto_onto e.2).symm
  case heap =>
    rw [alike.state]
    exact alike'.state

/-- A matcher and a client under a limit that is just enough for both, with a request for more memory than
there is. -/
theorem transparent_backtracking :
    let L : Unit → Library := fun _ => Backtracking.library
    let ask (r : Request) (h : r.describes = false) : Deed Unit := .request ⟨r, h⟩
    let deeds : List (Deed Unit) :=
      [ask (.setLimit (some 5)) rfl, .order (.build "m" () none none), ask (.allocate "x" 10) rfl,
        .order (.perform "m" (.isMatch ⟨#[97]⟩ 0)), ask (.allocate "y" 0x7FFFFFFFFFFFFFFF) rfl,
        ask (.deallocate "x") rfl, ask (.allocate "x" 0) rfl, ask (.check "x") rfl, .order (.drop "m")]
    (watch L {} {} 7 [] deeds).limited = false ∧ (watch L {} {} 7 [] deeds).served = 5 ∧
      Transparent deeds (opened (.plain .counting) L {} {} 7 []) (opened (.plain .system) L {} {} 7 []) := by
  intro L ask deeds
  have unrefused : (watch L {} {} 7 [] deeds).limited = false := by decide +kernel
  exact ⟨unrefused, by decide +kernel, transparent L {} {} 7 [] deeds (.inl unrefused)⟩

end Site

end BoundedRegex
