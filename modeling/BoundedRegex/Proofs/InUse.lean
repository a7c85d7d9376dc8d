import BoundedRegex.Proofs.Backtracking

/-!
# Blocks in use

Matchers over one library take their memory from one counting allocator. At each request its limit may be
another one, and there may be room for other regions in the heap. The blocks in use are at all times those
of the contexts, codes and buffers of the matchers that exist, whichever requests are refused, and the
counters say so.
-/
namespace BoundedRegex
open Memory

namespace Workshop

variable {L : Library} {O : L.Ownership}

/-- A workshop in whose memory exactly the blocks of its matchers are in use and counted. -/
structure Exact (O : L.Ownership) {limits : Nat → Option UInt64}
    (w : Workshop fun _ : Unit => L.maker (changing limits)) : Prop where
  inUse : w.state.1.heap.blocks = w.blocks O
  count : w.state.1.counts.blocks.toNat = (w.blocks O).card
  bytes : w.state.1.counts.bytes.toNat = ((w.blocks O).map Block.size).sum

variable {limits : Nat → Option UInt64} {w : Workshop fun _ : Unit => L.maker (changing limits)}

theorem Sound.exact (h : w.Sound fun _ => O.account (changing_keeps limits)) : w.Exact O := by
  have counted : w.state.1.Counted (w.blocks O) := held_blocks O (changing_keeps limits) w ▸ h.out
  exact ⟨counted.blocks, counted.toNat_blocks, counted.toNat_bytes⟩

/-- The counters of two workshops with the same matchers agree. -/
theorem Exact.counters_eq {w' : Workshop fun _ : Unit => L.maker (changing limits)}
    (h : w.Exact O) (h' : w'.Exact O) (hs : w.slots = w'.slots) :
    w.state.1.counts.blocks = w'.state.1.counts.blocks ∧
      w.state.1.counts.bytes = w'.state.1.counts.bytes := by
  have blocks : w.blocks O = w'.blocks O := by simp only [Workshop.blocks, hs]
  exact ⟨UInt64.toNat.inj (by rw [h.count, h'.count, blocks]),
    UInt64.toNat.inj (by rw [h.bytes, h'.bytes, blocks])⟩

theorem Exact.counters_zero (h : w.Exact O) (hs : w.slots = []) :
    w.state.1.counts.blocks = 0 ∧ w.state.1.counts.bytes = 0 := by
  have blocks : w.blocks O = 0 := by simp only [Workshop.blocks, hs, List.map_nil, List.sum_nil]
  exact ⟨UInt64.toNat.inj (by rw [h.count, blocks]; rfl),
    UInt64.toNat.inj (by rw [h.bytes, blocks]; rfl)⟩

/-- What is said of the memory of a workshop at each moment of a run. -/
structure Owned (O : L.Ownership) {limits : Nat → Option UInt64}
    (w : Workshop fun _ : Unit => L.maker (changing limits)) : Prop where
  /-- The blocks in use are those of the matchers and their engines. -/
  exact : w.Exact O
  /-- From its building to its end, a matcher has the blocks that it was built with whenever it is
  unprepared. -/
  built : ∀ name builder l slot after,
    (w.answer (.build name () builder l)).2.slot? name = some slot →
    (∀ order ∈ after, order.replaces name = false) →
    ∃ client,
      ((w.answer (.build name () builder l)).2.run after).slot? name =
        some { slot with client := client } ∧
      (client.matcher.prepared = none →
        Slot.blocks O { slot with client := client } = slot.blocks O)
  refused : ∀ name pattern flags e slot,
    (w.answer (.perform name (.prepare pattern flags))).1 = .ok (.prepared (.error e)) →
    (w.answer (.perform name (.prepare pattern flags))).2.slot? name = some slot →
    slot.client.matcher.prepared = none
  /-- A matcher that has been cleared is unprepared. -/
  cleared : ∀ name slot, (w.answer (.perform name .clear)).2.slot? name = some slot →
    slot.client.matcher.prepared = none
  /-- Where building is aborted, the counters are those without the matcher to be replaced. -/
  aborted : ∀ name builder l a, (w.answer (.build name () builder l)).1 = .error a →
    (w.answer (.build name () builder l)).2.slots = (w.drop name).slots ∧
    (w.answer (.build name () builder l)).2.state.1.counts.blocks =
      (w.drop name).state.1.counts.blocks ∧
    (w.answer (.build name () builder l)).2.state.1.counts.bytes =
      (w.drop name).state.1.counts.bytes
  /-- Without matchers, nothing is in use. -/
  empty : w.slots = [] → w.state.1.counts.blocks = 0 ∧ w.state.1.counts.bytes = 0
  /-- Once all matchers are discarded, nothing is in use. -/
  closed : w.close.slots = [] ∧ w.close.state.1.counts.blocks = 0 ∧
    w.close.state.1.counts.bytes = 0

theorem Sound.owned (h : w.Sound fun _ => O.account (changing_keeps limits)) : w.Owned O where
  exact := h.exact
  built := by
    intro name builder l slot after hb hr
    obtain ⟨client, hc⟩ := run_slot hb after hr
    refine ⟨client, hc, fun hp => ?_⟩
    rw [Slot.blocks_none O hp, Slot.blocks_none O (build_unprepared hb)]
  refused _ _ _ _ _ := prepare_refused
  cleared _ _ := clear_unprepared
  aborted := by
    intro name builder l a ha
    exact ⟨build_aborted ha,
      (h.answer _).exact.counters_eq (h.drop name).exact (build_aborted ha)⟩
  empty := h.exact.counters_zero
  closed := ⟨close_slots w, h.close.exact.counters_zero (close_slots w)⟩

/-- In every run, whichever limit is in force at each request and whatever the heap has room for then,
memory belongs to the matchers that there are. -/
theorem run_owned (O : L.Ownership) (limits : Nat → Option UInt64) (supply : Nat → Supply) (log : Log)
    (limit : UInt32) (builders : List (String × MatcherBuilder)) (orders : List (Order Unit)) :
    ((opened ({ supply := supply }, 0) log limit builders :
      Workshop fun _ : Unit => L.maker (changing limits)).run orders).Owned O := by
  have start : (opened ({ supply := supply }, 0) log limit builders :
      Workshop fun _ : Unit => L.maker (changing limits)).Sound
        fun _ => O.account (changing_keeps limits) :=
    ⟨List.nodup_nil, Heap.empty_sound, rfl, rfl, rfl⟩
  exact (start.run orders).owned

/-- A run over the backtracking library in which the limit refuses every fifth request, and the
heap has no room for every seventh one. -/
theorem run_owned_backtracking :
    ((opened ({ supply := Supply.intermittent }, 0) {} 10000000 [] :
      Workshop fun _ : Unit => Backtracking.library.maker
        (changing fun n => if n % 5 = 4 then some 0 else none)).run
      [.build "m" () none none, .perform "m" (.prepare "(a|b)*c" .empty),
        .perform "m" (.prepare "(a|b)*c" .empty), .perform "m" (.find ⟨#[97, 97, 98]⟩ 0),
        .build "n" () none (some 3), .perform "m" (.prepare "(" .empty), .drop "m"]).Owned
      Backtracking.ownership :=
  run_owned Backtracking.ownership _ _ {} 10000000 [] _

end Workshop

end BoundedRegex
