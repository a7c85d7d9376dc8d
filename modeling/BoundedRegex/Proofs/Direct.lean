import BoundedRegex.Engine.Direct
import BoundedRegex.Proofs.Backtracking
import BoundedRegex.Proofs.Counters
import BoundedRegex.Proofs.Sharing

/-!
# Engines used directly

Whoever uses an engine directly drops it, its codes and its buffers in any order. Each of them has a share
from its making to its end, so there are as many shares as there are such things. In particular, the owners
of a shared record are those of them that there are: whenever the library hands the record back, some owner
is left, and once nothing is left of an engine, all that it has taken has been given back.
-/
namespace BoundedRegex
open Memory

namespace Direct

variable {σ ρ : Type} {M : Maker σ} {Held : Nat → σ → Multiset ρ → Prop}

def held (A : M.Shares Held) (d : Direct M) : Multiset ρ :=
  d.own.elim 0 A.own + ((d.codes.map A.code).sum + (d.buffers.map A.buffer).sum)

/-- The shares are those of the things that there are, and these hold all that is held. -/
def Kept (A : M.Shares Held) (d : Direct M) : Prop := Held d.things d.state (d.held A)

theorem sum_eraseIdx {α : Type} (f : α → Multiset ρ) {l : List α} {i : Nat} {a : α}
    (hi : l[i]? = some a) : (l.map f).sum = f a + ((l.eraseIdx i).map f).sum := by
  rw [((perm_eraseIdx hi).map f).sum_eq, List.map_cons, List.sum_cons]

theorem sum_set {α : Type} (f : α → Multiset ρ) {l : List α} {i : Nat} (hi : i < l.length) (a : α) :
    ((l.set i a).map f).sum = f a + ((l.eraseIdx i).map f).sum := by
  rw [((List.set_perm_cons_eraseIdx hi a).map f).sum_eq, List.map_cons, List.sum_cons]

/-- Where nothing is left, nothing is held. -/
theorem held_of_gone (A : M.Shares Held) {d : Direct M} (h : d.things = 0) : d.held A = 0 := by
  have own : d.own = none := by
    cases ho : d.own with
    | none => rfl
    | some own =>
      simp only [things, ho, Option.toList_some, List.length_singleton] at h
      omega
  have codes : d.codes = [] := List.eq_nil_of_length_eq_zero (by unfold things at h; omega)
  have buffers : d.buffers = [] := List.eq_nil_of_length_eq_zero (by unfold things at h; omega)
  simp only [held, own, codes, buffers, Option.elim_none, List.map_nil, List.sum_nil, zero_add]

theorem things_pos {d : Direct M} {own : M.Own} (ho : d.own = some own) : 0 < d.things := by
  simp only [things, ho, Option.toList_some, List.length_singleton]
  omega

section
variable {A : M.Shares Held} {d : Direct M}

theorem kept_of_eq {n : Nat} {things : Multiset ρ} (h : Held n d.state things) (hn : n = d.things)
    (hh : things = d.held A) : d.Kept A := by
  rwa [Kept, ← hn, ← hh]

theorem kept_start {s : σ} (h : Held 0 s 0) : (start M s).Kept A := by
  have made := A.make h
  unfold start
  rcases hm : M.make s with ⟨a | own, s'⟩ <;> rw [hm] at made
  · exact made
  · exact kept_of_eq made rfl (add_zero _).symm

theorem kept_compile (h : d.Kept A) (pattern : String) (flags : Flags) :
    (d.use (.compile pattern flags)).Kept A := by
  cases ho : d.own with
  | none => simpa only [use, ho] using h
  | some own =>
    have made := A.compile pattern flags (things_pos ho) h
    simp only [use, ho]
    rcases hc : M.engine.compile pattern flags d.state with ⟨_ | code, s⟩ <;> rw [hc] at made
    · apply kept_of_eq made
      · rw [things, things, ho]
      · rw [held, held, ho]
    · apply kept_of_eq made
      · simp only [things, ho, List.length_cons]
        omega
      · rw [held, held, ho, List.map_cons, List.sum_cons, add_assoc, add_left_comm]

theorem kept_makeBuffer (h : d.Kept A) (n : Nat) : (d.use (.makeBuffer n)).Kept A := by
  cases ho : d.own with
  | none => simpa only [use, ho] using h
  | some own =>
    cases hc : d.codes[n]? with
    | none => simpa only [use, ho, hc] using h
    | some code =>
      have made := A.makeBuffer code (things_pos ho) h
      simp only [use, ho, hc]
      rcases hm : M.engine.makeBuffer code d.state with ⟨_ | buffer, s⟩ <;> rw [hm] at made
      · apply kept_of_eq made
        · rw [things, things, ho]
        · rw [held, held, ho]
      · apply kept_of_eq made
        · simp only [things, ho, List.length_cons]
          omega
        · rw [held, held, ho, List.map_cons, List.sum_cons, add_left_comm,
            add_left_comm (A.buffer buffer)]

theorem held_code {n : Nat} {code : M.engine.Code} (hc : d.codes[n]? = some code) :
    d.held A = A.code code + { d with codes := d.codes.eraseIdx n }.held A := by
  rw [held, held, sum_eraseIdx A.code hc, add_assoc, add_left_comm]

theorem held_buffer {n : Nat} {buffer : M.engine.Buffer} (hb : d.buffers[n]? = some buffer) :
    d.held A = A.buffer buffer + { d with buffers := d.buffers.eraseIdx n }.held A := by
  rw [held, held, sum_eraseIdx A.buffer hb, add_left_comm _ (A.buffer buffer),
    add_left_comm _ (A.buffer buffer)]

theorem kept_execute (h : d.Kept A) (n k : Nat) (subject : ByteArray) (start : Nat) (limit : UInt32) :
    (d.use (.execute n k subject start limit)).Kept A := by
  cases ho : d.own with
  | none => simpa only [use, ho] using h
  | some own =>
    cases hc : d.codes[n]? with
    | none => simpa only [use, ho, hc] using h
    | some code =>
      cases hb : d.buffers[k]? with
      | none => simpa only [use, ho, hc, hb] using h
      | some buffer =>
        have hk : k < d.buffers.length := (List.getElem?_eq_some_iff.mp hb).1
        rw [Kept, held_buffer hb] at h
        have searched := A.execute code subject start limit buffer (things_pos ho) h
        simp only [use, ho, hc, hb]
        apply kept_of_eq searched
        · rw [things, things, ho, List.length_set]
        · rw [held, held, ho, sum_set A.buffer hk, add_left_comm, add_left_comm (A.buffer _)]

theorem kept_dropEngine (h : d.Kept A) : (d.use .dropEngine).Kept A := by
  cases ho : d.own with
  | none => simpa only [use, ho] using h
  | some own =>
    have all : d.things = d.codes.length + d.buffers.length + 1 := by
      simp only [things, ho, Option.toList_some, List.length_singleton]
      omega
    rw [Kept, all, held, ho, Option.elim_some] at h
    simp only [use, ho]
    apply kept_of_eq (A.unmake own h)
    · simp only [things, Option.toList_none, List.length_nil, Nat.zero_add]
    · rw [held, Option.elim_none, zero_add]

theorem kept_dropCode (h : d.Kept A) (n : Nat) : (d.use (.dropCode n)).Kept A := by
  cases hc : d.codes[n]? with
  | none => simpa only [use, hc] using h
  | some code =>
    have hn : n < d.codes.length := (List.getElem?_eq_some_iff.mp hc).1
    have all : d.things = { d with codes := d.codes.eraseIdx n }.things + 1 := by
      have others := List.length_eraseIdx_add_one hn
      simp only [things]
      omega
    rw [Kept, all, held_code hc] at h
    simp only [use, hc]
    exact A.releaseCode code h

theorem kept_dropBuffer (h : d.Kept A) (n : Nat) : (d.use (.dropBuffer n)).Kept A := by
  cases hb : d.buffers[n]? with
  | none => simpa only [use, hb] using h
  | some buffer =>
    have hn : n < d.buffers.length := (List.getElem?_eq_some_iff.mp hb).1
    have all : d.things = { d with buffers := d.buffers.eraseIdx n }.things + 1 := by
      have others := List.length_eraseIdx_add_one hn
      simp only [things]
      omega
    rw [Kept, all, held_buffer hb] at h
    simp only [use, hb]
    exact A.releaseBuffer buffer h

/-- Each use that makes a thing makes a share for it, and each that ends a thing ends its share. -/
theorem kept_run (h : d.Kept A) (uses : List Use) : (d.run uses).Kept A := by
  induction uses generalizing d with
  | nil => exact h
  | cons u rest ih =>
    apply ih
    cases u with
    | compile pattern flags => exact kept_compile h pattern flags
    | makeBuffer code => exact kept_makeBuffer h code
    | execute code n subject start limit => exact kept_execute h code n subject start limit
    | dropEngine => exact kept_dropEngine h
    | dropCode n => exact kept_dropCode h n
    | dropBuffer n => exact kept_dropBuffer h n

end

/-! ## Engines over a library -/

variable {L : Library} {S : Source σ}

/-- The blocks of an engine and of what it has made. -/
def blocks (O : L.Ownership) (d : Direct (L.sharing S)) : Multiset Block :=
  d.own.elim 0 O.contexts + ((d.codes.map O.code).sum + (d.buffers.map O.buffer).sum)

/-- An engine with what it has made, as it would be without a record. -/
def plain (d : Direct (L.sharing S)) : Direct (L.maker S) where
  state := d.state.state
  own := d.own
  codes := d.codes
  buffers := d.buffers

section
variable {d : Direct (L.sharing S)}

theorem plain_own {own : Option L.Contexts} (h : d.own = own) : d.plain.own = own := h

theorem plain_codes {n : Nat} {code : Option L.Code} (h : d.codes[n]? = code) :
    d.plain.codes[n]? = code := h

theorem plain_buffers {n : Nat} {buffer : Option L.Buffer} (h : d.buffers[n]? = buffer) :
    d.plain.buffers[n]? = buffer := h

end

theorem start_plain (s : Shared σ) :
    (start (L.sharing S) s).plain = start (L.maker S) s.state := by
  unfold start
  rw [Library.make_shared]
  rcases (L.sharing S).make s with ⟨a | own, s'⟩ <;> rfl

theorem use_plain (d : Direct (L.sharing S)) (u : Use) : (d.use u).plain = d.plain.use u := by
  have state : d.plain.state = d.state.state := rfl
  cases u with
  | compile pattern flags =>
    cases ho : d.own with
    | none => simp only [use, ho, plain_own ho]
    | some own =>
      simp only [use, ho, plain_own ho, state, Library.compile_shared pattern flags d.state]
      rcases (L.sharing S).engine.compile pattern flags d.state with ⟨_ | code, s'⟩ <;> rfl
  | makeBuffer n =>
    cases ho : d.own with
    | none => simp only [use, ho, plain_own ho]
    | some own =>
      cases hc : d.codes[n]? with
      | none => simp only [use, ho, plain_own ho, hc, plain_codes hc]
      | some code =>
        simp only [use, ho, plain_own ho, hc, plain_codes hc, state,
          Library.makeBuffer_shared code d.state]
        rcases (L.sharing S).engine.makeBuffer code d.state with ⟨_ | buffer, s'⟩ <;> rfl
  | execute n k subject start limit =>
    cases ho : d.own with
    | none => simp only [use, ho, plain_own ho]
    | some own =>
      cases hc : d.codes[n]? with
      | none => simp only [use, ho, plain_own ho, hc, plain_codes hc]
      | some code =>
        cases hb : d.buffers[k]? with
        | none => simp only [use, ho, plain_own ho, hc, plain_codes hc, hb, plain_buffers hb]
        | some buffer =>
          simp only [use, ho, plain_own ho, hc, plain_codes hc, hb, plain_buffers hb, state,
            Library.execute_shared code subject start limit buffer d.state]
          rfl
  | dropEngine =>
    cases ho : d.own with
    | none => simp only [use, ho, plain_own ho]
    | some own =>
      simp only [use, ho, plain_own ho, state, Library.unmake_shared own d.state]
      rfl
  | dropCode n =>
    cases hc : d.codes[n]? with
    | none => simp only [use, hc, plain_codes hc]
    | some code =>
      simp only [use, hc, plain_codes hc, state, Library.releaseCode_shared code d.state]
      rfl
  | dropBuffer n =>
    cases hb : d.buffers[n]? with
    | none => simp only [use, hb, plain_buffers hb]
    | some buffer =>
      simp only [use, hb, plain_buffers hb, state, Library.releaseBuffer_shared buffer d.state]
      rfl

theorem run_plain (d : Direct (L.sharing S)) (uses : List Use) :
    (d.run uses).plain = d.plain.run uses := by
  induction uses generalizing d with
  | nil => rfl
  | cons u rest ih => exact (ih (d.use u)).trans (congrArg (run rest) (use_plain d u))

/-! ## Runs over the counting allocator -/

/-- What is said at each moment of a run of an engine and of what it has made, over a memory that was as
`before` when the engine was to be made. -/
structure Safe (O : L.Ownership) {limits : Nat → Option UInt64} (before : Memory)
    (d : Direct (L.sharing (changing limits))) : Prop where
  /-- Whenever the record is handed back, it has an owner, and only live blocks are freed. -/
  orderly : Callback.Orderly d.state.callbacks
  owners : d.state.owners = d.things
  live : (Callback.live d.state.callbacks : Multiset Nat) = (d.blocks O).map Block.address
  inUse : d.state.state.1.heap.blocks = d.blocks O + before.heap.blocks
  count : d.state.state.1.counts.blocks.toNat = (d.blocks O).card + before.counts.blocks.toNat
  bytes : d.state.state.1.counts.bytes.toNat =
    ((d.blocks O).map Block.size).sum + before.counts.bytes.toNat
  /-- Once the engine, the codes and the buffers are gone, so is the record, and all is as before. -/
  gone : d.things = 0 →
    d.state.owners = 0 ∧ Callback.live d.state.callbacks = [] ∧
      d.state.state.1.heap.blocks = before.heap.blocks ∧
        d.state.state.1.counts.blocks = before.counts.blocks ∧
          d.state.state.1.counts.bytes = before.counts.bytes

theorem safe_of_kept {O : L.Ownership} {limits : Nat → Option UInt64} {before : Memory}
    {rest : Multiset Block} (hb : before.Counted rest) {d : Direct (L.sharing (changing limits))}
    (h : d.Kept (O.shares (changing_keeps limits) rest)) : d.Safe O before := by
  have out : d.state.state.1.Counted (d.blocks O + rest) := h.out
  have live : (Callback.live d.state.callbacks : Multiset Nat) = (d.blocks O).map Block.address :=
    h.live
  have inUse : d.state.state.1.heap.blocks = d.blocks O + before.heap.blocks := by
    rw [out.blocks, hb.blocks]
  have count : d.state.state.1.counts.blocks.toNat =
      (d.blocks O).card + before.counts.blocks.toNat := by
    rw [out.toNat_blocks, hb.toNat_blocks, Multiset.card_add]
  have bytes : d.state.state.1.counts.bytes.toNat =
      ((d.blocks O).map Block.size).sum + before.counts.bytes.toNat := by
    rw [out.toNat_bytes, hb.toNat_bytes, Multiset.map_add, Multiset.sum_add]
  refine ⟨h.orderly, h.owners, live, inUse, count, bytes, ?_⟩
  intro gone
  have none : d.blocks O = 0 := held_of_gone (O.shares (changing_keeps limits) rest) gone
  rw [none, Multiset.map_zero] at live
  rw [none, zero_add] at inUse
  rw [none, Multiset.card_zero, Nat.zero_add] at count
  rw [none, Multiset.map_zero, Multiset.sum_zero, Nat.zero_add] at bytes
  refine ⟨h.owners.trans gone, ?_, inUse, UInt64.toNat.inj count, UInt64.toNat.inj bytes⟩
  exact (Multiset.coe_eq_zero _).mp live

/-- Whatever is done with an engine, in whichever order it and what it has made are dropped, and whichever
requests are refused, its record lasts as long as it is needed, and all that has been taken is given
back. Without the record, all would be the same. -/
theorem run_safe (O : L.Ownership) (past : List Act) (supply : Nat → Supply)
    (limits : Nat → Option UInt64) (uses : List Use) :
    let before := ((Tenancy.opened .counting).run past).supplied supply
    let d := (start (L.sharing (changing limits)) { state := (before, 0) }).run uses
    d.Safe O before ∧ d.plain = (start (L.maker (changing limits)) (before, 0)).run uses := by
  intro before d
  have counted : before.Counted ((Tenancy.opened .counting).run past).blocks :=
    Tenancy.counted_supplied (Tenancy.opened_counted past) supply
  have fresh : Shared.Tracked (fun s held => s.1.Counted held)
      ((Tenancy.opened .counting).run past).blocks 0 { state := (before, 0) } 0 :=
    ⟨by simpa using counted, rfl, rfl, trivial⟩
  constructor
  · have kept : d.Kept (O.shares (changing_keeps limits) _) := kept_run (kept_start fresh) uses
    exact safe_of_kept counted kept
  · exact (run_plain _ uses).trans (congrArg (run uses) (start_plain _))

/-- A run over the backtracking library in which a code and a buffer outlast the engine. -/
theorem run_safe_backtracking :
    let before := ((Tenancy.opened .counting).run [.allocate .ascending 5]).supplied Supply.intermittent
    let d := (start (Backtracking.library.sharing (changing fun _ => none)) { state := (before, 0) }).run
      [.compile "a+b" .empty, .makeBuffer 0, .execute 0 0 ⟨#[97, 98]⟩ 0 1000, .dropEngine, .dropCode 0,
        .dropBuffer 0]
    d.Safe Backtracking.ownership before ∧
      d.plain = (start (Backtracking.library.maker (changing fun _ => none)) (before, 0)).run
        [.compile "a+b" .empty, .makeBuffer 0, .execute 0 0 ⟨#[97, 98]⟩ 0 1000, .dropEngine, .dropCode 0,
          .dropBuffer 0] :=
  run_safe Backtracking.ownership _ _ _ _

end Direct

end BoundedRegex
