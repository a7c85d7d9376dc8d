import BoundedRegex.Engine.Shared
import BoundedRegex.Proofs.Ownership

/-!
# Owners of a shared record

As long as a record has an owner, a library that keeps to its own blocks may take and free blocks through
it. An engine that shares its record does so only then: the engine owns the record before it takes its
first block, whatever it makes becomes an owner while the engine still is one, and each owner gives the
record up when it has no block left.
-/
namespace BoundedRegex
open Memory

/-! ## Callbacks -/

namespace Memory.Callback

/-- Where the blocks lie that have been taken and not freed. -/
def live : List Callback → List Nat
  | [] => []
  | .take _ block _ :: past => block.toList ++ live past
  | .free block _ :: past => block.elim (live past) (live past).erase

/-- Each time the record has an owner. A block that is taken is a new one, and a block that is freed is
live. -/
def Orderly : List Callback → Prop
  | [] => True
  | .take _ block owners :: past => 0 < owners ∧ (∀ p ∈ block, p ∉ live past) ∧ Orderly past
  | .free block owners :: past => 0 < owners ∧ (∀ p ∈ block, p ∈ live past) ∧ Orderly past

end Memory.Callback

namespace Memory.Shared
open Callback

variable {σ : Type} {S : Source σ} {Out : σ → Multiset Block → Prop} {rest own : Multiset Block}
  {n : Nat} {s : Shared σ}

/-- A record with so many owners, who have some blocks beside those of others. -/
structure Tracked (Out : σ → Multiset Block → Prop) (rest : Multiset Block) (n : Nat) (s : Shared σ)
    (own : Multiset Block) : Prop where
  out : Out s.state (own + rest)
  owners : s.owners = n
  live : (Callback.live s.callbacks : Multiset Nat) = own.map Block.address
  orderly : Orderly s.callbacks

theorem Tracked.mem_live (h : Tracked Out rest n s own) {p : Nat} :
    p ∈ Callback.live s.callbacks ↔ ∃ b ∈ own, b.address = p := by
  rw [← Multiset.mem_coe, h.live, Multiset.mem_map]

theorem Tracked.retain (h : Tracked Out rest n s own) : Tracked Out rest (n + 1) s.retain own :=
  ⟨h.out, congrArg (· + 1) h.owners, h.live, h.orderly⟩

theorem Tracked.giveUp (h : Tracked Out rest (n + 1) s own) : Tracked Out rest n s.giveUp own :=
  ⟨h.out, congrArg (· - 1) h.owners, h.live, h.orderly⟩

/-- As long as a record has owners, they may take blocks through it and free them. -/
theorem shared_keeps (hS : S.Keeps Out) (rest : Multiset Block) (alive : 0 < n) :
    S.shared.Keeps (Tracked Out rest n) where
  allocate := by
    intro size s own h
    have taken := hS.allocate size h.out
    have owned : 0 < s.owners := h.owners ▸ alive
    simp only [Source.shared]
    rcases ha : S.allocate size s.state with ⟨_ | p, state⟩ <;> simp only [ha] at taken ⊢
    · exact ⟨taken, h.owners, h.live, owned, by simp, h.orderly⟩
    · obtain ⟨out, fresh⟩ := taken
      have apart : ∀ b ∈ own, b.address ≠ p := fun b hb => fresh b (Multiset.mem_add.mpr (.inl hb))
      have new : p ∉ Callback.live s.callbacks := by
        rw [h.mem_live]
        rintro ⟨b, hb, rfl⟩
        exact apart b hb rfl
      refine ⟨⟨?_, h.owners, ?_, owned, by simpa using new, h.orderly⟩, apart⟩
      · rw [Multiset.cons_add]
        exact out
      · rw [Multiset.map_cons, ← h.live]
        rfl
  skip h := ⟨hS.skip h.out, h.owners, h.live, h.owners ▸ alive, by simp, h.orderly⟩
  deallocate := by
    intro b s own h
    have mem : b.address ∈ Callback.live s.callbacks :=
      h.mem_live.mpr ⟨b, Multiset.mem_cons_self b own, rfl⟩
    refine ⟨hS.deallocate ?_, h.owners, ?_, h.owners ▸ alive, by simpa using mem, h.orderly⟩
    · rw [← Multiset.cons_add]
      exact h.out
    · change ((Callback.live s.callbacks).erase b.address : Multiset Nat) = _
      rw [← Multiset.coe_erase, h.live, Multiset.map_cons, Multiset.erase_cons_head]

end Memory.Shared

/-! ## Shares -/

/-- What an engine, its codes and its buffers hold, each with a share of its own in something that must
last as long as any of them. Here `Held n s held` means that there are `n` shares, and that exactly the
things in `held` are held. -/
structure Maker.Shares {σ ρ : Type} (M : Maker σ) (Held : Nat → σ → Multiset ρ → Prop) where
  own : M.Own → Multiset ρ
  code : M.engine.Code → Multiset ρ
  buffer : M.engine.Buffer → Multiset ρ
  make : ∀ {s}, Held 0 s 0 →
    match M.make s with
    | (.ok o, s) => Held 1 s (own o)
    | (.error _, s) => Held 0 s 0
  unmake : ∀ o {n s held}, Held (n + 1) s (own o + held) → Held n (M.unmake o s) held
  compile : ∀ pattern flags {n s held}, 0 < n → Held n s held →
    match M.engine.compile pattern flags s with
    | (.ok c, s) => Held (n + 1) s (code c + held)
    | (.error _, s) => Held n s held
  makeBuffer : ∀ c {n s held}, 0 < n → Held n s held →
    match M.engine.makeBuffer c s with
    | (some b, s) => Held (n + 1) s (buffer b + held)
    | (none, s) => Held n s held
  execute : ∀ c subject start limit b {n s held}, 0 < n → Held n s (buffer b + held) →
    Held n (M.engine.execute c subject start limit b s).2.2
      (buffer (M.engine.execute c subject start limit b s).2.1 + held)
  releaseCode : ∀ c {n s held}, Held (n + 1) s (code c + held) → Held n (M.engine.releaseCode c s) held
  releaseBuffer : ∀ b {n s held}, Held (n + 1) s (buffer b + held) →
    Held n (M.engine.releaseBuffer b s) held

/-- Engines over a library share their record. -/
def Library.Ownership.shares {L : Library} (O : L.Ownership) {σ : Type} {S : Source σ}
    {Out : σ → Multiset Block → Prop} (hS : S.Keeps Out) (rest : Multiset Block) :
    (L.sharing S).Shares (Shared.Tracked Out rest) where
  own := O.contexts
  code := O.code
  buffer := O.buffer
  make {s} h := by
    have made := O.makeContexts.run_making (Shared.shared_keeps hS rest Nat.one_pos) h.retain
    simp only [Library.sharing, Library.start]
    rcases hr : L.makeContexts.run S.shared s.retain with ⟨_ | contexts, s'⟩ <;> rw [hr] at made
    · exact made.giveUp
    · simpa [Except.toOption] using made
  unmake o n s held h := ((O.freeContexts o).run_freeing (Shared.shared_keeps hS rest n.succ_pos) h).giveUp
  compile pattern flags n s held alive h := by
    have made := (O.compile pattern (effective flags)).run_making (Shared.shared_keeps hS rest alive) h
    simp only [Library.sharing, Library.engine]
    rcases hr : (L.compile pattern (effective flags)).run S.shared s with ⟨_ | code, s'⟩ <;>
      rw [hr] at made
    · simpa [Except.toOption] using made
    · exact made.retain
  makeBuffer c n s held alive h := by
    have made := (O.makeBuffer c).run_making (Shared.shared_keeps hS rest alive) h
    simp only [Library.sharing, Library.engine]
    rcases hr : (L.makeBuffer c).run S.shared s with ⟨_ | buffer, s'⟩ <;> rw [hr] at made
    · simpa using made
    · exact made.retain
  execute c subject start limit b n s held alive h :=
    (O.search c subject start limit b).run (Shared.shared_keeps hS rest alive) h
  releaseCode c n s held h :=
    ((O.freeCode c).run_freeing (Shared.shared_keeps hS rest n.succ_pos) h).giveUp
  releaseBuffer b n s held h :=
    ((O.freeBuffer b).run_freeing (Shared.shared_keeps hS rest n.succ_pos) h).giveUp

/-! ## Without the record -/

/-- A dialog comes to the same whether or not its source is reached through a record. -/
theorem Memory.Dialog.run_shared {σ α : Type} (S : Source σ) (d : Dialog α) (s : Shared σ) :
    d.run S s.state = ((d.run S.shared s).1, (d.run S.shared s).2.state) := by
  induction d generalizing s with
  | done a => rfl
  | take size next ih => exact ih (S.allocate size s.state).1 (S.shared.allocate size s).2
  | free block next ih => exact ih (S.shared.deallocate block s)

namespace Library

variable {σ : Type} {L : Library} {S : Source σ}

theorem make_shared (s : Shared σ) :
    (L.maker S).make s.state = Prod.map id Shared.state ((L.sharing S).make s) := by
  have same : L.makeContexts.run S s.state = _ := Dialog.run_shared S L.makeContexts s.retain
  simp only [maker, sharing, Library.start]
  rw [same]
  rcases L.makeContexts.run S.shared s.retain with ⟨_ | contexts, s'⟩ <;> rfl

theorem compile_shared (pattern : String) (flags : Flags) (s : Shared σ) :
    (L.maker S).engine.compile pattern flags s.state =
      Prod.map id Shared.state ((L.sharing S).engine.compile pattern flags s) := by
  simp only [maker, sharing, engine]
  rw [Dialog.run_shared S (L.compile pattern (effective flags)) s]
  rcases (L.compile pattern (effective flags)).run S.shared s with ⟨_ | code, s'⟩ <;> rfl

theorem makeBuffer_shared (code : L.Code) (s : Shared σ) :
    (L.maker S).engine.makeBuffer code s.state =
      Prod.map id Shared.state ((L.sharing S).engine.makeBuffer code s) := by
  simp only [maker, sharing, engine]
  rw [Dialog.run_shared S (L.makeBuffer code) s]
  rcases (L.makeBuffer code).run S.shared s with ⟨_ | buffer, s'⟩ <;> rfl

theorem execute_shared (code : L.Code) (subject : ByteArray) (start : Nat) (limit : UInt32)
    (buffer : L.Buffer) (s : Shared σ) :
    (L.maker S).engine.execute code subject start limit buffer s.state =
      Prod.map id (Prod.map id Shared.state)
        ((L.sharing S).engine.execute code subject start limit buffer s) := by
  simp only [maker, sharing, engine]
  rw [Dialog.run_shared S (L.search code subject start limit buffer) s]
  rfl

theorem unmake_shared (own : L.Contexts) (s : Shared σ) :
    (L.maker S).unmake own s.state = ((L.sharing S).unmake own s).state := by
  simp only [maker, sharing, Dialog.run_shared S (L.freeContexts own) s]
  rfl

theorem releaseCode_shared (code : L.Code) (s : Shared σ) :
    (L.maker S).engine.releaseCode code s.state = ((L.sharing S).engine.releaseCode code s).state := by
  simp only [maker, sharing, engine, Dialog.run_shared S (L.freeCode code) s]
  rfl

theorem releaseBuffer_shared (buffer : L.Buffer) (s : Shared σ) :
    (L.maker S).engine.releaseBuffer buffer s.state =
      ((L.sharing S).engine.releaseBuffer buffer s).state := by
  simp only [maker, sharing, engine, Dialog.run_shared S (L.freeBuffer buffer) s]
  rfl

end Library

end BoundedRegex
