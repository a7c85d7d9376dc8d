import BoundedRegex.Engine.Library
import BoundedRegex.Proofs.Counted
import BoundedRegex.Proofs.Workshop

/-!
# Who owns the blocks

Of a library it is assumed that each dialog settles: what it makes owns the blocks that the dialog still
has at its end, a dialog that fails to make anything has given all its blocks back, freeing something
gives back exactly its blocks, and a search changes only which blocks the buffer owns.

Then the engines over the library keep an account of blocks, over each source that keeps to what is out.
-/
namespace BoundedRegex
open Memory

/-- Which blocks belong to what a library makes. -/
structure Library.Ownership (L : Library) where
  holder : Context → L.Holder → Multiset Block
  code : L.Code → Multiset Block
  buffer : L.Buffer → Multiset Block
  makeContext : ∀ c, (L.makeContext c).Settles (fun made => made.elim 0 (holder c)) 0
  freeContext : ∀ c x, (L.freeContext x).Settles (fun _ => 0) (holder c x)
  compile : ∀ pattern flags,
    (L.compile pattern flags).Settles (fun made => made.toOption.elim 0 code) 0
  freeCode : ∀ c, (L.freeCode c).Settles (fun _ => 0) (code c)
  makeBuffer : ∀ c, (L.makeBuffer c).Settles (fun made => made.elim 0 buffer) 0
  freeBuffer : ∀ b, (L.freeBuffer b).Settles (fun _ => 0) (buffer b)
  search : ∀ c subject start limit b,
    (L.search c subject start limit b).Settles (fun result => buffer result.2) (buffer b)

namespace Library.Ownership

variable {L : Library} (O : L.Ownership)

def contexts (c : L.Contexts) : Multiset Block :=
  O.holder .matching c.matching + (O.holder .compile c.compile + O.holder .general c.general)

/-- Contexts that cannot be made together leave nothing behind. -/
theorem makeContexts :
    L.makeContexts.Settles (fun made => made.toOption.elim 0 O.contexts) 0 := by
  apply (O.makeContext .general).bind
  rintro (_ | general)
  · exact .pure rfl
  have second := (O.makeContext .compile).frame (O.holder .general general)
  rw [zero_add] at second
  apply second.bind
  rintro (_ | compile)
  · simp only [Option.elim_none, zero_add]
    exact (O.freeContext .general general).bind fun _ => .pure rfl
  have third :=
    (O.makeContext .matching).frame (O.holder .compile compile + O.holder .general general)
  rw [zero_add] at third
  apply third.bind
  rintro (_ | matching)
  · simp only [Option.elim_none, zero_add]
    have freed := (O.freeContext .compile compile).frame (O.holder .general general)
    apply freed.bind
    intro _
    simp only [zero_add]
    exact (O.freeContext .general general).bind fun _ => .pure rfl
  · exact .pure rfl

theorem freeContexts (c : L.Contexts) :
    (L.freeContexts c).Settles (fun _ => 0) (O.contexts c) := by
  apply ((O.freeContext .matching c.matching).frame _).bind
  intro _
  simp only [zero_add]
  apply ((O.freeContext .compile c.compile).frame _).bind
  intro _
  simp only [zero_add]
  exact O.freeContext .general c.general

variable {σ : Type} {S : Source σ} {Out : σ → Multiset Block → Prop}

/-- The account that the engines over a library keep. -/
def account (hS : S.Keeps Out) : (L.maker S).Account Out where
  code := O.code
  buffer := O.buffer
  own := O.contexts
  compile pattern flags s held h := by
    have out := (O.compile pattern (effective flags)).run_making hS h
    simp only [maker, engine]
    rcases hr : (L.compile pattern (effective flags)).run S s with ⟨_ | _, s'⟩ <;> rw [hr] at out
    · simpa [Except.toOption] using out
    · exact out
  makeBuffer c s held h := by
    have out := (O.makeBuffer c).run_making hS h
    simp only [maker, engine]
    rcases hr : (L.makeBuffer c).run S s with ⟨_ | _, s'⟩ <;> rw [hr] at out
    · simpa using out
    · exact out
  execute c subject start limit b s held h := (O.search c subject start limit b).run hS h
  output b s held h := h
  groupCount c s held h := h
  groupNumber? c name s held h := h
  message failure s held h := h
  releaseCode c s held h := (O.freeCode c).run_freeing hS h
  releaseBuffer b s held h := (O.freeBuffer b).run_freeing hS h
  make {s held} h := by
    have out := O.makeContexts.run_making hS h
    simp only [maker, start]
    rcases hr : L.makeContexts.run S s with ⟨_ | _, s'⟩ <;> rw [hr] at out
    · simpa [Except.toOption] using out
    · exact out
  unmake o s held h := (O.freeContexts o).run_freeing hS h

end Library.Ownership

/-! ## The blocks of a workshop -/

section
variable {L : Library} {σ : Type} {S : Source σ}

def Slot.blocks (O : L.Ownership) (slot : Slot fun _ : Unit => L.maker S) : Multiset Block :=
  O.contexts slot.own +
    match slot.client.matcher.prepared with
    | some p => O.code p.code + O.buffer p.buffer
    | none => 0

/-- The blocks of all matchers and their engines. -/
def Workshop.blocks (O : L.Ownership) (w : Workshop fun _ : Unit => L.maker S) : Multiset Block :=
  (w.slots.map fun e => e.2.blocks O).sum

/-- An unprepared matcher has the blocks of its engine only. -/
theorem Slot.blocks_none (O : L.Ownership) {slot : Slot fun _ : Unit => L.maker S}
    (h : slot.client.matcher.prepared = none) : slot.blocks O = O.contexts slot.own := by
  simp only [blocks, h, add_zero]

namespace Workshop

theorem held_blocks (O : L.Ownership) {Out : σ → Multiset Block → Prop} (hS : S.Keeps Out)
    (w : Workshop fun _ : Unit => L.maker S) : w.held (fun _ => O.account hS) = w.blocks O := by
  rw [held, blocks]
  congr 1
  apply List.map_congr_left
  intro e _
  rw [Slot.held, Slot.blocks, Engine.Account.held]
  cases e.2.client.matcher.prepared <;> rfl

end Workshop

end

end BoundedRegex
