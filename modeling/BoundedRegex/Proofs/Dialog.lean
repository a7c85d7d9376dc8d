import Mathlib.Data.Multiset.AddSub
import BoundedRegex.Memory.Dialog

/-!
# Dialogs that settle

A dialog settles if, whatever its requests are answered, it frees only blocks that it has, and ends with
exactly those that its value owns. Such a dialog may be carried out beside any other blocks: over a
source that keeps to what is out, the others stay out, and of its own those that its value owns.
-/
namespace BoundedRegex.Memory

variable {α β σ : Type}

/-- A source that keeps to what is out: a request that it serves adds a block with an address of its
own, one that it refuses adds nothing, and a block that is freed is no longer out. -/
structure Source.Keeps {σ : Type} (S : Source σ) (Out : σ → Multiset Block → Prop) : Prop where
  allocate : ∀ size {s held}, Out s held →
    match S.allocate size s with
    | (none, s) => Out s held
    | (some p, s) => Out s (⟨p, size⟩ ::ₘ held) ∧ ∀ b ∈ held, b.address ≠ p
  skip : ∀ {s held}, Out s held → Out (S.deallocate none s) held
  deallocate : ∀ {b : Block} {s held}, Out s (b ::ₘ held) → Out (S.deallocate (some b.address) s) held

namespace Dialog

@[simp] theorem run_pure (S : Source σ) (a : α) (s : σ) :
    (pure a : Dialog α).run S s = (a, s) := rfl

theorem run_bind (S : Source σ) (d : Dialog α) (f : α → Dialog β) (s : σ) :
    (d >>= f).run S s = (f (d.run S s).1).run S (d.run S s).2 := by
  change (d.bind f).run S s = _
  induction d generalizing s with
  | done a => rfl
  | take size next ih => exact ih _ _
  | free block next ih => exact ih _

@[simp] theorem run_request (S : Source σ) (size : Nat) (s : σ) :
    (request size).run S s = S.allocate size s := rfl

def refused (S : Source σ) : Dialog α → σ → Bool
  | .done _, _ => false
  | .take size next, s =>
    (S.allocate size s).1.isNone || (next (S.allocate size s).1).refused S (S.allocate size s).2
  | .free block next, s => next.refused S (S.deallocate block s)

@[simp] theorem refused_pure (S : Source σ) (a : α) (s : σ) :
    (pure a : Dialog α).refused S s = false := rfl

theorem refused_bind (S : Source σ) (d : Dialog α) (f : α → Dialog β) (s : σ) :
    (d >>= f).refused S s = (d.refused S s || (f (d.run S s).1).refused S (d.run S s).2) := by
  change (d.bind f).refused S s = _
  induction d generalizing s with
  | done a => rfl
  | take size next ih =>
    simp only [Dialog.bind, refused, run, Bool.or_assoc]
    exact congrArg _ (ih _ _)
  | free block next ih => exact ih _

@[simp] theorem refused_request (S : Source σ) (size : Nat) (s : σ) :
    (request size).refused S s = (S.allocate size s).1.isNone := Bool.or_false _

@[simp] theorem refused_release (S : Source σ) (block : Option Nat) (s : σ) :
    (release block).refused S s = false := rfl

/-- A source that serves all requests refuses none. -/
theorem refused_of_serves {S : Source σ} (hS : ∀ size s, (S.allocate size s).1 ≠ none) (d : Dialog α)
    (s : σ) : d.refused S s = false := by
  induction d generalizing s with
  | done a => rfl
  | take size next ih =>
    rw [refused, ih, Bool.or_false, Option.isNone_eq_false_iff]
    exact Option.isSome_iff_ne_none.mpr (hS size s)
  | free block next ih => exact ih _

/-- A dialog which starts with the blocks in `own` ends with those in `left a`, if its value is `a`. New
blocks have other addresses than those which it has. -/
def Settles (left : α → Multiset Block) : Dialog α → Multiset Block → Prop
  | .done a, own => own = left a
  | .take size next, own =>
    (next none).Settles left own ∧
      ∀ p, (∀ b ∈ own, b.address ≠ p) → (next (some p)).Settles left (⟨p, size⟩ ::ₘ own)
  | .free none next, own => next.Settles left own
  | .free (some p) next, own =>
    ∃ b rest, b.address = p ∧ own = b ::ₘ rest ∧ next.Settles left rest

namespace Settles

variable {left : α → Multiset Block} {own rest : Multiset Block} {d : Dialog α}

theorem pure {a : α} (h : own = left a) : (Pure.pure a : Dialog α).Settles left own := h

theorem bind {left' : β → Multiset Block} {f : α → Dialog β} (h : d.Settles left own)
    (hf : ∀ a, (f a).Settles left' (left a)) : (d >>= f).Settles left' own := by
  change (d.bind f).Settles left' own
  induction d generalizing own with
  | done a =>
    cases h
    exact hf a
  | take size next ih => exact ⟨ih none h.1, fun p hp => ih (some p) (h.2 p hp)⟩
  | free block next ih =>
    cases block with
    | none => exact ih h
    | some p =>
      obtain ⟨b, rest, hb, hown, hnext⟩ := h
      exact ⟨b, rest, hb, hown, ih hnext⟩

theorem mono {left' : α → Multiset Block} (h : d.Settles left own) (hl : ∀ a, left a = left' a) :
    d.Settles left' own := by
  rwa [← funext hl]

/-- A dialog that settles leaves other blocks alone. -/
theorem frame (h : d.Settles left own) (rest : Multiset Block) :
    d.Settles (fun a => left a + rest) (own + rest) := by
  induction d generalizing own with
  | done a => exact congrArg (· + rest) h
  | take size next ih =>
    refine ⟨ih none h.1, fun p hp => ?_⟩
    rw [← Multiset.cons_add]
    exact ih (some p) (h.2 p fun b hb => hp b (Multiset.mem_add.mpr (.inl hb)))
  | free block next ih =>
    cases block with
    | none => exact ih h
    | some p =>
      obtain ⟨b, rest', hb, rfl, hnext⟩ := h
      exact ⟨b, rest' + rest, hb, Multiset.cons_add .., ih hnext⟩

/-- A request for one block owns it if it is served. -/
theorem request (size : Nat) (own : Multiset Block) :
    (request size).Settles (fun p => (p.elim 0 fun p => {⟨p, size⟩}) + own) own :=
  ⟨(Multiset.zero_add own).symm, fun _ _ => rfl⟩

theorem release (b : Block) (own : Multiset Block) :
    (release (some b.address)).Settles (fun _ => own) (b ::ₘ own) :=
  ⟨b, own, rfl, rfl, rfl⟩

/-- The end of a block that is owned, if there is one. -/
theorem release? (b : Option Block) (own : Multiset Block) :
    (Dialog.release (b.map (·.address))).Settles (fun _ => own) ((b.elim 0 fun b => {b}) + own) := by
  cases b with
  | none => exact Multiset.zero_add own
  | some b => exact release b own

/-- Carrying out a dialog that settles changes only what is its own. -/
theorem run {S : Source σ} {Out : σ → Multiset Block → Prop} (hS : S.Keeps Out)
    (h : d.Settles left own) {s : σ} (ho : Out s (own + rest)) :
    Out (d.run S s).2 (left (d.run S s).1 + rest) := by
  induction d generalizing own s with
  | done a =>
    cases h
    exact ho
  | take size next ih =>
    have taken := hS.allocate size ho
    simp only [Dialog.run]
    rcases ha : S.allocate size s with ⟨_ | p, s'⟩ <;> simp only [ha] at taken ⊢
    · exact ih none h.1 taken
    · obtain ⟨out, fresh⟩ := taken
      rw [← Multiset.cons_add] at out
      exact ih (some p) (h.2 p fun b hb => fresh b (Multiset.mem_add.mpr (.inl hb))) out
  | free block next ih =>
    cases block with
    | none => exact ih h (hS.skip ho)
    | some p =>
      obtain ⟨b, rest', rfl, rfl, hnext⟩ := h
      rw [Multiset.cons_add] at ho
      exact ih hnext (hS.deallocate ho)

theorem run_making {S : Source σ} {Out : σ → Multiset Block → Prop} (hS : S.Keeps Out)
    (h : d.Settles left 0) {s : σ} (ho : Out s rest) :
    Out (d.run S s).2 (left (d.run S s).1 + rest) :=
  h.run hS ((Multiset.zero_add rest).symm ▸ ho)

/-- What a dialog frees is gone. -/
theorem run_freeing {S : Source σ} {Out : σ → Multiset Block → Prop} (hS : S.Keeps Out)
    (h : d.Settles (fun _ => 0) own) {s : σ} (ho : Out s (own + rest)) : Out (d.run S s).2 rest :=
  Multiset.zero_add rest ▸ h.run hS ho

end Settles

end Dialog

end BoundedRegex.Memory
