import BoundedRegex.Memory.Allocator

/-!
# Dialogs

What a client does with the memory of others, as a tree: it asks for blocks and frees them, goes on as
each request is answered, and comes to a value in the end. A dialog cannot do anything else to memory.

Requests go to a source, which may be any state with two operations. Each allocator is a source.
-/
namespace BoundedRegex.Memory

/-- Where blocks come from and go to, over a state. -/
structure Source (σ : Type) where
  allocate : Nat → σ → Option Nat × σ
  deallocate : Option Nat → σ → σ

def Allocator.source (a : Allocator) : Source Memory where
  allocate := Memory.allocate a
  deallocate := Memory.deallocate a

/-- A dialog that comes to a value. -/
inductive Dialog (α : Type) where
  | done (value : α)
  /-- Asks for a block, and goes on with its address or without one. -/
  | take (size : Nat) (next : Option Nat → Dialog α)
  /-- Frees a block, if there is one. -/
  | free (block : Option Nat) (next : Dialog α)

namespace Dialog

variable {α β σ : Type}

/-- One dialog after another. -/
def bind : Dialog α → (α → Dialog β) → Dialog β
  | .done a, f => f a
  | .take size next, f => .take size fun p => (next p).bind f
  | .free block next, f => .free block (next.bind f)

instance : Monad Dialog where
  pure := .done
  bind := bind

def request (size : Nat) : Dialog (Option Nat) := .take size .done

/-- The end of one block, if there is one. -/
def release (block : Option Nat) : Dialog Unit := .free block (.done ())

def run (S : Source σ) : Dialog α → σ → α × σ
  | .done a, s => (a, s)
  | .take size next, s =>
    let (p, s) := S.allocate size s
    (next p).run S s
  | .free block next, s => next.run S (S.deallocate block s)

end Dialog

end BoundedRegex.Memory
