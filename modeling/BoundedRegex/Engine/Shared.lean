import BoundedRegex.Engine.Library

/-!
# Shared records

An engine tells its library by a record where memory comes from. The library keeps the record with
everything that it makes, and hands it back whenever it asks for a block or frees one. So the record must
last as long as anything that the library has made.

The record is shared by its owners, which are the engine, its codes and its buffers, and they may go in
any order. The engine owns it before its contexts are made, a code or a buffer as soon as it has been made,
and each of them gives it up after its blocks have been freed. Once no one owns it, the record is gone.
-/
namespace BoundedRegex
namespace Memory

/-- What a library does with the record that it hands back, while the record has so many owners. -/
inductive Callback where
  | take (size : Nat) (block : Option Nat) (owners : Nat)
  | free (block : Option Nat) (owners : Nat)
  deriving DecidableEq, Repr

/-- A source that is reached through a record. -/
structure Shared (σ : Type) where
  state : σ
  owners : Nat := 0
  /-- What the record has been handed back for, the latest first. -/
  callbacks : List Callback := []

variable {σ : Type}

def Shared.retain (s : Shared σ) : Shared σ := { s with owners := s.owners + 1 }

def Shared.giveUp (s : Shared σ) : Shared σ := { s with owners := s.owners - 1 }

def Source.shared (S : Source σ) : Source (Shared σ) where
  allocate size s :=
    let (p, state) := S.allocate size s.state
    (p, { s with state := state, callbacks := .take size p s.owners :: s.callbacks })
  deallocate block s :=
    { s with
      state := S.deallocate block s.state
      callbacks := .free block s.owners :: s.callbacks }

end Memory

open Memory

/-- The engines over a library that share a record with their codes and buffers. -/
def Library.sharing {σ : Type} (L : Library) (S : Source σ) : Maker (Shared σ) where
  engine :=
    { L.engine S.shared with
      compile := fun pattern flags s =>
        match (L.engine S.shared).compile pattern flags s with
        | (.ok code, s) => (.ok code, s.retain)
        | (.error failure, s) => (.error failure, s)
      makeBuffer := fun code s =>
        match (L.engine S.shared).makeBuffer code s with
        | (some buffer, s) => (some buffer, s.retain)
        | (none, s) => (none, s)
      releaseCode := fun code s => ((L.engine S.shared).releaseCode code s).giveUp
      releaseBuffer := fun buffer s => ((L.engine S.shared).releaseBuffer buffer s).giveUp }
  Own := L.Contexts
  make s :=
    match L.start S.shared s.retain with
    | (.ok contexts, s) => (.ok contexts, s)
    | (.error a, s) => (.error a, s.giveUp)
  unmake contexts s := ((L.freeContexts contexts).run S.shared s).2.giveUp

end BoundedRegex
