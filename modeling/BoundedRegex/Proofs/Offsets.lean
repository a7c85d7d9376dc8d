import BoundedRegex.Engine.Backtracking
import BoundedRegex.Proofs.Captures
import BoundedRegex.Proofs.Dialog
import BoundedRegex.Proofs.Matches

/-!
# Libraries that measure their buffers

A library measures its buffers if each of them has two offsets for each group of its code and two for the
whole match, from the time when it is made on and whatever searches come to. Engines over such a library
are sized. The backtracking library is one, since what its searches find has a place for each group.
-/
namespace BoundedRegex.Memory.Dialog

variable {α β : Type}

/-- Whatever its requests are answered, a dialog comes to such a value. -/
def Yields (Q : α → Prop) (d : Dialog α) : Prop :=
  ∀ (σ : Type) (S : Source σ) (s : σ), Q (d.run S s).1

namespace Yields

variable {Q : α → Prop} {R : β → Prop} {d : Dialog α}

theorem pure {a : α} (h : Q a) : (Pure.pure a : Dialog α).Yields Q := fun _ _ _ => h

theorem bind {f : α → Dialog β} (hd : d.Yields Q) (hf : ∀ a, Q a → (f a).Yields R) :
    (d >>= f).Yields R := by
  intro σ S s
  rw [run_bind]
  exact hf _ (hd σ S s) σ S _

theorem any (d : Dialog α) : d.Yields fun _ => True := fun _ _ _ => trivial

end Yields

end BoundedRegex.Memory.Dialog

namespace BoundedRegex
open Memory

namespace Library

/-- There are two offsets for the whole match and two for each group. -/
def Measures (L : Library) (c : L.Code) (b : L.Buffer) : Prop :=
  (L.offsets b).length = 2 * (L.groupCount c + 1)

structure Measured (L : Library) : Prop where
  makeBuffer : ∀ c, (L.makeBuffer c).Yields fun made => ∀ b, made = some b → L.Measures c b
  search : ∀ {c b}, L.Measures c b → ∀ subject start limit,
    (L.search c subject start limit b).Yields fun result => L.Measures c result.2

variable {σ : Type} {L : Library} {S : Source σ}

/-- A buffer has as many offsets after each search as when it was made. -/
theorem Measured.serves (hL : L.Measured) {c : (L.engine S).Code} {b : (L.engine S).Buffer}
    (h : (L.engine S).Serves c b) : L.Measures c b := by
  induction h with
  | new made => exact hL.makeBuffer c _ S _ _ made
  | used subject start limit s _ _ ih => exact hL.search ih subject start limit _ S s

theorem Measured.sized (hL : L.Measured) : (L.engine S).Sized where
  groupCount _ _ _ := rfl
  length_output := by
    intro pattern flags c b _ serves subject start _ limit s pairs buffer t hx
    have searched : L.Measures c ((L.engine S).execute c subject start limit b s).2.1 :=
      hL.search (hL.serves serves) subject start limit _ S s
    rwa [hx] at searched

end Library

namespace Backtracking
open Search

/-- What is told of a match has two offsets for each place of its captures. -/
theorem length_offsetsOf (r : Registers) : (offsetsOf r).length = 2 * (r.captures.size + 1) := by
  rw [offsetsOf, ← Array.length_toList]
  induction r.captures.toList with
  | nil => rfl
  | cons g rest ih =>
    simp only [List.flatMap_cons, List.length_cons, List.length_append] at ih ⊢
    cases g with
    | none =>
      simp only [List.length_cons, List.length_nil]
      omega
    | some g =>
      simp only [List.length_cons, List.length_nil]
      omega

theorem makeBuffer_measured (c : Code) :
    (makeBuffer c).Yields fun made => ∀ b, made = some b → library.Measures c b := by
  refine (Dialog.Yields.any (Dialog.request (bufferSize c.program))).bind ?_
  rintro (_ | address) -
  · exact .pure nofun
  · refine .pure ?_
    rintro b ⟨⟩
    exact List.length_replicate

/-- Entries move from block to block, and the offsets stay. -/
theorem replaceFrames_offsets (sizes : List Nat) (b : Buffer) :
    (replaceFrames sizes b).Yields fun result => result.2.offsets = b.offsets := by
  induction sizes generalizing b with
  | nil => exact .pure rfl
  | cons size rest ih =>
    refine (Dialog.Yields.any (Dialog.request size)).bind ?_
    rintro (_ | address) -
    · exact .pure rfl
    · exact (Dialog.Yields.any _).bind fun _ _ => ih { b with frames := some ⟨address, size⟩ }

theorem search_measured {c : Code} {b : Buffer} (hb : library.Measures c b) (subject : ByteArray)
    (start : Nat) (limit : UInt32) :
    (search c subject start limit b).Yields fun result => library.Measures c result.2 := by
  rw [search]
  generalize hreport : c.program.search subject start limit.toNat ((b.frames.map (·.size)).getD 0) =
    report
  have concluded {b : Buffer} (hb : library.Measures c b) :
      library.Measures c (conclude report.verdict b).2 := by
    cases hv : report.verdict with
    | found r =>
      have fits : r.captures.size = c.program.groups := fits_search (by rw [hreport, hv])
      calc (offsetsOf r).length = 2 * (r.captures.size + 1) := length_offsetsOf r
        _ = 2 * (c.program.groups + 1) := by rw [fits]
    | absent => exact hb
    | failed f => exact hb
  cases report.deepest with
  | none => exact .pure (concluded hb)
  | some depth =>
    refine (replaceFrames_offsets (frameBlocks c.program b.frames depth) b).bind ?_
    rintro ⟨_ | _, b'⟩ same
    · exact .pure ((congrArg List.length same).trans hb)
    · exact .pure (concluded ((congrArg List.length same).trans hb))

/-- The backtracking library measures its buffers. -/
theorem measured : library.Measured where
  makeBuffer := makeBuffer_measured
  search := search_measured

end Backtracking

end BoundedRegex
