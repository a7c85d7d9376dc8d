import BoundedRegex.Engine.Backtracking
import BoundedRegex.Proofs.Ownership

/-!
# The blocks of the backtracking library

Each context and each code owns one block. A buffer owns a block for its offsets and, once a search has
needed entries, one for these.
-/
namespace BoundedRegex.Backtracking
open Memory Search

def contextBlock (c : Context) (address : Nat) : Block := ⟨address, contextSize c⟩

def Code.owned (c : Code) : Block := ⟨c.block, codeSize c.program⟩

def Buffer.owned (b : Buffer) : Multiset Block := (b.frames.elim 0 fun f => {f}) + {b.block}

theorem compile_settles (pattern : String) (flags : Flags) :
    (compile pattern flags).Settles (fun made => made.toOption.elim 0 fun c => {c.owned}) 0 := by
  simp only [compile]
  cases Program.draft pattern.toUTF8 (settingsOf flags) (optionsOf flags) with
  | error fault => exact .pure rfl
  | ok draft =>
    apply (Dialog.Settles.request (codeSize draft.program) 0).bind
    rintro (_ | block)
    · exact .pure rfl
    · cases hl : draft.late with
      | none => exact .pure rfl
      | some fault =>
        exact (Dialog.Settles.release ⟨block, codeSize draft.program⟩ 0).bind fun _ => .pure rfl

theorem makeBuffer_settles (code : Code) :
    (makeBuffer code).Settles (fun made => made.elim 0 Buffer.owned) 0 := by
  apply (Dialog.Settles.request (bufferSize code.program) 0).bind
  rintro (_ | address) <;> exact .pure rfl

/-- Entries move from block to block; the buffer owns the last one. -/
theorem replaceFrames_settles (sizes : List Nat) (b : Buffer) :
    (replaceFrames sizes b).Settles (fun result => result.2.owned) b.owned := by
  induction sizes generalizing b with
  | nil => exact .pure rfl
  | cons size rest ih =>
    apply (Dialog.Settles.request size b.owned).bind
    rintro (_ | address)
    · exact .pure (zero_add _)
    · have released := Dialog.Settles.release? b.frames ({⟨address, size⟩} + {b.block})
      rw [add_left_comm] at released
      exact released.bind fun _ => ih { b with frames := some ⟨address, size⟩ }

theorem search_settles (code : Code) (subject : ByteArray) (start : Nat) (limit : UInt32)
    (b : Buffer) :
    (search code subject start limit b).Settles (fun result => result.2.owned) b.owned := by
  have concluded (v : Verdict) (b : Buffer) : (conclude v b).2.owned = b.owned := by
    cases v <;> rfl
  simp only [search]
  cases (code.program.search subject start limit.toNat
    ((b.frames.map (·.size)).getD 0)).deepest with
  | none => exact .pure (concluded _ b).symm
  | some depth =>
    apply (replaceFrames_settles (frameBlocks code.program b.frames depth) b).bind
    rintro ⟨_ | _, b'⟩
    · exact .pure rfl
    · exact .pure (concluded _ b').symm

/-- Which blocks belong to what the backtracking library makes. -/
def ownership : library.Ownership where
  holder c address := {contextBlock c address}
  code c := {c.owned}
  buffer := Buffer.owned
  makeContext c := (Dialog.Settles.request (contextSize c) 0).mono fun p => by cases p <;> rfl
  freeContext c x := Dialog.Settles.release (contextBlock c x) 0
  compile := compile_settles
  freeCode c := Dialog.Settles.release c.owned 0
  makeBuffer := makeBuffer_settles
  freeBuffer b := (Dialog.Settles.release? b.frames {b.block}).bind fun _ =>
    Dialog.Settles.release b.block 0
  search := search_settles

end BoundedRegex.Backtracking
