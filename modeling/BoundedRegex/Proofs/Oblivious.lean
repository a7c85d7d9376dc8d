import BoundedRegex.Engine.Backtracking
import BoundedRegex.Proofs.Dialog
import BoundedRegex.Proofs.Projection

/-!
# Libraries that do not look at addresses

What a library answers may depend on whether its requests are served, but not on where its blocks lie.
Such a library does the same with every source that serves all requests, and so its engines do what they
would do over a source without any state.

Whether a request has been refused is noted beside the state of a source.
-/
namespace BoundedRegex.Memory

variable {α β γ δ σ : Type}

/-- A source that notes whether it has refused a request. -/
def Source.noting (S : Source σ) : Source (σ × Bool) where
  allocate size s :=
    let (p, t) := S.allocate size s.1
    (p, t, s.2 || p.isNone)
  deallocate p s := (S.deallocate p s.1, s.2)

/-- A source that serves all requests, and keeps no track of them. -/
def Source.endless : Source Unit where
  allocate _ s := (some 0, s)
  deallocate _ s := s

namespace Dialog

/-- A source that takes notes runs a dialog as it does without them. -/
theorem run_noting (S : Source σ) (d : Dialog α) (s : σ × Bool) :
    d.run S.noting s = ((d.run S s.1).1, (d.run S s.1).2, s.2 || d.refused S s.1) := by
  induction d generalizing s with
  | done a => simp only [run, refused, Bool.or_false]
  | take size next ih =>
    have step : (take size next).run S.noting s = (next (S.allocate size s.1).1).run S.noting
        ((S.allocate size s.1).2, s.2 || (S.allocate size s.1).1.isNone) := rfl
    rw [step, ih]
    simp only [run, refused, Bool.or_assoc]
  | free block next ih => exact ih _

/-- If none of its requests is refused, a dialog comes to what another one comes to over an endless
source, but for what `f` takes away. -/
def Ends (d : Dialog α) (f : α → β) (d' : Dialog β) : Prop :=
  ∀ (σ : Type) (S : Source σ) (s : σ), d.refused S s = false →
    (d'.run .endless ()).1 = f (d.run S s).1

namespace Ends

variable {d : Dialog α} {d' : Dialog β} {f : α → β}

theorem pure (a : α) (f : α → β) : (Pure.pure a : Dialog α).Ends f (Pure.pure (f a)) :=
  fun _ _ _ _ => rfl

theorem bind {g : α → Dialog γ} {g' : β → Dialog δ} {h : γ → δ} (hd : d.Ends f d')
    (hg : ∀ a, (g a).Ends h (g' (f a))) : (d >>= g).Ends h (d' >>= g') := by
  intro σ S s served
  rw [refused_bind, Bool.or_eq_false_iff] at served
  rw [run_bind, run_bind, hd σ S s served.1]
  exact hg _ σ S _ served.2

theorem request (size : Nat) :
    (Dialog.request size).Ends (Option.map fun _ => 0) (Dialog.request size) := by
  intro σ S s served
  rw [refused_request] at served
  rw [run_request, run_request]
  cases ha : (S.allocate size s).1 with
  | none =>
    rw [ha] at served
    cases served
  | some p => rfl

/-- What a dialog frees does not matter for its value. -/
theorem unit (d d' : Dialog Unit) : d.Ends id d' := fun _ _ _ _ => rfl

end Ends

end Dialog

end BoundedRegex.Memory

namespace BoundedRegex
open Memory

/-- What a library makes, without the addresses of its blocks, and that no answer depends on these. -/
structure Library.Oblivious (L : Library) where
  holder : L.Holder → L.Holder
  code : L.Code → L.Code
  buffer : L.Buffer → L.Buffer
  makeContext : ∀ c, (L.makeContext c).Ends (Option.map holder) (L.makeContext c)
  compile : ∀ pattern flags, (L.compile pattern flags).Ends (Except.map code) (L.compile pattern flags)
  makeBuffer : ∀ c, (L.makeBuffer c).Ends (Option.map buffer) (L.makeBuffer (code c))
  search : ∀ c subject start limit b,
    (L.search c subject start limit b).Ends (fun result => (result.1, buffer result.2))
      (L.search (code c) subject start limit (buffer b))
  offsets : ∀ b, L.offsets (buffer b) = L.offsets b
  groupCount : ∀ c, L.groupCount (code c) = L.groupCount c
  groupNumber : ∀ c name, L.groupNumber (code c) name = L.groupNumber c name

/-- It has been noted that a request was refused. -/
def Refused {σ : Type} (s : σ × Bool) : Prop := s.2 = true

/-- What all dialogs leave alone is not ended by the engines over a library. -/
theorem Library.persists_of_run {σ : Type} (L : Library) {S : Source σ} {I : σ → Prop}
    (h : ∀ {γ : Type} (d : Dialog γ) {s}, I s → I (d.run S s).2) : (L.maker S).Persists I where
  compile _ _ _ hs := h _ hs
  makeBuffer _ _ hs := h _ hs
  execute c subject start limit b _ hs := h (L.search c subject start limit b) hs
  output _ _ hs := hs
  groupCount _ _ hs := hs
  groupNumber? _ _ _ hs := hs
  message _ _ hs := hs
  releaseCode _ _ hs := h _ hs
  releaseBuffer _ _ hs := h _ hs
  make {s} hs := by
    have after := h L.makeContexts hs
    simp only [maker, start]
    rcases hr : L.makeContexts.run S s with ⟨_ | _, s'⟩ <;> rw [hr] at after <;> exact after
  unmake _ _ hs := h _ hs

namespace Library.Oblivious

variable {L : Library} {σ α β : Type} {S : Source σ}

theorem shows_run {d : Dialog α} {f : α → β} {d' : Dialog β} (h : d.Ends f d') (s : σ × Bool) :
    Shows Refused (fun _ => ()) f (d.run S.noting s) (d'.run .endless ()) := by
  rw [Dialog.run_noting]
  cases hr : d.refused S s.1 with
  | true => exact .inl (Bool.or_true s.2)
  | false => exact .inr (Prod.ext (h σ S s.1 hr) rfl)

/-- A refusal stays noted. -/
theorem persists (L : Library) (S : Source σ) : (L.maker S.noting).Persists Refused := by
  apply L.persists_of_run
  intro γ d s h
  rw [Refused] at h
  rw [Dialog.run_noting, Refused, h, Bool.true_or]

/-- Over a source that serves all requests, nothing is ever refused. -/
theorem served (L : Library) (hS : ∀ size s, (S.allocate size s).1 ≠ none) :
    (L.maker S.noting).Persists fun s => ¬Refused s := by
  apply L.persists_of_run
  intro γ d s h
  rw [Dialog.run_noting, Dialog.refused_of_serves hS d s.1, Bool.or_false]
  exact h

variable (O : L.Oblivious)

def contexts (c : L.Contexts) : L.Contexts :=
  ⟨O.holder c.general, O.holder c.compile, O.holder c.matching⟩

theorem makeContexts : L.makeContexts.Ends (Except.map O.contexts) L.makeContexts := by
  apply (O.makeContext .general).bind
  rintro (_ | general)
  · exact .pure (Except.error Context.general) _
  apply (O.makeContext .compile).bind
  rintro (_ | compile)
  · exact (Dialog.Ends.unit _ _).bind fun _ => .pure (Except.error Context.compile) _
  apply (O.makeContext .matching).bind
  rintro (_ | matching)
  · apply (Dialog.Ends.unit _ _).bind
    intro _
    exact (Dialog.Ends.unit _ _).bind fun _ => .pure (Except.error Context.matching) _
  · exact .pure (Except.ok (Contexts.mk general compile matching)) _

theorem shows_start (s : σ × Bool) :
    Shows Refused (fun _ => ()) (Except.map O.contexts) (L.start S.noting s) (L.start .endless ()) := by
  have made := shows_run (S := S) O.makeContexts s
  simp only [start]
  rcases hr : L.makeContexts.run S.noting s with ⟨context | c, s'⟩ <;> rw [hr] at made
  · rcases made with refused | made
    · exact .inl refused
    · rw [made]
      exact .inr rfl
  · rcases made with refused | made
    · exact .inl refused
    · rw [made]
      exact .inr rfl

theorem groupNumber? (c : L.Code) (name : String) :
    L.groupNumber? (O.code c) name = L.groupNumber? c name := by
  rw [Library.groupNumber?, Library.groupNumber?, O.groupNumber]

/-- As long as nothing is refused, the engines over such a library are on their own. -/
def projection (S : Source σ) : (L.maker S.noting).Projection (L.maker .endless) Refused where
  state _ := ()
  code := O.code
  buffer := O.buffer
  unset := rfl
  compile pattern flags := shows_run (O.compile pattern (effective flags))
  makeBuffer c := shows_run (O.makeBuffer c)
  execute c subject start limit b s := by
    rcases shows_run (O.search c subject start limit b) s with refused | shown
    · exact .inl refused
    · refine .inr ?_
      simp only [maker, engine, shown, O.offsets]
  output b _ := .inr (Prod.ext (O.offsets b) rfl)
  groupCount c _ := .inr (Prod.ext (O.groupCount c) rfl)
  groupNumber? c name _ := .inr (Prod.ext (O.groupNumber? c name) rfl)
  message _ _ := .inr rfl
  releaseCode _ _ := .inr rfl
  releaseBuffer _ _ := .inr rfl
  persists := (persists L S).toPersists
  own := O.contexts
  make := O.shows_start

end Library.Oblivious

/-! ## The backtracking library -/

namespace Backtracking
open Search

/-- A code without the address of its block. -/
def Code.erased (c : Code) : Code := { c with block := 0 }

/-- A buffer without the addresses of its blocks. -/
def Buffer.erased (b : Buffer) : Buffer :=
  { b with block := { b.block with address := 0 }
           frames := b.frames.map fun f => { f with address := 0 } }

theorem Buffer.erased_frames (b : Buffer) :
    b.erased.frames.map (·.size) = b.frames.map (·.size) := by
  rw [erased, Option.map_map]
  rfl

theorem conclude_erased (v : Verdict) (b : Buffer) :
    conclude v b.erased = ((conclude v b).1, (conclude v b).2.erased) := by
  cases v <;> rfl

theorem compile_ends (pattern : String) (flags : Flags) :
    (compile pattern flags).Ends (Except.map Code.erased) (compile pattern flags) := by
  rw [compile]
  cases Program.draft pattern.toUTF8 (settingsOf flags) (optionsOf flags) with
  | error fault => exact .pure (Except.error (failureOf fault)) _
  | ok draft =>
    apply (Dialog.Ends.request (codeSize draft.program)).bind
    rintro (_ | block)
    · exact .pure (Except.error (failureOf ⟨.noMemory, pattern.toUTF8.size⟩)) _
    · simp only [Option.map_some]
      cases draft.late with
      | none => exact .pure (Except.ok (Code.mk draft.program block)) _
      | some fault =>
        exact (Dialog.Ends.unit _ _).bind fun _ => .pure (Except.error (failureOf fault)) _

theorem makeBuffer_ends (code : Code) :
    (makeBuffer code).Ends (Option.map Buffer.erased) (makeBuffer code.erased) := by
  apply (Dialog.Ends.request (bufferSize code.program)).bind
  rintro (_ | address)
  · exact .pure none _
  · exact .pure (some _) _

/-- Entries move through blocks of the same sizes, wherever these lie. -/
theorem replaceFrames_ends (sizes : List Nat) (b : Buffer) :
    (replaceFrames sizes b).Ends (fun result => (result.1, result.2.erased))
      (replaceFrames sizes b.erased) := by
  induction sizes generalizing b with
  | nil => exact .pure (true, b) _
  | cons size rest ih =>
    apply (Dialog.Ends.request size).bind
    rintro (_ | address)
    · exact .pure (false, b) _
    · exact (Dialog.Ends.unit _ _).bind fun _ => ih { b with frames := some ⟨address, size⟩ }

theorem frameBlocks_erased (p : Program) (b : Buffer) (depth : Nat) :
    frameBlocks p b.erased.frames depth = frameBlocks p b.frames depth := by
  obtain ⟨block, frames, offsets⟩ := b
  cases frames <;> rfl

theorem search_ends (code : Code) (subject : ByteArray) (start : Nat) (limit : UInt32) (b : Buffer) :
    (search code subject start limit b).Ends (fun result => (result.1, result.2.erased))
      (search code.erased subject start limit b.erased) := by
  rw [search, search, Buffer.erased_frames]
  simp only [Code.erased]
  cases (code.program.search subject start limit.toNat
    ((b.frames.map (·.size)).getD 0)).deepest with
  | none =>
    rw [conclude_erased]
    exact .pure (conclude _ b) _
  | some depth =>
    -- How many blocks are asked for and of which sizes is a matter of the depth reached.
    simp only [frameBlocks_erased]
    apply (replaceFrames_ends (frameBlocks code.program b.frames depth) b).bind
    rintro ⟨_ | _, b'⟩
    · exact .pure (Search.Fault.code .noMemory, b') _
    · simp only [conclude_erased]
      exact .pure (conclude _ b') _

def oblivious : library.Oblivious where
  holder _ := (0 : Nat)
  code := Code.erased
  buffer := Buffer.erased
  makeContext c := Dialog.Ends.request (contextSize c)
  compile := compile_ends
  makeBuffer := makeBuffer_ends
  search := search_ends
  offsets _ := rfl
  groupCount _ := rfl
  groupNumber _ _ := rfl

end Backtracking

end BoundedRegex
