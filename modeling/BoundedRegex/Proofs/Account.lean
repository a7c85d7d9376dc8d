import Mathlib.Algebra.BigOperators.Group.Multiset.Basic
import BoundedRegex.Engine.Maker
import BoundedRegex.Proofs.Work

/-!
# Accounts

An engine hands things out and takes them back. An account says what each code and each buffer holds
of these things, and that the engine itself keeps to it: what it makes holds what has just been handed
out, what it fails to make holds nothing, and what it takes back is no longer out. Here `Out s held`
means that exactly the things in `held` are out in the state `s`.

A matcher over such an engine holds what its code and its buffer hold. Whatever it does, and whether
or not it is aborted, the things of others stay out, and of its own exactly those that it holds.
-/
namespace BoundedRegex

variable {σ ρ : Type}

/-- What the codes and buffers of an engine hold of the things that are out. -/
structure Engine.Account (E : Engine σ) (Out : σ → Multiset ρ → Prop) where
  code : E.Code → Multiset ρ
  buffer : E.Buffer → Multiset ρ
  compile : ∀ pattern flags {s held}, Out s held →
    match E.compile pattern flags s with
    | (.ok c, s) => Out s (code c + held)
    | (.error _, s) => Out s held
  makeBuffer : ∀ c {s held}, Out s held →
    match E.makeBuffer c s with
    | (some b, s) => Out s (buffer b + held)
    | (none, s) => Out s held
  execute : ∀ c subject start limit b {s held}, Out s (buffer b + held) →
    Out (E.execute c subject start limit b s).2.2
      (buffer (E.execute c subject start limit b s).2.1 + held)
  output : ∀ b {s held}, Out s held → Out (E.output b s).2 held
  groupCount : ∀ c {s held}, Out s held → Out (E.groupCount c s).2 held
  groupNumber? : ∀ c name {s held}, Out s held → Out (E.groupNumber? c name s).2 held
  message : ∀ failure {s held}, Out s held → Out (E.message failure s).2 held
  releaseCode : ∀ c {s held}, Out s (code c + held) → Out (E.releaseCode c s) held
  releaseBuffer : ∀ b {s held}, Out s (buffer b + held) → Out (E.releaseBuffer b s) held

/-- An account that covers the making of engines as well. -/
structure Maker.Account (M : Maker σ) (Out : σ → Multiset ρ → Prop) extends
    M.engine.Account Out where
  own : M.Own → Multiset ρ
  make : ∀ {s held}, Out s held →
    match M.make s with
    | (.ok o, s) => Out s (own o + held)
    | (.error _, s) => Out s held
  unmake : ∀ o {s held}, Out s (own o + held) → Out (M.unmake o s) held

namespace Engine.Account

variable {E : Engine σ} {Out : σ → Multiset ρ → Prop}

def held (A : E.Account Out) (m : Matcher E) : Multiset ρ :=
  match m.prepared with
  | some p => A.code p.code + A.buffer p.buffer
  | none => 0

theorem held_some (A : E.Account Out) {m : Matcher E} {p : Prepared E} (h : m.prepared = some p) :
    A.held m = A.code p.code + A.buffer p.buffer := by
  simp only [held, h]

@[simp] theorem held_none (A : E.Account Out) {m : Matcher E} (h : m.prepared = none) :
    A.held m = 0 := by
  simp only [held, h]

def Fits (A : E.Account Out) (rest : Multiset ρ) (b : Bench E) : Prop :=
  Out b.state (A.held b.matcher + rest)

variable {A : E.Account Out} {rest : Multiset ρ} {b : Bench E}

/-- Once a matcher is cleared, only the rest is out. -/
theorem Fits.out_cleared (h : A.Fits rest b) : Out b.cleared.state rest := by
  cases hp : b.matcher.prepared with
  | none =>
    simp only [Fits, A.held_none hp, zero_add] at h
    simpa only [Bench.cleared, hp] using h
  | some p =>
    simp only [Fits, A.held_some hp, add_assoc] at h
    simpa only [Bench.cleared, hp] using A.releaseBuffer p.buffer (A.releaseCode p.code h)

theorem Fits.cleared (h : A.Fits rest b) : A.Fits rest b.cleared := by
  rw [Fits, A.held_none b.cleared_prepared, zero_add]
  exact h.out_cleared

theorem Fits.prepare (h : A.Fits rest b) (pattern : String) (flags : Flags) :
    A.Fits rest ((Bench.prepare pattern flags : Work E _).run b).2 := by
  have none_held (b' : Bench E) (hp : b'.matcher.prepared = none) (hout : Out b'.state rest) :
      A.Fits rest b' := by
    rw [Fits, A.held_none hp, zero_add]
    exact hout
  have compiled := A.compile pattern flags h.out_cleared
  rw [Bench.run_prepare]
  rcases hc : E.compile pattern flags b.cleared.state with ⟨failure | code, s⟩ <;>
    rw [hc] at compiled
  · exact none_held _ b.cleared_prepared (A.message failure.code compiled)
  · have made := A.makeBuffer code compiled
    rcases hm : E.makeBuffer code s with ⟨_ | buffer, s'⟩ <;> rw [hm] at made <;> simp only [hm]
    · exact none_held _ b.cleared_prepared (A.releaseCode code made)
    · rw [Fits, A.held_some rfl, add_assoc, add_left_comm]
      exact made

theorem Fits.searched (h : A.Fits rest b) {p : Prepared E} (hp : b.matcher.prepared = some p)
    (subject : ByteArray) (start : Nat) (limit : UInt32) :
    Out (E.execute p.code subject start limit p.buffer b.state).2.2
      (A.code p.code + A.buffer (E.execute p.code subject start limit p.buffer b.state).2.1 +
        rest) := by
  simp only [Fits, A.held_some hp, add_assoc, add_left_comm (A.code p.code)] at h ⊢
  exact A.execute p.code subject start limit p.buffer h

theorem Fits.search (h : A.Fits rest b) (subject : ByteArray) (start : Nat) :
    A.Fits rest ((Bench.search subject start : Work E _).run b).2 := by
  rw [Bench.run_search]
  by_cases hsize : subject.size < start
  · simpa only [if_pos hsize] using h
  simp only [if_neg hsize]
  cases hp : b.matcher.prepared with
  | none => simpa only using h
  | some p =>
    have after := h.searched hp subject start b.matcher.depthLimit
    rcases hx : E.execute p.code subject start b.matcher.depthLimit p.buffer b.state with
      ⟨_ | _ | _ | code, buffer, s⟩ <;> simp only [hx] at after ⊢
    · exact A.output buffer after
    · exact after
    · exact after
    · by_cases hl : b.log.level.reports false
      · simp only [hl, ↓reduceIte]
        exact A.message code after
      · simp only [hl, Bool.false_eq_true, ↓reduceIte]
        exact after

/-- Whatever a matcher does fits the account. -/
theorem kept (A : E.Account Out) (rest : Multiset ρ) : Bench.Kept (A.Fits rest) where
  clear := by
    intro b h
    rw [Bench.run_clear]
    exact h.cleared
  prepare pattern flags b h := h.prepare pattern flags
  groupCount := Bench.keeps_groupCount fun c _ h => A.groupCount c h
  groupNumber? :=
    Bench.keeps_groupNumber? (fun c _ h => A.groupCount c h) fun c name _ h => A.groupNumber? c name h
  search subject start b h := h.search subject start
  vectors _ _ _ h := h

end Engine.Account

end BoundedRegex
