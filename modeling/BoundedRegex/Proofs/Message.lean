import BoundedRegex.Engine.Backtracking
import BoundedRegex.Engine.Message
import BoundedRegex.Proofs.Work

/-!
# From the text of an error code to its report

A library that is asked for the text of an error code answers with the length of the text if there is room
for it and for a terminator. If there is less room, it leaves as much of the text as fits, but its answer is
negative, as it is for a code without a text. An engine goes by the answer alone. So a text is reported as it
is if there is room for it, and otherwise not even in part.

What is reported for a pattern that is refused comes to the caller and into the log as it is.
-/
namespace BoundedRegex
open Memory

/-- How a library with certain texts answers when it is asked for one of them, with some room. -/
structure Describes (ask : Int → Nat → Int × ByteArray) (text? : Int → Option String) : Prop where
  fits : ∀ code text size, text? code = some text → text.utf8ByteSize < size →
    (ask code size).1 = text.utf8ByteSize ∧
      (ask code size).2.extract 0 text.utf8ByteSize = text.toUTF8
  /-- What does not fit is cut. -/
  cut : ∀ code text size, text? code = some text → size ≤ text.utf8ByteSize →
    (ask code size).1 < 0 ∧ (ask code size).2.extract 0 (size - 1) = text.toUTF8.extract 0 (size - 1)
  unknown : ∀ code size, text? code = none → (ask code size).1 < 0

theorem lossy_toUTF8 (text : String) : lossy text.toUTF8 = text := by
  have valid : text.toUTF8.IsValidUTF8 := text.isValidUTF8
  rw [lossy, String.fromUTF8?, dif_pos valid]
  rfl

namespace Describes

variable {ask : Int → Nat → Int × ByteArray} {text? : Int → Option String}

/-- What an engine reports is the text of the code if there is room for it, and empty otherwise. -/
theorem described_eq (h : Describes ask text?) (code : Int) :
    described ask code = Pattern.report (text? code) := by
  rw [described]
  cases ht : text? code with
  | none =>
    have answer := h.unknown code Pattern.reportRoom ht
    rw [Pattern.report]
    exact if_pos (Int.le_of_lt answer)
  | some text =>
    rw [Pattern.report]
    by_cases fits : text.utf8ByteSize < Pattern.reportRoom
    · obtain ⟨answer, room⟩ := h.fits code text _ ht fits
      simp only [if_pos fits, answer, Int.toNat_natCast, room, lossy_toUTF8]
      split
      · next empty =>
        have : text.utf8ByteSize = 0 := by omega
        exact (String.utf8ByteSize_eq_zero_iff.mp this).symm
      · rfl
    · obtain ⟨answer, -⟩ := h.cut code text _ ht (Nat.not_lt.mp fits)
      simp only [if_neg fits]
      exact if_pos (Int.le_of_lt answer)

end Describes

/-! ## A library that answers by the book -/

/-- The answer of a library to whom the text of a code has been found, if it has one. -/
def answerFor (text : Option String) (size : Nat) : Int × ByteArray :=
  match text with
  | some t =>
    if t.utf8ByteSize < size then (t.utf8ByteSize, t.toUTF8.push 0)
    else (Search.Fault.code .noMemory, (t.toUTF8.extract 0 (size - 1)).push 0)
  | none => (-29, .empty)

theorem extract_push (bytes : ByteArray) (b : UInt8) {n : Nat} (h : n = bytes.size) :
    (bytes.push b).extract 0 n = bytes := by
  subst h
  apply ByteArray.ext
  rw [ByteArray.data_extract, ByteArray.data_push]
  exact Array.extract_push.trans ((if_pos (Nat.le_refl _)).trans Array.extract_size)

theorem describes_answerFor (text? : Int → Option String) :
    Describes (fun code => answerFor (text? code)) text? where
  fits := by
    intro code text size ht fits
    simp only [answerFor, ht, if_pos fits, true_and]
    exact extract_push _ _ rfl
  cut := by
    intro code text size ht long
    simp only [answerFor, ht, if_neg (Nat.not_lt.mpr long)]
    refine ⟨by decide, extract_push _ _ ?_⟩
    have bytes : text.toUTF8.size = text.utf8ByteSize := rfl
    rw [ByteArray.size_extract]
    omega
  unknown := by
    intro code size ht
    simp only [answerFor, ht]
    decide

/-! ## Reports of refused patterns -/

/-- A refused pattern is reported with a message and an offset, wherever that is told. -/
structure Diagnosed (pattern message : String) (offset : Nat) (log : Log) (e : PrepareError) (left : Log) :
    Prop where
  kind : e = .regex message offset
  told : e.message = message
  place : e.offset = offset
  text : e.text = "error at offset " ++ toString offset ++ ": " ++ message
  logged : left = log.add (.refused pattern e)
  record : (Event.refused pattern e).text =
    "failed to compile " ++ Text.quoted pattern ++ ": " ++ e.text

theorem PrepareError.diagnosed (pattern message : String) (offset : Nat) (log : Log) :
    Diagnosed pattern message offset log (.regex message offset)
      (log.add (.refused pattern (.regex message offset))) where
  kind := rfl
  told := rfl
  place := rfl
  text := rfl
  logged := rfl
  record := rfl

theorem Bench.diagnosed {σ : Type} {E : Engine σ} {pattern : String} {flags : Flags} {b : Bench E}
    {failure : CompileFailure} {s : σ}
    (h : E.compile pattern flags b.cleared.state = (.error failure, s)) :
    ∃ e, ((prepare pattern flags : Work E _).run b).1 = .ok (.error e) ∧
      Diagnosed pattern (E.message failure.code s).1 failure.offset b.log e
        ((prepare pattern flags : Work E _).run b).2.log := by
  rw [run_prepare, h, cleared_log]
  exact ⟨.regex (E.message failure.code s).1 failure.offset, rfl, PrepareError.diagnosed _ _ _ _⟩

/-- A text that there is room for is reported as it is, and one that is longer is not reported at all.
Whatever is reported for a refused pattern reaches the caller and the log unchanged, with its offset. -/
theorem Library.diagnoses (L : Library) (ask : Int → Nat → Int × ByteArray) (h : Describes ask L.text?) :
    (∀ code text, L.text? code = some text → text.utf8ByteSize < Pattern.reportRoom →
        described ask code = text) ∧
      (∀ code text, L.text? code = some text → Pattern.reportRoom ≤ text.utf8ByteSize →
        described ask code = "") ∧
      (∀ code, L.text? code = none → described ask code = "") ∧
      ∀ (σ : Type) (S : Source σ) (b : Bench (L.engine S)) (pattern : String) (flags : Flags)
        (failure : CompileFailure) (s : σ),
        (L.engine S).compile pattern flags b.cleared.state = (.error failure, s) →
        ∃ e, ((Bench.prepare pattern flags : Work (L.engine S) _).run b).1 = .ok (.error e) ∧
          Diagnosed pattern (described ask failure.code) failure.offset b.log e
            ((Bench.prepare pattern flags : Work (L.engine S) _).run b).2.log := by
  refine ⟨?_, ?_, ?_, ?_⟩
  · intro code text ht fits
    rw [h.described_eq, ht, Pattern.report]
    exact if_pos fits
  · intro code text ht long
    rw [h.described_eq, ht, Pattern.report]
    exact if_neg (Nat.not_lt.mpr long)
  · intro code ht
    rw [h.described_eq, ht, Pattern.report]
  · intro σ S b pattern flags failure s hc
    rw [h.described_eq]
    exact Bench.diagnosed hc

theorem Library.diagnoses_backtracking :
    Describes (fun code => answerFor (Backtracking.library.text? code)) Backtracking.library.text? ∧
      described (fun code => answerFor (Backtracking.library.text? code)) 114 =
        "missing closing parenthesis" := by
  have describes := describes_answerFor Backtracking.library.text?
  have text : Backtracking.library.text? 114 = some "missing closing parenthesis" := by decide +kernel
  exact ⟨describes, (Library.diagnoses Backtracking.library _ describes).1 114 _ text (by decide +kernel)⟩

/-- The part of a text that there is room for is lost with the rest. -/
theorem not_described_cut :
    ¬ ∀ (ask : Int → Nat → Int × ByteArray) (text? : Int → Option String), Describes ask text? →
      ∀ code text, text? code = some text →
        described ask code = lossy (text.toUTF8.extract 0 (Pattern.reportRoom - 1)) := by
  intro claim
  let kept := String.ofList (List.replicate 255 'x')
  have size : kept.utf8ByteSize = 255 := by decide +kernel
  have reported := claim _ _ (describes_answerFor fun _ => some (kept ++ "x")) 101 (kept ++ "x") rfl
  have room : (kept ++ "x").toUTF8.extract 0 (Pattern.reportRoom - 1) = kept.toUTF8 :=
    (congrArg (·.extract 0 255) String.toByteArray_append).trans (ByteArray.extract_append_eq_left size.symm)
  have long : ¬(kept ++ "x").utf8ByteSize < Pattern.reportRoom := by
    rw [String.utf8ByteSize_append, size]
    decide
  rw [(describes_answerFor _).described_eq, Pattern.report, room, lossy_toUTF8] at reported
  simp only [if_neg long] at reported
  have nonempty : kept ≠ "" := by decide +kernel
  exact nonempty reported.symm

end BoundedRegex
