import BoundedRegex.Proofs.Matches

/-!
# Offsets from spans

The spans of a match tell all offsets that it has left, if these are regular: a group without a part in the
match has the mark in both places, and any other one ends within the subject, not before it starts. Each
span then has two offsets again, and those of all spans, one after another, are the offsets of the match.

No subject is so long that a group in it could start where the span of an unset group does. So a group
that has matched nothing is told from one without a part in the match.
-/
namespace BoundedRegex

variable {σ : Type} {E : Engine σ}

/-! ## One group -/

/-- The offsets that a span stands for. -/
def Span.offsets (unset : UInt64) (s : Span) : List UInt64 :=
  if s.isUnset then [unset, unset] else [UInt64.ofNat s.offset, UInt64.ofNat s.stop]

namespace Group

/-- A pair of offsets is the mark twice, or those of a stretch of the subject. -/
def Regular (unset : UInt64) (subject : ByteArray) (p : OffsetPair) : Prop :=
  p = (unset, unset) ∨ p.1 ≠ unset ∧ p.1 ≤ p.2 ∧ p.2.toNat ≤ subject.size

instance (unset : UInt64) (subject : ByteArray) (p : OffsetPair) :
    Decidable (Regular unset subject p) :=
  inferInstanceAs (Decidable (_ ∨ _ ∧ _ ∧ _))

variable {unset : UInt64} {subject : ByteArray} {p : OffsetPair}

theorem Regular.within (h : Regular unset subject p) (hp : p.1 ≠ unset) :
    p.1.toNat ≤ subject.size ∧ p.2.toNat ≤ subject.size := by
  rcases h with rfl | ⟨-, hle, hin⟩
  · exact absurd rfl hp
  · have hle : p.1.toNat ≤ p.2.toNat := UInt64.le_iff_toNat_le.mp hle
    exact ⟨by omega, hin⟩

theorem Regular.stop (h : Regular unset subject p) (hp : p.1 ≠ unset) :
    (spanOf unset p).stop = p.2.toNat := by
  rcases h with rfl | ⟨-, hle, -⟩
  · exact absurd rfl hp
  · have hle : p.1.toNat ≤ p.2.toNat := UInt64.le_iff_toNat_le.mp hle
    rw [Span.stop, offset_spanOf hp, length_spanOf hp]
    omega

end Group

/-! ## All groups -/

theorem flatMap_inPairs {offsets : List UInt64} (h : offsets.length % 2 = 0) :
    (inPairs offsets).flatMap (fun p => [p.1, p.2]) = offsets := by
  fun_induction inPairs offsets with
  | case1 start stop rest ih =>
    have even : rest.length % 2 = 0 := by
      simp only [List.length_cons] at h
      omega
    rw [List.flatMap_cons, ih even]
    rfl
  | case2 offsets short =>
    rcases offsets with _ | ⟨start, _ | ⟨stop, rest⟩⟩
    · rfl
    · cases h
    · exact absurd rfl (short start stop rest)

namespace Groups

variable {g : Groups} {subject : ByteArray}

/-- All pairs of offsets are regular. -/
def Regular (g : Groups) (subject : ByteArray) : Prop := ∀ p ∈ g.pairs, Group.Regular g.unset subject p

theorem Regular.within (h : g.Regular subject) : g.Within subject := fun p hp => (h p hp).within

theorem Regular.offsets_spanOf (h : g.Regular subject) (hsize : subject.size < maxOffset)
    {p : OffsetPair} (hp : p ∈ g.pairs) : (Group.spanOf g.unset p).offsets g.unset = [p.1, p.2] := by
  have tells := h.within.tells hsize hp
  rw [Span.offsets]
  by_cases hset : p.1 = g.unset
  · have both : p = (g.unset, g.unset) := (h p hp).resolve_right fun set => set.1 hset
    rw [if_pos (tells.isUnset_iff.mpr hset), both]
  · rw [if_neg (mt tells.isUnset_iff.mp hset), Group.offset_spanOf hset, (h p hp).stop hset,
      UInt64.ofNat_toNat, UInt64.ofNat_toNat]

/-- Nothing is lost: the offsets are those of all spans, one after another. -/
theorem Regular.offsets_spans (h : g.Regular subject) (hsize : subject.size < maxOffset)
    (even : g.offsets.length % 2 = 0) :
    (g.pairs.map (Group.spanOf g.unset)).flatMap (Span.offsets g.unset) = g.offsets := by
  rw [List.flatMap_map]
  calc g.pairs.flatMap (fun p => (Group.spanOf g.unset p).offsets g.unset)
    _ = g.pairs.flatMap (fun p => [p.1, p.2]) :=
      List.flatMap_congr fun p hp => h.offsets_spanOf hsize hp
    _ = g.offsets := flatMap_inPairs even

end Groups

/-! ## Searches -/

namespace Bench

/-- A match leaves regular offsets, two for the whole match and two for each of so many groups. -/
structure Leaves (b : Bench E) (subject : ByteArray) (start n pairs : Nat) (offsets : List UInt64) :
    Prop where
  size : subject.size < maxOffset
  left : b.left? subject start = some (pairs, offsets)
  length : offsets.length = 2 * (n + 1)
  regular : (⟨E.unset, offsets⟩ : Groups).Regular subject

/-- The spans of a match tell the offsets that it has left. -/
structure Lossless (b : Bench E) (subject : ByteArray) (start n : Nat) (offsets : List UInt64)
    (spans : List Span) : Prop where
  captured : b.reply (.captures subject start) = .ok (.spans (.found ()) spans)
  length : spans.length = n + 1
  encoded : spans.flatMap (Span.offsets E.unset) = offsets
  /-- All groups are decoded, however many the engine counts as set. -/
  decoded : ∀ i ≤ n, ∃ lo hi s, offsets[2 * i]? = some lo ∧ offsets[2 * i + 1]? = some hi ∧
    spans[i]? = some s ∧ (s.isUnset = true ↔ lo = E.unset) ∧
    (lo ≠ E.unset → s.offset = lo.toNat ∧ s.stop = hi.toNat)
  /-- A group that has matched nothing is set, and lies where it has matched. -/
  empty : ∀ i ≤ n, ∀ lo, lo ≠ E.unset → offsets[2 * i]? = some lo → offsets[2 * i + 1]? = some lo →
    ∃ s, spans[i]? = some s ∧ s.isUnset = false ∧ s.offset = lo.toNat ∧ s.length = 0
  /-- No search with other offsets has these spans. -/
  injective : ∀ (a : Bench E) subject' start' n' pairs' offsets',
    a.Leaves subject' start' n' pairs' offsets' →
    a.reply (.captures subject' start') = .ok (.spans (.found ()) spans) → offsets' = offsets

variable {b : Bench E} {subject : ByteArray} {start n pairs : Nat} {offsets : List UInt64}

theorem Leaves.captures_iff (h : b.Leaves subject start n pairs offsets) {spans : List Span} :
    b.reply (.captures subject start) = .ok (.spans (.found ()) spans) ↔
      spans = (inPairs offsets).map (Group.spanOf E.unset) := by
  have length := h.length
  have paired (m : Nat × List UInt64) (hm : b.left? subject start = some m) :
      (⟨E.unset, m.2⟩ : Groups).Paired := by
    cases h.left.symm.trans hm
    exact ⟨by dsimp only; omega, by dsimp only; omega⟩
  rw [reply_captures_iff paired]
  constructor
  · rintro ⟨m, hm, rfl⟩
    cases h.left.symm.trans hm
    rfl
  · rintro rfl
    exact ⟨_, h.left, rfl⟩

theorem Leaves.encoded (h : b.Leaves subject start n pairs offsets) {spans : List Span}
    (hr : b.reply (.captures subject start) = .ok (.spans (.found ()) spans)) :
    spans.flatMap (Span.offsets E.unset) = offsets := by
  have length := h.length
  have even : offsets.length % 2 = 0 := by
    omega
  rw [h.captures_iff.mp hr]
  exact h.regular.offsets_spans h.size even

/-- The span of each group, up to the last one. -/
theorem Leaves.decoded (h : b.Leaves subject start n pairs offsets) {spans : List Span}
    (hr : b.reply (.captures subject start) = .ok (.spans (.found ()) spans)) {i : Nat} (hi : i ≤ n) :
    ∃ lo hi s, offsets[2 * i]? = some lo ∧ offsets[2 * i + 1]? = some hi ∧ spans[i]? = some s ∧
      (s.isUnset = true ↔ lo = E.unset) ∧
      (lo ≠ E.unset → s.offset = lo.toNat ∧ s.stop = hi.toNat) := by
  obtain ⟨lo, hi, hlo, hhi, pair⟩ := pair_of_length h.length hi
  have mem : (lo, hi) ∈ inPairs offsets := List.mem_of_getElem? pair
  have tells := h.regular.within.tells h.size mem
  refine ⟨lo, hi, Group.spanOf E.unset (lo, hi), hlo, hhi, ?_, tells.isUnset_iff, ?_⟩
  · rw [h.captures_iff.mp hr, List.getElem?_map, pair]
    rfl
  · intro hset
    exact ⟨Group.offset_spanOf hset, (h.regular _ mem).stop hset⟩

/-- Whatever regular offsets a match leaves, its spans lose none of them. -/
theorem captures_lossless (h : b.Leaves subject start n pairs offsets) :
    ∃ spans, b.Lossless subject start n offsets spans := by
  have captured := h.captures_iff.mpr rfl
  refine ⟨_, captured, ?_, h.encoded captured, fun i hi => h.decoded captured hi, ?_, ?_⟩
  · have length := h.length
    rw [List.length_map, length_inPairs]
    omega
  · intro i hi lo hset hlo hhi
    obtain ⟨lo', hi', s, hlo', hhi', hs, unset, set⟩ := h.decoded captured hi
    cases hlo.symm.trans hlo'
    cases hhi.symm.trans hhi'
    obtain ⟨offset, stop⟩ := set hset
    refine ⟨s, hs, Bool.eq_false_iff.mpr (mt unset.mp hset), offset, ?_⟩
    rw [Span.stop] at stop
    omega
  · intro a subject' start' n' pairs' offsets' h' hr
    exact (h'.encoded hr).symm.trans (h.encoded captured)

/-- An unset group between an empty one and one at the end of the subject, both behind the pairs that the
engine counts as set. -/
theorem captures_lossless_scripted :
    let offsets : List UInt64 := [0, 2, 1, 1, 7, 7, 3, 3]
    let code : ScriptedCode :=
      { groups := 3, runs := [.matched (offsets.map some) (some 1)] }
    let E := Scenario.engine {} 7
    let p : Prepared E := ⟨"a", .empty, code, {}⟩
    let b : Bench E := { matcher := { prepared := some p, depthLimit := 5 }, state := () }
    let subject : ByteArray := ⟨#[97, 98, 99]⟩
    b.Leaves subject 0 3 1 offsets ∧ ∃ spans, b.Lossless subject 0 3 offsets spans := by
  intro offsets code E p b subject
  have all : (inPairs offsets).all (fun p => decide (Group.Regular 7 subject p)) = true := by
    decide
  have regular : ∀ p ∈ inPairs offsets, Group.Regular 7 subject p := fun p hp =>
    of_decide_eq_true (List.all_eq_true.mp all p hp)
  have leaves : b.Leaves subject 0 3 1 offsets := ⟨by decide, rfl, rfl, regular⟩
  exact ⟨leaves, captures_lossless leaves⟩

end Bench

end BoundedRegex
