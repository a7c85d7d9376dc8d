import Mathlib.Data.List.Forall2
import Mathlib.Data.List.TakeWhile
import BoundedRegex.Engine.Scripted
import BoundedRegex.Proofs.Work

/-!
# What becomes of the offsets of a match

The offsets that a match has left are arbitrary words, in pairs, and any word may mark the groups without
a part in it. From each pair a span can be made, and its end is an offset again: either the later of
the two, or the start itself where the end lies before it. So only the bytes of a group can be missing,
and they are if and only if the group is not empty and ends behind the subject.

If an engine reports offsets within the subject only, then nothing is missing, all spans lie within the
subject, and those of the groups without a part are the only ones that stand for no stretch.
-/
namespace BoundedRegex

abbrev OffsetPair := UInt64 × UInt64

/-! ## One pair -/

namespace Group

variable (unset : UInt64) (p : OffsetPair)

/-- The group of a pair is not empty, and ends behind the subject. -/
def Outside (subject : ByteArray) : Prop :=
  p.1 ≠ unset ∧ p.1 < p.2 ∧ subject.size < p.2.toNat

instance (subject : ByteArray) : Decidable (Outside unset p subject) :=
  inferInstanceAs (Decidable (_ ∧ _ ∧ _))

def spanOf : Span :=
  if p.1 = unset then .unset
  else
    ⟨p.1.toNat, p.2.toNat - p.1.toNat, by
      have := p.1.toNat_lt
      have := p.2.toNat_lt
      simp only [maxOffset]
      omega⟩

/-- The bytes of a pair, if the subject has them. -/
def bytesOf (subject : ByteArray) : ByteArray :=
  if p.1 = unset then .empty
  else if p.1 < p.2 then subject.extract p.1.toNat p.2.toNat
  else .empty

variable {unset : UInt64} {p : OffsetPair}

theorem offset_spanOf (h : p.1 ≠ unset) : (spanOf unset p).offset = p.1.toNat := by
  rw [spanOf, if_neg h]

theorem length_spanOf (h : p.1 ≠ unset) : (spanOf unset p).length = p.2.toNat - p.1.toNat := by
  rw [spanOf, if_neg h]

theorem ofOffsets_unset (h : p.1 = unset) : ofOffsets unset p.1 p.2 = ⟨0, 0, false⟩ := by
  rw [ofOffsets, if_pos h]

theorem ofOffsets_set (h : p.1 ≠ unset) :
    ofOffsets unset p.1 p.2 = ⟨p.1, if p.1 ≤ p.2 then p.2 - p.1 else 0, true⟩ := by
  rw [ofOffsets, if_neg h]

theorem toNat_length (start stop : UInt64) :
    (if start ≤ stop then stop - start else 0).toNat = stop.toNat - start.toNat := by
  split
  · next h => exact UInt64.toNat_sub_of_le stop start h
  · next h =>
    have : stop.toNat < start.toNat := UInt64.lt_iff_toNat_lt.mp (UInt64.not_le.mp h)
    rw [UInt64.toNat_zero]
    omega

/-- The end of a group is an offset. -/
theorem stop_le (unset : UInt64) (p : OffsetPair) :
    (ofOffsets unset p.1 p.2).offset.toNat + (ofOffsets unset p.1 p.2).length.toNat ≤ maxOffset := by
  by_cases h : p.1 = unset
  · rw [ofOffsets_unset h]
    exact Nat.zero_le _
  · have := p.1.toNat_lt
    have := p.2.toNat_lt
    simp only [ofOffsets_set h, toNat_length, maxOffset]
    omega

/-- A span can be made from every pair. -/
theorem span_ofOffsets (unset : UInt64) (p : OffsetPair) :
    (ofOffsets unset p.1 p.2).span = .ok (spanOf unset p) := by
  by_cases h : p.1 = unset
  · simp only [ofOffsets_unset h, span, spanOf, if_pos h, Bool.false_eq_true, ↓reduceIte]
  · have fits := stop_le unset p
    simp only [ofOffsets_set h, toNat_length] at fits
    simp only [ofOffsets_set h, span, spanOf, if_neg h, ↓reduceIte, toNat_length, Span.make?,
      dif_pos fits]

/-- The bytes of a pair are those of the subject, or the subject does not have them. -/
theorem bytes_ofOffsets (subject : ByteArray) (unset : UInt64) (p : OffsetPair) :
    (ofOffsets unset p.1 p.2).bytes subject =
      if Outside unset p subject then .error .outsideSubject else .ok (bytesOf unset p subject) := by
  by_cases h : p.1 = unset
  · have inside : ¬Outside unset p subject := fun o => o.1 h
    simp only [ofOffsets_unset h, bytes, if_neg inside, bytesOf, if_pos h, Bool.not_false,
      Bool.true_or, ↓reduceIte]
  by_cases hlt : p.1 < p.2
  · have hlt' : p.1.toNat < p.2.toNat := UInt64.lt_iff_toNat_lt.mp hlt
    have hle : p.1 ≤ p.2 := UInt64.le_iff_toNat_le.mpr (Nat.le_of_lt hlt')
    have length : (p.2 - p.1).toNat = p.2.toNat - p.1.toNat := UInt64.toNat_sub_of_le p.2 p.1 hle
    have nonempty : p.2 - p.1 ≠ 0 := by
      intro zero
      rw [zero, UInt64.toNat_zero] at length
      omega
    have stop : p.1.toNat + (p.2.toNat - p.1.toNat) = p.2.toNat := by
      omega
    have outside : Outside unset p subject ↔ ¬p.2.toNat ≤ subject.size := by
      simp only [Outside, h, hlt, ne_eq, not_false_eq_true, true_and, Nat.not_le]
    simp only [ofOffsets_set h, bytes, if_pos hle, length, stop, nonempty, bytesOf, if_neg h,
      if_pos hlt, outside, Bool.not_true, decide_false, Bool.or_false, Bool.false_eq_true, ↓reduceIte]
    by_cases hin : p.2.toNat ≤ subject.size
    · rw [if_pos hin, if_neg (not_not_intro hin)]
    · rw [if_neg hin, if_pos hin]
  · have inside : ¬Outside unset p subject := fun o => hlt o.2.1
    have length : (if p.1 ≤ p.2 then p.2 - p.1 else 0) = 0 := by
      apply UInt64.toNat.inj
      have : ¬p.1.toNat < p.2.toNat := fun lt => hlt (UInt64.lt_iff_toNat_lt.mpr lt)
      rw [toNat_length, UInt64.toNat_zero]
      omega
    simp only [ofOffsets_set h, bytes, length, if_neg inside, bytesOf, if_neg h, if_neg hlt,
      decide_true, Bool.or_true, ↓reduceIte]

end Group

/-- A span and bytes that come from the same group of a match. -/
structure Span.Shows (s : Span) (subject bytes : ByteArray) : Prop where
  empty : s.isUnset = true ∨ s.length = 0 → bytes = .empty
  nonempty : s.isUnset = false → s.length ≠ 0 →
    s.stop ≤ subject.size ∧ bytes = subject.extract s.offset s.stop
  size : bytes.size = s.length

/-- The span and the bytes of a pair belong together, wherever the pair has bytes. -/
theorem Group.spanOf_shows {unset : UInt64} {p : OffsetPair} {subject : ByteArray}
    (h : ¬Group.Outside unset p subject) :
    (Group.spanOf unset p).Shows subject (Group.bytesOf unset p subject) := by
  have none_of_length {s : Span} (hs : s.length = 0) : s.Shows subject .empty :=
    ⟨fun _ => rfl, fun _ hne => absurd hs hne, hs.symm⟩
  by_cases hset : p.1 = unset
  · simp only [Group.bytesOf, if_pos hset]
    apply none_of_length
    simp only [Group.spanOf, if_pos hset]
    rfl
  have length := Group.length_spanOf hset
  by_cases hlt : p.1 < p.2
  · have hlt' : p.1.toNat < p.2.toNat := UInt64.lt_iff_toNat_lt.mp hlt
    have inside : p.2.toNat ≤ subject.size := by
      by_contra hout
      exact h ⟨hset, hlt, Nat.not_le.mp hout⟩
    have stop : (Group.spanOf unset p).stop = p.2.toNat := by
      rw [Span.stop, Group.offset_spanOf hset, length]
      omega
    simp only [Group.bytesOf, if_neg hset, if_pos hlt]
    refine ⟨?_, fun _ _ => ⟨by rw [stop]; exact inside, by rw [Group.offset_spanOf hset, stop]⟩, ?_⟩
    · rintro (hu | hzero)
      · have : (Group.spanOf unset p).length = 0 :=
          congrArg Span.length (beq_iff_eq.mp hu)
        omega
      · omega
    · rw [ByteArray.size_extract, length, Nat.min_eq_left inside]
  · simp only [Group.bytesOf, if_neg hset, if_neg hlt]
    apply none_of_length
    have : ¬p.1.toNat < p.2.toNat := fun lt => hlt (UInt64.lt_iff_toNat_lt.mpr lt)
    omega

/-! ## All pairs -/

/-- A list of words, two by two. -/
def inPairs : List UInt64 → List OffsetPair
  | start :: stop :: rest => (start, stop) :: inPairs rest
  | _ => []

theorem length_inPairs (offsets : List UInt64) : (inPairs offsets).length = offsets.length / 2 := by
  fun_induction inPairs offsets with
  | case1 start stop rest ih =>
    simp only [List.length_cons, ih]
    omega
  | case2 offsets short =>
    have few : offsets.length < 2 := by
      rcases offsets with _ | ⟨start, _ | ⟨stop, rest⟩⟩
      · exact Nat.zero_lt_two
      · exact Nat.one_lt_two
      · exact absurd rfl (short start stop rest)
    rw [List.length_nil, Nat.div_eq_of_lt few]

/-- A function that refuses some elements of a list, each for the same reason. -/
theorem mapM_refusing {α β : Type} {P : α → Prop} [DecidablePred P] (a : Abort) (f : α → β)
    (l : List α) :
    l.mapM (fun x => if P x then .error a else .ok (f x) : α → Except Abort β) =
      if ∃ x ∈ l, P x then .error a else .ok (l.map f) := by
  induction l with
  | nil =>
    have none : ¬∃ x ∈ ([] : List α), P x := by
      rintro ⟨x, hx, -⟩
      cases hx
    rw [if_neg none]
    rfl
  | cons x rest ih =>
    rw [List.mapM_cons, ih]
    by_cases hx : P x
    · have some : ∃ y ∈ x :: rest, P y := ⟨x, List.mem_cons_self, hx⟩
      rw [if_pos hx, if_pos some]
      rfl
    · have same : (∃ y ∈ x :: rest, P y) ↔ ∃ y ∈ rest, P y := by
        simp only [List.mem_cons, exists_eq_or_imp, hx, false_or]
      rw [if_neg hx]
      by_cases hrest : ∃ y ∈ rest, P y
      · rw [if_pos hrest, if_pos (same.mpr hrest)]
        rfl
      · rw [if_neg hrest, if_neg (mt same.mp hrest)]
        rfl

/-- What comes before the first element that is refused. -/
theorem beforeAbort_refusing {α β : Type} {P : α → Prop} [DecidablePred P] (a : Abort) (f : α → β)
    (l : List α) :
    beforeAbort (l.map fun x => if P x then .error a else .ok (f x)) =
      (l.takeWhile fun x => !decide (P x)).map f := by
  induction l with
  | nil => rfl
  | cons x rest ih =>
    by_cases hx : P x
    · rw [List.map_cons, if_pos hx, List.takeWhile_cons_of_neg (by simp [hx])]
      rfl
    · rw [List.map_cons, if_neg hx, List.takeWhile_cons_of_pos (by simp [hx]), beforeAbort, ih]
      rfl

namespace Groups

/-- The offsets come in pairs, and there is at least one. -/
structure Paired (g : Groups) : Prop where
  even : g.offsets.length % 2 = 0
  nonempty : 2 ≤ g.offsets.length

def pairs (g : Groups) : List OffsetPair := inPairs g.offsets

theorem length_pairs (g : Groups) : g.pairs.length = g.offsets.length / 2 := length_inPairs g.offsets

theorem ofPairs_eq (unset : UInt64) {offsets : List UInt64} (h : offsets.length % 2 = 0) :
    ofPairs unset offsets = (inPairs offsets).map fun p => .ok (.ofOffsets unset p.1 p.2) := by
  fun_induction ofPairs unset offsets with
  | case1 => rfl
  | case2 => cases h
  | case3 start stop rest ih =>
    have even : rest.length % 2 = 0 := by
      simp only [List.length_cons] at h
      omega
    rw [ih even]
    rfl

variable {g : Groups}

theorem Paired.all_eq (h : g.Paired) :
    g.all = g.pairs.map fun p => .ok (.ofOffsets g.unset p.1 p.2) := ofPairs_eq g.unset h.even

/-- The whole match is the group of the first pair. -/
theorem Paired.overall_eq (h : g.Paired) :
    ∃ p rest, g.pairs = p :: rest ∧ g.overall = .ok (.ofOffsets g.unset p.1 p.2) := by
  obtain ⟨unset, offsets⟩ := g
  have nonempty := h.nonempty
  rcases offsets with _ | ⟨start, _ | ⟨stop, rest⟩⟩
  · cases nonempty
  · exact absurd nonempty (Nat.not_succ_le_self 1)
  · exact ⟨(start, stop), inPairs rest, rfl, rfl⟩

theorem Paired.eachSpan_eq (h : g.Paired) :
    g.eachSpan = g.pairs.map fun p => .ok (Group.spanOf g.unset p) := by
  rw [eachSpan, h.all_eq, List.map_map]
  exact List.map_congr_left fun p _ => Group.span_ofOffsets g.unset p

theorem Paired.eachView_eq (h : g.Paired) (subject : ByteArray) :
    g.eachView subject = g.pairs.map fun p =>
      if Group.Outside g.unset p subject then .error .outsideSubject
      else .ok (Group.bytesOf g.unset p subject) := by
  rw [eachView, h.all_eq, List.map_map]
  exact List.map_congr_left fun p _ => Group.bytes_ofOffsets subject g.unset p

theorem Paired.spans_eq (h : g.Paired) : g.spans = .ok (g.pairs.map (Group.spanOf g.unset)) := by
  rw [spans, h.eachSpan_eq, List.mapM_map]
  exact List.mapM_pure

theorem Paired.views_eq (h : g.Paired) (subject : ByteArray) :
    g.views subject =
      if ∃ p ∈ g.pairs, Group.Outside g.unset p subject then .error .outsideSubject
      else .ok (g.pairs.map (Group.bytesOf g.unset · subject)) := by
  rw [views, h.eachView_eq, List.mapM_map]
  exact mapM_refusing .outsideSubject (Group.bytesOf g.unset · subject) g.pairs

theorem Paired.overallSpan_eq (h : g.Paired) :
    ∃ p rest, g.pairs = p :: rest ∧ g.overallSpan = .ok (Group.spanOf g.unset p) := by
  obtain ⟨p, rest, hp, overall⟩ := h.overall_eq
  refine ⟨p, rest, hp, ?_⟩
  rw [overallSpan, overall]
  exact Group.span_ofOffsets g.unset p

theorem Paired.overallBytes_eq (h : g.Paired) (subject : ByteArray) :
    ∃ p rest, g.pairs = p :: rest ∧
      g.overallBytes subject =
        if Group.Outside g.unset p subject then .error .outsideSubject
        else .ok (Group.bytesOf g.unset p subject) := by
  obtain ⟨p, rest, hp, overall⟩ := h.overall_eq
  refine ⟨p, rest, hp, ?_⟩
  rw [overallBytes, overall]
  exact Group.bytes_ofOffsets subject g.unset p

/-- All groups with a part in the match lie within the subject, as their offsets say. -/
def Within (g : Groups) (subject : ByteArray) : Prop :=
  ∀ p ∈ g.pairs, p.1 ≠ g.unset → p.1.toNat ≤ subject.size ∧ p.2.toNat ≤ subject.size

/-- A span tells what the offsets of its pair say. -/
structure Tells (g : Groups) (subject : ByteArray) (p : OffsetPair) (s : Span) : Prop where
  isUnset_iff : s.isUnset = true ↔ p.1 = g.unset
  /-- A group that ends before it starts is empty. -/
  set : s.isUnset = false → s.offset = p.1.toNat ∧ s.length = p.2.toNat - p.1.toNat
  within : s.isUnset = false → s.offset + s.length ≤ subject.size

theorem Within.not_outside {subject : ByteArray} (h : g.Within subject) {p : OffsetPair}
    (hp : p ∈ g.pairs) : ¬Group.Outside g.unset p subject := by
  rintro ⟨hset, -, hstop⟩
  have := (h p hp hset).2
  omega

/-- Only the mark of unset groups makes a span stand for no stretch, since it lies behind the subject. -/
theorem Within.tells {subject : ByteArray} (h : g.Within subject) (hsize : subject.size < maxOffset)
    {p : OffsetPair} (hp : p ∈ g.pairs) : g.Tells subject p (Group.spanOf g.unset p) := by
  by_cases hset : p.1 = g.unset
  · have unset : Group.spanOf g.unset p = .unset := if_pos hset
    rw [unset]
    refine ⟨⟨fun _ => hset, fun _ => beq_self_eq_true _⟩, ?_, ?_⟩ <;>
    · intro hu
      cases hu
  · obtain ⟨hstart, hstop⟩ := h p hp hset
    have offset := Group.offset_spanOf hset
    have length := Group.length_spanOf hset
    -- The span of an unset group starts at the greatest offset, where no subject reaches.
    have known : (Group.spanOf g.unset p).isUnset = false := by
      rw [Span.isUnset, beq_eq_false_iff_ne]
      intro heq
      have : p.1.toNat = maxOffset := offset.symm.trans (congrArg Span.offset heq)
      omega
    refine ⟨⟨fun hu => ?_, fun hu => absurd hu hset⟩, fun _ => ⟨offset, length⟩, fun _ => ?_⟩
    · rw [known] at hu
      cases hu
    · rw [offset, length]
      omega

end Groups

/-! ## Searches -/

namespace Bench

variable {σ : Type} {E : Engine σ} {b : Bench E}

/-- A matcher with a pattern answers every search from within the subject. -/
theorem search_answers {p : Prepared E} (hp : b.matcher.prepared = some p) {subject : ByteArray}
    {start : Nat} (hs : start ≤ subject.size) :
    ∃ o, ((search subject start : Work E _).run b).1 = .ok o := by
  rw [run_search, if_neg (Nat.not_lt.mpr hs)]
  simp only [hp]
  rcases E.execute p.code subject start b.matcher.depthLimit p.buffer b.state with
    ⟨_ | _ | _ | code, buffer, s⟩
  · exact ⟨_, rfl⟩
  · exact ⟨_, rfl⟩
  · exact ⟨_, rfl⟩
  · by_cases hl : b.log.level.reports false
    · simp only [if_pos hl]
      exact ⟨_, rfl⟩
    · simp only [if_neg hl]
      exact ⟨_, rfl⟩

/-- How the five searches decode what a match has left. -/
structure Decodes (b : Bench E) (subject : ByteArray) (start : Nat) : Prop where
  isMatch : ∃ o, ((Bench.isMatch subject start : Work E _).run b).1 = .ok o
  find : ∃ o, ((Bench.find subject start : Work E _).run b).1 = .ok o
  captures : ∃ o, ((Bench.captures subject start : Work E _).run b).1 = .ok o
  /-- The bytes of the whole match are missing if and only if it ends behind the subject. -/
  findBytes : (∃ a, ((Bench.findBytes subject start : Work E _).run b).1 = .error a) ↔
    ∃ g p rest, ((search subject start : Work E _).run b).1 = .ok (.found g) ∧
      g.pairs = p :: rest ∧ Group.Outside g.unset p subject
  capturesBytes : (∃ a, ((Bench.capturesBytes subject start : Work E _).run b).1 = .error a) ↔
    ∃ g, ((search subject start : Work E _).run b).1 = .ok (.found g) ∧
      ∃ p ∈ g.pairs, Group.Outside g.unset p subject
  /-- No end of a group is too large for an offset, and a span can be made of every group. -/
  offsets : ∀ g, ((search subject start : Work E _).run b).1 = .ok (.found g) → ∀ p ∈ g.pairs,
    (Group.ofOffsets g.unset p.1 p.2).offset.toNat +
        (Group.ofOffsets g.unset p.1 p.2).length.toNat ≤ maxOffset ∧
      ∃ s, (Group.ofOffsets g.unset p.1 p.2).span = .ok s
  /-- If the offsets lie within the subject, no search is aborted, and all spans tell what the offsets
  say. -/
  within : subject.size < maxOffset →
    ∀ g, ((search subject start : Work E _).run b).1 = .ok (.found g) → g.Within subject →
    (∃ x, ((Bench.findBytes subject start : Work E _).run b).1 = .ok (.found x)) ∧
    ((Bench.capturesBytes subject start : Work E _).run b).1 = .ok (.found ()) ∧
    ((Bench.captures subject start : Work E _).run b).1 = .ok (.found ()) ∧
    List.Forall₂ (g.Tells subject) g.pairs ((Bench.captures subject start : Work E _).run b).2.spans ∧
    ∃ s, ((Bench.find subject start : Work E _).run b).1 = .ok (.found s) ∧
      ((Bench.captures subject start : Work E _).run b).2.spans.head? = some s

section
variable {subject : ByteArray} {start : Nat} {g : Groups}

/-- Where a search has found a match, the whole match has a span. -/
theorem find_found (h : ((search subject start : Work E _).run b).1 = .ok (.found g))
    (hg : g.Paired) :
    ∃ p rest, g.pairs = p :: rest ∧
      ((find subject start : Work E _).run b).1 = .ok (.found (Group.spanOf g.unset p)) := by
  obtain ⟨p, rest, hp, span⟩ := hg.overallSpan_eq
  refine ⟨p, rest, hp, ?_⟩
  rw [run_find, h]
  simp only [bind, Except.bind, Outcome.traverse, span]
  rfl

theorem findBytes_found (h : ((search subject start : Work E _).run b).1 = .ok (.found g))
    (hg : g.Paired) :
    ∃ p rest, g.pairs = p :: rest ∧
      ((findBytes subject start : Work E _).run b).1 =
        if Group.Outside g.unset p subject then .error .outsideSubject
        else .ok (.found (Group.bytesOf g.unset p subject)) := by
  obtain ⟨p, rest, hp, bytes⟩ := hg.overallBytes_eq subject
  refine ⟨p, rest, hp, ?_⟩
  rw [run_findBytes, h]
  simp only [bind, Except.bind, Outcome.traverse, bytes]
  by_cases ho : Group.Outside g.unset p subject
  · simp only [if_pos ho]
  · simp only [if_neg ho]
    rfl

theorem captures_found (h : ((search subject start : Work E _).run b).1 = .ok (.found g))
    (hg : g.Paired) :
    ((captures subject start : Work E _).run b).1 = .ok (.found ()) ∧
      ((captures subject start : Work E _).run b).2.spans = g.pairs.map (Group.spanOf g.unset) := by
  rw [run_captures]
  rcases hr : (search subject start : Work E _).run b with ⟨r, b'⟩
  rw [hr] at h
  cases h
  dsimp only
  rw [hg.spans_eq]
  exact ⟨rfl, beforeAbort_of_mapM hg.spans_eq⟩

/-- Of a match, the groups before the first one that ends behind the subject are written, whether or not
there is such a group. -/
theorem capturesBytes_views (h : ((search subject start : Work E _).run b).1 = .ok (.found g))
    (hg : g.Paired) :
    ((capturesBytes subject start : Work E _).run b).2.views =
      (g.pairs.takeWhile fun p => !decide (Group.Outside g.unset p subject)).map
        (Group.bytesOf g.unset · subject) := by
  rw [run_capturesBytes]
  rcases hr : (search subject start : Work E _).run b with ⟨r, b'⟩
  rw [hr] at h
  cases h
  dsimp only
  rw [hg.eachView_eq]
  exact beforeAbort_refusing .outsideSubject (Group.bytesOf g.unset · subject) g.pairs

theorem capturesBytes_found (h : ((search subject start : Work E _).run b).1 = .ok (.found g))
    (hg : g.Paired) :
    if ∃ p ∈ g.pairs, Group.Outside g.unset p subject then
      ((capturesBytes subject start : Work E _).run b).1 = .error .outsideSubject
    else
      ((capturesBytes subject start : Work E _).run b).1 = .ok (.found ()) ∧
        ((capturesBytes subject start : Work E _).run b).2.views =
          g.pairs.map (Group.bytesOf g.unset · subject) := by
  have written := capturesBytes_views h hg
  have verdict : ((capturesBytes subject start : Work E _).run b).1 =
      (g.views subject).map fun _ => .found () := by
    rw [run_capturesBytes]
    rcases hr : (search subject start : Work E _).run b with ⟨r, b'⟩
    rw [hr] at h
    cases h
    rfl
  rw [verdict, hg.views_eq]
  by_cases ho : ∃ p ∈ g.pairs, Group.Outside g.unset p subject
  · rw [if_pos ho, if_pos ho]
    rfl
  · have whole : (g.pairs.takeWhile fun p => !decide (Group.Outside g.unset p subject)) = g.pairs :=
      List.takeWhile_eq_self_iff.mpr fun p hp => by simpa using fun out => ho ⟨p, hp, out⟩
    rw [if_neg ho, if_neg ho, written, whole]
    exact ⟨rfl, rfl⟩

/-- Without a match nothing is decoded: all searches only say that there is none, or that the search
has been given up. -/
theorem unfound {o : Outcome Groups} (h : ((search subject start : Work E _).run b).1 = .ok o)
    (hno : o.isMatch = false) :
    ((isMatch subject start : Work E _).run b).1 = .ok (o.map fun _ => ()) ∧
      ((find subject start : Work E _).run b).1 = .ok (o.map fun _ => .unset) ∧
      ((findBytes subject start : Work E _).run b).1 = .ok (o.map fun _ => .empty) ∧
      ((captures subject start : Work E _).run b).1 = .ok (o.map fun _ => ()) ∧
      ((capturesBytes subject start : Work E _).run b).1 = .ok (o.map fun _ => ()) := by
  rw [run_isMatch, run_find, run_findBytes, run_captures, run_capturesBytes]
  rcases hr : (search subject start : Work E _).run b with ⟨r, b'⟩
  rw [hr] at h
  cases h
  cases o with
  | found g => cases hno
  | noMatch => exact ⟨rfl, rfl, rfl, rfl, rfl⟩
  | depthLimitExceeded => exact ⟨rfl, rfl, rfl, rfl, rfl⟩

theorem decodes_of_unfound {o : Outcome Groups}
    (h : ((search subject start : Work E _).run b).1 = .ok o) (hno : o.isMatch = false) :
    b.Decodes subject start := by
  obtain ⟨isMatch, find, findBytes, captures, capturesBytes⟩ := unfound h hno
  have none {g : Groups} : ((search subject start : Work E _).run b).1 ≠ .ok (.found g) := by
    intro hg
    cases h.symm.trans hg
    cases hno
  refine ⟨⟨_, isMatch⟩, ⟨_, find⟩, ⟨_, captures⟩, ?_, ?_, fun g hg => absurd hg none,
    fun _ g hg => absurd hg none⟩
  · constructor
    · rintro ⟨a, ha⟩
      cases findBytes.symm.trans ha
    · rintro ⟨g, _, _, hg, -⟩
      exact absurd hg none
  · constructor
    · rintro ⟨a, ha⟩
      cases capturesBytes.symm.trans ha
    · rintro ⟨g, hg, -⟩
      exact absurd hg none

/-- The searches that report spans always decode a match; the others do if the subject has the bytes. -/
theorem decodes_of_found (h : ((search subject start : Work E _).run b).1 = .ok (.found g))
    (hg : g.Paired) : b.Decodes subject start := by
  -- All statements are about the match that the search has found, and there is only one.
  have only {g' : Groups} (h' : ((search subject start : Work E _).run b).1 = .ok (.found g')) :
      g = g' := Outcome.found.inj (Except.ok.inj (h.symm.trans h'))
  obtain ⟨p, rest, hpairs, span⟩ := find_found h hg
  obtain ⟨p', rest', hpairs', bytes⟩ := findBytes_found h hg
  obtain ⟨rfl, rfl⟩ := List.cons.inj (hpairs.symm.trans hpairs')
  obtain ⟨captured, spans⟩ := captures_found h hg
  have views := capturesBytes_found h hg
  refine ⟨⟨.found (), ?_⟩, ⟨_, span⟩, ⟨_, captured⟩, ?_, ?_, ?_, ?_⟩
  · rw [run_isMatch, h]
    rfl
  · constructor
    · rintro ⟨a, ha⟩
      refine ⟨g, p, rest, h, hpairs, ?_⟩
      by_contra inside
      rw [if_neg inside] at bytes
      cases bytes.symm.trans ha
    · rintro ⟨g', q, tail, h', hq, outside⟩
      cases only h'
      cases hpairs.symm.trans hq
      exact ⟨_, bytes.trans (if_pos outside)⟩
  · constructor
    · rintro ⟨a, ha⟩
      refine ⟨g, h, ?_⟩
      by_contra inside
      rw [if_neg inside] at views
      cases views.1.symm.trans ha
    · rintro ⟨g', h', outside⟩
      cases only h'
      rw [if_pos outside] at views
      exact ⟨_, views⟩
  · intro g' _ q _
    exact ⟨Group.stop_le g'.unset q, _, Group.span_ofOffsets g'.unset q⟩
  · intro hsize g' h' within
    cases only h'
    have inside : ¬∃ q ∈ g.pairs, Group.Outside g.unset q subject := by
      rintro ⟨q, hq, outside⟩
      exact within.not_outside hq outside
    have first : ¬Group.Outside g.unset p subject := by
      apply within.not_outside
      rw [hpairs]
      exact List.mem_cons_self
    rw [if_neg inside] at views
    rw [if_neg first] at bytes
    refine ⟨⟨_, bytes⟩, views.1, captured, ?_, _, span, ?_⟩
    · rw [spans, List.forall₂_map_right_iff, List.forall₂_same]
      exact fun q hq => within.tells hsize hq
    · rw [spans, hpairs]
      rfl

theorem decodes_of_outcome {o : Outcome Groups}
    (h : ((search subject start : Work E _).run b).1 = .ok o)
    (hg : ∀ g, o = .found g → g.Paired) : b.Decodes subject start := by
  cases o with
  | found g => exact decodes_of_found h (hg g rfl)
  | noMatch => exact decodes_of_unfound h rfl
  | depthLimitExceeded => exact decodes_of_unfound h rfl

/-- Whatever offsets an engine has left and whichever of them marks unset groups, decoding goes wrong
only where bytes are wanted that the subject does not have. -/
theorem decodes_of_paired {p : Prepared E} (hp : b.matcher.prepared = some p)
    (hs : start ≤ subject.size)
    (hg : ∀ g, ((search subject start : Work E _).run b).1 = .ok (.found g) → g.Paired) :
    b.Decodes subject start := by
  obtain ⟨o, ho⟩ := search_answers hp hs
  apply decodes_of_outcome ho
  rintro g rfl
  exact hg g ho

/-- A match with an unset group, one that ends before it starts, an empty one at the greatest offset, and
one that ends far behind the subject. -/
theorem decodes_of_paired_scripted :
    let E := Scenario.engine {} 999
    let offsets := [some 1, some 3, none, none, some 3, some 2, some 0xFFFFFFFFFFFFFFFF,
      some 0xFFFFFFFFFFFFFFFF, some 2, some 0xFFFFFFFFFFFFFFFE]
    let p : Prepared E := ⟨"a", .empty, { groups := 4, runs := [.matched offsets none] }, {}⟩
    let b : Bench E := { matcher := { prepared := some p, depthLimit := 1 }, state := () }
    let subject : ByteArray := ⟨#[97, 98, 99]⟩
    b.matcher.prepared = some p ∧ 1 ≤ subject.size ∧
      (∀ g, ((search subject 1 : Work E _).run b).1 = .ok (.found g) → g.Paired) ∧
      b.Decodes subject 1 := by
  intro E offsets p b subject
  have hs : 1 ≤ subject.size := by decide
  have hg : ∀ g, ((search subject 1 : Work E _).run b).1 = .ok (.found g) → g.Paired := by
    rintro g ⟨⟩
    exact ⟨by decide, by decide⟩
  exact ⟨rfl, hs, hg, decodes_of_paired rfl hs hg⟩

end

end Bench

end BoundedRegex
