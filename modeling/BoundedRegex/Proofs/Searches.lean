import BoundedRegex.Proofs.Decoding
import BoundedRegex.Proofs.Fresh

/-!
# Five views of one search

Over a functional engine the five searches of a matcher do the same search, whatever has been asked of
the engine in between. They come to the same verdict unless the bytes of a group are missing, and what
they report about a match fits together: the whole match is the first of all groups, there are as many
spans as views, and each view holds the bytes of its span.
-/
namespace BoundedRegex

variable {σ : Type} {E : Engine σ}

/-- Whether a search has found a match, apart from what it reports about it. -/
def Reply.verdict? : Reply → Option (Outcome Unit)
  | .matched o => some o
  | .span o => some (o.map fun _ => ())
  | .bytes o => some (o.map fun _ => ())
  | .spans o _ => some o
  | .views o _ => some o
  | _ => none

/-- A matcher whose pattern has been compiled and given a buffer by its engine. -/
def Matcher.Sound (m : Matcher E) : Prop :=
  ∀ p, m.prepared = some p → E.Compiles p.pattern p.flags p.code ∧ E.Serves p.code p.buffer

namespace Bench

/-- What a caller is told. -/
def reply (o : Operation) (b : Bench E) : Except Abort Reply := ((perform o : Work E Reply).run b).1

section
variable (subject : ByteArray) (start : Nat) (b : Bench E)

theorem reply_isMatch : b.reply (.isMatch subject start) =
    ((isMatch subject start : Work E _).run b).1.map .matched :=
  congrArg Prod.fst (run_reply (isMatch subject start) Reply.matched b)

theorem reply_find : b.reply (.find subject start) =
    ((find subject start : Work E _).run b).1.map .span :=
  congrArg Prod.fst (run_reply (find subject start) Reply.span b)

theorem reply_findBytes : b.reply (.findBytes subject start) =
    ((findBytes subject start : Work E _).run b).1.map .bytes :=
  congrArg Prod.fst (run_reply (findBytes subject start) Reply.bytes b)

theorem reply_captures : b.reply (.captures subject start) =
    ((captures subject start : Work E _).run b).1.map
      (.spans · ((captures subject start : Work E _).run b).2.spans) := by
  simp only [reply, perform, run_bind]
  rcases (captures subject start : Work E _).run b with ⟨_ | o, b'⟩ <;> rfl

theorem reply_capturesBytes : b.reply (.capturesBytes subject start) =
    ((capturesBytes subject start : Work E _).run b).1.map
      (.views · ((capturesBytes subject start : Work E _).run b).2.views) := by
  simp only [reply, perform, run_bind]
  rcases (capturesBytes subject start : Work E _).run b with ⟨_ | o, b'⟩ <;> rfl

/-- Apart from the spans, all groups are decoded as a single value of the search would be. -/
theorem captures_verdict : ((captures subject start : Work E _).run b).1 =
    ((search subject start : Work E _).run b).1 >>=
      Outcome.traverse fun g => g.spans.map fun _ => () := by
  rw [run_captures]
  rcases (search subject start : Work E _).run b with ⟨_ | g | _ | _, b'⟩
  · rfl
  · simp only [bind, Except.bind, Outcome.traverse, Except.map]
    cases g.spans <;> rfl
  · rfl
  · rfl

theorem capturesBytes_verdict : ((capturesBytes subject start : Work E _).run b).1 =
    ((search subject start : Work E _).run b).1 >>=
      Outcome.traverse fun g => (g.views subject).map fun _ => () := by
  rw [run_capturesBytes]
  rcases (search subject start : Work E _).run b with ⟨_ | g | _ | _, b'⟩
  · rfl
  · simp only [bind, Except.bind, Outcome.traverse, Except.map]
    cases g.views subject <;> rfl
  · rfl
  · rfl

end

variable {b : Bench E} {subject : ByteArray} {start : Nat}

theorem verdict_traverse {α β : Type} {f : α → Except Abort β} {one : Outcome α} {o : Outcome β}
    (h : one.traverse f = .ok o) : (o.map fun _ => ()) = one.map fun _ => () := by
  cases one with
  | found a =>
    rw [Outcome.traverse] at h
    rcases hf : f a with _ | x <;> rw [hf] at h <;> cases h
    rfl
  | noMatch =>
    cases h
    rfl
  | depthLimitExceeded =>
    cases h
    rfl

theorem map_unit (o : Outcome Unit) : (o.map fun _ => ()) = o := by
  cases o <;> rfl

/-- A search that is not aborted comes to the verdict of the search itself. -/
theorem verdict_reply {one : Outcome Groups}
    (h : ((search subject start : Work E _).run b).1 = .ok one) {o : Operation}
    (ho : o.search? = some (subject, start)) {r : Reply} (hr : b.reply o = .ok r) :
    r.verdict? = some (one.map fun _ => ()) := by
  have ok_of_map {α : Type} {e : Except Abort α} {f : α → Reply} (hm : e.map f = .ok r) :
      ∃ a, e = .ok a ∧ r = f a := by
    cases e with
    | error => cases hm
    | ok a => exact ⟨a, rfl, (Except.ok.inj hm).symm⟩
  cases o <;> cases ho
  case isMatch =>
    rw [reply_isMatch, run_isMatch, h] at hr
    cases hr
    rfl
  case find =>
    rw [reply_find, run_find, h] at hr
    obtain ⟨o, hfind, rfl⟩ := ok_of_map hr
    exact congrArg some (verdict_traverse hfind)
  case findBytes =>
    rw [reply_findBytes, run_findBytes, h] at hr
    obtain ⟨o, hfind, rfl⟩ := ok_of_map hr
    exact congrArg some (verdict_traverse hfind)
  case captures =>
    rw [reply_captures, captures_verdict, h] at hr
    obtain ⟨o, hcapture, rfl⟩ := ok_of_map hr
    exact congrArg some ((map_unit o).symm.trans (verdict_traverse hcapture))
  case capturesBytes =>
    rw [reply_capturesBytes, capturesBytes_verdict, h] at hr
    obtain ⟨o, hcapture, rfl⟩ := ok_of_map hr
    exact congrArg some ((map_unit o).symm.trans (verdict_traverse hcapture))

/-- A match that has been reported is one that the search has found. -/
theorem found_of_verdict {one : Outcome Groups}
    (h : ((search subject start : Work E _).run b).1 = .ok one) {o : Operation}
    (ho : o.search? = some (subject, start)) {r : Reply} (hr : b.reply o = .ok r)
    (hv : r.verdict? = some (.found ())) : ∃ g, one = .found g := by
  have verdict := hv.symm.trans (verdict_reply h ho hr)
  cases one with
  | found g => exact ⟨g, rfl⟩
  | noMatch => cases verdict
  | depthLimitExceeded => cases verdict

end Bench

/-! ## Benches with the same matcher -/

/-- Over a functional engine, the outcome of a search is a matter of the matcher. -/
theorem Engine.Functional.search_eq (hE : E.Functional) {m : Matcher E} (hm : m.Sound) {a b : Bench E}
    (ha : a.matcher = m) (hb : b.matcher = m) (subject : ByteArray) (start : Nat) :
    ((Bench.search subject start : Work E _).run a).1 =
      ((Bench.search subject start : Work E _).run b).1 := by
  have agrees {c : Bench E} (hc : c.matcher = m) :
      c.Agrees ⟨a.state, m.depthLimit⟩ (m.prepared.map fun p => (p.pattern, p.flags))
        ⟨c.spans, c.views⟩ :=
    ⟨by rw [hc], by rw [hc], by rw [hc]; exact hm, rfl, rfl⟩
  rw [((agrees ha).run_search hE subject start).1, ((agrees hb).run_search hE subject start).1]

/-- What the five searches of a matcher report, from any benches that it works on. -/
structure Matcher.OneSearch (m : Matcher E) (subject : ByteArray) (start : Nat) : Prop where
  /-- Searches that are not aborted come to the same verdict. -/
  verdict : ∀ o o' : Operation, o.search? = some (subject, start) →
    o'.search? = some (subject, start) →
    ∀ a b : Bench E, a.matcher = m → b.matcher = m → ∀ r r', a.reply o = .ok r → b.reply o' = .ok r' →
    ∃ v, r.verdict? = some v ∧ r'.verdict? = some v
  /-- Only the searches that report bytes may be aborted. -/
  answers : ∀ a : Bench E, a.matcher = m →
    (∃ o, a.reply (.isMatch subject start) = .ok (.matched o)) ∧
    (∃ o, a.reply (.find subject start) = .ok (.span o)) ∧
    (∃ o spans, a.reply (.captures subject start) = .ok (.spans o spans))
  /-- The whole match is the first of all groups. -/
  find : ∀ a b : Bench E, a.matcher = m → b.matcher = m → ∀ spans,
    b.reply (.captures subject start) = .ok (.spans (.found ()) spans) →
    ∃ s, a.reply (.find subject start) = .ok (.span (.found s)) ∧ spans.head? = some s
  findBytes : ∀ a b : Bench E, a.matcher = m → b.matcher = m → ∀ views,
    b.reply (.capturesBytes subject start) = .ok (.views (.found ()) views) →
    ∃ x, a.reply (.findBytes subject start) = .ok (.bytes (.found x)) ∧ views.head? = some x
  /-- There is a span and a view for each pair of offsets, and each view holds the bytes of its span. -/
  groups : ∀ a b c : Bench E, a.matcher = m → b.matcher = m → c.matcher = m → ∀ g spans views,
    ((Bench.search subject start : Work E _).run a).1 = .ok (.found g) →
    b.reply (.captures subject start) = .ok (.spans (.found ()) spans) →
    c.reply (.capturesBytes subject start) = .ok (.views (.found ()) views) →
    spans.length = g.offsets.length / 2 ∧ views.length = g.offsets.length / 2 ∧
    List.Forall₂ (·.Shows subject) spans views

namespace Bench

variable {b : Bench E} {subject : ByteArray} {start : Nat} {g : Groups}

theorem spans_of_found (h : ((search subject start : Work E _).run b).1 = .ok (.found g))
    (hg : g.Paired) {spans : List Span}
    (hr : b.reply (.captures subject start) = .ok (.spans (.found ()) spans)) :
    spans = g.pairs.map (Group.spanOf g.unset) := by
  obtain ⟨captured, vector⟩ := captures_found h hg
  rw [reply_captures, captured, vector] at hr
  cases hr
  rfl

/-- Views are reported only if the subject has the bytes of all groups. -/
theorem views_of_found (h : ((search subject start : Work E _).run b).1 = .ok (.found g))
    (hg : g.Paired) {views : List ByteArray}
    (hr : b.reply (.capturesBytes subject start) = .ok (.views (.found ()) views)) :
    (∀ p ∈ g.pairs, ¬Group.Outside g.unset p subject) ∧
      views = g.pairs.map (Group.bytesOf g.unset · subject) := by
  have captured := capturesBytes_found h hg
  by_cases outside : ∃ p ∈ g.pairs, Group.Outside g.unset p subject
  · rw [if_pos outside] at captured
    rw [reply_capturesBytes, captured] at hr
    cases hr
  · rw [if_neg outside] at captured
    rw [reply_capturesBytes, captured.1, captured.2] at hr
    cases hr
    exact ⟨fun p hp ho => outside ⟨p, hp, ho⟩, rfl⟩

/-- The whole match is the first group of all. -/
theorem find_first (h : ((search subject start : Work E _).run b).1 = .ok (.found g))
    (hg : g.Paired) :
    ∃ s, b.reply (.find subject start) = .ok (.span (.found s)) ∧
      (g.pairs.map (Group.spanOf g.unset)).head? = some s := by
  obtain ⟨q, rest, hq, found⟩ := find_found h hg
  refine ⟨Group.spanOf g.unset q, ?_, ?_⟩
  · rw [reply_find, found]
    rfl
  · rw [hq]
    rfl

theorem findBytes_first (h : ((search subject start : Work E _).run b).1 = .ok (.found g))
    (hg : g.Paired) (inside : ∀ p ∈ g.pairs, ¬Group.Outside g.unset p subject) :
    ∃ x, b.reply (.findBytes subject start) = .ok (.bytes (.found x)) ∧
      (g.pairs.map (Group.bytesOf g.unset · subject)).head? = some x := by
  obtain ⟨q, rest, hq, found⟩ := findBytes_found h hg
  have first : ¬Group.Outside g.unset q subject := by
    apply inside
    rw [hq]
    exact List.mem_cons_self
  rw [if_neg first] at found
  refine ⟨Group.bytesOf g.unset q subject, ?_, ?_⟩
  · rw [reply_findBytes, found]
    rfl
  · rw [hq]
    rfl

/-- The searches that report no bytes are answered. -/
theorem Decodes.answers (h : b.Decodes subject start) :
    (∃ o, b.reply (.isMatch subject start) = .ok (.matched o)) ∧
    (∃ o, b.reply (.find subject start) = .ok (.span o)) ∧
    (∃ o spans, b.reply (.captures subject start) = .ok (.spans o spans)) := by
  obtain ⟨o, isMatch⟩ := h.isMatch
  obtain ⟨o', find⟩ := h.find
  obtain ⟨o'', captures⟩ := h.captures
  refine ⟨⟨o, ?_⟩, ⟨o', ?_⟩,
    ⟨o'', ((Bench.captures subject start : Work E _).run b).2.spans, ?_⟩⟩
  · rw [reply_isMatch, isMatch]
    rfl
  · rw [reply_find, find]
    rfl
  · rw [reply_captures, captures]
    rfl

end Bench

/-- Over a functional engine with well-formed offsets, the five searches are views of one search. -/
theorem Matcher.searches_agree (hE : E.Functional) {m : Matcher E} (hm : m.Sound) {p : Prepared E}
    (hp : m.prepared = some p) {subject : ByteArray} {start : Nat} (hs : start ≤ subject.size)
    (hg : ∀ b : Bench E, b.matcher = m → ∀ g,
      ((Bench.search subject start : Work E _).run b).1 = .ok (.found g) → g.Paired) :
    m.OneSearch subject start := by
  have outcome {b : Bench E} (hb : b.matcher = m) :
      ∃ one, ((Bench.search subject start : Work E _).run b).1 = .ok one :=
    Bench.search_answers (hb ▸ hp) hs
  -- A search on one bench tells what all the others come to.
  have same {a b : Bench E} (ha : a.matcher = m) (hb : b.matcher = m) {one : Outcome Groups}
      (h : ((Bench.search subject start : Work E _).run a).1 = .ok one) :
      ((Bench.search subject start : Work E _).run b).1 = .ok one :=
    (hE.search_eq hm hb ha subject start).trans h
  constructor
  case verdict =>
    intro o o' ho ho' a b ha hb r r' hr hr'
    obtain ⟨one, h⟩ := outcome ha
    exact ⟨_, Bench.verdict_reply h ho hr, Bench.verdict_reply (same ha hb h) ho' hr'⟩
  case answers =>
    intro a ha
    obtain ⟨one, h⟩ := outcome ha
    apply (Bench.decodes_of_outcome h _).answers
    rintro g rfl
    exact hg a ha g h
  case find =>
    intro a b ha hb spans hr
    obtain ⟨one, h⟩ := outcome hb
    obtain ⟨g, rfl⟩ := Bench.found_of_verdict h rfl hr rfl
    have paired := hg b hb g h
    rw [Bench.spans_of_found h paired hr]
    exact Bench.find_first (same hb ha h) paired
  case findBytes =>
    intro a b ha hb views hr
    obtain ⟨one, h⟩ := outcome hb
    obtain ⟨g, rfl⟩ := Bench.found_of_verdict h rfl hr rfl
    have paired := hg b hb g h
    obtain ⟨inside, rfl⟩ := Bench.views_of_found h paired hr
    exact Bench.findBytes_first (same hb ha h) paired inside
  case groups =>
    intro a b c ha hb hc g spans views h hspans hviews
    have paired := hg a ha g h
    have spans_eq := Bench.spans_of_found (same ha hb h) paired hspans
    obtain ⟨inside, views_eq⟩ := Bench.views_of_found (same ha hc h) paired hviews
    rw [spans_eq, views_eq, List.length_map, List.length_map, g.length_pairs]
    refine ⟨rfl, rfl, ?_⟩
    rw [List.forall₂_map_left_iff, List.forall₂_map_right_iff, List.forall₂_same]
    exact fun q hq => Group.spanOf_shows (inside q hq)

/-- A match in which one group is unset and another ends before it starts. -/
theorem Matcher.searches_agree_scripted :
    let code : ScriptedCode :=
      { groups := 2, runs := [.matched [some 1, some 3, none, none, some 2, some 1] none] }
    let E := Scenario.engine { patterns := [("a", .ok code)] } 7
    let p : Prepared E := ⟨"a", .empty, code, {}⟩
    let m : Matcher E := { prepared := some p, depthLimit := 5 }
    let subject : ByteArray := ⟨#[97, 98, 99]⟩
    E.Functional ∧ m.Sound ∧ m.prepared = some p ∧ 1 ≤ subject.size ∧
      (∀ b : Bench E, b.matcher = m → ∀ g,
        ((Bench.search subject 1 : Work E _).run b).1 = .ok (.found g) → g.Paired) ∧
      m.OneSearch subject 1 := by
  intro code E p m subject
  have hE : E.Functional := by
    apply Scenario.functional
    intro pattern c hl
    simp only [List.lookup_cons, List.lookup_nil] at hl
    split at hl
    · cases hl
      decide
    · cases hl
  have hm : m.Sound := by
    rintro _ ⟨⟩
    exact ⟨⟨(), rfl⟩, .new (s := ()) rfl⟩
  have hs : 1 ≤ subject.size := by decide
  have hg : ∀ b : Bench E, b.matcher = m → ∀ g,
      ((Bench.search subject 1 : Work E _).run b).1 = .ok (.found g) → g.Paired := by
    intro b hb g h
    obtain ⟨⟨matcher, spans, views⟩, state, log⟩ := b
    obtain rfl : matcher = { prepared := some p, depthLimit := 5 } := hb
    cases h
    exact ⟨by decide, by decide⟩
  exact ⟨hE, hm, rfl, hs, hg, searches_agree hE hm rfl hs hg⟩

end BoundedRegex
