import BoundedRegex.Proofs.Isolation
import BoundedRegex.Proofs.Matches

/-!
# Marks of unset groups

Engines may mark the groups without a part in a match by any offset, as long as no subject reaches that
far. Which one it is shows nowhere: the mark is compared with where a group starts, before anything is made
of its offsets, and if it is the same then nothing is.

So matchers over two engines that differ in their marks only are told apart by nothing that they reply,
write or report.
-/
namespace BoundedRegex

variable {σ τ : Type} {E : Engine σ} {A : Engine τ}

/-! ## Offsets with another mark -/

/-- The offsets of a match within a subject of some size, with a mark `u` in one place and `v` in the
other. -/
inductive Remarked (u v : UInt64) (size : Nat) : List UInt64 → List UInt64 → Prop where
  | nil : Remarked u v size [] []
  /-- A word that makes no pair. -/
  | word (x y : UInt64) : Remarked u v size [x] [y]
  | unset {o o' : List UInt64} (rest : Remarked u v size o o') :
      Remarked u v size (u :: u :: o) (v :: v :: o')
  | set {start stop : UInt64} {o o' : List UInt64} (hstart : start.toNat ≤ size)
      (hstop : stop.toNat ≤ size) (rest : Remarked u v size o o') :
      Remarked u v size (start :: stop :: o) (start :: stop :: o')

section
variable {u v : UInt64} {size : Nat} {o o' : List UInt64}

theorem ofOffsets_remarked (hu : size < u.toNat) (hv : size < v.toNat) {start : UInt64}
    (hstart : start.toNat ≤ size) (stop : UInt64) :
    Group.ofOffsets v start stop = Group.ofOffsets u start stop := by
  have apart {w : UInt64} (hw : size < w.toNat) : start ≠ w := by
    rintro rfl
    omega
  rw [Group.ofOffsets, Group.ofOffsets, if_neg (apart hu), if_neg (apart hv)]

theorem ofOffsets_mark (u v : UInt64) : Group.ofOffsets v v v = Group.ofOffsets u u u := by
  rw [Group.ofOffsets, Group.ofOffsets, if_pos rfl, if_pos rfl]

/-- A mark behind the subject makes no difference to the groups. -/
theorem Remarked.alike (h : Remarked u v size o o') (hu : size < u.toNat) (hv : size < v.toNat) :
    Groups.Alike ⟨u, o⟩ ⟨v, o'⟩ where
  all := by
    rw [Groups.all, Groups.all]
    dsimp only
    induction h with
    | nil => rfl
    | word x y => rfl
    | unset rest ih => rw [Groups.ofPairs, Groups.ofPairs, ih, ofOffsets_mark u v]
    | set hstart hstop rest ih =>
      rw [Groups.ofPairs, Groups.ofPairs, ih, ofOffsets_remarked hu hv hstart]
  overall := by
    cases h with
    | nil => rfl
    | word x y => rfl
    | unset rest => exact congrArg Except.ok (ofOffsets_mark u v)
    | set hstart hstop rest => exact congrArg Except.ok (ofOffsets_remarked hu hv hstart _)

end

/-! ## Engines with other marks -/

namespace Engine.Likeness
open Bench

variable {state : σ → τ → Prop} (L : E.Likeness A (fun _ => False) state)

/-- Engines that answer alike about some subjects, but for their marks, which lie behind all of these. -/
structure Marked (Searched : ByteArray → Prop) : Prop where
  behind : ∀ subject, Searched subject → subject.size < E.unset.toNat ∧ subject.size < A.unset.toNat
  execute : ∀ {c d subject start} limit {b b' s t}, Searched subject → start ≤ subject.size →
    L.code c d → L.buffer b b' → state s t →
    (A.execute d subject start limit b' t).1 = (E.execute c subject start limit b s).1 ∧
      L.buffer (E.execute c subject start limit b s).2.1 (A.execute d subject start limit b' t).2.1 ∧
      state (E.execute c subject start limit b s).2.2 (A.execute d subject start limit b' t).2.2
  output : ∀ {c d subject start} limit {b b' s t}, Searched subject → start ≤ subject.size →
    L.code c d → L.buffer b b' → state s t → ∀ pairs buffer buffer' s' t',
    E.execute c subject start limit b s = (.matched pairs, buffer, s') →
    A.execute d subject start limit b' t = (.matched pairs, buffer', t') →
    Remarked E.unset A.unset subject.size (E.output buffer s').1 (A.output buffer' t').1 ∧
      state (E.output buffer s').2 (A.output buffer' t').2

variable {L} {Searched : ByteArray → Prop}

theorem Marked.searchesBy (h : L.Marked Searched) {subject : ByteArray} (hs : Searched subject) :
    L.SearchesBy Groups.Alike subject where
  execute limit _ _ _ _ hstart hc hb hst := .inr (h.execute limit hs hstart hc hb hst)
  output := by
    intro c d start limit b b' s t hstart hc hb hst pairs buffer buffer' s' t' hE hA _ _
    obtain ⟨offsets, after⟩ := h.output limit hs hstart hc hb hst pairs buffer buffer' s' t' hE hA
    obtain ⟨hu, hv⟩ := h.behind subject hs
    exact .inr ⟨offsets.alike hu hv, after⟩

/-- Every operation on the subjects in question is in step. -/
theorem Marked.perform (h : L.Marked Searched) {o : Operation}
    (ho : ∀ subject, o.subject? = some subject → Searched subject) :
    InStep (fun _ => False) (L.Benches Eq) (Bench.perform o) (Bench.perform o) := by
  have add (l k : Log) (e : Event) (hlog : l = k) : l.add e = k.add e := by
    rw [hlog]
  have level (l k : Log) (hlog : l = k) : k.level = l.level := by
    rw [hlog]
  have quiet : Quiet (fun _ => False) (L.Benches Eq) := Engine.Likeness.quiet add
  cases hs : o.subject? with
  | none => exact quiet.perform hs
  | some subject => exact quiet.perform_search ((h.searchesBy (ho subject hs)).inStepBy level add) hs

end Engine.Likeness

namespace Bench

variable {state : σ → τ → Prop} {L : E.Likeness A (fun _ => False) state} {Searched : ByteArray → Prop}
  {b : Bench E} {a : Bench A}

theorem sight_eq (b : Bench E) (o : Operation) :
    b.sight o =
      { reply := b.reply o, records := (b.after [o]).log.records.drop b.log.records.length
        inspected := some (b.after [o]).matcher.inspected, spans := some (b.after [o]).spans
        views := some (b.after [o]).views } := rfl

theorem sight_of_inStep {o : Operation}
    (h : InStep (fun _ => False) (L.Benches Eq) (perform o) (perform o)) (hba : L.Benches Eq b a) :
    a.sight o = b.sight o ∧ L.Benches Eq (b.after [o]) (a.after [o]) := by
  rcases h.meets b a hba with spoilt | ⟨same, after⟩
  · cases spoilt
  have reply : a.reply o = b.reply o := same
  have after : L.Benches Eq (b.after [o]) (a.after [o]) := after
  refine ⟨?_, after⟩
  rw [sight_eq, sight_eq, reply, after.clients.inspected, after.clients.spans, after.clients.views,
    ← after.logs, ← hba.logs]

theorem sights_marked (h : L.Marked Searched) (hba : L.Benches Eq b a) {ops : List Operation}
    (hops : ∀ o ∈ ops, ∀ subject, o.subject? = some subject → Searched subject) :
    a.sights ops = b.sights ops ∧ L.Benches Eq (b.after ops) (a.after ops) := by
  induction ops generalizing b a with
  | nil => exact ⟨rfl, hba⟩
  | cons o rest ih =>
    have inStep := h.perform (hops o List.mem_cons_self)
    obtain ⟨first, after⟩ := sight_of_inStep inStep hba
    obtain ⟨others, last⟩ := ih after fun o ho => hops o (List.mem_cons_of_mem _ ho)
    refine ⟨?_, last⟩
    rw [sights, sights, first]
    exact congrArg (b.sight o :: ·) others

/-! ## Groups without a part in a match -/

/-- What is reported of the groups that the offsets of a match mark as unset. -/
structure ReportsUnset (b : Bench E) (subject : ByteArray) (start : Nat) (offsets : List UInt64) :
    Prop where
  spans : ∃ spans, b.reply (.captures subject start) = .ok (.spans (.found ()) spans) ∧
    ∀ i, offsets[2 * i]? = some E.unset → spans[i]? = some .unset
  views : ∀ views, b.reply (.capturesBytes subject start) = .ok (.views (.found ()) views) →
    ∀ i, offsets[2 * i]? = some E.unset → views[i]? = some .empty
  find : offsets[0]? = some E.unset → b.reply (.find subject start) = .ok (.span (.found .unset))
  findBytes : offsets[0]? = some E.unset →
    b.reply (.findBytes subject start) = .ok (.bytes (.found .empty))

variable {subject : ByteArray} {start pairs : Nat} {offsets : List UInt64}

/-- The pair of a group that the offsets mark as unset. -/
theorem pair_of_mark (even : offsets.length % 2 = 0) {i : Nat} (h : offsets[2 * i]? = some E.unset) :
    ∃ stop, (inPairs offsets)[i]? = some (E.unset, stop) := by
  obtain ⟨first, -⟩ := List.getElem?_eq_some_iff.mp h
  have second : 2 * i + 1 < offsets.length := by omega
  refine ⟨offsets[2 * i + 1], ?_⟩
  rw [getElem?_inPairs, h, List.getElem?_eq_getElem second]
  rfl

theorem reportsUnset (left : b.left? subject start = some (pairs, offsets))
    (paired : (⟨E.unset, offsets⟩ : Groups).Paired) : b.ReportsUnset subject start offsets := by
  have only (m : Nat × List UInt64) (hm : b.left? subject start = some m) :
      (⟨E.unset, m.2⟩ : Groups).Paired := by
    cases left.symm.trans hm
    exact paired
  have found := search_of_left left
  have even : offsets.length % 2 = 0 := paired.even
  -- The whole match is the group of the first pair.
  have whole (h : offsets[0]? = some E.unset) {p : OffsetPair} {rest : List OffsetPair}
      (hp : (⟨E.unset, offsets⟩ : Groups).pairs = p :: rest) : p.1 = E.unset := by
    obtain ⟨stop, first⟩ := pair_of_mark (i := 0) even h
    have head : (inPairs offsets)[0]? = some p := congrArg (·[0]?) hp
    cases first.symm.trans head
    rfl
  constructor
  case spans =>
    refine ⟨_, (reply_captures_iff only).mpr ⟨_, left, rfl⟩, ?_⟩
    intro i h
    obtain ⟨stop, pair⟩ := pair_of_mark even h
    rw [List.getElem?_map, pair]
    exact congrArg some (if_pos rfl)
  case views =>
    intro views hr i h
    obtain ⟨m, hm, -, rfl⟩ := (reply_capturesBytes_iff only).mp hr
    cases left.symm.trans hm
    obtain ⟨stop, pair⟩ := pair_of_mark even h
    rw [List.getElem?_map, pair]
    exact congrArg some (if_pos rfl)
  case find =>
    intro h
    obtain ⟨p, rest, hp, span⟩ := find_found found paired
    rw [reply_find, span, Group.spanOf, if_pos (whole h hp)]
    rfl
  case findBytes =>
    intro h
    obtain ⟨p, rest, hp, bytes⟩ := findBytes_found found paired
    have inside : ¬Group.Outside E.unset p subject := fun outside => outside.1 (whole h hp)
    rw [reply_findBytes, bytes, if_neg inside, Group.bytesOf, if_pos (whole h hp)]
    rfl

end Bench

/-! ## Scripted engines -/

/-- The offsets of a scripted match come in pairs, each of which is unset or lies within a subject of some
size. -/
def withinSize (size : Nat) : List (Option UInt64) → Bool
  | [] => true
  | none :: none :: rest => withinSize size rest
  | some start :: some stop :: rest =>
    start.toNat ≤ size && stop.toNat ≤ size && withinSize size rest
  | _ => false

def ScriptedRun.within (size : Nat) : ScriptedRun → Bool
  | .matched offsets _ => withinSize size offsets
  | _ => true

theorem remarked_of_withinSize (u v : UInt64) {size : Nat} {offsets : List (Option UInt64)}
    (h : withinSize size offsets = true) :
    Remarked u v size (offsets.map (·.getD u)) (offsets.map (·.getD v)) := by
  fun_induction withinSize size offsets with
  | case1 => exact .nil
  | case2 rest ih => exact .unset (ih h)
  | case3 start stop rest ih =>
    simp only [Bool.and_eq_true, decide_eq_true_eq] at h
    exact .set h.1.1 h.1.2 (ih h.2)
  | case4 => cases h

namespace Scenario

variable (scenario : Scenario) (u v : UInt64)

/-- With another mark, a scenario is followed all the same. -/
def likeness : (scenario.engine u).Likeness (scenario.engine v) (fun _ => False) fun _ _ => True where
  code c d := d = c ∧ ∃ pattern, scenario.patterns.lookup pattern = some (.ok c)
  buffer b b' := b'.searches = b.searches
  compile := by
    intro pattern flags s t _
    refine .inr ⟨?_, trivial⟩
    simp only [engine]
    cases hl : scenario.patterns.lookup pattern with
    | none => exact .error _
    | some result =>
      cases result with
      | error failure => exact .error failure
      | ok c => exact .ok ⟨rfl, pattern, hl⟩
  makeBuffer := by
    rintro c _ s t ⟨rfl, -⟩ _
    refine .inr ⟨?_, trivial⟩
    simp only [engine]
    split
    · exact .none
    · exact .some rfl
  groupCount := by
    rintro c _ s t ⟨rfl, -⟩ _
    exact .inr ⟨rfl, trivial⟩
  groupNumber? := by
    rintro c _ name s t ⟨rfl, -⟩ _
    exact .inr ⟨rfl, trivial⟩
  message _ _ _ _ := .inr ⟨rfl, trivial⟩
  releaseCode _ _ := .inr trivial
  releaseBuffer _ _ := .inr trivial
  persists := (scenario.engine u).persists_const False

variable {scenario u v}

/-- Scripted engines with marks behind a size differ in these only, about subjects of this size. -/
theorem marked {size : Nat} (hu : size < u.toNat) (hv : size < v.toNat)
    (h : ∀ pattern code, scenario.patterns.lookup pattern = some (.ok code) →
      ∀ run ∈ code.runs, run.within size = true) :
    (scenario.likeness u v).Marked fun subject => subject.size = size where
  behind := by
    rintro subject rfl
    exact ⟨hu, hv⟩
  execute := by
    rintro _ c subject start limit b b' s t _ _ ⟨rfl, -⟩ hb _
    have searches : b'.searches = b.searches := hb
    simp only [engine, searches]
    cases (c.runs[b.searches % c.runs.length]?).getD .noMatch with
    | matched offsets set => exact ⟨rfl, rfl, trivial⟩
    | noMatch => exact ⟨rfl, rfl, trivial⟩
    | depthLimitExceeded => exact ⟨rfl, rfl, trivial⟩
    | failed code => exact ⟨rfl, rfl, trivial⟩
  output := by
    rintro _ c subject start limit b b' s t rfl _ ⟨rfl, pattern, hl⟩ hb _ pairs buffer buffer' s' t'
      hE hA
    have searches : b'.searches = b.searches := hb
    refine ⟨?_, trivial⟩
    simp only [engine, searches] at hE hA
    cases hr : c.runs[b.searches % c.runs.length]? with
    | none =>
      rw [hr] at hE
      cases hE
    | some run =>
      have within := h pattern c hl run (List.mem_of_getElem? hr)
      rw [hr] at hE hA
      cases run with
      | matched offsets set =>
        cases hE
        cases hA
        exact remarked_of_withinSize u v within
      | noMatch => cases hE
      | depthLimitExceeded => cases hE
      | failed code => cases hE

end Scenario

namespace Bench

variable {state : σ → τ → Prop} {Searched : ByteArray → Prop}

/-- Whichever offsets two engines mark unset groups with, matchers over them do the same, and whichever
offset it is, such groups are reported as no stretch and no bytes. -/
theorem marks_invisible (L : E.Likeness A (fun _ => False) state) (hL : L.Marked Searched)
    (builder : MatcherBuilder) (standard : UInt32) (s : σ) (t : τ) (hst : state s t) (log : Log)
    (spans : List Span) (views : List ByteArray) {ops : List Operation}
    (hops : ∀ o ∈ ops, ∀ subject, o.subject? = some subject → Searched subject) :
    let b := built E builder standard s log spans views
    let a := built A builder standard t log spans views
    (a.sights ops = b.sights ops ∧ (a.after ops).log = (b.after ops).log) ∧
      ∀ (ρ : Type) (F : Engine ρ) (c : Bench F) subject start pairs offsets,
        c.left? subject start = some (pairs, offsets) → (⟨F.unset, offsets⟩ : Groups).Paired →
        c.ReportsUnset subject start offsets := by
  intro b a
  have alike : L.Benches Eq b a := ⟨⟨.none, rfl, rfl, rfl⟩, hst, rfl⟩
  obtain ⟨same, after⟩ := sights_marked hL alike hops
  exact ⟨⟨same, after.logs.symm⟩, fun _ _ _ _ _ _ _ left paired => reportsUnset left paired⟩

/-- An unset group with a small mark and with the greatest one, in a run that also fails and is aborted. -/
theorem marks_invisible_scripted :
    let code : ScriptedCode :=
      { groups := 2
        runs := [.matched [some 0, some 3, none, none, some 3, some 3] none, .depthLimitExceeded,
          .failed 3] }
    let scenario : Scenario := { patterns := [("a", .ok code)] }
    let E := scenario.engine 7
    let A := scenario.engine 0xFFFFFFFFFFFFFFFF
    let subject : ByteArray := ⟨#[97, 98, 99]⟩
    let ops : List Operation := [.find subject 0, .prepare "a" .empty, .capturesBytes subject 0,
      .isMatch subject 0, .findBytes subject 0, .captures subject 1, .sweep subject, .clear]
    let b := built E {} 5 () {} [] []
    let a := built A {} 5 () {} [] []
    (scenario.likeness 7 0xFFFFFFFFFFFFFFFF).Marked (fun subject => subject.size = 3) ∧
      (∀ o ∈ ops, ∀ subject, o.subject? = some subject → subject.size = 3) ∧
      (a.sights ops = b.sights ops ∧ (a.after ops).log = (b.after ops).log) ∧
      (b.after ops).spans = [⟨0, 3, by decide⟩, .unset, ⟨3, 0, by decide⟩] := by
  intro code scenario E A subject ops b a
  have hL : (scenario.likeness 7 0xFFFFFFFFFFFFFFFF).Marked (fun subject => subject.size = 3) := by
    apply Scenario.marked (by decide) (by decide)
    intro pattern c hl
    simp only [scenario, List.lookup_cons, List.lookup_nil] at hl
    split at hl
    · cases hl
      decide
    · cases hl
  have hops : ∀ o ∈ ops, ∀ subject, o.subject? = some subject → subject.size = 3 := by
    intro o ho
    simp only [ops, List.mem_cons, List.not_mem_nil, or_false] at ho
    rcases ho with rfl | rfl | rfl | rfl | rfl | rfl | rfl | rfl <;> rintro _ ⟨⟩ <;> rfl
  have same := (marks_invisible _ hL {} 5 () () trivial {} [] [] hops).1
  exact ⟨hL, hops, same, by decide +kernel⟩

end Bench

end BoundedRegex
