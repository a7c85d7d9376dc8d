import BoundedRegex.Engine.Library
import BoundedRegex.Engine.OptionWord
import BoundedRegex.Proofs.GroupNumbers
import BoundedRegex.Proofs.Lockstep
import BoundedRegex.Proofs.Reading

/-!
# What the flags of a pattern amount to

The word that tells flags to a library has a bit set for each named flag of the set, and for characters
also if the set asks for character properties. Wherever the six bits lie, nothing is lost and nothing else
gets in: the word of two sets is the same exactly if these sets agree on the named flags in that sense, and
the word of a union is the union of the words.

A matcher keeps the flags that it has been given, but does not look at them. So two sets with the same word
make no difference to anything but what the matcher says about its flags, and this it says of the very bits
that it has been given.
-/
namespace BoundedRegex
open Memory

/-! ## Flags one by one -/

namespace Flags

theorem has_union (f g : Flags) (x : Flag) : (f.union g).has x = (f.has x || g.has x) := by
  simp only [has, contains, union]
  rw [UInt32.and_comm, and_or_distrib, UInt32.and_comm x.bit f.bits, UInt32.and_comm x.bit g.bits]
  have set : (x.bit == x.bit) = true := beq_self_eq_true x.bit
  have unset : (0 == x.bit) = false := by cases x <;> rfl
  rcases and_bit f.bits x with hf | hf <;> rcases and_bit g.bits x with hg | hg <;> rw [hf, hg]
  · rw [UInt32.or_zero, unset, Bool.or_false]
  · rw [UInt32.zero_or, unset, set, Bool.false_or]
  · rw [UInt32.or_zero, unset, set, Bool.or_false]
  · rw [UInt32.or_self, set, Bool.or_true]

theorem has_bit (x y : Flag) : (⟨x.bit⟩ : Flags).has y = decide (x = y) := by
  cases x <;> cases y <;> rfl

/-- A set with characters added if it asks for character properties. -/
def completed (f : Flags) : Flags := if f.has .ucp then f.union ⟨Flag.utf8.bit⟩ else f

theorem has_completed (f : Flags) (x : Flag) :
    f.completed.has x = (f.has x || (f.has .ucp && decide (.utf8 = x))) := by
  rw [completed]
  split
  · next h => rw [has_union, has_bit, h, Bool.true_and]
  · next h => rw [Bool.eq_false_iff.mpr h, Bool.false_and, Bool.or_false]

/-- Adding its flags one by one comes to the named ones of a set. -/
theorem foldl_union (f : Flags) :
    Flag.all.foldl (fun g x => if f.has x then g.union ⟨x.bit⟩ else g) empty = truncate f.bits := by
  rw [truncate, ← foldl_named, flags, List.foldl_map, List.foldl_filter,
    ← List.foldl_hom Flags.mk]
  · rfl
  · intro n x
    split
    · rfl
    · rfl

theorem effective_eq (f : Flags) : effective f = truncate f.completed.bits := by
  simp only [effective, completed]
  split
  · simp only [truncate, union]
    rw [UInt32.and_comm (f.bits ||| Flag.utf8.bit), and_or_distrib, UInt32.and_comm known f.bits]
    rfl
  · rfl

end Flags

/-! ## The bits of a word -/

namespace OptionPlaces

variable (o : OptionPlaces)

/-- Whether a word has a bit in a place. -/
def isSet (w : UInt32) (i : Nat) : Bool := w.toBitVec.getLsbD i

theorem isSet_bit (x : Flag) (i : Nat) : isSet (o.bit x) i = decide ((o.place x).val = i) := by
  rw [isSet, bit]
  show (BitVec.twoPow 32 (o.place x)).getLsbD i = _
  rw [BitVec.getLsbD_twoPow, decide_eq_true (o.place x).isLt, Bool.true_and]

theorem isSet_zero (i : Nat) : isSet 0 i = false := BitVec.getLsbD_zero

theorem bit_ne_zero (x : Flag) : o.bit x ≠ 0 := by
  intro h
  have set := o.isSet_bit x (o.place x)
  rw [h, isSet_zero, decide_eq_true rfl] at set
  cases set

theorem and_bit (w : UInt32) (x : Flag) :
    w &&& o.bit x = if isSet w (o.place x) then o.bit x else 0 := by
  rw [← UInt32.toBitVec_inj, UInt32.toBitVec_and]
  refine (BitVec.and_twoPow w.toBitVec (o.place x)).trans ?_
  rw [apply_ite UInt32.toBitVec]
  rfl

theorem isSet_or (v w : UInt32) (i : Nat) : isSet (v ||| w) i = (isSet v i || isSet w i) := by
  rw [isSet, UInt32.toBitVec_or, BitVec.getLsbD_or]
  rfl

theorem ext {v w : UInt32} (h : ∀ i, isSet v i = isSet w i) : v = w :=
  UInt32.toBitVec_inj.mp (BitVec.eq_of_getLsbD_eq fun i _ => h i)

theorem isSet_foldl (p : Flag → Bool) (t : Flag → UInt32) (xs : List Flag) (w : UInt32) (i : Nat) :
    isSet (xs.foldl (fun w x => if p x then w ||| t x else w) w) i =
      (isSet w i || xs.any fun x => p x && isSet (t x) i) := by
  induction xs generalizing w with
  | nil => exact (Bool.or_false _).symm
  | cons x rest ih =>
    rw [List.foldl_cons, ih, List.any_cons]
    cases p x with
    | true => rw [if_pos rfl, isSet_or, Bool.true_and, Bool.or_assoc]
    | false => rw [if_neg Bool.false_ne_true, Bool.false_and, Bool.false_or]

/-- The bits of a word are those of the flags in the completed set, each in its place. -/
theorem isSet_options (f : Flags) (i : Nat) :
    isSet (o.options f) i = Flag.all.any fun x => f.completed.has x && decide ((o.place x).val = i) := by
  rw [options, isSet_foldl]
  simp only [Flag.all, List.any_cons, List.any_nil, told, isSet_zero, isSet_or, isSet_bit,
    Flags.has_completed]
  cases f.has .ucp <;> cases f.has .utf8 <;> simp [Bool.or_assoc, Bool.or_comm, Bool.or_left_comm]

/-- A word has the bit of a flag exactly if the completed set has the flag. -/
theorem isSet_options_place (f : Flags) (x : Flag) : isSet (o.options f) (o.place x) = f.completed.has x := by
  have all : ∀ y : Flag, y ∈ Flag.all := by intro y; cases y <;> decide
  rw [isSet_options, Bool.eq_iff_iff, List.any_eq_true]
  constructor
  · rintro ⟨y, -, hy⟩
    rw [Bool.and_eq_true, decide_eq_true_eq] at hy
    rw [← o.distinct (Fin.ext hy.2)]
    exact hy.1
  · intro hx
    exact ⟨x, all x, by rw [hx, decide_eq_true rfl, Bool.and_true]⟩

theorem options_eq_iff (f g : Flags) :
    o.options f = o.options g ↔ ∀ x, f.completed.has x = g.completed.has x := by
  constructor
  · intro h x
    rw [← o.isSet_options_place, h, o.isSet_options_place]
  · intro h
    apply ext
    intro i
    simp only [isSet_options, h]

theorem options_union (f g : Flags) : o.options (f.union g) = o.options f ||| o.options g := by
  apply ext
  intro i
  rw [isSet_or, isSet_options, isSet_options, isSet_options, Bool.eq_iff_iff]
  simp only [Flags.has_completed, Flags.has_union, List.any_eq_true, Bool.or_eq_true, Bool.and_eq_true]
  grind

/-- The flags that a library reads off its word are those that it is told. -/
theorem flagsOf_options (f : Flags) : o.flagsOf (o.options f) = effective f := by
  have reads (x : Flag) : (o.options f &&& o.bit x != 0) = f.completed.has x := by
    rw [and_bit, isSet_options_place]
    cases f.completed.has x with
    | true => rw [if_pos rfl, bne_iff_ne.mpr (o.bit_ne_zero x)]
    | false => rfl
  rw [flagsOf, Flags.effective_eq, ← Flags.foldl_union]
  simp only [reads]

end OptionPlaces

/-! ## Flags that are kept and not looked at -/

/-- Whether the reply to an operation may tell flags. -/
def Operation.tellsFlags : Operation → Bool
  | .inspect => true
  | .describe _ => true
  | _ => false

variable {σ α : Type} {E : Engine σ}

namespace Bench

/-- Logs of one level that go on in the same way after some records. -/
structure Continued (before before' : List Record) (l k : Log) : Prop where
  level : k.level = l.level
  later : ∃ later, l.records = before ++ later ∧ k.records = before' ++ later

/-- Benches that differ in nothing but the flags of their matchers and in the first records of their
logs. -/
structure Reflagged (before before' : List Record) (b a : Bench E) : Prop where
  prepared : Option.Rel (fun p q => ∃ flags, q = { p with flags := flags }) b.matcher.prepared
    a.matcher.prepared
  depthLimit : a.matcher.depthLimit = b.matcher.depthLimit
  spans : a.spans = b.spans
  views : a.views = b.views
  state : a.state = b.state
  logs : Continued before before' b.log a.log

variable {before before' : List Record} {b a : Bench E}

theorem Continued.add {l k : Log} (h : Continued before before' l k) (e : Event) :
    Continued before before' (l.add e) (k.add e) := by
  obtain ⟨later, hl, hk⟩ := h.later
  rw [Log.add, Log.add, h.level]
  split
  · refine ⟨rfl, later ++ [e.record], ?_, ?_⟩
    · rw [hl, List.append_assoc]
    · rw [hk, List.append_assoc]
  · exact h

namespace Reflagged

theorem withState (h : Reflagged before before' b a) (s : σ) :
    Reflagged before before' { b with state := s } { a with state := s } :=
  { h with state := rfl }

theorem withPrepared (h : Reflagged before before' b a) {p q : Option (Prepared E)}
    (hpq : Option.Rel (fun p q => ∃ flags, q = { p with flags := flags }) p q) :
    Reflagged before before' { b with matcher := { b.matcher with prepared := p } }
      { a with matcher := { a.matcher with prepared := q } } :=
  { h with prepared := hpq }

theorem withLog (h : Reflagged before before' b a) {l k : Log} (hlk : Continued before before' l k) :
    Reflagged before before' { b with log := l } { a with log := k } :=
  { h with logs := hlk }

theorem cleared (h : Reflagged before before' b a) : Reflagged before before' b.cleared a.cleared := by
  have prepared := h.prepared
  rw [Bench.cleared, Bench.cleared]
  cases hb : b.matcher.prepared <;> cases ha : a.matcher.prepared <;> rw [hb, ha] at prepared <;>
    cases prepared
  case none.none => exact h
  case some.some p q same =>
    obtain ⟨flags, rfl⟩ := same
    rw [h.state]
    exact (h.withPrepared .none).withState _

end Reflagged

theorem vectored_reflagged :
    Vectored (Reflagged before before' : Bench E → Bench E → Prop) where
  spans _ _ h := h.spans
  views _ _ h := h.views
  vectors _ _ _ _ h := { h with spans := rfl, views := rfl }

/-- Work on benches that differ in flags only comes to the same, and to such benches. -/
abbrev Unflagged (before before' : List Record) (w : Work E α) : Prop :=
  InStep (fun _ => False) (Reflagged before before') w w

theorem InStep.of_meets {w : Work E α}
    (h : ∀ b a, Reflagged before before' b a →
      (w.run a).1 = (w.run b).1 ∧ Reflagged before before' (w.run b).2 (w.run a).2) :
    Unflagged before before' w where
  keeps _ hb := hb
  meets b a hba := .inr (h b a hba)

theorem unflagged_clear : Unflagged before before' (clear : Work E Unit) := by
  apply InStep.of_meets
  intro b a h
  rw [run_clear, run_clear]
  exact ⟨rfl, h.cleared⟩

theorem unflagged_prepare (pattern : String) (flags : Flags) :
    Unflagged before before' (prepare pattern flags : Work E _) := by
  apply InStep.of_meets
  intro b a h
  replace h := h.cleared
  rw [run_prepare, run_prepare, h.state]
  generalize b.cleared = b at h ⊢
  generalize a.cleared = a at h ⊢
  rcases E.compile pattern flags b.state with ⟨failure | code, s⟩
  · exact ⟨rfl, (h.withState (E.message failure.code s).2).withLog (h.logs.add _)⟩
  · dsimp only
    rcases E.makeBuffer code s with ⟨_ | buffer, s⟩
    · exact ⟨rfl, (h.withState (E.releaseCode code s)).withLog (h.logs.add _)⟩
    · exact ⟨rfl, ((h.withPrepared (.some ⟨flags, rfl⟩)).withState s).withLog (h.logs.add _)⟩

theorem unflagged_ask (f : σ → α × σ) : Unflagged before before' (ask f : Work E α) := by
  apply InStep.of_meets
  intro b a h
  rw [run_ask, run_ask, h.state]
  exact ⟨rfl, h.withState _⟩

/-- What is asked about a pattern goes by other things than its flags. -/
theorem unflagged_prepared {f : Prepared E → Work E α} (blind : ∀ p flags, f { p with flags := flags } = f p)
    (hf : ∀ p, Unflagged before before' (f p)) : Unflagged before before' (prepared >>= f) := by
  apply InStep.of_meets
  intro b a h
  have prepared := h.prepared
  rw [run_bind, run_bind, run_prepared, run_prepared]
  cases hb : b.matcher.prepared <;> cases ha : a.matcher.prepared <;> rw [hb, ha] at prepared <;>
    cases prepared
  case none.none => exact ⟨rfl, h⟩
  case some.some p q same =>
    obtain ⟨flags, rfl⟩ := same
    dsimp only
    rw [blind p flags]
    exact ((hf p).meets b a h).resolve_left id

theorem unflagged_groupCount : Unflagged before before' (groupCount : Work E Nat) :=
  unflagged_prepared (fun _ _ => rfl) fun p => unflagged_ask (E.groupCount p.code)

theorem unflagged_groupNumber? (name : String) :
    Unflagged before before' (groupNumber? name : Work E _) := by
  apply unflagged_prepared
  case blind => exact fun _ _ => rfl
  intro p
  apply (unflagged_ask _).bind
  rintro (_ | n)
  · exact .pure none
  · by_cases hn : n = 0
    · simp only [if_pos hn]
      exact .pure none
    · simp only [if_neg hn]
      apply (unflagged_ask _).bind
      intro count
      split
      · exact .pure (some n)
      · exact .pure none

theorem unflagged_search (subject : ByteArray) (start : Nat) :
    Unflagged before before' (search subject start : Work E _) := by
  apply InStep.of_meets
  intro b a h
  have prepared := h.prepared
  rw [run_search, run_search, h.logs.level, h.depthLimit, h.state]
  by_cases hs : subject.size < start
  · rw [if_pos hs, if_pos hs]
    exact ⟨rfl, h⟩
  rw [if_neg hs, if_neg hs]
  cases hb : b.matcher.prepared <;> cases ha : a.matcher.prepared <;> rw [hb, ha] at prepared <;>
    cases prepared
  case none.none => exact ⟨rfl, h⟩
  case some.some p q same =>
  obtain ⟨flags, rfl⟩ := same
  dsimp only
  have searched (buffer : E.Buffer) (s : σ) :
      Reflagged before before' (b.searched p buffer s) (a.searched { p with flags := flags } buffer s) :=
    (h.withPrepared (.some ⟨flags, rfl⟩)).withState s
  rcases E.execute p.code subject start b.matcher.depthLimit p.buffer b.state with
    ⟨_ | _ | _ | code, buffer, s⟩
  · exact ⟨rfl, ((searched buffer s).withState (E.output buffer s).2).withLog (h.logs.add _)⟩
  · exact ⟨rfl, searched buffer s⟩
  · exact ⟨rfl, (searched buffer s).withLog (h.logs.add _)⟩
  · by_cases hl : b.log.level.reports false
    · simp only [if_pos hl, true_and]
      exact ((searched buffer s).withState _).withLog (h.logs.add _)
    · simp only [if_neg hl, true_and]
      exact searched buffer s

/-- Every operation whose reply tells no flags. -/
theorem unflagged_perform {o : Operation} (ho : o.tellsFlags = false) :
    Unflagged before before' (perform o : Work E Reply) := by
  cases hs : o.subject? with
  | some subject =>
    have alike (start : Nat) : InStepBy (Outcome.Rel Groups.Alike) (fun _ => False)
        (Reflagged before before' : Bench E → Bench E → Prop) (search subject start)
        (search subject start) :=
      .of_inStep (unflagged_search subject start) (Outcome.Rel.refl Groups.Alike.refl)
    exact vectored_reflagged.perform_search alike hs
  | none =>
    cases o with
    | prepare pattern flags => exact (unflagged_prepare pattern flags).reply _
    | clear => exact unflagged_clear.reply _
    | groupCount => exact unflagged_groupCount.reply _
    | groupNumber name => exact (unflagged_groupNumber? name).reply _
    | seed spans views => exact (vectored_reflagged.seed spans views).reply _
    | inspect => cases ho
    | describe spreadOut => cases ho
    | _ => cases hs

theorem reflagged_perform (h : Reflagged before before' b a) (o : Operation) :
    Reflagged before before' ((perform o : Work E Reply).run b).2 ((perform o : Work E Reply).run a).2 := by
  cases ho : o.tellsFlags with
  | false => exact (((unflagged_perform ho).meets b a h).resolve_left id).2
  | true => cases o <;> first | exact h | cases ho

theorem reflagged_after (h : Reflagged before before' b a) (ops : List Operation) :
    Reflagged before before' (b.after ops) (a.after ops) := by
  induction ops generalizing b a with
  | nil => exact h
  | cons o rest ih => exact ih (reflagged_perform h o)

/-! ## Flags that come to the same -/

/-- What a matcher says about its pattern, its flags and its limit. -/
structure Tells (pattern : String) (flags : Flags) (limit : UInt32) (b : Bench E) : Prop where
  inspected : b.reply .inspect = .ok (.inspected true pattern flags limit)
  described : ∀ spreadOut, b.reply (.describe spreadOut) =
    .ok (.text ((Text.Shown.record "Matcher"
      [("pattern", .text pattern), ("flags", flags.shown), ("prepared", .truth true),
       ("depth_limit", .number limit.toNat)]).render spreadOut))

theorem Carries.tells {p : Prepared E} (h : b.Carries p) :
    b.Tells p.pattern p.flags b.matcher.depthLimit := by
  obtain ⟨buffer, hp⟩ := h
  constructor
  · simp only [reply, perform, run_bind, run_get, run_pure, Matcher.pattern, Matcher.flags, hp]
    rfl
  · intro spreadOut
    simp only [reply, perform, run_bind, run_get, run_pure, Matcher.shown, Matcher.pattern,
      Matcher.flags, hp]
    rfl

/-- Preparing a pattern with one set of flags comes to the same as with another one, but for what is told
about the flags themselves. -/
structure Interchangeable (pattern : String) (f g : Flags) (b : Bench E) : Prop where
  prepared : b.reply (.prepare pattern g) = b.reply (.prepare pattern f)
  /-- What is replied later does not depend on it, unless it tells flags. -/
  replies : ∀ ops o, o.tellsFlags = false →
    (b.after (.prepare pattern g :: ops)).reply o = (b.after (.prepare pattern f :: ops)).reply o
  /-- As long as the pattern is kept, the flags that are told are those that have been given. -/
  tells : b.reply (.prepare pattern f) = .ok (.prepared (.ok ())) →
    ∀ ops, (∀ o ∈ ops, o.replaces = false) →
      Tells pattern f b.matcher.depthLimit (b.after (.prepare pattern f :: ops)) ∧
        Tells pattern g b.matcher.depthLimit (b.after (.prepare pattern g :: ops))
  /-- The logs report the flags that have been given, and then the same. -/
  logs : b.reply (.prepare pattern f) = .ok (.prepared (.ok ())) → ∀ ops,
    Continued (b.log.add (.prepared pattern f)).records (b.log.add (.prepared pattern g)).records
      (b.after (.prepare pattern f :: ops)).log (b.after (.prepare pattern g :: ops)).log
  /-- If the pattern is refused, nothing at all depends on it. -/
  refused : ∀ e, b.reply (.prepare pattern f) = .ok (.prepared (.error e)) →
    b.after [.prepare pattern g] = b.after [.prepare pattern f]

theorem reply_prepare (pattern : String) (flags : Flags) (b : Bench E) :
    b.reply (.prepare pattern flags) =
      ((Bench.prepare pattern flags : Work E _).run b).1.map .prepared :=
  congrArg Prod.fst (run_reply (Bench.prepare pattern flags) Reply.prepared b)

theorem after_prepare (pattern : String) (flags : Flags) (b : Bench E) :
    b.after [.prepare pattern flags] = ((Bench.prepare pattern flags : Work E _).run b).2 :=
  congrArg Prod.snd (run_reply (Bench.prepare pattern flags) Reply.prepared b)

theorem after_depthLimit (b : Bench E) (ops : List Operation) :
    (b.after ops).matcher.depthLimit = b.matcher.depthLimit := by
  have kept : Kept fun a : Bench E => a.matcher.depthLimit = b.matcher.depthLimit :=
    kept_of_parts (fun _ _ h => h) (fun _ _ h => h) (fun _ _ h => h) fun _ _ _ h => h
  exact kept.after rfl ops

/-- If the engine compiles a pattern alike for two sets of flags, preparing it with them leaves benches that
differ in flags only, if it leaves a pattern at all. -/
theorem prepare_alike {pattern : String} {f g : Flags} (h : E.compile pattern g = E.compile pattern f)
    (b : Bench E) :
    (∃ e, ((prepare pattern f : Work E _).run b).1 = .ok (.error e) ∧
      (prepare pattern g : Work E _).run b = (prepare pattern f : Work E _).run b) ∨
    (∃ p : Prepared E, p.pattern = pattern ∧ p.flags = f ∧
      ((prepare pattern f : Work E _).run b).1 = .ok (.ok ()) ∧
      ((prepare pattern g : Work E _).run b).1 = .ok (.ok ()) ∧
      ((prepare pattern f : Work E _).run b).2.matcher.prepared = some p ∧
      ((prepare pattern g : Work E _).run b).2.matcher.prepared = some { p with flags := g } ∧
      Reflagged (b.log.add (.prepared pattern f)).records (b.log.add (.prepared pattern g)).records
        ((prepare pattern f : Work E _).run b).2 ((prepare pattern g : Work E _).run b).2) := by
  rw [run_prepare, run_prepare, h]
  rcases E.compile pattern f b.cleared.state with ⟨failure | code, s⟩
  · exact .inl ⟨_, rfl, rfl⟩
  · dsimp only
    rcases E.makeBuffer code s with ⟨_ | buffer, s⟩
    · exact .inl ⟨_, rfl, rfl⟩
    · refine .inr ⟨⟨pattern, f, code, buffer⟩, rfl, rfl, rfl, rfl, rfl, rfl, ?_⟩
      rw [cleared_log]
      have level (e : Event) : (b.log.add e).level = b.log.level := by
        rw [Log.add]
        split <;> rfl
      exact ⟨.some ⟨g, rfl⟩, rfl, rfl, rfl, rfl, (level _).trans (level _).symm, [],
        (List.append_nil _).symm, (List.append_nil _).symm⟩

theorem interchangeable {pattern : String} {f g : Flags} (h : E.compile pattern g = E.compile pattern f)
    (b : Bench E) : b.Interchangeable pattern f g := by
  have later (flags : Flags) (ops : List Operation) : b.after (.prepare pattern flags :: ops) =
      ((prepare pattern flags : Work E _).run b).2.after ops := by
    rw [← after_prepare]
    rfl
  rcases prepare_alike h b with ⟨e, refused, same⟩ |
    ⟨p, rfl, rfl, accepted, accepted', prepared, prepared', alike⟩
  · have never : b.reply (.prepare pattern f) ≠ .ok (.prepared (.ok ())) := by
      rw [reply_prepare, refused]
      intro accepted
      cases accepted
    have result : b.reply (.prepare pattern g) = b.reply (.prepare pattern f) := by
      rw [reply_prepare, reply_prepare, same]
    have after (ops : List Operation) :
        b.after (.prepare pattern g :: ops) = b.after (.prepare pattern f :: ops) := by
      rw [later, later, same]
    exact {
      prepared := result
      replies := fun ops o _ => by rw [after ops]
      tells := fun accepted => absurd accepted never
      logs := fun accepted => absurd accepted never
      refused := fun _ _ => after [] }
  · have reply : b.reply (.prepare p.pattern p.flags) = .ok (.prepared (.ok ())) := by
      rw [reply_prepare, accepted]
      rfl
    constructor
    case prepared =>
      rw [reply, reply_prepare, accepted']
      rfl
    case replies =>
      intro ops o ho
      rw [later, later]
      exact (((unflagged_perform ho).meets _ _ (reflagged_after alike ops)).resolve_left id).1
    case tells =>
      intro _ ops hops
      have told := (carries_after ⟨p.buffer, prepared⟩ hops).tells
      have told' := (carries_after (p := { p with flags := g }) ⟨p.buffer, prepared'⟩ hops).tells
      rw [← later, after_depthLimit] at told told'
      exact ⟨told, told'⟩
    case logs =>
      intro _ ops
      rw [later, later]
      exact (reflagged_after alike ops).logs
    case refused =>
      intro e refused
      rw [reply] at refused
      cases refused

end Bench

/-! ## Flags told to a library -/

variable (o : OptionPlaces)

/-- The word that tells flags to a library holds the six named flags as they are, with characters added if
character properties are asked for, and nothing else. Sets of the same word are interchangeable. -/
theorem Flags.options_faithful (f g : Flags) :
    (o.options f = o.options g ↔ ∀ x, f.completed.has x = g.completed.has x) ∧
      o.options (f.union g) = o.options f ||| o.options g ∧
      ∀ (σ : Type) (L : Library) (S : Source σ) (pattern : String),
        (∀ s, (L.engine S).compile pattern f s =
          (L.compile pattern (o.flagsOf (o.options f))).run S s) ∧
        (o.options f = o.options g → ∀ b : Bench (L.engine S), b.Interchangeable pattern f g) := by
  refine ⟨o.options_eq_iff f g, o.options_union f g, ?_⟩
  intro σ L S pattern
  have compiled (f : Flags) : (L.engine S).compile pattern f =
      (L.compile pattern (o.flagsOf (o.options f))).run S := by
    rw [o.flagsOf_options]
    rfl
  refine ⟨fun s => congrFun (compiled f) s, ?_⟩
  intro same b
  apply Bench.interchangeable
  rw [compiled, compiled, same]

/-- Who asks for character properties may ask for characters as well, and for bits without a name. -/
example : Backtracking.optionPlaces.options ⟨0x20⟩ = Backtracking.optionPlaces.options ⟨0x64⟩ := by decide

end BoundedRegex
