import BoundedRegex.Proofs.Oblivious
import BoundedRegex.Proofs.Workshop

/-!
# Matchers that do not notice each other

The matchers of a workshop share a state, a log and the default limit. What is seen of one of them are its
replies, what is reported while it works, what it says of itself, and the vectors of its caller.

An engine is on its own if it does what another engine does whose state no one else changes. It may take
memory from the shared state, as long as no request is refused. Then what is seen of its matcher is what
would be seen if only its own operations were carried out.
-/
namespace BoundedRegex
open Memory

variable {ι σ τ : Type}

/-! ## Sights -/

/-- What is seen of a matcher when it is asked for something. -/
structure Sight where
  reply : Except Abort Reply
  /-- What has been reported meanwhile. -/
  records : List Record
  inspected : Option Reply
  spans : Option (List Span)
  views : Option (List ByteArray)

/-- What is seen where there is no matcher. -/
def Sight.absent : Sight := ⟨.error .noMatcher, [], none, none, none⟩

/-- What is asked of the matcher of a name, if anything. -/
def Order.operation? (name : String) : Order ι → Option Operation
  | .perform other operation => if other = name then some operation else none
  | _ => none

theorem Order.eq_perform {name : String} {order : Order ι} {o : Operation}
    (h : order.operation? name = some o) : order = .perform name o := by
  cases order with
  | perform other operation =>
    rw [operation?] at h
    split at h
    · next heq =>
      cases h
      rw [heq]
    · cases h
  | _ => cases h

namespace Workshop

variable {M : ι → Maker σ}

def sight (w : Workshop M) (name : String) (o : Operation) : Sight :=
  let (reply, after) := w.answer (.perform name o)
  let slot := after.slot? name
  { reply := reply, records := after.log.records.drop w.log.records.length
    inspected := slot.map (·.client.matcher.inspected)
    spans := slot.map (·.client.spans), views := slot.map (·.client.views) }

/-- What is seen of the matcher of a name while orders are carried out, one after another. -/
def sights (name : String) : List (Order ι) → Workshop M → List Sight
  | [], _ => []
  | order :: rest, w =>
    let seen := (order.operation? name).map (w.sight name)
    seen.toList ++ sights name rest (w.answer order).2

end Workshop

namespace Bench

variable {E : Engine σ}

/-- What is seen of a matcher on a bench of its own. -/
def sight (b : Bench E) (o : Operation) : Sight :=
  let (reply, after) := (perform o : Work E Reply).run b
  { reply := reply, records := after.log.records.drop b.log.records.length
    inspected := some after.matcher.inspected, spans := some after.spans, views := some after.views }

def sights : List Operation → Bench E → List Sight
  | [], _ => []
  | o :: rest, b => b.sight o :: sights rest ((perform o : Work E Reply).run b).2

end Bench

/-! ## What an order leaves -/

namespace Workshop

variable {M : ι → Maker σ} {w : Workshop M} {name : String} {order : Order ι}

/-- An order that is meant for others leaves a matcher as it is. -/
theorem answer_untouched (hr : order.replaces name = false) (ho : order.operation? name = none) :
    (w.answer order).2.slot? name = w.slot? name := by
  cases order with
  | getDefault => rfl
  | setDefault limit => rfl
  | builder other limits spreadOut => rfl
  | cloneBuilder other target => rfl
  | build other kind builder limit =>
    have hne : name ≠ other := (beq_eq_false_iff_ne.mp hr).symm
    rw [answer_build]
    rcases hm : (M kind).make (w.drop other).state with ⟨a | own, s⟩
    · rw [build_error hm]
      exact slot?_drop w hne
    · rw [build_ok hm]
      exact (slot?_put_ne _ hne _).trans (slot?_drop w hne)
  | drop other =>
    have hne : name ≠ other := (beq_eq_false_iff_ne.mp hr).symm
    exact slot?_drop w hne
  | perform other operation =>
    have hne : name ≠ other := by
      rintro rfl
      rw [Order.operation?, if_pos rfl] at ho
      cases ho
    simp only [answer]
    cases w.slot? other with
    | none => rfl
    | some slot => exact slot?_put_ne _ hne _

@[simp] theorem drop_log (w : Workshop M) (name : String) : (w.drop name).log = w.log := by
  cases h : w.slot? name with
  | none => rw [drop_none h]
  | some slot =>
    rw [drop_some h, discard_eq]
    rfl

theorem build_log (w : Workshop M) (name : String) (kind : ι) (b : MatcherBuilder) :
    (w.build name kind b).2.log = w.log := by
  rcases hm : (M kind).make w.state with ⟨a | own, s⟩
  · rw [build_error hm]
  · rw [build_ok hm]
    rfl

theorem answer_level (w : Workshop M) (order : Order ι) :
    (w.answer order).2.log.level = w.log.level := by
  cases order with
  | getDefault => rfl
  | setDefault limit => rfl
  | builder other limits spreadOut => rfl
  | cloneBuilder other target => rfl
  | build other kind builder limit => rw [answer_build, build_log, drop_log]
  | drop other => rw [answer, drop_log]
  | perform other operation =>
    simp only [answer]
    cases w.slot? other with
    | none => rfl
    | some slot => exact (Bench.level_kept w.log.level).perform operation (w.bench slot) rfl

end Workshop

/-- The name of the matcher that an order is about. -/
def Order.target? : Order ι → Option String
  | .build name _ _ _ => some name
  | .drop name => some name
  | .perform name _ => some name
  | _ => none

theorem Order.target?_ne {name : String} {order : Order ι} (hr : order.replaces name = false)
    (ho : order.operation? name = none) : order.target? ≠ some name := by
  cases order with
  | build other kind builder limit =>
    rintro ⟨⟩
    rw [replaces, beq_self_eq_true] at hr
    cases hr
  | drop other =>
    rintro ⟨⟩
    rw [replaces, beq_self_eq_true] at hr
    cases hr
  | perform other operation =>
    rintro ⟨⟩
    rw [operation?, if_pos rfl] at ho
    cases ho
  | _ => exact nofun

/-- The kind of the engine that an order makes. -/
def Order.kind? : Order ι → Option ι
  | .build _ kind _ _ => some kind
  | _ => none

namespace Workshop

variable {M : ι → Maker σ} {w : Workshop M} {name : String} {order : Order ι} {I : σ → Prop}

theorem drop_persists (h : I w.state)
    (hs : ∀ slot, w.slot? name = some slot → (M slot.kind).Persists I) : I (w.drop name).state := by
  cases hn : w.slot? name with
  | none => rwa [drop_none hn]
  | some slot =>
    have cleared := (hs slot hn).kept.clear ((w.without name).bench slot) h
    rw [Bench.run_clear] at cleared
    rw [drop_some hn, discard_eq]
    exact (hs slot hn).unmake slot.own cleared

theorem build_persists (h : I w.state) (name : String) {kind : ι} (hk : (M kind).Persists I)
    (b : MatcherBuilder) : I (w.build name kind b).2.state := by
  have made := hk.make h
  rcases hm : (M kind).make w.state with ⟨a | own, s⟩ <;> rw [hm] at made
  · rw [build_error hm]
    exact made
  · rw [build_ok hm]
    exact made

/-- A property of the state outlives an order if the engines that take part do not end it. -/
theorem answer_persists (h : I w.state)
    (hs : ∀ target slot, order.target? = some target → w.slot? target = some slot →
      (M slot.kind).Persists I)
    (hk : ∀ kind, order.kind? = some kind → (M kind).Persists I) : I (w.answer order).2.state := by
  cases order with
  | getDefault => exact h
  | setDefault limit => exact h
  | builder other limits spreadOut => exact h
  | cloneBuilder other target => exact h
  | build other kind builder limit =>
    have dropped : I (w.drop other).state := drop_persists h fun slot => hs other slot rfl
    exact build_persists dropped other (hk kind rfl) _
  | drop other => exact drop_persists h fun slot => hs other slot rfl
  | perform other operation =>
    simp only [answer]
    cases hn : w.slot? other with
    | none => exact h
    | some slot => exact (hs other slot rfl hn).kept.perform operation (w.bench slot) h

theorem run_persists (hM : ∀ j, (M j).Persists I) (orders : List (Order ι)) (h : I w.state) :
    I (w.run orders).state := by
  induction orders generalizing w with
  | nil => exact h
  | cons order rest ih =>
    exact ih (answer_persists h (fun _ slot _ _ => hM slot.kind) fun kind _ => hM kind)

/-- The matchers after an order have the engines of those before, unless one has just been made. -/
theorem answer_kind {other : String} {slot : Slot M}
    (h : (w.answer order).2.slot? other = some slot) :
    (∃ before, w.slot? other = some before ∧ before.kind = slot.kind) ∨
      order.kind? = some slot.kind := by
  by_cases hother : order.replaces other = false ∧ order.operation? other = none
  · rw [answer_untouched hother.1 hother.2] at h
    exact .inl ⟨slot, h, rfl⟩
  cases order with
  | build target kind builder limit =>
    have same : target = other := by simpa [Order.replaces, Order.operation?] using hother
    subst same
    rw [answer_build] at h
    rcases hm : (M kind).make (w.drop target).state with ⟨_ | own, s⟩
    · rw [build_error hm] at h
      cases (slot?_drop_self w target).symm.trans h
    · rw [build_ok hm, slot?_put] at h
      cases h
      exact .inr rfl
  | drop target =>
    have same : target = other := by simpa [Order.replaces, Order.operation?] using hother
    subst same
    cases (slot?_drop_self w target).symm.trans h
  | perform target operation =>
    have same : target = other := by simpa [Order.replaces, Order.operation?] using hother
    subst same
    obtain ⟨before, hb, rfl, -⟩ := perform_slot h
    exact .inl ⟨before, hb, rfl⟩
  | _ => exact absurd ⟨rfl, rfl⟩ hother

end Workshop

/-! ## Engines on their own -/

section
variable {M : ι → Maker σ} {N : Maker σ} {A : Maker τ} {Spoilt : σ → Prop}
  (P : N.Projection A Spoilt)

/-- What is done with engines of another kind leaves the part of the state that is an engine's own. -/
def Maker.Projection.Apart (other : Maker σ) : Prop :=
  ∀ t, other.Persists fun s => Spoilt s ∨ P.state s = t

/-- An engine that needs no state of its own is apart from all others. -/
theorem Maker.Projection.apart_of_subsingleton [Subsingleton τ] (other : Maker σ) :
    P.Apart other := by
  intro t
  have all (s : σ) : Spoilt s ∨ P.state s = t := .inr (Subsingleton.elim _ _)
  constructor
  case toPersists => constructor <;> intros <;> exact all _
  case make => exact fun _ => all _
  case unmake => exact fun _ _ _ => all _

/-- The engines of all other matchers are apart. -/
def Workshop.Alone (name : String) (w : Workshop M) : Prop :=
  ∀ other slot, other ≠ name → w.slot? other = some slot → P.Apart (M slot.kind)

variable (M) in
/-- An order that makes no engine which is not apart, and replaces no matcher of that name. -/
structure Order.Elsewhere (name : String) (order : Order ι) : Prop where
  keeps : order.replaces name = false
  apart : ∀ kind, order.kind? = some kind → P.Apart (M kind)

namespace Workshop

variable {P} {w : Workshop M} {name : String} {order : Order ι}

theorem Alone.answer (h : w.Alone P name) (ho : order.Elsewhere M P name) :
    (w.answer order).2.Alone P name := by
  intro other slot hne hs
  rcases answer_kind hs with ⟨before, hb, hkind⟩ | made
  · rw [← hkind]
    exact h other before hne hb
  · exact ho.apart slot.kind made

theorem Alone.drop (h : w.Alone P name) : (w.drop name).Alone P name := by
  intro other slot hne hs
  rw [slot?_drop w hne] at hs
  exact h other slot hne hs

theorem Alone.build (h : w.Alone P name) (kind : ι) (b : MatcherBuilder) :
    (w.build name kind b).2.Alone P name := by
  intro other slot hne hs
  apply h other slot hne
  rcases hm : (M kind).make w.state with ⟨_ | own, s⟩
  · rwa [build_error hm] at hs
  · rw [build_ok hm] at hs
    exact (slot?_put_ne _ hne _).symm.trans hs

/-- The own part of the state outlives every order that is meant for others. -/
theorem answer_state (h : w.Alone P name) (ho : order.Elsewhere M P name)
    (hother : order.operation? name = none) :
    Spoilt (w.answer order).2.state ∨ P.state (w.answer order).2.state = P.state w.state := by
  refine answer_persists (I := fun s => Spoilt s ∨ P.state s = P.state w.state) (.inr rfl) ?_ ?_
  · intro target slot ht hs
    apply h target slot ?_ hs
    rintro rfl
    exact Order.target?_ne ho.keeps hother ht
  · intro kind hk
    exact ho.apart kind hk _

end Workshop

end

/-! ## Matchers in a workshop and on a bench -/

section
variable {M : ι → Maker σ} {k : ι} {A : Maker τ} {Spoilt : σ → Prop}
  {P : (M k).Projection A Spoilt}

namespace Workshop

variable {w : Workshop M} {name : String} {order : Order ι}

variable (P) in
/-- The matcher of a name is the one on a bench, but for what a projection takes away from its engine. -/
structure Follows (name : String) (w : Workshop M) (a : Bench A.engine) : Prop where
  slot : ∃ own client, w.slot? name = some ⟨k, own, client⟩ ∧ a.toClient = P.client client
  state : a.state = P.state w.state
  level : a.log.level = w.log.level

variable {a : Bench A.engine}

theorem Follows.other (h : Follows P name w a) (hw : w.Alone P name) (ho : order.Elsewhere M P name)
    (hother : order.operation? name = none) :
    Spoilt (w.answer order).2.state ∨ Follows P name (w.answer order).2 a := by
  rcases answer_state hw ho hother with spoilt | same
  · exact .inl spoilt
  · refine .inr ⟨?_, ?_, ?_⟩
    · rw [answer_untouched ho.keeps hother]
      exact h.slot
    · rw [same]
      exact h.state
    · rw [answer_level]
      exact h.level

theorem answer_perform {slot : Slot M} (hs : w.slot? name = some slot) (o : Operation) :
    w.answer (.perform name o) =
      (((Bench.perform o : Work _ Reply).run (w.bench slot)).1,
        put
          { w with
            state := ((Bench.perform o : Work _ Reply).run (w.bench slot)).2.state
            log := ((Bench.perform o : Work _ Reply).run (w.bench slot)).2.log }
          name
          { slot with client := ((Bench.perform o : Work _ Reply).run (w.bench slot)).2.toClient }) := by
  simp only [answer, hs, work_eq]

theorem Follows.perform (h : Follows P name w a) (o : Operation) :
    Spoilt (w.answer (.perform name o)).2.state ∨
      w.sight name o = a.sight o ∧
        Follows P name (w.answer (.perform name o)).2 ((Bench.perform o : Work _ Reply).run a).2 := by
  obtain ⟨own, client, hslot, hclient⟩ := h.slot
  have mirrors : P.Mirrors w.log.records a.log.records (w.bench ⟨k, own, client⟩) a :=
    ⟨hclient, h.state, h.level, [], (List.append_nil _).symm, (List.append_nil _).symm⟩
  -- What has been reported before is left out of both sights, so the logs need not agree on it.
  have tracked := (P.tracks_perform o).follows _ _ _ _ mirrors
  rw [sight, Bench.sight, answer_perform hslot]
  generalize (Bench.perform o : Work _ Reply).run (w.bench ⟨k, own, client⟩) = run at tracked ⊢
  generalize (Bench.perform o : Work _ Reply).run a = run' at tracked ⊢
  obtain ⟨reply, b⟩ := run
  obtain ⟨reply', a'⟩ := run'
  rcases tracked with spoilt | ⟨same, after⟩
  · exact .inl spoilt
  obtain rfl : reply' = reply := same.trans (congrFun Except.map_id reply)
  refine .inr ⟨?_, ⟨own, _, slot?_put _ _ _, after.client⟩, after.state, after.level⟩
  have records : a'.log.records.drop a.log.records.length =
      b.log.records.drop w.log.records.length := by
    obtain ⟨new, hb, ha⟩ := after.records
    rw [hb, ha, List.drop_left, List.drop_left]
  have inspected : a'.matcher.inspected = b.matcher.inspected := by
    rw [after.matcher, Engine.Projection.inspected_matcher]
  have spans : a'.spans = b.spans := congrArg Client.spans after.client
  have views : a'.views = b.views := congrArg Client.views after.client
  simp only [slot?_put, Option.map_some, records, inspected, spans, views]
  rfl

theorem run_cons (w : Workshop M) (order : Order ι) (rest : List (Order ι)) :
    w.run (order :: rest) = (w.answer order).2.run rest := rfl

/-- Over a whole run, the same is seen of a matcher in a workshop and of the one on a bench. -/
theorem Follows.run (h : Follows P name w a) (hM : ∀ j, (M j).Persists Spoilt) (hw : w.Alone P name)
    {orders : List (Order ι)} (ho : ∀ order ∈ orders, order.Elsewhere M P name)
    (hs : ¬Spoilt (w.run orders).state) :
    w.sights name orders = a.sights (orders.filterMap (Order.operation? name)) := by
  induction orders generalizing w a with
  | nil => rfl
  | cons order rest ih =>
    obtain ⟨hfirst, hrest⟩ := List.forall_mem_cons.mp ho
    rw [run_cons] at hs
    -- The run ends unspoilt, so every state on the way is.
    have unspoilt : ¬Spoilt (w.answer order).2.state := fun spoilt => hs (run_persists hM rest spoilt)
    cases hop : order.operation? name with
    | none =>
      have follows := (h.other hw hfirst hop).resolve_left unspoilt
      rw [sights, hop, List.filterMap_cons_none hop]
      exact ih follows (hw.answer hfirst) hrest hs
    | some o =>
      obtain rfl := Order.eq_perform hop
      obtain ⟨sight, follows⟩ := (h.perform o).resolve_left unspoilt
      rw [sights, hop, List.filterMap_cons_some hop, Bench.sights, ← sight]
      exact congrArg _ (ih follows (hw.answer hfirst) hrest hs)

/-- Of a matcher that does not exist, nothing is seen but that. -/
theorem sights_absent {orders : List (Order ι)} (ho : ∀ order ∈ orders, order.replaces name = false)
    (h : w.slot? name = none) :
    w.sights name orders = (orders.filterMap (Order.operation? name)).map fun _ => .absent := by
  induction orders generalizing w with
  | nil => rfl
  | cons order rest ih =>
    obtain ⟨hfirst, hrest⟩ := List.forall_mem_cons.mp ho
    cases hop : order.operation? name with
    | none =>
      rw [sights, hop, List.filterMap_cons_none hop]
      exact ih hrest ((answer_untouched hfirst hop).trans h)
    | some o =>
      obtain rfl := Order.eq_perform hop
      have answered : w.answer (.perform name o) = (.error .noMatcher, w) := by
        simp only [answer, h]
      have sight : w.sight name o = .absent := by
        simp only [Workshop.sight, answered, h, List.drop_length]
        rfl
      rw [sights, hop, List.filterMap_cons_some hop, List.map_cons, answered, Option.map_some, sight]
      exact congrArg _ (ih hrest h)

end Workshop

/-- What is seen of the building of a matcher that has all to itself, and of its operations afterwards. -/
def Maker.solo (A : Maker τ) (limit : UInt32) (level : Level) (t : τ) (ops : List Operation) :
    Except Abort Reply × List Sight :=
  match A.make t with
  | (.ok _, t) =>
    (.ok .done,
      Bench.sights ops
        ({ matcher := { depthLimit := limit }, state := t, log := { level := level } } :
          Bench A.engine))
  | (.error a, _) => (.error a, ops.map fun _ => .absent)

namespace Workshop

variable {w : Workshop M} {name : String}

/-- A matcher is built as it would be if it had all to itself. -/
theorem sights_built (hM : ∀ j, (M j).Persists Spoilt) (hw : w.Alone P name)
    (hfree : w.slot? name = none) {orders : List (Order ι)}
    (ho : ∀ order ∈ orders, order.Elsewhere M P name) (b : MatcherBuilder)
    (hs : ¬Spoilt ((w.build name k b).2.run orders).state) :
    ((w.build name k b).1, (w.build name k b).2.sights name orders) =
      A.solo (b.depthLimit.getD w.defaultLimit) w.log.level (P.state w.state)
        (orders.filterMap (Order.operation? name)) := by
  have unspoilt : ¬Spoilt (w.build name k b).2.state :=
    fun spoilt => hs (run_persists hM orders spoilt)
  have alone := hw.build k b
  have made := P.make w.state
  rcases hm : (M k).make w.state with ⟨a | own, s⟩ <;> rw [hm] at made
  · rw [build_error hm] at hs unspoilt alone ⊢
    rw [Maker.solo, made.resolve_left unspoilt]
    exact congrArg _ (sights_absent (fun order h => (ho order h).keeps) hfree)
  · rw [build_ok hm] at hs unspoilt alone ⊢
    rw [Maker.solo, made.resolve_left unspoilt]
    refine congrArg _ (Follows.run ?_ hM alone ho hs)
    exact ⟨⟨own, _, slot?_put _ _ _, rfl⟩, rfl, rfl⟩

theorem drop_defaultLimit (w : Workshop M) (name : String) :
    (w.drop name).defaultLimit = w.defaultLimit := by
  cases h : w.slot? name with
  | none => rw [drop_none h]
  | some slot =>
    rw [drop_some h, discard_eq]
    rfl

/-- A matcher in a workshop, from the order that builds it on, and one in another workshop for which only
the operations of the first are carried out. -/
structure Isolated (w v : Workshop M) (name : String) (first first' : Order ι)
    (orders : List (Order ι)) : Prop where
  built : (w.answer first).1 = (v.answer first').1
  /-- The same is seen of both, in replies, in what is reported, in what the matchers say of themselves,
  and in the vectors of their callers. -/
  sights : (w.answer first).2.sights name orders =
    (v.answer first').2.sights name
      ((orders.filterMap (Order.operation? name)).map (.perform name))
  /-- Whatever is done for others leaves the matcher as it is. -/
  untouched : ∀ u : Workshop M, ∀ order ∈ orders, order.operation? name = none →
    (u.answer order).2.slot? name = u.slot? name

theorem filterMap_perform (name : String) (ops : List Operation) :
    (ops.map fun o => (.perform name o : Order ι)).filterMap (Order.operation? name) = ops := by
  induction ops with
  | nil => rfl
  | cons o rest ih =>
    have asked : (Order.perform name o : Order ι).operation? name = some o := if_pos rfl
    rw [List.map_cons, List.filterMap_cons_some asked, ih]

/-- Matchers are isolated: whatever is ordered meanwhile, the same is seen of a matcher as if it had been
built with the same limit in an empty workshop, and only its own operations had been carried out. -/
theorem isolated (hM : ∀ j, (M j).Persists Spoilt) (P : (M k).Projection A Spoilt)
    {w : Workshop M} {name : String} (hw : w.Alone P name) {orders : List (Order ι)}
    (ho : ∀ order ∈ orders, order.Elsewhere M P name) {builder builder' : Option String}
    {limit limit' : Option UInt32} {s : σ} {log : Log} {standard : UInt32}
    {builders : List (String × MatcherBuilder)}
    (hstate : P.state s = P.state (w.drop name).state) (hlevel : log.level = w.log.level)
    (hlimit : ((opened s log standard builders : Workshop M).choice builder' limit').depthLimit.getD
        standard = (w.choice builder limit).depthLimit.getD w.defaultLimit)
    (hs : ¬Spoilt (w.run (.build name k builder limit :: orders)).state)
    (hs' : ¬Spoilt ((opened s log standard builders : Workshop M).run
      (.build name k builder' limit' ::
        (orders.filterMap (Order.operation? name)).map (.perform name))).state) :
    w.Isolated (opened s log standard builders) name (.build name k builder limit)
      (.build name k builder' limit') orders := by
  have elsewhere : ∀ order ∈ (orders.filterMap (Order.operation? name)).map (Order.perform name),
      order.Elsewhere M P name := by
    intro order hmem
    obtain ⟨o, -, rfl⟩ := List.mem_map.mp hmem
    exact ⟨rfl, nofun⟩
  have alone : (opened s log standard builders : Workshop M).Alone P name := by
    intro other slot _ hslot
    cases hslot
  -- Both matchers are compared with one that has all to itself.
  have shared := sights_built hM hw.drop (slot?_drop_self w name) ho (w.choice builder limit) hs
  have own := sights_built hM alone rfl elsewhere _ hs'
  rw [filterMap_perform] at own
  have solo : A.solo ((w.choice builder limit).depthLimit.getD (w.drop name).defaultLimit)
        (w.drop name).log.level (P.state (w.drop name).state)
        (orders.filterMap (Order.operation? name)) =
      A.solo (((opened s log standard builders : Workshop M).choice builder' limit').depthLimit.getD
          standard) log.level (P.state s) (orders.filterMap (Order.operation? name)) := by
    rw [drop_defaultLimit, drop_log, hlimit, hlevel, hstate]
  have same := shared.trans (solo.trans own.symm)
  obtain ⟨built, seen⟩ := Prod.mk.inj same
  refine ⟨built, seen, ?_⟩
  intro u order hmem hother
  exact answer_untouched (ho order hmem).keeps hother

/-- Two matchers that take their memory from one source, while a builder, the default limit and a third
matcher change. -/
theorem isolated_backtracking :
    let S : Source Nat := ⟨fun size next => (some next, next + size), fun _ next => next⟩
    let M : Unit → Maker (Nat × Bool) := fun _ => Backtracking.library.maker S.noting
    let P : (M ()).Projection (Backtracking.library.maker .endless) Refused :=
      Backtracking.oblivious.projection S
    let w : Workshop M := (opened (16, false) {} 7 []).run [.build "b" () none none]
    let orders : List (Order Unit) :=
      [.perform "a" (.prepare "(a|b)*" .empty), .perform "b" (.prepare "(" .empty), .setDefault 3,
        .perform "a" (.captures ⟨#[97, 98]⟩ 0), .build "c" () none none, .builder "x" [5] true,
        .drop "b", .perform "a" .inspect]
    let own : List (Order Unit) := (orders.filterMap (Order.operation? "a")).map (.perform "a")
    (∀ j, (M j).Persists Refused) ∧ w.Alone P "a" ∧ (∀ order ∈ orders, order.Elsewhere M P "a") ∧
      P.state (0, false) = P.state (w.drop "a").state ∧ ({} : Log).level = w.log.level ∧
      ((opened (0, false) {} 9 [] : Workshop M).choice none (some 7)).depthLimit.getD 9 =
        (w.choice none none).depthLimit.getD w.defaultLimit ∧
      ¬Refused (w.run (.build "a" () none none :: orders)).state ∧
      ¬Refused ((opened (0, false) {} 9 [] : Workshop M).run
        (.build "a" () none (some 7) :: own)).state ∧
      w.Isolated (opened (0, false) {} 9 []) "a" (.build "a" () none none)
        (.build "a" () none (some 7)) orders := by
  intro S M P w orders own
  have hM : ∀ j, (M j).Persists Refused := fun _ => Library.Oblivious.persists _ S
  have served : ∀ j, (M j).Persists fun s => ¬Refused s :=
    fun _ => Library.Oblivious.served _ fun _ _ => nofun
  have hw : w.Alone P "a" := fun _ _ _ _ => P.apart_of_subsingleton _
  have ho : ∀ order ∈ orders, order.Elsewhere M P "a" := by
    intro order hmem
    refine ⟨?_, fun _ _ => P.apart_of_subsingleton _⟩
    revert order
    decide
  have fresh : ¬Refused w.state := run_persists served _ nofun
  have hs := run_persists served (.build "a" () none none :: orders) fresh
  have hs' := run_persists (w := (opened (0, false) {} 9 [] : Workshop M)) served
    (.build "a" () none (some 7) :: own) nofun
  exact ⟨hM, hw, ho, rfl, rfl, rfl, hs, hs', isolated hM P hw ho rfl rfl rfl hs hs'⟩

end Workshop

end

end BoundedRegex
