import BoundedRegex.Engine.Recorded
import BoundedRegex.Proofs.Projection

/-!
# What engines may rely on

An engine relies on how it is used. It is only given codes and buffers that it has made and that have not
been released, a buffer only together with the code it was made for, and starts within the subject.
Offsets are only asked for after a match, and a message only about what has just gone wrong.

To say so, an engine is put under witness: each code and each buffer gets a number, and all that is asked
and answered is written down in order. A matcher over such an engine does the same as without the witness.
-/
namespace BoundedRegex

variable {σ : Type}

/-- What has been asked of an engine, and what matters of the answer. -/
inductive Exchange where
  | compile (pattern : String) (flags : Flags) (answer : Except CompileFailure Nat)
  | makeBuffer (code : Nat) (answer : Option Nat)
  | execute (code buffer : Nat) (subject : ByteArray) (start : Nat) (limit : UInt32)
      (answer : Execution)
  | output (buffer : Nat)
  | groupCount (code : Nat)
  | groupNumber (code : Nat) (name : String)
  | message (failure : Int)
  | releaseCode (code : Nat)
  | releaseBuffer (buffer : Nat)

namespace Exchange

/-- The number of the code or the buffer that has been made. -/
def made? : Exchange → Option Nat
  | .compile _ _ (.ok code) => some code
  | .makeBuffer _ answer => answer
  | _ => none

def released? : Exchange → Option Nat
  | .releaseCode code => some code
  | .releaseBuffer buffer => some buffer
  | _ => none

/-- The code of what has gone wrong. -/
def failure? : Exchange → Option Int
  | .compile _ _ (.error failure) => some failure.code
  | .execute _ _ _ _ _ (.failed code) => some code
  | _ => none

end Exchange

/-! ## The contract -/

/-- A code has been compiled from a pattern with some flags, and has not been released. -/
structure HasCode (past : List Exchange) (code : Nat) (pattern : String) (flags : Flags) : Prop where
  compiled : .compile pattern flags (.ok code) ∈ past
  unreleased : .releaseCode code ∉ past

/-- A buffer has been made for a code, and has not been released. -/
structure HasBuffer (past : List Exchange) (buffer code : Nat) : Prop where
  made : .makeBuffer code (some buffer) ∈ past
  unreleased : .releaseBuffer buffer ∉ past

section
variable (pattern : String) (flags : Flags) (limit : UInt32)

/-- What an engine may rely on when something is asked of it, by what has been asked before and what is
asked afterwards. Here `pattern`, `flags` and `limit` are those of the matcher. -/
def Exchange.Honours (past later : List Exchange) : Exchange → Prop
  | .compile _ _ _ => True
  | .makeBuffer code _ =>
    ∃ pattern flags, past.getLast? = some (.compile pattern flags (.ok code))
  | .execute code buffer subject start bound answer =>
    start ≤ subject.size ∧ bound = limit ∧ HasCode past code pattern flags ∧
      HasBuffer past buffer code ∧
      ∀ pairs, answer = .matched pairs → later.head? = some (.output buffer)
  | .output buffer =>
    ∃ code subject start bound pairs,
      past.getLast? = some (.execute code buffer subject start bound (.matched pairs))
  | .groupCount code => HasCode past code pattern flags
  | .groupNumber code _ => HasCode past code pattern flags
  | .message failure => ∃ e, past.getLast? = some e ∧ e.failure? = some failure
  | .releaseCode code => ∃ pattern flags, HasCode past code pattern flags
  | .releaseBuffer buffer => ∃ code, HasBuffer past buffer code

/-- Whatever is asked of an engine after some past, it may rely on its contract. -/
def Lawful : List Exchange → List Exchange → Prop
  | _, [] => True
  | past, e :: later => e.Honours pattern flags limit past later ∧ Lawful (past ++ [e]) later

variable {pattern flags limit}

/-- Only the first thing that is asked later matters. -/
theorem Exchange.Honours.append {past later : List Exchange} {e : Exchange}
    (h : e.Honours pattern flags limit past later) (more : List Exchange) :
    e.Honours pattern flags limit past (later ++ more) := by
  cases e with
  | execute code buffer subject start bound answer =>
    obtain ⟨hstart, hbound, hcode, hbuffer, houtput⟩ := h
    refine ⟨hstart, hbound, hcode, hbuffer, ?_⟩
    intro pairs hp
    rw [List.head?_append, houtput pairs hp]
    rfl
  | _ => exact h

theorem Lawful.append {past first second : List Exchange} (h : Lawful pattern flags limit past first)
    (h' : Lawful pattern flags limit (past ++ first) second) :
    Lawful pattern flags limit past (first ++ second) := by
  -- What is asked first becomes part of the past of what follows.
  induction first generalizing past with
  | nil => rwa [List.append_nil] at h'
  | cons e rest ih =>
    obtain ⟨honours, lawful⟩ := h
    refine ⟨honours.append second, ih lawful ?_⟩
    rwa [List.append_assoc]

end

section
variable {past : List Exchange} {code buffer : Nat} {pattern : String} {flags : Flags} {e : Exchange}

theorem HasCode.snoc (h : HasCode past code pattern flags) (he : e ≠ .releaseCode code) :
    HasCode (past ++ [e]) code pattern flags := by
  refine ⟨List.mem_append_left _ h.compiled, ?_⟩
  intro released
  rcases List.mem_append.mp released with earlier | last
  · exact h.unreleased earlier
  · exact he (List.mem_singleton.mp last).symm

theorem HasCode.neutral (h : HasCode past code pattern flags) (he : e.released? = none) :
    HasCode (past ++ [e]) code pattern flags := by
  apply h.snoc
  rintro rfl
  cases he

theorem HasBuffer.snoc (h : HasBuffer past buffer code) (he : e ≠ .releaseBuffer buffer) :
    HasBuffer (past ++ [e]) buffer code := by
  refine ⟨List.mem_append_left _ h.made, ?_⟩
  intro released
  rcases List.mem_append.mp released with earlier | last
  · exact h.unreleased earlier
  · exact he (List.mem_singleton.mp last).symm

theorem HasBuffer.neutral (h : HasBuffer past buffer code) (he : e.released? = none) :
    HasBuffer (past ++ [e]) buffer code := by
  apply h.snoc
  rintro rfl
  cases he

end

/-! ## Witnessed engines -/

/-- What a witnessed engine keeps beside its state. -/
structure Witnessed (σ : Type) where
  state : σ
  exchanges : List Exchange := []
  /-- The number of the next code or buffer. -/
  next : Nat := 0

/-- Writes an exchange down, and numbers what has been made in it. -/
def Witnessed.note (w : Witnessed σ) (s : σ) (e : Exchange) : Witnessed σ :=
  { state := s, exchanges := w.exchanges ++ [e]
    next := if e.made?.isSome then w.next + 1 else w.next }

@[simp] theorem Witnessed.note_state (w : Witnessed σ) (s : σ) (e : Exchange) :
    (w.note s e).state = s := rfl

def Engine.witnessed (E : Engine σ) : Engine (Witnessed σ) where
  Code := Numbered E.Code
  Buffer := Numbered E.Buffer
  unset := E.unset
  compile pattern flags w :=
    match E.compile pattern flags w.state with
    | (.ok c, s) => (.ok ⟨c, w.next⟩, w.note s (.compile pattern flags (.ok w.next)))
    | (.error failure, s) => (.error failure, w.note s (.compile pattern flags (.error failure)))
  makeBuffer code w :=
    match E.makeBuffer code.value w.state with
    | (some b, s) => (some ⟨b, w.next⟩, w.note s (.makeBuffer code.number (some w.next)))
    | (none, s) => (none, w.note s (.makeBuffer code.number none))
  execute code subject start limit buffer w :=
    let (answer, b, s) := E.execute code.value subject start limit buffer.value w.state
    (answer, ⟨b, buffer.number⟩,
      w.note s (.execute code.number buffer.number subject start limit answer))
  output buffer w :=
    let (offsets, s) := E.output buffer.value w.state
    (offsets, w.note s (.output buffer.number))
  groupCount code w :=
    let (n, s) := E.groupCount code.value w.state
    (n, w.note s (.groupCount code.number))
  groupNumber? code name w :=
    let (n, s) := E.groupNumber? code.value name w.state
    (n, w.note s (.groupNumber code.number name))
  message failure w :=
    let (text, s) := E.message failure w.state
    (text, w.note s (.message failure))
  releaseCode code w := w.note (E.releaseCode code.value w.state) (.releaseCode code.number)
  releaseBuffer buffer w :=
    w.note (E.releaseBuffer buffer.value w.state) (.releaseBuffer buffer.number)

/-- Without the witness, a witnessed engine is the engine itself. -/
def Engine.unwitnessed (E : Engine σ) : E.witnessed.Projection E fun _ => False where
  state := Witnessed.state
  code := Numbered.value
  buffer := Numbered.value
  unset := rfl
  compile pattern flags w := by
    simp only [Shows, Engine.witnessed]
    rcases E.compile pattern flags w.state with ⟨_ | _, s⟩ <;> exact .inr rfl
  makeBuffer c w := by
    simp only [Shows, Engine.witnessed]
    rcases E.makeBuffer c.value w.state with ⟨_ | _, s⟩ <;> exact .inr rfl
  execute _ _ _ _ _ _ := .inr rfl
  output _ _ := .inr rfl
  groupCount _ _ := .inr rfl
  groupNumber? _ _ _ := .inr rfl
  message _ _ := .inr rfl
  releaseCode _ _ := .inr rfl
  releaseBuffer _ _ := .inr rfl
  persists := E.witnessed.persists_const False

namespace Witnessed

/-- The codes and buffers are numbered one after another, and only those that have been made have been
released. -/
structure Consistent (w : Witnessed σ) : Prop where
  made : w.exchanges.filterMap Exchange.made? = List.range w.next
  released : ∀ e ∈ w.exchanges, ∀ n, e.released? = some n → n < w.next

variable {w : Witnessed σ} {s : σ} {e : Exchange} {code buffer : Nat} {pattern : String}
  {flags : Flags}

theorem Consistent.note (h : w.Consistent) (hm : ∀ n, e.made? = some n → n = w.next)
    (hr : ∀ n, e.released? = some n → n < w.next) : (w.note s e).Consistent := by
  constructor
  case made =>
    -- The next number is handed out, or none at all.
    simp only [Witnessed.note, List.filterMap_append, h.made]
    cases hmade : e.made? with
    | none =>
      simp only [Option.isSome_none, Bool.false_eq_true, ↓reduceIte, List.filterMap_cons, hmade,
        List.filterMap_nil, List.append_nil]
    | some n =>
      simp only [Option.isSome_some, ↓reduceIte, List.filterMap_cons, hmade, List.filterMap_nil,
        hm n hmade, List.range_succ]
  case released =>
    intro d hd n hn
    have grows : w.next ≤ (w.note s e).next := by
      simp only [Witnessed.note]
      split <;> omega
    rcases List.mem_append.mp hd with earlier | last
    · have := h.released d earlier n hn
      omega
    · rw [List.mem_singleton] at last
      subst last
      have := hr n hn
      omega

/-- An exchange in which nothing is made or released. -/
theorem Consistent.neutral (h : w.Consistent) (hm : e.made? = none) (hr : e.released? = none) :
    (w.note s e).Consistent := by
  apply h.note
  · intro n hn
    cases hm.symm.trans hn
  · intro n hn
    cases hr.symm.trans hn

theorem Consistent.handOut (h : w.Consistent) (hm : e.made? = some w.next)
    (hr : e.released? = none) : (w.note s e).Consistent := by
  apply h.note
  · intro n hn
    exact Option.some.inj (hn.symm.trans hm)
  · intro n hn
    cases hr.symm.trans hn

theorem Consistent.giveBack (h : w.Consistent) (hm : e.made? = none) {n : Nat}
    (hr : e.released? = some n) (hn : n < w.next) : (w.note s e).Consistent := by
  apply h.note
  · intro k hk
    cases hm.symm.trans hk
  · intro k hk
    cases hr.symm.trans hk
    exact hn

theorem Consistent.lt_of_made (h : w.Consistent) (he : e ∈ w.exchanges) {n : Nat}
    (hn : e.made? = some n) : n < w.next := by
  rw [← List.mem_range, ← h.made, List.mem_filterMap]
  exact ⟨e, he, hn⟩

/-- What is made next has not been released. -/
theorem Consistent.next_unreleased (h : w.Consistent) (he : e.released? = some w.next) :
    e ∉ w.exchanges := by
  intro hmem
  exact absurd (h.released e hmem w.next he) (Nat.lt_irrefl _)

theorem Consistent.hasCode (h : w.Consistent) (pattern : String) (flags : Flags) (s : σ) :
    HasCode (w.note s (.compile pattern flags (.ok w.next))).exchanges w.next pattern flags := by
  refine ⟨List.mem_append_right _ (List.mem_singleton.mpr rfl), ?_⟩
  intro released
  rcases List.mem_append.mp released with earlier | last
  · exact h.next_unreleased rfl earlier
  · cases List.mem_singleton.mp last

theorem Consistent.hasBuffer (h : w.Consistent) (code : Nat) (s : σ) :
    HasBuffer (w.note s (.makeBuffer code (some w.next))).exchanges w.next code := by
  refine ⟨List.mem_append_right _ (List.mem_singleton.mpr rfl), ?_⟩
  intro released
  rcases List.mem_append.mp released with earlier | last
  · exact h.next_unreleased rfl earlier
  · cases List.mem_singleton.mp last

/-- A matcher has a limit, and what it holds has been made for its pattern and has not been released. -/
structure Backs {E : Engine σ} (w : Witnessed σ) (limit : UInt32) (m : Matcher E.witnessed) :
    Prop where
  consistent : w.Consistent
  limit : m.depthLimit = limit
  code : ∀ p, m.prepared = some p → HasCode w.exchanges p.code.number p.pattern p.flags
  buffer : ∀ p, m.prepared = some p → HasBuffer w.exchanges p.buffer.number p.code.number

/-- Between two moments, everything asked of an engine honours its contract. -/
def Asks (pattern : String) (flags : Flags) (limit : UInt32) (w w' : Witnessed σ) : Prop :=
  ∃ new, w'.exchanges = w.exchanges ++ new ∧ Lawful pattern flags limit w.exchanges new

section
variable {limit : UInt32} {w' w'' : Witnessed σ}

theorem Asks.refl : Asks pattern flags limit w w := ⟨[], (List.append_nil _).symm, trivial⟩

theorem Asks.trans (h : Asks pattern flags limit w w') (h' : Asks pattern flags limit w' w'') :
    Asks pattern flags limit w w'' := by
  obtain ⟨new, he, lawful⟩ := h
  obtain ⟨new', he', lawful'⟩ := h'
  rw [he] at he' lawful'
  exact ⟨new ++ new', by rw [he', List.append_assoc], lawful.append lawful'⟩

theorem Asks.note (h : e.Honours pattern flags limit w.exchanges []) :
    Asks pattern flags limit w (w.note s e) :=
  ⟨[e], rfl, h, trivial⟩

/-- A match is followed by a look at its offsets. -/
theorem Asks.note_output {subject : ByteArray} {start pairs : Nat} {bound : UInt32} {s' : σ}
    (hs : start ≤ subject.size) (hl : bound = limit) (hc : HasCode w.exchanges code pattern flags)
    (hb : HasBuffer w.exchanges buffer code) :
    Asks pattern flags limit w
      ((w.note s (.execute code buffer subject start bound (.matched pairs))).note s'
        (.output buffer)) := by
  refine ⟨[_, _], List.append_assoc .., ⟨hs, hl, hc, hb, fun _ _ => rfl⟩, ?_, trivial⟩
  exact ⟨code, subject, start, bound, pairs, List.getLast?_concat⟩

end

variable {E : Engine σ} {m : Matcher E.witnessed} {limit : UInt32}

/-- What is neither made nor released in an exchange is known after it as before. -/
theorem Backs.note (h : w.Backs limit m) (hm : e.made? = none) (hr : e.released? = none) :
    (w.note s e).Backs limit m := by
  refine ⟨h.consistent.neutral hm hr, h.limit, ?_, ?_⟩
  · intro p hp
    exact (h.code p hp).neutral hr
  · intro p hp
    exact (h.buffer p hp).neutral hr

theorem Backs.used {p : Prepared E.witnessed} (h : w.Backs limit m) (hp : m.prepared = some p)
    (value : E.Buffer) :
    w.Backs limit { m with prepared := some { p with buffer := ⟨value, p.buffer.number⟩ } } := by
  refine ⟨h.consistent, h.limit, ?_, ?_⟩
  · rintro _ ⟨⟩
    exact h.code p hp
  · rintro _ ⟨⟩
    exact h.buffer p hp

theorem Consistent.backs (h : w.Consistent) (hl : m.depthLimit = limit) (hm : m.prepared = none) :
    w.Backs limit m := by
  refine ⟨h, hl, ?_, ?_⟩
  · intro p hp
    cases hm.symm.trans hp
  · intro p hp
    cases hm.symm.trans hp

/-- A code has just been compiled. -/
structure Compiled (w : Witnessed σ) (code : Nat) (new : String) (newFlags : Flags) : Prop where
  consistent : w.Consistent
  kept : HasCode w.exchanges code new newFlags
  last : w.exchanges.getLast? = some (.compile new newFlags (.ok code))

theorem Consistent.compiled (h : w.Consistent) (new : String) (newFlags : Flags) (s : σ) :
    (w.note s (.compile new newFlags (.ok w.next))).Compiled w.next new newFlags :=
  ⟨h.handOut rfl rfl, h.hasCode new newFlags s, List.getLast?_concat⟩

section
variable {new : String} {newFlags : Flags} (h : w.Compiled code new newFlags) (s s' : σ)
include h

theorem Compiled.asks (answer : Option Nat) :
    w.Asks pattern flags limit (w.note s (.makeBuffer code answer)) :=
  .note ⟨_, _, h.last⟩

/-- A code that gets no buffer is released. -/
theorem Compiled.refused :
    ((w.note s (.makeBuffer code none)).note s' (.releaseCode code)).Consistent ∧
      w.Asks pattern flags limit
        ((w.note s (.makeBuffer code none)).note s' (.releaseCode code)) := by
  have left : HasCode (w.note s (.makeBuffer code none)).exchanges code new newFlags :=
    h.kept.neutral rfl
  have refused : (w.note s (.makeBuffer code none)).Consistent := h.consistent.neutral rfl rfl
  constructor
  · exact refused.giveBack rfl rfl (refused.lt_of_made left.compiled rfl)
  · exact (h.asks s none).trans (.note ⟨_, _, left⟩)

theorem Compiled.backs (hl : m.depthLimit = limit) (value : E.Code) (buffer : E.Buffer) :
    (w.note s (.makeBuffer code (some w.next))).Backs limit
      { m with prepared := some ⟨new, newFlags, ⟨value, code⟩, ⟨buffer, w.next⟩⟩ } := by
  refine ⟨h.consistent.handOut rfl rfl, hl, ?_, ?_⟩
  · rintro _ ⟨⟩
    exact h.kept.neutral rfl
  · rintro _ ⟨⟩
    exact h.consistent.hasBuffer code s

end

end Witnessed

end BoundedRegex
