import BoundedRegex.Proofs.Frames
import BoundedRegex.Proofs.Metered

/-!
# Charged entries

A backtracking search is a computation that counts its entries. Between two entries it runs freely, and each
attempt counts anew. The bounds on nesting and memory are part of the computation: they end it in the same way
whatever the limit is. Only the limit on entries stops it from outside, and no other end has the status for
that. So the backtracking library is metered.
-/
namespace BoundedRegex

namespace Progress

variable {γ ρ ρ' : Type} {f : ρ → ρ'}

def map (f : ρ → ρ') : Progress γ ρ → Progress γ ρ'
  | .enter next => .enter next
  | .anew next => .anew next
  | .ends result => .ends (f result)

theorem map_eq_ends {p : Progress γ ρ} {result' : ρ'} (h : p.map f = .ends result') :
    ∃ result, p = .ends result ∧ f result = result' := by
  cases p with
  | enter next => cases h
  | anew next => cases h
  | ends result =>
    cases h
    exact ⟨result, rfl, rfl⟩

end Progress

theorem Comes.map {γ ρ ρ' : Type} (f : ρ → ρ') {step : γ → Progress γ ρ} {limit count : Nat}
    {p : Progress γ ρ} {r : Option ρ} (h : Comes step limit count p r) :
    Comes (fun s => (step s).map f) limit count (p.map f) (r.map f) := by
  induction h with
  | ends count result => exact .ends count (f result)
  | anew _ ih => exact .anew ih
  | enter below _ ih => exact .enter below ih
  | passed above => exact .passed above

namespace Search
open Text Pattern Program

/-! ## Searches by entries -/

/-- What stays the same during a search. -/
structure Hunt where
  program : Program
  subject : Subject
  nesting : Nat
  room : Nat

/-- Where a search is, with so many attempts left. -/
structure Trial where
  attempts : Nat
  pos : Nat
  ignoredSkips : Nat
  seen : Option Nat

inductive Stage where
  /-- Looks for a start position. -/
  | seeking (h : Hunt) (x : Trial)
  /-- Has entered, and has been charged for it. -/
  | entered (h : Hunt) (x : Trial) (t : Task) (m : Machine)

namespace Hunt

def bounds (h : Hunt) (limit : Nat) : Bounds := ⟨limit, h.nesting, h.room⟩

def environment (h : Hunt) (x : Trial) : Environment := ⟨h.program, h.subject, x.ignoredSkips⟩

def firstTask (h : Hunt) (p : Nat) : Task :=
  .run (.group (.plain false) .always .no h.program.code .done) .finish
    ⟨p, p, Array.replicate h.program.groups none, none⟩

/-- Goes on after an attempt. -/
def after (h : Hunt) (x : Trial) (answer : Except Excess Ending) (skips : Nat) : Progress Stage Verdict :=
  match courseAfter h.subject x.pos ⟨answer, skips, 0⟩ with
  | .settled v => .ends v
  | .onward q ignoredSkips =>
    if h.program.hints.anchored || h.subject.size < q then .ends .absent
    else .anew (.seeking h
      ⟨x.attempts, h.subject.nextStart h.program.writesNewline q, ignoredSkips, x.seen⟩)

/-- Runs to the next entry, or to the end of the attempt. -/
def proceed (h : Hunt) (x : Trial) (t : Task) (m : Machine) : Progress Stage Verdict :=
  match (h.environment x).runToEntry stepFuel t m with
  | .go _ m => h.after x (.ok (.broken .stuck)) m.skips
  | .stop e m => h.after x (.ok e) m.skips
  | .enter t m =>
    if h.room ≤ m.depth then h.after x (.error .memory) m.skips else .enter (.entered h x t m)

/-- Makes an attempt, if there is a place for one. -/
def seek (h : Hunt) (x : Trial) : Progress Stage Verdict :=
  match x.attempts with
  | 0 => .ends (.failed (.broken .stuck))
  | attempts + 1 =>
    match candidate? h.program.hints h.subject x.pos x.seen with
    | none => .ends .absent
    | some (p, seen) =>
      .enter (.entered h ⟨attempts, p, x.ignoredSkips, seen⟩ (h.firstTask p) { furthest := p })

end Hunt

def Stage.step : Stage → Progress Stage Verdict
  | .seeking h x => h.seek x
  | .entered h x t m =>
    if h.nesting ≤ m.depth then h.after x (.error .nesting) m.skips else h.proceed x t m

/-! ## Ends of searches -/

/-- A verdict unless the search has been stopped. -/
def Verdict.decided? : Verdict → Option Verdict
  | .failed (.exceeded .entries) => none
  | v => some v

/-- A verdict that is not told by the status for searches that have been stopped. -/
def Verdict.Unstopped (v : Verdict) : Prop := ∀ f, v = .failed f → f.code ≠ limitStatus

theorem Verdict.Unstopped.decided {v : Verdict} (h : v.Unstopped) : v.decided? = some v := by
  unfold decided?
  split
  · exact absurd rfl (h _ rfl)
  · rfl

theorem unstopped_failed {f : Fault} (h : f.code ≠ limitStatus) : (Verdict.failed f).Unstopped := by
  rintro _ ⟨⟩
  exact h

/-- What ends an attempt from inside does not stop the search. -/
theorem unstopped_of_settled {s : Subject} {p : Nat} {a : Attempt} {v : Verdict}
    (h : courseAfter s p a = .settled v) (ha : a.answer ≠ .error .entries) : v.Unstopped := by
  unfold courseAfter at h
  dsimp only at h
  split at h
  case h_1 excess hx =>
    cases h
    apply unstopped_failed
    cases excess with
    | entries => exact absurd hx ha
    | nesting => decide
    | memory => decide
  case h_3 breakdown _ =>
    cases h
    apply unstopped_failed
    cases breakdown <;> decide
  case h_7 =>
    split at h <;> cases h
  all_goals cases h <;> exact nofun

theorem Hunt.unstopped_of_after {h : Hunt} {x : Trial} {answer : Except Excess Ending} {skips : Nat}
    {v : Verdict} (ends : h.after x answer skips = .ends v) (ha : answer ≠ .error .entries) :
    v.Unstopped := by
  unfold after at ends
  split at ends
  next settled hc =>
    cases ends
    exact unstopped_of_settled hc ha
  next =>
    split at ends <;> cases ends
    exact nofun

theorem Stage.unstopped_of_step {s : Stage} {v : Verdict} (ends : s.step = .ends v) : v.Unstopped := by
  cases s with
  | seeking h x =>
    rw [step, Hunt.seek] at ends
    split at ends
    · cases ends
      exact unstopped_failed (by decide)
    · split at ends <;> cases ends
      exact nofun
  | entered h x t m =>
    rw [step] at ends
    split at ends
    · exact Hunt.unstopped_of_after ends nofun
    · rw [Hunt.proceed] at ends
      split at ends
      · exact Hunt.unstopped_of_after ends nofun
      · exact Hunt.unstopped_of_after ends nofun
      · split at ends
        · exact Hunt.unstopped_of_after ends nofun
        · cases ends

/-! ## Attempts -/

/-- What the search comes to after an attempt. -/
structure Leads (h : Hunt) (limit : Nat) (x : Trial) (a : Attempt) (r : Option Verdict) : Prop where
  stopped : a.answer = .error .entries → r = none
  further : a.answer ≠ .error .entries → ∀ count, Comes Stage.step limit count (h.after x a.answer a.skips) r

variable {h : Hunt} {limit count left deepest : Nat} {x : Trial} {t : Task} {m : Machine} {r : Option Verdict}

/-- The entries that have been counted and those that are left make up the limit. -/
theorem comes_proceed (counted : count + left = limit)
    (leads : Leads h limit x ((h.environment x).runBounded (h.bounds limit) t m deepest left) r) :
    Comes Stage.step limit count (h.proceed x t m) r := by
  rw [Hunt.proceed]
  fun_induction Environment.runBounded (h.environment x) (h.bounds limit) t m deepest left
    generalizing count with
  | case1 t m deepest left t' m' run =>
    rw [run]
    exact leads.further nofun count
  | case2 t m deepest left e m' run =>
    rw [run]
    exact leads.further nofun count
  | case3 =>
    rename_i m' run _ full
    have full : h.room ≤ m'.depth := full
    rw [run]
    dsimp only
    rw [if_pos full]
    exact leads.further nofun count
  | case4 =>
    rename_i m' run _ room
    have room : ¬h.room ≤ m'.depth := room
    rw [run]
    dsimp only
    rw [if_neg room, leads.stopped rfl]
    exact .passed (Nat.le_of_eq counted.symm)
  | case5 =>
    rename_i m' run _ room left nested
    have room : ¬h.room ≤ m'.depth := room
    have nested : h.nesting ≤ m'.depth := nested
    rw [run]
    dsimp only
    rw [if_neg room]
    refine .enter (by omega) ?_
    rw [Stage.step, if_pos nested]
    exact leads.further nofun _
  | case6 =>
    rename_i m' run _ room left nested ih
    have room : ¬h.room ≤ m'.depth := room
    have nested : ¬h.nesting ≤ m'.depth := nested
    rw [run]
    dsimp only
    rw [if_neg room]
    refine .enter (by omega) ?_
    rw [Stage.step, if_neg nested, Hunt.proceed]
    exact ih (by omega) leads

/-- An attempt is charged for its first entry too. -/
theorem comes_attempt (leads : Leads h limit x ((h.environment x).attempt (h.bounds limit) x.pos) r) :
    Comes Stage.step limit 0 (.enter (.entered h x (h.firstTask x.pos) { furthest := x.pos })) r := by
  rw [Environment.attempt] at leads
  cases limit with
  | zero =>
    rw [leads.stopped rfl]
    exact .passed (Nat.le_refl 0)
  | succ limit =>
    refine .enter (Nat.succ_pos limit) ?_
    rw [Stage.step]
    have leads : Leads h (limit + 1) x
        (if (h.bounds (limit + 1)).nesting = 0 then ⟨.error .nesting, 0, 0⟩
        else (h.environment x).runBounded (h.bounds (limit + 1)) (h.firstTask x.pos)
          { furthest := x.pos } 0 limit) r := leads
    by_cases nested : h.nesting = 0
    · have nested' : (h.bounds (limit + 1)).nesting = 0 := nested
      rw [if_pos nested'] at leads
      rw [if_pos (Nat.le_of_eq nested)]
      exact leads.further nofun 1
    · have nested' : ¬(h.bounds (limit + 1)).nesting = 0 := nested
      rw [if_neg nested'] at leads
      rw [if_neg (fun below => nested (Nat.le_zero.mp below))]
      exact comes_proceed (Nat.add_comm 1 limit) leads

/-! ## Searches -/

/-- What the search comes to after an attempt, if it is known what it comes to from the next place on. -/
theorem leads_of_rest (a : Attempt) (needed : Option Nat) (rest : Nat → Nat → Report)
    (comes : ∀ q ignoredSkips,
      Comes Stage.step limit 0 (h.seek ⟨x.attempts, q, ignoredSkips, x.seen⟩)
        (rest q ignoredSkips).verdict.decided?) :
    Leads h limit x a
      (match courseAfter h.subject x.pos a with
      | .settled v => (⟨v, needed⟩ : Report)
      | .onward q ignoredSkips =>
        if h.program.hints.anchored || h.subject.size < q then ⟨.absent, needed⟩
        else rest (h.subject.nextStart h.program.writesNewline q) ignoredSkips).verdict.decided? := by
  constructor
  case stopped =>
    intro stopped
    have settled : courseAfter h.subject x.pos a = .settled (.failed (.exceeded .entries)) := by
      simp only [courseAfter, stopped]
    rw [settled]
    rfl
  case further =>
    intro unstopped count
    have course : courseAfter h.subject x.pos ⟨a.answer, a.skips, 0⟩ = courseAfter h.subject x.pos a := rfl
    rw [Hunt.after, course]
    cases settled : courseAfter h.subject x.pos a with
    | settled v =>
      have decided : v.decided? = some v := (unstopped_of_settled settled unstopped).decided
      dsimp only
      rw [decided]
      exact .ends count v
    | onward q ignoredSkips =>
      dsimp only
      split
      · exact .ends count _
      · exact .anew (comes _ ignoredSkips)

/-- The induction is on the attempts that are left. -/
theorem comes_seek (h : Hunt) (limit attempts p ignoredSkips : Nat) (seen : Option Nat) (deepest : Nat) :
    Comes Stage.step limit 0 (h.seek ⟨attempts, p, ignoredSkips, seen⟩)
      (tryFrom h.program h.subject (h.bounds limit) attempts p ignoredSkips seen deepest).verdict.decided? := by
  induction attempts generalizing p ignoredSkips seen deepest with
  | zero => exact .ends 0 _
  | succ attempts ih =>
    rw [Hunt.seek, tryFrom]
    cases candidate? h.program.hints h.subject p seen with
    | none => exact .ends 0 _
    | some place =>
      obtain ⟨p, seen⟩ := place
      refine comes_attempt (leads_of_rest _ (some _)
        (tryFrom h.program h.subject (h.bounds limit) attempts · · seen _) ?_)
      intro q ignoredSkips
      exact ih q ignoredSkips seen _

/-! ## Faults of searches -/

theorem following_le (first : Nat) : following first ≤ 5 := by
  rw [following]
  split
  · omega
  · split
    · omega
    · split
      · omega
      · split <;> omega

/-- A character has no more than six bytes. -/
theorem badPlace?_le {bytes : ByteArray} {i first place : Nat}
    (h : badPlace? bytes i ((List.range (following first)).map (· + 2)) = some place) : place ≤ 6 := by
  have listed := List.mem_of_find?_eq_some h
  simp only [List.mem_map, List.mem_range] at listed
  obtain ⟨n, below, rfl⟩ := listed
  have := following_le first
  omega

/-- The codes for texts reach as far as this. -/
theorem le_textCode_of_wideFault? {bytes : ByteArray} {i : Nat} {f : Utf8Fault}
    (h : wideFault? bytes i = some f) : -23 ≤ textCode f := by
  simp only [wideFault?] at h
  split at h
  next place bad =>
    cases h
    have := badPlace?_le bad
    rw [textCode]
    omega
  next =>
    split at h
    · split at h <;> cases h
      decide
    · split at h
      · cases h
        decide
      · split at h <;> cases h
        decide
    · split at h
      · cases h
        decide
      · split at h <;> cases h
        decide
    · split at h <;> cases h <;> decide
    · split at h <;> cases h <;> decide

theorem le_textCode_of_fault? {bytes : ByteArray} {i : Nat} {f : Utf8Fault} (h : fault? bytes i = some f) :
    -23 ≤ textCode f := by
  fun_induction fault? bytes i with
  | case1 _ _ _ _ ih => exact ih h
  | case2 =>
    cases h
    decide
  | case3 =>
    cases h
    decide
  | case4 i _ a =>
    cases h
    have := following_le a
    rw [textCode]
    omega
  | case5 i =>
    rename_i wide
    cases h
    exact le_textCode_of_wideFault? wide
  | case6 =>
    rename_i ih
    exact ih h
  | case7 => cases h

theorem code_of_checked? {settings : Pattern.Settings} {lookback start : Nat} {bytes : ByteArray} {f : Fault}
    (h : Subject.checked? settings lookback bytes start = .error f) : f.code ≠ limitStatus := by
  simp only [Subject.checked?] at h
  split at h
  · cases h
    decide
  · split at h
    · cases h
    · split at h
      · cases h
        split <;> decide
      · split at h
        next f hf =>
          cases h
          have := le_textCode_of_fault? hf
          rw [Fault.code, limitStatus]
          omega
        next => cases h

theorem code_neg (f : Fault) : f.code < 0 := by
  cases f with
  | startPastEnd => decide
  | startInsideCharacter => decide
  | notText f =>
    rw [Fault.code]
    cases f <;> rw [textCode] <;> omega
  | noMemory => decide
  | exceeded x => cases x <;> decide
  | broken b => cases b <;> decide

/-! ## Searches of programs -/

/-- The search that a program makes. The room is that of the last block which may follow the first one. -/
def pursue (p : Program) (bytes : ByteArray) (start : Nat) : Progress Stage Verdict :=
  match Subject.checked? p.settings p.lookback bytes start with
  | .error f => .ends (.failed f)
  | .ok s =>
    match firstBlock? p.heapLimit p.groups with
    | none => .ends (.failed (.exceeded .memory))
    | some first =>
      .anew (.seeking
        ⟨p, s, lesser standardNesting p.settings.nestingLimit, greatestRoom p.heapLimit p.groups first⟩
        ⟨attemptFuel, start, 0, none⟩)

theorem unstopped_of_pursue {p : Program} {bytes : ByteArray} {start : Nat} {v : Verdict}
    (ends : pursue p bytes start = .ends v) : v.Unstopped := by
  rw [pursue] at ends
  split at ends
  next f hf =>
    cases ends
    exact unstopped_failed (code_of_checked? hf)
  next =>
    split at ends <;> cases ends
    exact unstopped_failed (by decide)

/-- A search comes to what its computation comes to within the lesser of both limits. -/
theorem comes_search (p : Program) (bytes : ByteArray) (start limit : Nat) :
    Comes Stage.step (lesser limit p.settings.matchLimit) 0 (pursue p bytes start)
      (p.search bytes start limit 0).verdict.decided? := by
  rw [pursue, Program.search]
  cases hs : Subject.checked? p.settings p.lookback bytes start with
  | error f =>
    have decided := (unstopped_failed (code_of_checked? hs)).decided
    dsimp only
    rw [decided]
    exact .ends 0 _
  | ok subject =>
    cases firstBlock? p.heapLimit p.groups with
    | none => exact .ends 0 _
    | some first =>
      dsimp only
      rw [Nat.max_zero]
      exact .anew (comes_seek ⟨p, subject, _, _⟩ _ attemptFuel start 0 none 0)

end Search

end BoundedRegex
