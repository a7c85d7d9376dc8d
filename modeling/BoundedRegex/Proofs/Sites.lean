import BoundedRegex.Memory.Holdings
import BoundedRegex.Proofs.Oblivious
import BoundedRegex.Proofs.Simulation

/-!
# Sites

A site is a workshop together with a client that takes blocks for itself. The engines of its matchers work
over libraries of any kind, and these and the client all take their memory from one allocator. What is done
at a site is one deed after another, for a matcher or for the client.

Two sites are compared by how requests are answered at them. If they are answered alike, then so is all else,
over a whole run.
-/
namespace BoundedRegex.Memory

variable {α σ τ : Type}

/-! ## Sources that answer alike -/

/-- Neither requests nor the end of blocks end a property of a source. -/
structure Source.Persists (S : Source σ) (I : σ → Prop) : Prop where
  allocate : ∀ size {s}, I s → I (S.allocate size s).2
  deallocate : ∀ block {s}, I s → I (S.deallocate block s)

theorem Source.Persists.run {S : Source σ} {I : σ → Prop} (h : S.Persists I) (d : Dialog α) {s : σ}
    (hs : I s) : I (d.run S s).2 := by
  induction d generalizing s with
  | done a => exact hs
  | take size next ih => exact ih _ (h.allocate size hs)
  | free block next ih => exact ih (h.deallocate block hs)

/-- Requests are answered alike in states that correspond, until the first one is spoilt. -/
structure Source.Alike (S : Source σ) (S' : Source τ) (Spoilt : σ → Prop) (state : σ → τ → Prop) : Prop
    where
  allocate : ∀ size {s t}, state s t → Meets Spoilt state Eq (S.allocate size s) (S'.allocate size t)
  deallocate : ∀ block {s t}, state s t → state (S.deallocate block s) (S'.deallocate block t)
  persists : S.Persists Spoilt

theorem Source.Alike.run {S : Source σ} {S' : Source τ} {Spoilt : σ → Prop} {state : σ → τ → Prop}
    (h : S.Alike S' Spoilt state) (d : Dialog α) {s : σ} {t : τ} (hst : state s t) :
    Meets Spoilt state Eq (d.run S s) (d.run S' t) := by
  induction d generalizing s t with
  | done a => exact .inr ⟨rfl, hst⟩
  | take size next ih =>
    rcases h.allocate size hst with spoilt | ⟨same, after⟩
    · exact .inl (h.persists.run (next _) spoilt)
    · simp only [Dialog.run, ← same]
      exact ih _ after
  | free block next ih => exact ih (h.deallocate block hst)

end BoundedRegex.Memory

namespace BoundedRegex
open Memory

variable {ι σ τ : Type}

/-- Over sources that answer alike, the engines of a library do the same. -/
def Library.likeness (L : Library) {S : Source σ} {S' : Source τ} {Spoilt : σ → Prop}
    {state : σ → τ → Prop} (h : S.Alike S' Spoilt state) :
    (L.maker S).Likeness (L.maker S') Spoilt state where
  code := (Eq : L.Code → L.Code → Prop)
  buffer := (Eq : L.Buffer → L.Buffer → Prop)
  compile pattern flags _ _ hst :=
    (h.run (L.compile pattern (effective flags)) hst).mono fun x _ hxy => hxy ▸ .refl x
  makeBuffer := by
    rintro c _ s t rfl hst
    refine (h.run (L.makeBuffer c) hst).mono ?_
    rintro (_ | b) _ rfl
    · exact .none
    · exact .some rfl
  groupCount := by
    rintro c _ s t rfl hst
    exact .inr ⟨rfl, hst⟩
  groupNumber? := by
    rintro c _ name s t rfl hst
    exact .inr ⟨rfl, hst⟩
  message _ _ _ hst := .inr ⟨rfl, hst⟩
  releaseCode := by
    rintro c _ s t rfl hst
    exact (h.run (L.freeCode c) hst).imp_right And.right
  releaseBuffer := by
    rintro b _ s t rfl hst
    exact (h.run (L.freeBuffer b) hst).imp_right And.right
  persists := (L.persists_of_run fun d _ => h.persists.run d).toPersists
  own := (Eq : L.Contexts → L.Contexts → Prop)
  make := by
    intro s t hst
    have made := h.run L.makeContexts hst
    simp only [maker, start]
    generalize L.makeContexts.run S s = run at made ⊢
    generalize L.makeContexts.run S' t = run' at made ⊢
    obtain ⟨x, s'⟩ := run
    obtain ⟨y, t'⟩ := run'
    rcases made with spoilt | ⟨rfl, after⟩
    · cases x <;> exact .inl spoilt
    · cases x <;> exact .inr ⟨.refl _, after⟩
  unmake := by
    rintro own _ s t rfl hst
    exact (h.run (L.freeContexts own) hst).imp_right And.right
  lasting := L.persists_of_run fun d _ => h.persists.run d

theorem Library.likeness_searches (L : Library) {S : Source σ} {S' : Source τ} {Spoilt : σ → Prop}
    {state : σ → τ → Prop} (h : S.Alike S' Spoilt state) : (L.likeness h).Searches where
  unset := rfl
  execute := by
    rintro c _ subject start limit b _ s t rfl rfl hst
    have searched := h.run (L.search c subject start limit b) hst
    simp only [maker, engine]
    generalize (L.search c subject start limit b).run S s = run at searched ⊢
    generalize (L.search c subject start limit b).run S' t = run' at searched ⊢
    obtain ⟨x, s'⟩ := run
    obtain ⟨y, t'⟩ := run'
    rcases searched with spoilt | ⟨rfl, after⟩
    · exact .inl spoilt
    · exact .inr ⟨rfl, rfl, after⟩
  output := by
    rintro b _ s t rfl hst
    exact .inr ⟨rfl, hst⟩

/-- Matchers over sources that answer alike are in lockstep. -/
theorem Library.lockstep (L : Library) {S : Source σ} {S' : Source τ} {Spoilt : σ → Prop}
    {state : σ → τ → Prop} (h : S.Alike S' Spoilt state) :
    Bench.Lockstep Spoilt ((L.likeness h).Benches Eq) := by
  have add (l k : Log) (e : Event) (h : l = k) : l.add e = k.add e := by rw [h]
  exact Engine.Likeness.lockstep add
    ((L.likeness_searches h).inStep (fun _ _ h => by rw [h]) add)

/-! ## Grounds -/

namespace Memory

/-- The size of a block that is asked for. -/
def Request.size? : Request → Option Nat
  | .allocate _ size => some size
  | _ => none

/-- Whether an allocator is to be shown. -/
def Request.describes : Request → Bool
  | .describe _ => true
  | _ => false

end Memory

/-- Memory that is taken from one allocator, as part of a state that may note requests as well. -/
structure Ground (σ : Type) where
  allocator : Allocator
  memory : Part Memory σ
  /-- Notes a request of some size before it is answered. -/
  note : Nat → σ → σ

namespace Ground

/-- Memory by itself. -/
def plain (a : Allocator) : Ground Memory := ⟨a, ⟨id, fun m _ => m⟩, fun _ m => m⟩

def source (G : Ground σ) : Source σ where
  allocate size s := G.memory.act (Memory.allocate G.allocator size) (G.note size s)
  deallocate block := G.memory.change (Memory.deallocate G.allocator block)

/-- Notes what a client asks for. -/
def noted (G : Ground σ) (r : Request) (s : σ) : σ :=
  match r.size? with
  | some size => G.note size s
  | none => s

theorem noted_plain (a : Allocator) (r : Request) (m : Memory) : (plain a).noted r m = m := by
  cases r <;> rfl

/-- Answers a client that holds some blocks. -/
def ask (G : Ground σ) (r : Request) (held : List Holding) (s : σ) : (Answer × List Holding) × σ :=
  let s := G.noted r s
  let (answer, h) := Holdings.answer ⟨G.allocator, G.memory.get s, held⟩ r
  ((answer, h.held), G.memory.put h.memory s)

/-- Whatever is asked, but for how the allocator is shown, is answered alike. -/
structure Alike (G : Ground σ) (H : Ground τ) (Spoilt : σ → Prop) (state : σ → τ → Prop) : Prop where
  source : G.source.Alike H.source Spoilt state
  ask : ∀ {r : Request} held {s t}, r.describes = false → state s t →
    Meets Spoilt state Eq (G.ask r held s) (H.ask r held t)
  persists : ∀ r held {s}, Spoilt s → Spoilt (G.ask r held s).2

end Ground

/-! ## Deeds -/

/-- What is done at a site. -/
inductive Deed (ι : Type) where
  | order (order : Order ι)
  /-- The client asks for something other than how the allocator is shown. -/
  | request (r : { r : Request // r.describes = false })

/-- What is told after a deed. -/
inductive Told where
  | reply (r : Except Abort Reply)
  | answer (a : Answer)

/-- Matchers over libraries, and the blocks of a client, all from one ground. -/
structure Site (G : Ground σ) (L : ι → Library) extends Workshop fun i => (L i).maker G.source where
  held : List Holding := []

namespace Site

variable {G : Ground σ} {H : Ground τ} {L : ι → Library}

variable (G L) in
/-- A site without matchers and blocks. -/
def opened (s : σ) (log : Log) (limit : UInt32) (builders : List (String × MatcherBuilder)) :
    Site G L :=
  { Workshop.opened s log limit builders with }

def answer (w : Site G L) : Deed ι → Told × Site G L
  | .order o =>
    let (reply, v) := w.toWorkshop.answer o
    (.reply reply, { v with held := w.held })
  | .request r =>
    let ((a, held), s) := G.ask r.1 w.held w.state
    (.answer a, { w with state := s, held := held })

/-- What is told after deeds that are done one after another. -/
def told : List (Deed ι) → Site G L → List Told
  | [], _ => []
  | deed :: rest, w => (w.answer deed).1 :: told rest (w.answer deed).2

def run (deeds : List (Deed ι)) (w : Site G L) : Site G L :=
  deeds.foldl (fun w deed => (w.answer deed).2) w

theorem answer_persists {I : σ → Prop} (hsource : G.source.Persists I) {w : Site G L} {deed : Deed ι}
    (hask : ∀ r held s, deed = .request r → I s → I (G.ask r.1 held s).2) (h : I w.state) :
    I (w.answer deed).2.state := by
  have lasting (i : ι) : ((L i).maker G.source).Persists I :=
    (L i).persists_of_run fun d _ => hsource.run d
  cases deed with
  | order o => exact Workshop.answer_persists h (fun _ _ _ _ => lasting _) fun _ _ => lasting _
  | request r => exact hask r w.held w.state rfl h

theorem run_persists {I : σ → Prop} (hsource : G.source.Persists I) {deeds : List (Deed ι)}
    (hask : ∀ r held s, .request r ∈ deeds → I s → I (G.ask r.1 held s).2) {w : Site G L}
    (h : I w.state) : I (w.run deeds).state := by
  induction deeds generalizing w with
  | nil => exact h
  | cons deed rest ih =>
    apply ih
    · exact fun r held s hr => hask r held s (List.mem_cons_of_mem _ hr)
    · apply answer_persists hsource _ h
      rintro r held s rfl
      exact hask r held s List.mem_cons_self

/-- Sites that correspond. -/
structure Alike {Spoilt : σ → Prop} {state : σ → τ → Prop} (h : G.Alike H Spoilt state) (w : Site G L)
    (v : Site H L) : Prop extends
    Workshop.Alike (fun i => (L i).likeness h.source) Eq w.toWorkshop v.toWorkshop where
  held : v.held = w.held

namespace Alike

variable {Spoilt : σ → Prop} {state : σ → τ → Prop} {h : G.Alike H Spoilt state} {w : Site G L}
  {v : Site H L}

theorem opened {s : σ} {t : τ} (hst : state s t) (log : Log) (limit : UInt32)
    (builders : List (String × MatcherBuilder)) :
    Alike (L := L) h (Site.opened G L s log limit builders) (Site.opened H L t log limit builders) where
  toAlike := .opened _ hst rfl limit builders
  held := rfl

theorem answer (hwv : Alike h w v) (deed : Deed ι) :
    Spoilt (w.answer deed).2.state ∨
      (v.answer deed).1 = (w.answer deed).1 ∧ Alike h (w.answer deed).2 (v.answer deed).2 := by
  cases deed with
  | order o =>
    refine (hwv.toAlike.answer (fun i => (L i).lockstep h.source) o).imp_right ?_
    rintro ⟨same, after⟩
    exact ⟨congrArg Told.reply same, after, hwv.held⟩
  | request r =>
    have asked := h.ask w.held r.2 hwv.state
    simp only [Site.answer, hwv.held]
    refine asked.imp_right ?_
    rintro ⟨same, after⟩
    exact ⟨congrArg (Told.answer ·.1) same.symm, hwv.withState after, congrArg Prod.snd same.symm⟩

/-- Over a whole run, the same is told, and the sites correspond at the end. -/
theorem run (hwv : Alike h w v) (deeds : List (Deed ι)) :
    Spoilt (w.run deeds).state ∨ v.told deeds = w.told deeds ∧ Alike h (w.run deeds) (v.run deeds) := by
  induction deeds generalizing w v with
  | nil => exact .inr ⟨rfl, hwv⟩
  | cons deed rest ih =>
    rcases hwv.answer deed with spoilt | ⟨same, after⟩
    · have later : Spoilt ((w.answer deed).2.run rest).state :=
        run_persists h.source.persists (fun r held _ _ => h.persists r.1 held) spoilt
      exact .inl later
    · refine (ih after).imp_right fun ⟨told, after⟩ => ⟨?_, after⟩
      rw [Site.told, Site.told, same, told]

end Alike

end Site

end BoundedRegex
