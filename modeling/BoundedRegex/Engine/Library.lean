import BoundedRegex.Engine.Maker
import BoundedRegex.Memory.Dialog
import BoundedRegex.Pattern.Diagnostic

/-!
# Engines over a library

A regex library compiles patterns and searches with what it has compiled. It takes all its memory in
dialogs with whoever it works for. What it makes are contexts, codes and buffers, and each of them
holds blocks until it is freed; making one may fail.

The engine over a library carries out these dialogs with one source. It is made of three contexts. If
one of them cannot be made, those before it are freed again, and the engine is not made. The contexts
only hold memory: the bound on a search is told to the library with each search.

A search comes to a status. Two negative ones say that there is no match and that the bound has been
exceeded; any other negative one is the code of an error. A positive status says how many pairs of
offsets reach to the last group set, and zero stands for all pairs.
-/
namespace BoundedRegex
open Memory

/-- A part of an engine. -/
inductive Context where
  | general
  | compile
  | matching
  deriving DecidableEq, Repr

def Context.name : Context → String
  | .general => "general"
  | .compile => "compile"
  | .matching => "match"

structure Library where
  /-- What has been made for a context. -/
  Holder : Type
  Code : Type
  Buffer : Type
  /-- The offset that marks groups without a part in a match. -/
  unset : UInt64
  makeContext : Context → Dialog (Option Holder)
  freeContext : Holder → Dialog Unit
  compile : String → Flags → Dialog (Except CompileFailure Code)
  freeCode : Code → Dialog Unit
  makeBuffer : Code → Dialog (Option Buffer)
  freeBuffer : Buffer → Dialog Unit
  /-- Searches a subject from a start on, with so much effort at most. -/
  search : Code → ByteArray → Nat → UInt32 → Buffer → Dialog (Int × Buffer)
  offsets : Buffer → List UInt64
  groupCount : Code → Nat
  /-- The number of the group of a name, or a negative status. -/
  groupNumber : Code → String → Int
  /-- The text of an error code, if it has one. -/
  text? : Int → Option String

/-- The flags that a library is told: the named ones, with characters instead of bytes whenever
character properties are asked for. -/
def effective (f : Flags) : Flags :=
  let named := Flags.truncate f.bits
  if f.has .ucp then named.union ⟨Flag.utf8.bit⟩ else named

def noMatchStatus : Int := -1

/-- The status of a search that has exceeded its bound. -/
def limitStatus : Int := -47

/-- What a status says about a search whose match has these offsets. -/
def Execution.ofStatus (status : Int) (offsets : List UInt64) : Execution :=
  if status = noMatchStatus then .noMatch
  else if status = limitStatus then .depthLimitExceeded
  else if status < 0 then .failed status
  else if status = 0 then .matched (offsets.length / 2)
  else .matched status.toNat

namespace Library

/-- What has been made for the contexts of an engine. -/
structure Contexts (L : Library) where
  general : L.Holder
  compile : L.Holder
  matching : L.Holder

/-- Makes the contexts of an engine, or else says which one failed and keeps none. -/
def makeContexts (L : Library) : Dialog (Except Context L.Contexts) := do
  let some general ← L.makeContext .general | return .error .general
  let some compile ← L.makeContext .compile | do
    L.freeContext general
    return .error .compile
  let some matching ← L.makeContext .matching | do
    L.freeContext compile
    L.freeContext general
    return .error .matching
  return .ok ⟨general, compile, matching⟩

def freeContexts (L : Library) (c : L.Contexts) : Dialog Unit := do
  L.freeContext c.matching
  L.freeContext c.compile
  L.freeContext c.general

/-- The number of the group of a name. Names end before a zero character, so none holds one. -/
def groupNumber? (L : Library) (code : L.Code) (name : String) : Option Nat :=
  if name.toList.any (·.toNat == 0) then none
  else
    let status := L.groupNumber code name
    if status < 0 then none else some status.toNat

variable {σ : Type}

/-- The engine over a library, whose memory comes from a source. -/
def engine (L : Library) (S : Source σ) : Engine σ where
  Code := L.Code
  Buffer := L.Buffer
  unset := L.unset
  compile pattern flags := (L.compile pattern (effective flags)).run S
  makeBuffer code := (L.makeBuffer code).run S
  execute code subject start limit buffer s :=
    let ((status, buffer), s) := (L.search code subject start limit buffer).run S s
    (.ofStatus status (L.offsets buffer), buffer, s)
  output buffer s := (L.offsets buffer, s)
  groupCount code s := (L.groupCount code, s)
  groupNumber? code name s := (L.groupNumber? code name, s)
  message code s := (Pattern.report (L.text? code), s)
  releaseCode code s := ((L.freeCode code).run S s).2
  releaseBuffer buffer s := ((L.freeBuffer buffer).run S s).2

def start (L : Library) (S : Source σ) (s : σ) : Except Abort L.Contexts × σ :=
  match L.makeContexts.run S s with
  | (.ok c, s) => (.ok c, s)
  | (.error context, s) => (.error (.noContext context.name), s)

def maker (L : Library) (S : Source σ) : Maker σ where
  engine := L.engine S
  Own := L.Contexts
  make := L.start S
  unmake c s := ((L.freeContexts c).run S s).2

end Library

end BoundedRegex
