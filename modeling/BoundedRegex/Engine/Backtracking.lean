import BoundedRegex.Engine.Library
import BoundedRegex.Search

/-!
# The backtracking library

The library that compiles patterns to programs and searches with them. It takes a block for each
context, one for each code, and for each buffer one for the offsets and one for the entries of its
searches. The last is taken by the first search that needs it, grows with later ones, and belongs to
the buffer.

The bound of a search is on the entries of each attempt.
-/
namespace BoundedRegex.Backtracking
open Memory Pattern Search

def contextSize : Context → Nat
  | .general => 24
  | .compile => 88
  | .matching => 104

/-! ## Codes -/

/-- What has been compiled. -/
structure Code where
  program : Program
  block : Nat

/-- What flags set for a whole pattern. -/
def settingsOf (f : Flags) : Settings := { utf := f.has .utf8, ucp := f.has .ucp }

/-- What flags set at the start of a pattern. -/
def optionsOf (f : Flags) : Options :=
  { caseless := f.has .caseless, multiline := f.has .multiline, dotAll := f.has .dotAll
    extended := f.has .extended }

def codeSize (p : Program) : Nat := 160 + 16 * (p.groups + p.names.length)

def failureOf (f : Pattern.Fault) : CompileFailure := ⟨f.cause.code, f.offset⟩

def compile (pattern : String) (flags : Flags) : Dialog (Except CompileFailure Code) :=
  let bytes := pattern.toUTF8
  match Program.draft bytes (settingsOf flags) (optionsOf flags) with
  | .error fault => return .error (failureOf fault)
  | .ok draft => do
    let some block ← Dialog.request (codeSize draft.program)
      | return .error (failureOf ⟨.noMemory, bytes.size⟩)
    match draft.late with
    | some fault =>
      Dialog.release (some block)
      return .error (failureOf fault)
    | none => return .ok ⟨draft.program, block⟩

/-! ## Buffers -/

/-- An output buffer, with its own block and one for entries. -/
structure Buffer where
  block : Block
  frames : Option Block := none
  offsets : List UInt64
  deriving DecidableEq, Repr

/-- The offset that marks groups without a part in a match. -/
def unset : UInt64 := 0xFFFFFFFFFFFFFFFF

def offsetCount (p : Program) : Nat := 2 * (p.groups + 1)

def bufferSize (p : Program) : Nat := 96 + 8 * offsetCount p

def makeBuffer (code : Code) : Dialog (Option Buffer) := do
  let size := bufferSize code.program
  let some address ← Dialog.request size | return none
  return some
    { block := ⟨address, size⟩, offsets := List.replicate (offsetCount code.program) unset }

/-- Replaces the block for entries by blocks of these sizes in turn, until one is refused. Says whether
none was. -/
def replaceFrames : List Nat → Buffer → Dialog (Bool × Buffer)
  | [], b => return (true, b)
  | size :: rest, b => do
    let some address ← Dialog.request size | return (false, b)
    Dialog.release (b.frames.map (·.address))
    replaceFrames rest { b with frames := some ⟨address, size⟩ }

/-- The sizes of the blocks that entries of a certain depth need one after another. -/
def frameBlocks (p : Program) (frames : Option Block) (depth : Nat) : List Nat :=
  match frames with
  | some f => blocksFor p.heapLimit p.groups depth blockFuel f.size
  | none =>
    match firstBlock? p.heapLimit p.groups with
    | some first => first :: blocksFor p.heapLimit p.groups depth blockFuel first
    | none => []

def offsetsOf (r : Registers) : List UInt64 :=
  UInt64.ofNat r.start :: UInt64.ofNat r.pos ::
    r.captures.toList.flatMap fun g =>
      match g with
      | some (p, q) => [UInt64.ofNat p, UInt64.ofNat q]
      | none => [unset, unset]

/-- How many pairs of offsets reach to the last group set. -/
def pairsOf (r : Registers) : Nat :=
  1 + (r.captures.toList.reverse.dropWhile (·.isNone)).length

/-- The status of what a search has come to, and the buffer with the offsets of a match. -/
def conclude (v : Verdict) (b : Buffer) : Int × Buffer :=
  match v with
  | .found r => (pairsOf r, { b with offsets := offsetsOf r })
  | .absent => (noMatchStatus, b)
  | .failed f => (f.code, b)

def search (code : Code) (subject : ByteArray) (start : Nat) (limit : UInt32) (b : Buffer) :
    Dialog (Int × Buffer) :=
  let p := code.program
  let report := p.search subject start limit.toNat ((b.frames.map (·.size)).getD 0)
  match report.deepest with
  | none => return conclude report.verdict b
  | some depth => do
    match ← replaceFrames (frameBlocks p b.frames depth) b with
    | (false, b) => return (Search.Fault.code .noMemory, b)
    | (true, b) => return conclude report.verdict b

/-! ## The library -/

def noGroupStatus : Int := -49

def library : Library where
  Holder := Nat
  Code := Code
  Buffer := Buffer
  unset := unset
  makeContext c := Dialog.request (contextSize c)
  freeContext address := Dialog.release (some address)
  compile := compile
  freeCode code := Dialog.release (some code.block)
  makeBuffer := makeBuffer
  freeBuffer b := do
    Dialog.release (b.frames.map (·.address))
    Dialog.release (some b.block.address)
  search := search
  offsets := (·.offsets)
  groupCount code := code.program.groups
  groupNumber code name :=
    match code.program.groupNumber? (byteChars name) with
    | some n => n
    | none => noGroupStatus
  text? := text?

def engine (a : Allocator) : Engine Memory := library.engine a.source

def shown : String := "Pcre2"

def shownCode : String := "Pcre2Code"

def shownBuffer : String := "Pcre2MatchData"

end BoundedRegex.Backtracking
