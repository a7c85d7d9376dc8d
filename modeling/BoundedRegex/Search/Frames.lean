/-!
# Memory for entries

Each entry of an attempt keeps a frame of fixed size until it is left. The frames lie in one block of
memory, which is made before the first attempt and replaced by a larger one when entries are nested
too deeply for it. What limits the block is counted in units of 1024 bytes.
-/
namespace BoundedRegex.Search

/-- The bytes of a frame: a fixed part, and a span for each group. -/
def frameSize (groups : Nat) : Nat := 136 + 16 * groups

def leastBlock : Nat := 20480

/-- The size of the first block: ten frames or the least size, or else as much as the limit allows, if
that is a frame. -/
def firstBlock? (limit groups : Nat) : Option Nat :=
  let size := max (10 * frameSize groups) leastBlock
  if size / 1024 > limit then
    if 1024 * limit < frameSize groups then none else some (1024 * limit)
  else some size

/-- How many entries a block has room for before it must be replaced. -/
def roomOf (groups block : Nat) : Nat := (block - 1) / frameSize groups

/-- The size of the block that replaces one which is too small: twice as much, or as much as the limit
allows, if that is more and holds another frame. -/
def nextBlock? (limit groups block : Nat) : Option Nat :=
  let doubled := 2 * block
  let next :=
    if doubled / 1024 ≥ limit then
      if limit ≤ block / 1024 then block
      else
        let short := if block % 1024 = 0 then 0 else 1024 - block % 1024
        block + 1024 * (limit - block / 1024) - short
    else doubled
  if next ≤ block || next < (roomOf groups block + 1) * frameSize groups then none else some next

/-- The sizes of the blocks that come after one until an entry of a certain depth has room, or until
no larger block is allowed. `fuel` bounds their number. -/
def blocksFor (limit groups depth : Nat) : Nat → Nat → List Nat
  | 0, _ => []
  | fuel + 1, block =>
    if depth < roomOf groups block then []
    else
      match nextBlock? limit groups block with
      | some next => next :: blocksFor limit groups depth fuel next
      | none => []

/-- Blocks double, so that no more than this many are ever needed. -/
def blockFuel : Nat := 64

/-- How many entries the largest block that may follow one has room for. -/
def greatestRoom (limit groups block : Nat) : Nat :=
  let blocks := blocksFor limit groups 0x10000000000000000 blockFuel block
  roomOf groups (blocks.getLastD block)

end BoundedRegex.Search
