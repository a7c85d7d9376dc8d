/-!
# UTF-8 in byte arrays

Reading characters forwards and backwards, writing them, and finding the first fault of bytes that
are not UTF-8. Readers assume checked bytes; on others they still answer, with no promise about the
code point. A position past the end reads as a zero byte.
-/
namespace BoundedRegex.Text

/-- The byte at a position, zero past the end. -/
@[inline] def byteAt (bytes : ByteArray) (i : Nat) : Nat :=
  if h : i < bytes.size then bytes[i].toNat else 0

/-- Bytes `10xxxxxx` continue a character. -/
def isContinuation (b : Nat) : Bool := b / 64 == 2

/-- The payload of a continuation byte. -/
def payload (b : Nat) : Nat := b % 64

/-- How many bytes a character takes, judged by its first byte. -/
def widthOf (first : Nat) : Nat :=
  if first < 0xC0 then 1
  else if first < 0xE0 then 2
  else if first < 0xF0 then 3
  else 4

/-- The code point that starts at a position. -/
def decodeAt (bytes : ByteArray) (i : Nat) : Nat :=
  let a := byteAt bytes i
  if a < 0xC0 then a
  else if a < 0xE0 then (a % 32) * 64 + payload (byteAt bytes (i + 1))
  else if a < 0xF0 then
    (a % 16) * 4096 + payload (byteAt bytes (i + 1)) * 64 + payload (byteAt bytes (i + 2))
  else
    (a % 8) * 262144 + payload (byteAt bytes (i + 1)) * 4096 +
      payload (byteAt bytes (i + 2)) * 64 + payload (byteAt bytes (i + 3))

/-- The start of the character that holds the byte at a position. -/
def startOfChar (bytes : ByteArray) : Nat → Nat
  | 0 => 0
  | i + 1 => if isContinuation (byteAt bytes (i + 1)) then startOfChar bytes i else i + 1

/-- The start of the character before a position; the start itself has none before it. -/
def previousChar (bytes : ByteArray) (i : Nat) : Nat :=
  startOfChar bytes (i - 1)

/-- The bytes of a code point. -/
def encode (c : Nat) : List Nat :=
  if c < 0x80 then [c]
  else if c < 0x800 then [0xC0 + c / 64, 0x80 + c % 64]
  else if c < 0x10000 then [0xE0 + c / 4096, 0x80 + c / 64 % 64, 0x80 + c % 64]
  else [0xF0 + c / 262144, 0x80 + c / 4096 % 64, 0x80 + c / 64 % 64, 0x80 + c % 64]

/-- What can be wrong with a sequence of bytes. -/
inductive Utf8Fault where
  /-- The text ends where this many bytes are missing. -/
  | missing (count : Nat)
  /-- The byte at this place of a character, counted from one, is no continuation. -/
  | notContinuation (place : Nat)
  /-- A character of five or six bytes. -/
  | tooWide (width : Nat)
  /-- A code point past the last one. -/
  | tooLarge
  /-- A code point reserved for surrogates. -/
  | surrogate
  /-- A character of this width that a shorter one could write. -/
  | overlong (width : Nat)
  /-- A continuation byte with nothing to continue. -/
  | isolated
  /-- A byte that starts nothing. -/
  | illegal
  deriving DecidableEq, Repr

/-- How many bytes follow a first byte of at least `0xC0`, older and wider forms included. -/
def following (first : Nat) : Nat :=
  if first < 0xE0 then 1
  else if first < 0xF0 then 2
  else if first < 0xF8 then 3
  else if first < 0xFC then 4
  else 5

/-- The first place among those given where a byte does not continue the character at `i`. -/
def badPlace? (bytes : ByteArray) (i : Nat) (places : List Nat) : Option Nat :=
  places.find? fun p => !isContinuation (byteAt bytes (i + p - 1))

/-- The fault of the character at `i`, which has more than one byte and lies inside the text. -/
def wideFault? (bytes : ByteArray) (i : Nat) : Option Utf8Fault :=
  let a := byteAt bytes i
  let b := byteAt bytes (i + 1)
  let n := following a
  match badPlace? bytes i ((List.range n).map (· + 2)) with
  | some p => some (.notContinuation p)
  | none =>
    match n with
    | 1 => if a % 64 / 2 == 0 then some (.overlong 2) else none
    | 2 =>
      if a == 0xE0 && b < 0xA0 then some (.overlong 3)
      else if a == 0xED && b ≥ 0xA0 then some .surrogate
      else none
    | 3 =>
      if a == 0xF0 && b < 0x90 then some (.overlong 4)
      else if a > 0xF4 || (a == 0xF4 && b > 0x8F) then some .tooLarge
      else none
    | 4 => if a == 0xF8 && b < 0x88 then some (.overlong 5) else some (.tooWide 5)
    | _ => if a == 0xFC && b < 0x84 then some (.overlong 6) else some (.tooWide 6)

/-- The first fault at or after position `i`, if there is one. -/
def fault? (bytes : ByteArray) (i : Nat) : Option Utf8Fault :=
  if i < bytes.size then
    let a := byteAt bytes i
    if a < 0x80 then fault? bytes (i + 1)
    else if a < 0xC0 then some .isolated
    else if a ≥ 0xFE then some .illegal
    else
      let n := following a
      if bytes.size - i - 1 < n then some (.missing (n - (bytes.size - i - 1)))
      else
        match wideFault? bytes i with
        | some e => some e
        | none => fault? bytes (i + 1 + n)
  else none
termination_by bytes.size - i

end BoundedRegex.Text
