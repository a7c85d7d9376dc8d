import BoundedRegex.Pattern.Diagnostic
import BoundedRegex.Text.Utf8

/-!
# Asking for the text of an error code

A library is given some room for the text of an error code, and answers with a status. A positive status
says how many bytes of the room the text takes. An engine offers room for texts of a certain size only, and
reports what it reads there as characters. If a byte begins no character, a mark stands in the place of as
many bytes as might have begun one.
-/
namespace BoundedRegex
open Text

/-- The least and the greatest second byte of a character of three or four bytes. -/
def secondBytes (first : Nat) : Nat × Nat :=
  if first = 0xE0 then (0xA0, 0xBF)
  else if first = 0xED then (0x80, 0x9F)
  else if first = 0xF0 then (0x90, 0xBF)
  else if first = 0xF4 then (0x80, 0x8F)
  else (0x80, 0xBF)

/-- How many bytes from a position on might have begun a character. One, if none might. -/
def brokenWidth (bytes : ByteArray) (i : Nat) : Nat :=
  let first := byteAt bytes i
  let second := byteAt bytes (i + 1)
  let (least, greatest) := secondBytes first
  if 0xE0 ≤ first ∧ first ≤ 0xF4 ∧ least ≤ second ∧ second ≤ greatest then
    if 0xF0 ≤ first ∧ isContinuation (byteAt bytes (i + 2)) then 3 else 2
  else 1

theorem brokenWidth_pos (bytes : ByteArray) (i : Nat) : 0 < brokenWidth bytes i := by
  rw [brokenWidth]
  dsimp only
  repeat' split
  all_goals decide

/-- The characters from a position on, with marks in the places of what is none. -/
def mended (bytes : ByteArray) (i : Nat) : List Char :=
  if i < bytes.size then
    match bytes.utf8DecodeChar? i with
    | some c => c :: mended bytes (i + c.utf8Size)
    | none => Char.ofNat 0xFFFD :: mended bytes (i + brokenWidth bytes i)
  else []
termination_by bytes.size - i
decreasing_by
  · have := c.utf8Size_pos
    omega
  · have := brokenWidth_pos bytes i
    omega

/-- Bytes as characters. -/
def lossy (bytes : ByteArray) : String :=
  (String.fromUTF8? bytes).getD (String.ofList (mended bytes 0))

/-- What an engine reports for an error code. The library is asked with a code and some room, and answers
with a status and what the room holds then. -/
def described (ask : Int → Nat → Int × ByteArray) (code : Int) : String :=
  let (status, room) := ask code Pattern.reportRoom
  if status ≤ 0 then "" else lossy (room.extract 0 status.toNat)

end BoundedRegex
