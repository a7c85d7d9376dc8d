import BoundedRegex.Flags

/-!
# Words of options

A library that is told flags as the bits of a word has its own places for them, and no use for bits
without a name. The word for a set of flags is put together flag by flag, by what is set in it. Character
properties are honoured for characters only, so who asks for the one is given the other as well.

Such a library finds in the word which flags it has been told.
-/
namespace BoundedRegex

/-- Where a library has its options in a word of 32 bits. -/
structure OptionPlaces where
  place : Flag → Fin 32
  distinct : Function.Injective place

namespace OptionPlaces

variable (o : OptionPlaces)

def bit (x : Flag) : UInt32 := ⟨BitVec.twoPow 32 (o.place x)⟩

/-- What is put into a word for a flag. -/
def told : Flag → UInt32
  | .ucp => o.bit .ucp ||| o.bit .utf8
  | x => o.bit x

/-- The word for a set of flags. -/
def options (f : Flags) : UInt32 :=
  Flag.all.foldl (fun w x => if f.has x then w ||| o.told x else w) 0

/-- The flags that a word tells. -/
def flagsOf (w : UInt32) : Flags :=
  Flag.all.foldl (fun f x => if w &&& o.bit x != 0 then f.union ⟨x.bit⟩ else f) .empty

end OptionPlaces

namespace Backtracking

def optionPlace : Flag → Fin 32
  | .caseless => 3
  | .dotAll => 5
  | .extended => 7
  | .multiline => 10
  | .ucp => 17
  | .utf8 => 19

/-- Where the options of the backtracking library are. -/
def optionPlaces : OptionPlaces where
  place := optionPlace
  distinct x y h := by cases x <;> cases y <;> first | rfl | cases h

end Backtracking

end BoundedRegex
