import BoundedRegex.Search.Attempt

/-!
# Faults of searches

Why a search ends without an answer. Every cause has a fixed negative code. The code of an exceeded
bound on entries is one of them, which callers tell apart from the others.
-/
namespace BoundedRegex.Search
open Text

/-- Why a search ends without an answer. -/
inductive Fault where
  | startPastEnd
  | startInsideCharacter
  | notText (f : Utf8Fault)
  | noMemory
  | exceeded (x : Excess)
  | broken (b : Breakdown)
  deriving DecidableEq, Repr

def textCode : Utf8Fault → Int
  | .missing count => -2 - (count : Int)
  | .notContinuation place => -6 - (place : Int)
  | .tooWide width => -8 - (width : Int)
  | .tooLarge => -15
  | .surrogate => -16
  | .overlong width => -15 - (width : Int)
  | .isolated => -22
  | .illegal => -23

def Fault.code : Fault → Int
  | .startPastEnd => -33
  | .startInsideCharacter => -36
  | .notText f => textCode f
  | .noMemory => -48
  | .exceeded .entries => -47
  | .exceeded .nesting => -53
  | .exceeded .memory => -63
  | .broken .endlessCall => -52
  | .broken .misplacedStart => -75
  | .broken .strayAccept => -999
  | .broken .stuck => -44

end BoundedRegex.Search
