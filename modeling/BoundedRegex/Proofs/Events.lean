import BoundedRegex.Matcher.Log
import BoundedRegex.Proofs.Reading

/-!
# Reading the log

The texts of a log tell what has been reported, to the last detail. Each event can be read back from its
text alone, since patterns are quoted, numbers end where no digit follows, and sets of flags have a reader
of their own. So no pattern can pass for an event, however it is made, and neither can a message.
-/
namespace BoundedRegex
open Text

namespace Event

/-- What comes after a fixed text. -/
def after (fixed : String) (cs : List Char) : Option (List Char) := cs.dropPrefix? fixed.toList

theorem after_append (fixed : String) (rest : List Char) :
    after fixed (fixed.toList ++ rest) = some rest :=
  List.dropPrefix?_append_of_beq _ (beq_self_eq_true _)

/-- Reads why a pattern has been refused. -/
def readError (cs : List Char) : Option PrepareError :=
  if cs = PrepareError.outOfMemory.text.toList then some .outOfMemory
  else do
    let cs ← after "error at offset " cs
    let (offset, cs) ← readNat cs
    let message ← after ": " cs
    return .regex (String.ofList message) offset

def readPrepared (cs : List Char) : Option Event := do
  let cs ← after "prepared " cs
  let (pattern, cs) ← readQuoted cs
  let cs ← after " with Flags(" cs
  let flags ← Flags.ofText? (String.ofList cs.dropLast)
  return .prepared pattern flags

def readRefused (cs : List Char) : Option Event := do
  let cs ← after "failed to compile " cs
  let (pattern, cs) ← readQuoted cs
  let error ← readError (← after ": " cs)
  return .refused pattern error

def readNoBuffer (cs : List Char) : Option Event := do
  let cs ← after "no memory for capture buffer of " cs
  let (pattern, _) ← readQuoted cs
  return .noBuffer pattern

def readMatched (cs : List Char) : Option Event := do
  let (pattern, cs) ← readQuoted cs
  let cs ← after ": match from offset " cs
  let (start, cs) ← readNat cs
  let cs ← after ", " cs
  let (pairs, _) ← readNat cs
  return .matched pattern start pairs

def readLimitExceeded (cs : List Char) : Option Event := do
  let (pattern, cs) ← readQuoted cs
  let cs ← after ": depth limit of " cs
  let (limit, _) ← readNat cs
  return .limitExceeded pattern (UInt32.ofNat limit)

def readSearchFailed (cs : List Char) : Option Event := do
  let (pattern, cs) ← readQuoted cs
  let cs ← after ": search failed with code " cs
  let (code, cs) ← readInt cs
  let message ← after ": " cs
  return .searchFailed pattern code (String.ofList message)

/-- Reads an event. -/
def ofText? (text : String) : Option Event :=
  let cs := text.toList
  readPrepared cs <|> readRefused cs <|> readNoBuffer cs <|> readMatched cs <|> readLimitExceeded cs <|>
    readSearchFailed cs

/-! ## Texts, piece by piece -/

section
variable (pattern : String)

theorem inline_flags (f : Flags) :
    f.shown.inline = "Flags(" ++ (if f.isEmpty then "0x0" else f.text) ++ ")" := by
  simp [Flags.shown, Shown.inline, Shown.inlineItems]

theorem toList_regex (message : String) (offset : Nat) :
    (PrepareError.regex message offset).text.toList =
      "error at offset ".toList ++ ((toString offset).toList ++ (": ".toList ++ message.toList)) := by
  have written : (PrepareError.regex message offset).text =
      "error at offset " ++ toString offset ++ ": " ++ message := rfl
  rw [written]
  simp only [String.toList_append, List.append_assoc]

theorem toList_prepared (flags : Flags) :
    (prepared pattern flags).text.toList =
      "prepared ".toList ++ ((quoted pattern).toList ++ (" with Flags(".toList ++
        ((if flags.isEmpty then "0x0" else flags.text).toList ++ [')']))) := by
  have written : (prepared pattern flags).text =
      "prepared " ++ quoted pattern ++ " with " ++ flags.shown.inline := rfl
  have fixed (cs : List Char) : " with ".toList ++ ("Flags(".toList ++ (cs ++ ")".toList)) =
      " with Flags(".toList ++ (cs ++ [')']) := rfl
  rw [written, inline_flags]
  simp only [String.toList_append, List.append_assoc, fixed]

theorem toList_refused (error : PrepareError) :
    (refused pattern error).text.toList =
      "failed to compile ".toList ++ ((quoted pattern).toList ++ (": ".toList ++ error.text.toList)) := by
  have written : (refused pattern error).text =
      "failed to compile " ++ quoted pattern ++ ": " ++ error.text := rfl
  rw [written]
  simp only [String.toList_append, List.append_assoc]

theorem toList_noBuffer :
    (noBuffer pattern).text.toList =
      "no memory for capture buffer of ".toList ++ ((quoted pattern).toList ++ []) := by
  have written : (noBuffer pattern).text = "no memory for capture buffer of " ++ quoted pattern := rfl
  rw [written, String.toList_append, List.append_nil]

theorem toList_matched (start pairs : Nat) :
    (matched pattern start pairs).text.toList =
      (quoted pattern).toList ++ (": match from offset ".toList ++ ((toString start).toList ++
        (", ".toList ++ ((toString pairs).toList ++ " groups set".toList)))) := by
  have written : (matched pattern start pairs).text =
      quoted pattern ++ ": match from offset " ++ toString start ++ ", " ++ toString pairs ++
        " groups set" := rfl
  rw [written]
  simp only [String.toList_append, List.append_assoc]

theorem toList_limitExceeded (limit : UInt32) :
    (limitExceeded pattern limit).text.toList =
      (quoted pattern).toList ++ (": depth limit of ".toList ++ ((toString limit.toNat).toList ++
        " exceeded".toList)) := by
  have written : (limitExceeded pattern limit).text =
      quoted pattern ++ ": depth limit of " ++ toString limit.toNat ++ " exceeded" := rfl
  rw [written]
  simp only [String.toList_append, List.append_assoc]

theorem toList_searchFailed (code : Int) (message : String) :
    (searchFailed pattern code message).text.toList =
      (quoted pattern).toList ++ (": search failed with code ".toList ++ ((toString code).toList ++
        (": ".toList ++ message.toList))) := by
  have written : (searchFailed pattern code message).text =
      quoted pattern ++ ": search failed with code " ++ toString code ++ ": " ++ message := rfl
  rw [written]
  simp only [String.toList_append, List.append_assoc]

end

/-! ## Reading back -/

section
variable (pattern : String)

theorem readError_text (error : PrepareError) : readError error.text.toList = some error := by
  cases error with
  | outOfMemory => rfl
  | regex message offset =>
    have stops : Stops (": ".toList ++ message.toList) := stops_append (by decide) _
    rw [readError, toList_regex, if_neg nofun, after_append]
    simp only [bind, Option.bind_some, readNat_toString offset stops, after_append, String.ofList_toList]
    rfl

theorem readPrepared_text (flags : Flags) :
    readPrepared (prepared pattern flags).text.toList = some (.prepared pattern flags) := by
  rw [readPrepared, toList_prepared]
  simp only [bind, Option.bind_some, after_append, readQuoted_quoted, List.dropLast_concat,
    String.ofList_toList, Flags.ofText?_text]
  rfl

theorem readRefused_text (error : PrepareError) :
    readRefused (refused pattern error).text.toList = some (.refused pattern error) := by
  rw [readRefused, toList_refused]
  simp only [bind, Option.bind_some, after_append, readQuoted_quoted, readError_text]
  rfl

theorem readNoBuffer_text : readNoBuffer (noBuffer pattern).text.toList = some (.noBuffer pattern) := by
  rw [readNoBuffer, toList_noBuffer]
  simp only [bind, Option.bind_some, after_append, readQuoted_quoted]
  rfl

theorem readMatched_text (start pairs : Nat) :
    readMatched (matched pattern start pairs).text.toList = some (.matched pattern start pairs) := by
  have stops : Stops " groups set".toList := by
    rw [← List.append_nil (String.toList _)]
    exact stops_append (by decide) []
  have comma (cs : List Char) : Stops (", ".toList ++ cs) := stops_append (by decide) cs
  rw [readMatched, toList_matched]
  simp only [bind, Option.bind_some, after_append, readQuoted_quoted, readNat_toString _ (comma _),
    readNat_toString _ stops]
  rfl

theorem readLimitExceeded_text (limit : UInt32) :
    readLimitExceeded (limitExceeded pattern limit).text.toList = some (.limitExceeded pattern limit) := by
  have stops : Stops " exceeded".toList := by
    rw [← List.append_nil (String.toList _)]
    exact stops_append (by decide) []
  rw [readLimitExceeded, toList_limitExceeded]
  simp only [bind, Option.bind_some, after_append, readQuoted_quoted, readNat_toString _ stops,
    UInt32.ofNat_toNat]
  rfl

theorem readSearchFailed_text (code : Int) (message : String) :
    readSearchFailed (searchFailed pattern code message).text.toList =
      some (.searchFailed pattern code message) := by
  have stops : Stops (": ".toList ++ message.toList) := stops_append (by decide) _
  rw [readSearchFailed, toList_searchFailed]
  simp only [bind, Option.bind_some, after_append, readQuoted_quoted, readInt_toString _ stops,
    String.ofList_toList]
  rfl

end

/-- An event that starts with a pattern tells of a search. -/
theorem ofText?_of_quoted {text pattern : String} {rest : List Char}
    (h : text.toList = (quoted pattern).toList ++ rest) :
    ofText? text =
      (readMatched text.toList <|> readLimitExceeded text.toList <|> readSearchFailed text.toList) := by
  have others : readPrepared text.toList = none ∧ readRefused text.toList = none ∧
      readNoBuffer text.toList = none := by
    rw [h, quoted, String.toList_ofList]
    exact ⟨rfl, rfl, rfl⟩
  simp only [ofText?, others]
  rfl

/-- Each event is read back from its text. -/
theorem ofText?_text (e : Event) : ofText? e.text = some e := by
  -- The readers that come before the right one refuse the text, at its start or behind the pattern.
  cases e with
  | prepared pattern flags =>
    simp only [ofText?, readPrepared_text]
    rfl
  | refused pattern error =>
    have other : readPrepared (refused pattern error).text.toList = none := by
      rw [toList_refused]
      rfl
    simp only [ofText?, other, readRefused_text]
    rfl
  | noBuffer pattern =>
    have others : readPrepared (noBuffer pattern).text.toList = none ∧
        readRefused (noBuffer pattern).text.toList = none := by
      rw [toList_noBuffer]
      exact ⟨rfl, rfl⟩
    simp only [ofText?, others, readNoBuffer_text]
    rfl
  | matched pattern start pairs =>
    rw [ofText?_of_quoted (toList_matched pattern start pairs), readMatched_text]
    rfl
  | limitExceeded pattern limit =>
    have other : readMatched (limitExceeded pattern limit).text.toList = none := by
      rw [readMatched, toList_limitExceeded, readQuoted_quoted]
      rfl
    rw [ofText?_of_quoted (toList_limitExceeded pattern limit), other, readLimitExceeded_text]
    rfl
  | searchFailed pattern code message =>
    have others : readMatched (searchFailed pattern code message).text.toList = none ∧
        readLimitExceeded (searchFailed pattern code message).text.toList = none := by
      rw [readMatched, readLimitExceeded, toList_searchFailed, readQuoted_quoted]
      exact ⟨rfl, rfl⟩
    rw [ofText?_of_quoted (toList_searchFailed pattern code message), others.1, others.2,
      readSearchFailed_text]
    rfl

/-- No two events have the same text. -/
theorem text_injective : Function.Injective text := by
  intro e e' h
  have read := ofText?_text e
  rw [h, ofText?_text] at read
  exact (Option.some.inj read).symm

end Event
end BoundedRegex
