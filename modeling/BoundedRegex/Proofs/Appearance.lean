import BoundedRegex.Proofs.Events
import BoundedRegex.Proofs.Lockstep
import BoundedRegex.Proofs.Searches

/-!
# How matchers are shown

A matcher is shown with its pattern, its flags, whether it has a pattern at all, and its limit, on one line
or spread over several. Either way these four can be read back from the text. The pattern is quoted, so it
ends where its quotes end and cannot pass for what comes after it; the text of a set of flags has neither a
parenthesis nor a comma, of which one comes after it.

So two matchers are shown alike only if they agree on all four. A matcher without a pattern is not shown
like one whose pattern is empty.
-/
namespace BoundedRegex
open Text

/-! ## Flags inside a text -/

namespace Flags

/-- Whether a character may stand in the text of a set of flags that is shown. -/
def isInner (c : Char) : Bool := c != ')' && c != ','

/-- The text of a set that is shown, without the name around it. -/
def inner (f : Flags) : String := if f.isEmpty then "0x0" else f.text

theorem forall_mem_intercalate {p : Char → Prop} {sep : List Char} (hsep : ∀ c ∈ sep, p c)
    {parts : List (List Char)} (h : ∀ part ∈ parts, ∀ c ∈ part, p c) : ∀ c ∈ sep.intercalate parts, p c := by
  induction parts with
  | nil => exact List.forall_mem_nil p
  | cons first rest ih =>
    obtain ⟨hfirst, hrest⟩ := List.forall_mem_cons.mp h
    cases rest with
    | nil => rwa [List.intercalate_singleton]
    | cons second rest =>
      rw [List.intercalate_cons_cons]
      intro c hc
      rcases List.mem_append.mp hc with before | after
      · exact (List.mem_append.mp before).elim (hfirst c) (hsep c)
      · exact ih hrest c after

theorem isInner_hexText (bits : UInt32) : ∀ c ∈ (hexText bits).toList, isInner c := by
  rw [toList_hexText, List.forall_mem_cons, List.forall_mem_cons]
  refine ⟨by decide, by decide, fun c hc => ?_⟩
  obtain ⟨d, hd, rfl⟩ := exists_digitChar hc
  clear hc
  revert d
  decide

theorem isInner_inner (f : Flags) : ∀ c ∈ f.inner.toList, isInner c := by
  rw [inner]
  split
  · exact List.all_eq_true.mp (by decide)
  · have names (x : Flag) : ∀ c ∈ x.name.toList, isInner c := by
      apply List.all_eq_true.mp
      cases x <;> decide
    rw [text, String.toList_intercalate]
    apply forall_mem_intercalate (List.all_eq_true.mp (by decide))
    rw [List.forall_mem_map]
    intro part hpart
    rcases List.mem_append.mp hpart with named | unnamed
    · obtain ⟨x, -, rfl⟩ := List.mem_map.mp named
      exact names x
    · split at unnamed
      · cases unnamed
      · cases List.mem_singleton.mp unnamed
        exact isInner_hexText f.rest

/-- Reads flags up to the first character that is none of their text. -/
def readInner (cs : List Char) : Option (Flags × List Char) :=
  (ofText? (String.ofList (cs.takeWhile isInner))).map (·, cs.dropWhile isInner)

theorem readInner_inner (f : Flags) {rest : List Char} (h : rest.head?.all (!isInner ·)) :
    readInner (f.inner.toList ++ rest) = some (f, rest) := by
  have ends : rest.takeWhile isInner = [] ∧ rest.dropWhile isInner = rest := by
    cases rest with
    | nil => exact ⟨rfl, rfl⟩
    | cons c cs =>
      have outer : isInner c = false := by simpa using h
      exact ⟨List.takeWhile_cons_of_neg (by simp [outer]), List.dropWhile_cons_of_neg (by simp [outer])⟩
  rw [readInner, List.takeWhile_append_of_pos f.isInner_inner, List.dropWhile_append_of_pos f.isInner_inner,
    ends.1, ends.2, List.append_nil, String.ofList_toList, inner, ofText?_text, Option.map_some]

end Flags

/-! ## Matchers -/

namespace Matcher

/-- The fixed texts before, between and after what is shown of a matcher. -/
structure Layout where
  pattern : String
  flags : String
  prepared : String
  limit : String
  closing : String

/-- On one line, or spread over lines. -/
def layout (spreadOut : Bool) : Layout :=
  if spreadOut then
    { pattern := "Matcher \x7b\n    pattern: ", flags := ",\n    flags: Flags(\n        "
      prepared := ",\n    ),\n    prepared: ", limit := ",\n    depth_limit: ", closing := ",\n\x7d" }
  else
    { pattern := "Matcher \x7b pattern: ", flags := ", flags: Flags(", prepared := "), prepared: "
      limit := ", depth_limit: ", closing := " \x7d" }

def readTruth (cs : List Char) : Option (Bool × List Char) :=
  (Event.after "true" cs).map (true, ·) <|> (Event.after "false" cs).map (false, ·)

/-- Reads what a matcher reports of itself from the text that it is shown as. -/
def Layout.read (l : Layout) (text : String) : Option Reply := do
  let (pattern, cs) ← readQuoted (← Event.after l.pattern text.toList)
  let (flags, cs) ← Flags.readInner (← Event.after l.flags cs)
  let (prepared, cs) ← readTruth (← Event.after l.prepared cs)
  let (limit, _) ← readNat (← Event.after l.limit cs)
  return .inspected prepared pattern flags (UInt32.ofNat limit)

theorem readTruth_truth (b : Bool) (rest : List Char) :
    readTruth ((if b then "true" else "false").toList ++ rest) = some (b, rest) := by
  cases b with
  | true => rw [if_pos rfl, readTruth, Event.after_append]; rfl
  | false =>
    have other : Event.after "true" ("false".toList ++ rest) = none := rfl
    rw [if_neg Bool.false_ne_true, readTruth, other, Event.after_append]
    rfl

variable {σ τ : Type} {E : Engine σ} {A : Engine τ}

/-- What is shown of a matcher stands between the fixed texts. -/
theorem toList_shown (m : Matcher E) (spreadOut : Bool) :
    (m.shown.render spreadOut).toList =
      (layout spreadOut).pattern.toList ++ ((quoted m.pattern).toList ++
        ((layout spreadOut).flags.toList ++ (m.flags.inner.toList ++
          ((layout spreadOut).prepared.toList ++ ((if m.prepared.isSome then "true" else "false").toList ++
            ((layout spreadOut).limit.toList ++ ((toString m.depthLimit.toNat).toList ++
              (layout spreadOut).closing.toList))))))) := by
  have plain : m.shown.render false =
      "Matcher" ++ " \x7b " ++ ("pattern" ++ ": " ++ quoted m.pattern ++ ", " ++
        ("flags" ++ ": " ++ ("Flags" ++ "(" ++ m.flags.inner ++ ")")) ++ ", " ++
        ("prepared" ++ ": " ++ if m.prepared.isSome then "true" else "false") ++ ", " ++
        ("depth_limit" ++ ": " ++ toString m.depthLimit.toNat)) ++ " \x7d" := rfl
  have spread : m.shown.render true =
      "Matcher" ++ " \x7b\n" ++ (Shown.indent 1 ++ "pattern" ++ ": " ++ quoted m.pattern ++ ",\n" ++
        (Shown.indent 1 ++ "flags" ++ ": " ++ ("Flags" ++ "(\n" ++
          (Shown.indent 2 ++ m.flags.inner ++ ",\n" ++ "") ++ Shown.indent 1 ++ ")") ++ ",\n" ++
        (Shown.indent 1 ++ "prepared" ++ ": " ++ (if m.prepared.isSome then "true" else "false") ++ ",\n" ++
        (Shown.indent 1 ++ "depth_limit" ++ ": " ++ toString m.depthLimit.toNat ++ ",\n" ++ "")))) ++
        Shown.indent 0 ++ "\x7d" := rfl
  cases spreadOut with
  | false =>
    rw [plain]
    simp only [String.toList_append, List.append_assoc]
    rfl
  | true =>
    rw [spread]
    simp only [String.toList_append, List.append_assoc]
    rfl

/-- What a matcher reports of itself is read back from the text that it is shown as. -/
theorem read_shown (m : Matcher E) (spreadOut : Bool) :
    (layout spreadOut).read (m.shown.render spreadOut) = some m.inspected := by
  have flagsEnd (rest : List Char) :
      ((layout spreadOut).prepared.toList ++ rest).head?.all (!Flags.isInner ·) := by
    cases spreadOut <;> rfl
  have limitEnds : Stops (layout spreadOut).closing.toList := by
    rw [← List.append_nil (String.toList _)]
    apply stops_append
    cases spreadOut <;> rfl
  rw [Layout.read, toList_shown]
  simp only [bind, Option.bind_some, Event.after_append, readQuoted_quoted,
    Flags.readInner_inner _ (flagsEnd _), readTruth_truth, readNat_toString _ limitEnds, UInt32.ofNat_toNat]
  rfl

/-- Matchers are shown alike if and only if they report the same of themselves. -/
theorem shown_eq_iff {m : Matcher E} {n : Matcher A} {spreadOut : Bool} :
    m.shown.render spreadOut = n.shown.render spreadOut ↔ m.inspected = n.inspected := by
  constructor
  · intro h
    have read := read_shown m spreadOut
    rw [h, read_shown] at read
    exact (Option.some.inj read).symm
  · intro h
    rw [Bench.shown_of_inspected h]

theorem inspected_eq_iff {m : Matcher E} {n : Matcher A} :
    m.inspected = n.inspected ↔
      m.pattern = n.pattern ∧ m.flags = n.flags ∧ m.prepared.isSome = n.prepared.isSome ∧
        m.depthLimit = n.depthLimit := by
  constructor
  · intro h
    obtain ⟨isSome, pattern, flags, limit⟩ := Reply.inspected.inj h
    exact ⟨pattern, flags, isSome, limit⟩
  · rintro ⟨pattern, flags, isSome, limit⟩
    rw [inspected, inspected, pattern, flags, isSome, limit]

end Matcher

/-- Matchers of any engines and with any past are described by the same text if and only if they agree on
the pattern, on the flags, on whether they are prepared, and on the limit. -/
theorem Bench.described_alike_iff {σ τ : Type} {E : Engine σ} {A : Engine τ} (b : Bench E) (a : Bench A)
    (spreadOut : Bool) :
    ∃ t t', b.reply (.describe spreadOut) = .ok (.text t) ∧ a.reply (.describe spreadOut) = .ok (.text t') ∧
      (t = t' ↔ b.matcher.pattern = a.matcher.pattern ∧ b.matcher.flags = a.matcher.flags ∧
        b.matcher.prepared.isSome = a.matcher.prepared.isSome ∧
        b.matcher.depthLimit = a.matcher.depthLimit) :=
  ⟨_, _, rfl, rfl, Matcher.shown_eq_iff.trans Matcher.inspected_eq_iff⟩

end BoundedRegex
