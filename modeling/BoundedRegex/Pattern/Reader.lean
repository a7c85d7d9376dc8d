import BoundedRegex.Pattern.ClassText
import BoundedRegex.Pattern.Preamble

/-!
# Reading patterns

A pattern is read from left to right, one item a step. Groups that are open wait on a stack; each
holds its finished branches and the items of the branch at hand. The first fault ends the reading,
and its offset is the place that the reader had come to.
-/
namespace BoundedRegex.Pattern

/-- How deeply groups may be nested. -/
def maxNesting : Nat := 250

/-- A group that is open. Lists are in reverse. -/
structure OpenGroup where
  kind : GroupKind := .plain
  branches : List Node := []
  /-- The items of the branch at hand. -/
  items : List Node := []
  /-- The options to go back to when the group closes. -/
  outer : Options := {}
  /-- If branches share group numbers: the count to go back to, and the greatest so far. -/
  shared : Option (Nat × Nat) := none
  /-- The group is an assertion that decides a condition. -/
  decides : Bool := false
  /-- The group is atomic inside the group that closes with it. -/
  atomicInside : Bool := false

def OpenGroup.body (g : OpenGroup) : Node :=
  Node.ofBranches (Node.ofItems g.items.reverse :: g.branches).reverse

structure Reading where
  pos : Nat
  options : Options
  /-- Groups opened so far, by their numbers. -/
  groups : Nat := 0
  names : List NamedGroup := []
  top : OpenGroup := {}
  around : List OpenGroup := []
  /-- Everything is literal up to `\E`. -/
  quoting : Bool := false
  /-- A quantifier may follow. -/
  repeatable : Bool := false
  /-- A quantifier came last, which `+` or `?` may modify. -/
  modifiable : Bool := false
  /-- Two if an assertion must follow, which a callout may precede; one if it has. -/
  expecting : Nat := 0
  sharedNumbers : Bool := false

namespace Reading

/-- Adds an item that ends before `pos`. -/
def add (r : Reading) (node : Node) (repeatable : Bool) (pos : Nat) : Reading :=
  { r with
    top := { r.top with items := node :: r.top.items }
    repeatable := repeatable, modifiable := false, expecting := 0, pos := pos }

/-- Opens a group whose text goes on at `pos`. -/
def openGroup (r : Reading) (g : OpenGroup) (pos : Nat) : Reading :=
  { r with
    around := r.top :: r.around
    top := { g with outer := r.options }
    repeatable := false, modifiable := false, expecting := 0, pos := pos }

/-- Goes on without an item. -/
def pass (r : Reading) (pos : Nat) : Reading :=
  { r with repeatable := false, modifiable := false, expecting := 0, pos := pos }

/-- A capturing group, or a plain one where parentheses do not capture. -/
def openParenthesis (r : Reading) (pos : Nat) : Except Fault Reading :=
  if r.options.noAutoCapture then .ok (r.openGroup { kind := .plain } pos)
  else if r.groups ≥ maxGroup then failAt .tooManyGroups pos
  else
    .ok ({ r with groups := r.groups + 1 }.openGroup { kind := .capture (r.groups + 1) } pos)

/-- Closes the innermost group at a parenthesis behind which `pos` stands. -/
def close (r : Reading) (pos : Nat) : Except Fault Reading :=
  match r.around with
  | [] => failAt .unmatchedParenthesis (pos - 1)
  | outer :: around =>
    let g := r.top
    let body := if g.atomicInside then .seq (.group .atomic g.body) .empty else g.body
    let groups :=
      match g.shared with
      | some (_, greatest) => max greatest r.groups
      | none => r.groups
    .ok { r with
      top := { outer with items := .group g.kind body :: outer.items }
      around := around, options := g.outer, groups := groups
      repeatable := !g.decides, modifiable := false, expecting := 0, pos := pos }

def nextBranch (r : Reading) (pos : Nat) : Reading :=
  let g := r.top
  let (shared, groups) :=
    match g.shared with
    | some (start, greatest) => (some (start, max greatest r.groups), start)
    | none => (none, r.groups)
  { r with
    top := { g with
      branches := Node.ofItems g.items.reverse :: g.branches, items := [], shared := shared }
    groups := groups, repeatable := false, modifiable := false, expecting := 0, pos := pos }

/-- Gives the last item a quantifier that ends before `pos`. -/
def quantify (r : Reading) (counts : Counts) (pos : Nat) : Except Fault Reading :=
  if !r.repeatable then failAt .nothingToRepeat (pos - 1)
  else
    let greed : Greed := if r.options.ungreedy then .lazy else .greedy
    match r.top.items with
    | item :: rest =>
      let item := match item with
        | .accept => .group .plain (.seq .accept .empty)
        | item => item
      .ok { r with
        top := { r.top with items := .repeated item ⟨counts.lo, counts.hi, greed⟩ :: rest }
        repeatable := false, modifiable := true, expecting := 0, pos := pos }
    | [] => failAt .nothingToRepeat (pos - 1)

/-- Modifies the last quantifier: `+` makes it possessive, `?` turns its greed around. -/
def modify (r : Reading) (possessive : Bool) (pos : Nat) : Reading :=
  match r.top.items with
  | .repeated item q :: rest =>
    let greed : Greed :=
      if possessive then .possessive else if q.greed == .greedy then .lazy else .greedy
    { r with
      top := { r.top with items := .repeated item { q with greed := greed } :: rest }
      modifiable := false, pos := pos }
  | _ => { r with modifiable := false, pos := pos }

/-- Gives a name to the group that has just been numbered. A name may come back for the same number,
for others only where duplicates are allowed; a number has one name. -/
def name (r : Reading) (name : List Char) (pos : Nat) : Except Fault Reading :=
  go r.names
where
  go : List NamedGroup → Except Fault Reading
    | [] =>
      if r.names.length ≥ maxNames then failAt .tooManyNames pos
      else .ok { r with names := r.names ++ [⟨name, r.groups⟩] }
    | g :: rest =>
      if g.name == name then
        if g.number == r.groups then .ok r
        else if !r.options.duplicateNames then failAt .duplicateName pos
        else go rest
      else if g.number == r.groups then failAt .conflictingNames pos
      else go rest

end Reading

/-! ## Verbs and named assertions -/

/-- What a verb's name stands for, and whether it must have an argument. -/
inductive VerbName where
  | mark | accept | fail | commit | prune | skip | next
  deriving DecidableEq, Repr

def verbOfName? (name : List Char) : Option VerbName :=
  match String.ofList name with
  | "" => some .mark
  | "MARK" => some .mark
  | "ACCEPT" => some .accept
  | "F" => some .fail
  | "FAIL" => some .fail
  | "COMMIT" => some .commit
  | "PRUNE" => some .prune
  | "SKIP" => some .skip
  | "THEN" => some .next
  | _ => none

/-- The items of a verb with its argument. Verbs that end a branch keep their argument as a mark. -/
def VerbName.items (v : VerbName) (argument : Option (List Nat)) : List Node :=
  match v, argument with
  | .mark, some name => [.verb (.mark name)]
  | .mark, none => []
  | .accept, some name => [.verb (.mark name), .accept]
  | .accept, none => [.accept]
  | .fail, some name => [.verb (.mark name), .fail]
  | .fail, none => [.fail]
  | .commit, _ => [.verb .commit]
  | .prune, _ => [.verb .prune]
  | .skip, none => [.verb .skip]
  | .skip, some name => [.verb (.skipTo name)]
  | .next, _ => [.verb .next]

/-- Reads a verb whose name starts at `i`. -/
def readVerb (s : Source) (r : Reading) (i : Nat) : Except Fault Reading :=
  let stop := s.skipWhile isWordChar i
  if stop - i > maxNameLength then failAt .nameTooLong stop
  else if !(s.isAt stop ':' || s.isAt stop ')') then failAt .unknownVerb stop
  else
    match verbOfName? (s.slice i stop) with
    | none => failAt .unknownVerb stop
    | some v =>
      let stop := if s.startsAt stop [':', ')'] then stop + 1 else stop
      let r' (argument : Option (List Nat)) (pos : Nat) : Reading :=
        (v.items argument).foldl (fun r node => r.add node (v == .accept) pos) (r.pass pos)
      if s.isAt stop ')' then
        if v == .mark then failAt .markWithoutName stop else .ok (r' none (stop + 1))
      else
        let start := stop + 1
        let close := s.skipWhile (· != ')') start
        if s.size ≤ close then failAt .unknownVerb s.size
        else if close - start > maxVerbName then failAt .verbNameTooLong close
        else .ok (r' (some ((s.slice start close).map Char.toNat)) (close + 1))

/-- The kinds of group that have a name. -/
inductive AssertionName where
  | atomic
  | lookahead (negated keepsChoices : Bool)
  | lookbehind (negated keepsChoices : Bool)
  | scriptRun (atomic : Bool)
  deriving DecidableEq, Repr

/-- The kind of group of a name. -/
def assertionOfName? (name : List Char) : Option AssertionName :=
  match String.ofList name with
  | "pla" => some (.lookahead false false)
  | "positive_lookahead" => some (.lookahead false false)
  | "nla" => some (.lookahead true false)
  | "negative_lookahead" => some (.lookahead true false)
  | "napla" => some (.lookahead false true)
  | "non_atomic_positive_lookahead" => some (.lookahead false true)
  | "plb" => some (.lookbehind false false)
  | "positive_lookbehind" => some (.lookbehind false false)
  | "nlb" => some (.lookbehind true false)
  | "negative_lookbehind" => some (.lookbehind true false)
  | "naplb" => some (.lookbehind false true)
  | "non_atomic_positive_lookbehind" => some (.lookbehind false true)
  | "atomic" => some .atomic
  | "sr" => some (.scriptRun false)
  | "script_run" => some (.scriptRun false)
  | "asr" => some (.scriptRun true)
  | "atomic_script_run" => some (.scriptRun true)
  | _ => none

/-- Whether a condition may be decided by this kind of group. -/
def AssertionName.mayDecide : AssertionName → Bool
  | .lookahead _ keepsChoices => !keepsChoices
  | .lookbehind _ keepsChoices => !keepsChoices
  | _ => false

/-- Reads the start of a group whose name starts at `i`. -/
def readNamedAssertion (s : Source) (r : Reading) (expecting : Nat) (i : Nat) :
    Except Fault Reading :=
  let stop := s.skipWhile isWordChar i
  if stop - i > maxNameLength then failAt .nameTooLong stop
  else if !s.isAt stop ':' then failAt .unknownAssertion stop
  else
    match assertionOfName? (s.slice i stop) with
    | none => failAt .unknownAssertion stop
    | some a =>
      if expecting > 0 && !a.mayDecide then failAt .assertionExpected stop
      else
        let decides := decide (expecting > 0)
        .ok <|
          match a with
          | .atomic => r.openGroup { kind := .atomic } (stop + 1)
          | .lookahead negated keeps =>
            r.openGroup { kind := .lookahead negated keeps, decides := decides } (stop + 1)
          | .lookbehind negated keeps =>
            r.openGroup { kind := .lookbehind negated keeps (stop - 3), decides := decides }
              (stop + 1)
          | .scriptRun atomic =>
            r.openGroup { kind := .scriptRun, atomicInside := atomic } (stop + 1)

/-! ## Options inside a pattern -/

def optionOfLetter? (value : Bool) : Char → Option (Options → Options)
  | 'J' => some fun o => { o with duplicateNames := value }
  | 'i' => some fun o => { o with caseless := value }
  | 'm' => some fun o => { o with multiline := value }
  | 'n' => some fun o => { o with noAutoCapture := value }
  | 'r' => some fun o => { o with restrictCase := value }
  | 's' => some fun o => { o with dotAll := value }
  | 'U' => some fun o => { o with ungreedy := value }
  | _ => none

/-- What the letter after `a` sets or unsets, and all of it without one. -/
def asciiOption (value : Bool) : Option Char → (Options → Options) × Nat
  | some 'D' => (fun o => { o with asciiDigit := value }, 1)
  | some 'P' => (fun o => { o with asciiClass := value, asciiDigitClass := value }, 1)
  | some 'S' => (fun o => { o with asciiSpace := value }, 1)
  | some 'T' => (fun o => { o with asciiDigitClass := value }, 1)
  | some 'W' => (fun o => { o with asciiWord := value }, 1)
  | _ =>
    (fun o => { o with
      asciiDigit := value, asciiSpace := value, asciiWord := value
      asciiDigitClass := value, asciiClass := value }, 0)

/-- Reads option letters from `i` up to a parenthesis or colon. What is set comes before what is
unset. Each round reads at least one byte, which `fuel` counts. -/
def readOptionLetters (s : Source) :
    Nat → (Options → Options) → (Options → Options) → Bool → Bool → Nat →
      Except Fault ((Options → Options) × Nat)
  | 0, _, _, _, _, i => failAt .unclosedGroup i
  | fuel + 1, set, unset, unsetting, hyphenAllowed, i =>
    match s.at? i with
    | none => failAt .unclosedGroup i
    | some ')' => .ok (unset ∘ set, i)
    | some ':' => .ok (unset ∘ set, i)
    | some '-' =>
      if hyphenAllowed then readOptionLetters s fuel set unset true false (i + 1)
      else failAt .invalidHyphen i
    | some c =>
      let go (edit : Options → Options) (j : Nat) :=
        if unsetting then readOptionLetters s fuel set (edit ∘ unset) unsetting hyphenAllowed j
        else readOptionLetters s fuel (edit ∘ set) unset unsetting hyphenAllowed j
      if c == 'a' then
        let (edit, extra) := asciiOption (!unsetting) (s.at? (i + 1))
        go edit (i + 1 + extra)
      else if c == 'x' then
        let twice := s.isAt (i + 1) 'x'
        let edit : Options → Options :=
          if unsetting then fun o => { o with extended := false, extendedMore := false }
          else fun o => { o with extended := true, extendedMore := twice }
        go edit (i + 1 + twice.toNat)
      else
        match optionOfLetter? (!unsetting) c with
        | some edit => go edit (i + 1)
        | none => failAt .unknownOption i

/-- Reads an option setting from `i`, behind the question mark. -/
def readOptions (s : Source) (r : Reading) (i : Nat) : Except Fault Reading := do
  let caret := s.isAt i '^'
  let base : Options :=
    if caret then
      { r.options with
        caseless := false, multiline := false, noAutoCapture := false, dotAll := false
        extended := false, extendedMore := false, restrictCase := false }
    else r.options
  let start := if caret then i + 1 else i
  let (edit, j) ← readOptionLetters s (s.size + 1) id id false (!caret) start
  let options := edit base
  if s.isAt j ')' then .ok { r.pass (j + 1) with options := options }
  else .ok { r.openGroup { kind := .plain } (j + 1) with options := options }

/-! ## Groups that start with a question mark -/

def calloutDelimiters : List (Char × Char) :=
  [('\x60', '\x60'), ('\'', '\''), ('"', '"'), ('^', '^'), ('%', '%'), ('#', '#'), ('$', '$'),
    ('\x7b', '\x7d')]

/-- The position behind a callout text whose inside goes on at `i`; a doubled delimiter stands for
itself. -/
def calloutEnd? (s : Source) (delimiter : Char) (i : Nat) : Option Nat :=
  if i < s.size then
    if s.isAt i delimiter then
      if s.isAt (i + 1) delimiter then calloutEnd? s delimiter (i + 2) else some (i + 1)
    else calloutEnd? s delimiter (i + 1)
  else none
termination_by s.size - i

/-- Reads the number of a callout; it ends at the digit that makes it too large. -/
def readCalloutNumber (s : Source) (n i : Nat) : Except Fault (Nat × Nat) :=
  if i < s.size then
    match s.at? i with
    | some c =>
      if c.isDigit then
        let n := 10 * n + (c.toNat - '0'.toNat)
        if n > 255 then failAt .calloutTooLarge (i + 1) else readCalloutNumber s n (i + 1)
      else .ok (n, i)
    | none => .ok (n, i)
  else .ok (n, i)
termination_by s.size - i

def readCallout (s : Source) (r : Reading) (expecting i : Nat) : Except Fault Reading := do
  let finish (j : Nat) : Except Fault Reading :=
    if s.isAt j ')' then .ok { r.add .callout false (j + 1) with expecting := expecting - 1 }
    else failAt .unclosedCallout j
  match s.at? i with
  | none => failAt .unclosedGroup i
  | some c =>
    if c == ')' || c.isDigit then
      let (_, j) ← readCalloutNumber s 0 i
      finish j
    else
      match calloutDelimiters.find? (·.1 == c) with
      | none => failAt .unknownCalloutDelimiter i
      | some (_, delimiter) =>
        match calloutEnd? s delimiter (i + 1) with
        | none => failAt .unclosedCalloutText i
        | some j => finish j

def readVersion (s : Source) (i : Nat) : Except Fault (Condition × Nat) := do
  let atLeast := s.isAt i '>'
  let i := if atLeast then i + 1 else i
  if !s.isAt i '=' then failAt .malformedVersion i
  else
    match ← readDigits s 1000 (some .malformedVersion) (i + 1) with
    | (none, j) => failAt .malformedVersion j
    | (some major, j) =>
      if s.size ≤ j then failAt .malformedVersion j
      else if !s.isAt j '.' then .ok (.version atLeast major 0, j)
      else
        match (s.at? (j + 1)).filter Char.isDigit with
        | none => failAt .malformedVersion (j + 1)
        | some tens =>
          let ones := (s.at? (j + 2)).filter Char.isDigit
          let k := j + 2 + ones.toList.length
          if s.isAt k ')' then
            .ok (.version atLeast major
              (10 * (tens.toNat - '0'.toNat) + (ones.getD '0').toNat - '0'.toNat), k)
          else failAt .malformedVersion k

/-- Reads a condition that asks about a name, from behind the parenthesis. -/
def readNameCondition (s : Source) (i : Nat) : Except Fault (Condition × Nat) := do
  if s.startsAt i ['R', '&'] then
    let (name, j) ← readName s (some ')') (i + 2)
    .ok (.callOfName name, j - 1)
  else if s.isAt i '<' then
    let (name, j) ← readName s (some '>') (i + 1)
    .ok (.nameSet name, j)
  else if s.isAt i '\'' then
    let (name, j) ← readName s (some '\'') (i + 1)
    .ok (.nameSet name, j)
  else
    let (name, j) ← readName s (some ')') i
    let condition : Condition :=
      if name.bytes == "DEFINE".toList then .define name.offset
      else
        match name.bytes with
        | 'R' :: digits => if digits.all Char.isDigit then .callOf name else .nameSet name
        | _ => .nameSet name
    .ok (condition, j - 1)

def readCondition (s : Source) (groups i : Nat) : Except Fault (Condition × Nat) := do
  match ← readGroupNumber s groups i with
  | (some n, j) =>
    if n == 0 then failAt .unknownGroup j else .ok (.groupSet n (j - 2), j)
  | (none, _) =>
    if i + 10 ≤ s.size && s.startsAt i "VERSION".toList && !s.isAt (i + 7) ')' then
      readVersion s (i + 7)
    else readNameCondition s i

/-- Reads a conditional group from behind its second parenthesis. -/
def readConditional (s : Source) (r : Reading) (i : Nat) : Except Fault Reading := do
  if s.size ≤ i then failAt .unclosedGroup i
  else if s.isAt i '?' || s.isAt i '*' then
    .ok { r.openGroup { kind := .conditionalOnAssertion } (i - 1) with expecting := 2 }
  else
    let (condition, j) ← readCondition s r.groups i
    if s.isAt j ')' then .ok (r.openGroup { kind := .conditional condition } (j + 1))
    else failAt .unclosedCondition j

def readNamedGroup (s : Source) (r : Reading) (terminator : Char) (i : Nat) :
    Except Fault Reading := do
  let (name, j) ← readName s (some terminator) i
  if r.groups ≥ maxGroup then failAt .tooManyGroups j
  else
    let r := { r with groups := r.groups + 1 }
    let r ← r.name name.bytes j
    .ok (r.openGroup { kind := .capture r.groups } j)

def readNamedCall (s : Source) (r : Reading) (i : Nat) : Except Fault Reading := do
  let (name, j) ← readName s (some ')') i
  .ok (r.add (.namedCall name) true j)

def readNumberedCall (s : Source) (r : Reading) (i : Nat) : Except Fault Reading := do
  match ← readGroupNumber s r.groups i with
  | (none, _) => failAt .digitExpected i
  | (some n, j) =>
    if s.isAt j ')' then .ok (r.add (.call n j) true (j + 1)) else failAt .unclosedGroup j

def openLookaround (r : Reading) (kind : GroupKind) (expecting pos : Nat) : Reading :=
  r.openGroup { kind := kind, decides := decide (expecting > 0) } pos

/-- Reads a group that starts with a question mark, from behind it. -/
def readSpecialGroup (s : Source) (settings : Settings) (r : Reading) (expecting i : Nat) :
    Except Fault Reading := do
  let next := s.at? (i + 1)
  match s.at? i with
  | none => failAt .unclosedGroup i
  | some 'P' =>
    match next with
    | none => failAt .unclosedGroup (i + 1)
    | some '<' => readNamedGroup s r '>' (i + 2)
    | some '>' => readNamedCall s r (i + 2)
    | some '=' => do
      let (name, j) ← readName s (some ')') (i + 2)
      .ok (r.add (.namedBackref name (caseRule? settings r.options)) true j)
    | some _ => failAt .unknownAfterP (i + 1)
  | some 'R' =>
    if s.isAt (i + 1) ')' then .ok (r.add (.call 0 (i + 1)) true (i + 2))
    else failAt .unclosedWholeCall (i + 1)
  | some '+' =>
    if next.any Char.isDigit then readNumberedCall s r i else failAt .digitExpected i
  | some '&' => readNamedCall s r (i + 1)
  | some 'C' => readCallout s r expecting (i + 1)
  | some '(' => readConditional s r (i + 1)
  | some '>' => .ok (r.openGroup { kind := .atomic } (i + 1))
  | some '=' => .ok (openLookaround r (.lookahead false false) expecting (i + 1))
  | some '*' => .ok (openLookaround r (.lookahead false true) expecting (i + 1))
  | some '!' => .ok (openLookaround r (.lookahead true false) expecting (i + 1))
  | some '<' =>
    match next with
    | some '=' => .ok (openLookaround r (.lookbehind false false (i - 2)) expecting (i + 2))
    | some '!' => .ok (openLookaround r (.lookbehind true false (i - 2)) expecting (i + 2))
    | some '*' => .ok (openLookaround r (.lookbehind false true (i - 2)) expecting (i + 2))
    | _ => readNamedGroup s r '>' (i + 1)
  | some '\'' => readNamedGroup s r '\'' (i + 1)
  | some '|' =>
    .ok ({ r with sharedNumbers := true }.openGroup
      { kind := .plain, shared := some (r.groups, r.groups) } (i + 1))
  | some c =>
    if c.isDigit || (c == '-' && next.any Char.isDigit) then readNumberedCall s r i
    else readOptions s r i

/-- Reads what an opening parenthesis begins, from behind it. -/
def readParenthesis (s : Source) (settings : Settings) (r : Reading) (expecting i : Nat) :
    Except Fault Reading :=
  match s.at? i with
  | none => failAt .unclosedGroup i
  | some '?' => readSpecialGroup s settings r expecting (i + 1)
  | some '*' =>
    match s.at? (i + 1) with
    | none => .ok (r.pass i)
    | some ')' => .ok (r.pass i)
    | some c =>
      if c.isLower then readNamedAssertion s r expecting (i + 1) else readVerb s r (i + 1)
  | some _ => r.openParenthesis i

/-! ## Items -/

/-- Reads a reference or call by name, which starts with `\g` or `\k`, from behind the letter. -/
def readNameReference (s : Source) (settings : Settings) (r : Reading) (isGroup : Bool) (i : Nat) :
    Except Fault Reading := do
  let malformed : Cause := if isGroup then .malformedGroupEscape else .malformedNameEscape
  match s.at? i with
  | some '{' =>
    let (name, j) ← readName s (some '}') (i + 1)
    .ok (r.add (.namedBackref name (caseRule? settings r.options)) true j)
  | some c =>
    if c != '<' && c != '\'' then failAt malformed i
    else
      let terminator := if c == '<' then '>' else '\''
      let byName : Except Fault Reading := do
        let (name, j) ← readName s (some terminator) (i + 1)
        if isGroup then .ok (r.add (.namedCall name) true j)
        else .ok (r.add (.namedBackref name (caseRule? settings r.options)) true j)
      if isGroup then
        match ← faultAt i (readGroupNumber s r.groups (i + 1)) with
        | (some n, j) =>
          if s.isAt j terminator then .ok (r.add (.call n j) true (j + 1))
          else failAt .malformedGroupEscape i
        | (none, _) => byName
      else byName
  | none => failAt malformed i

/-- Reads an escape outside classes, from behind the backslash. -/
def readEscapeItem (s : Source) (settings : Settings) (r : Reading) (i : Nat) :
    Except Fault Reading := do
  let (e, j) ← readEscape s r.groups false i
  match e with
  | .literal c => .ok (r.add (.literal c (caseRule? settings r.options)) true j)
  | .backref n => .ok (r.add (.backref n (caseRule? settings r.options) (j - 1)) true j)
  | .groupName => readNameReference s settings r true j
  | .backrefName => readNameReference s settings r false j
  | .letter c =>
    match setOfLetter? settings r.options c with
    | some t => .ok (r.add (.test t) true j)
    | none =>
      let ucp := settings.ucp && !r.options.asciiWord
      match c with
      | 'p' => do
        let (t, k) ← readProperty s false j
        .ok (r.add (.test (t.underCase r.options.caseless)) true k)
      | 'P' => do
        let (t, k) ← readProperty s true j
        .ok (r.add (.test (t.underCase r.options.caseless)) true k)
      | 'C' => .ok (r.add .unit true j)
      | 'N' => .ok (r.add (.dot false) true j)
      | 'R' => .ok (r.add .newlineSequence true j)
      | 'X' => .ok (r.add .cluster true j)
      | 'A' => .ok (r.add (.anchor .textStart) false j)
      | 'G' => .ok (r.add (.anchor .searchStart) false j)
      | 'Z' => .ok (r.add (.anchor .nearEnd) false j)
      | 'z' => .ok (r.add (.anchor .textEnd) false j)
      | 'b' => .ok (r.add (.anchor (.wordBoundary false ucp)) false j)
      | 'B' => .ok (r.add (.anchor (.wordBoundary true ucp)) false j)
      | 'K' => .ok (r.add .setStart false j)
      | _ => .ok (r.pass j)

/-- Reads a class, or a word boundary in its old form, from behind the bracket. -/
def readBracket (s : Source) (settings : Settings) (r : Reading) (i : Nat) :
    Except Fault Reading := do
  let opens := s.startsAt i "[:<:]]".toList
  if opens || s.startsAt i "[:>:]]".toList then
    let boundary := .anchor (.wordBoundary false (settings.ucp && !r.options.asciiWord))
    let word := (setOfLetter? settings { r.options with asciiWord := false } 'w').map Node.test
    let kind : GroupKind := if opens then .lookahead false false else .lookbehind false false 0
    let r := r.add boundary false i
    .ok (r.add (.group kind (.seq (word.getD .fail) .empty)) true (i + 6))
  else
    let (k, j) ← readClass s settings r.options r.groups i
    .ok (r.add (.cls k) true j)

/-- Whether the parenthesis behind which `i` stands begins an assertion that may decide a condition,
or a callout before one. -/
def beginsAssertion (s : Source) (expecting i : Nat) : Bool :=
  i + 3 ≤ s.size &&
    match s.at? i with
    | some '*' => (s.at? (i + 1)).any Char.isLower
    | some '?' =>
      match s.at? (i + 1) with
      | some 'C' => expecting == 2
      | some '=' => true
      | some '!' => true
      | some '<' => s.isAt (i + 2) '=' || s.isAt (i + 2) '!'
      | _ => false
    | _ => false

/-- Whether a newline stands at a position, and its width. -/
def newlineAt? (s : Source) (newline : Newline) (i : Nat) : Option Nat :=
  let c := s.charAt i
  if s.size ≤ i then none
  else
    match newline with
    | .cr => if c == 13 then some 1 else none
    | .lf => if c == 10 then some 1 else none
    | .nul => if c == 0 then some 1 else none
    | .crlf => if c == 13 && s.isAt (i + 1) '\n' then some 2 else none
    | .anyCrlf =>
      if c == 13 then some (if s.isAt (i + 1) '\n' then 2 else 1)
      else if c == 10 then some 1
      else none
    | .any =>
      if c == 13 then some (if s.isAt (i + 1) '\n' then 2 else 1)
      else if isVertical c then some (s.afterChar i - i)
      else none

/-- The position behind a comment that goes on at `i` to the end of its line. -/
def afterComment (s : Source) (newline : Newline) (i : Nat) : Nat :=
  if i < s.size then
    match newlineAt? s newline i with
    | some width => i + width
    | none => afterComment s newline (max (i + 1) (s.afterChar i))
  else i
termination_by s.size - i

/-- White space that extended patterns ignore. -/
def isPatternSpace (c : Nat) : Bool :=
  CharKind.space.contains c || c == 0x85 || between 0x200E 0x200F c || between 0x2028 0x2029 c

/-- Reads one item whose first character is `c`, at `i` and before `j`. -/
def readMainItem (s : Source) (settings : Settings) (r : Reading) (c i j : Nat) :
    Except Fault Reading := do
  let expecting := r.expecting
  let literal : Reading := r.add (.literal c (caseRule? settings r.options)) true j
  if expecting > 0 && !(s.isAt i '(' && beginsAssertion s expecting j) then
    failAt .assertionExpected i
  else
    match s.at? i with
    | some '\\' => readEscapeItem s settings r j
    | some '^' =>
      .ok (r.add (.anchor (if r.options.multiline then .lineStart else .start)) false j)
    | some '$' =>
      .ok (r.add (.anchor (if r.options.multiline then .lineEnd else .nearEnd)) false j)
    | some '.' => .ok (r.add (.dot r.options.dotAll) true j)
    | some '[' => readBracket s settings r j
    | some '(' => readParenthesis s settings r expecting j
    | some ')' => r.close j
    | some '|' => .ok (r.nextBranch j)
    | some '*' => r.quantify ⟨0, none⟩ j
    | some '+' => r.quantify ⟨1, none⟩ j
    | some '?' => r.quantify ⟨0, some 1⟩ j
    | some '{' =>
      match ← readCounts s j with
      | (some counts, k) => r.quantify counts k
      | (none, _) => .ok literal
    | _ => .ok literal

/-- Reads one item, or passes over what is none. -/
def readItem (s : Source) (settings : Settings) (r : Reading) : Except Fault Reading :=
  let i := r.pos
  let c := s.charAt i
  let j := s.afterChar i
  if r.around.length > maxNesting then failAt .nestingTooDeep i
  else if r.quoting then
    if s.startsAt i ['\\', 'E'] then .ok { r with quoting := false, pos := i + 2 }
    else if r.expecting > 0 then failAt .assertionExpected i
    else .ok (r.add (.literal c (caseRule? settings r.options)) true j)
  else if s.startsAt i ['\\', 'Q'] then .ok { r with quoting := true, pos := i + 2 }
  else if s.startsAt i ['\\', 'E'] then .ok { r with pos := i + 2 }
  else if r.options.extended && isPatternSpace c then .ok { r with pos := j }
  else if r.options.extended && c == '#'.toNat then
    .ok { r with pos := afterComment s settings.newline j }
  else if s.startsAt i ['(', '?', '#'] then
    let k := s.skipWhile (· != ')') (i + 3)
    if s.size ≤ k then failAt .unclosedComment k else .ok { r with pos := k + 1 }
  else if r.modifiable && s.isAt i '+' then .ok (r.modify true j)
  else if r.modifiable && s.isAt i '?' then .ok (r.modify false j)
  else readMainItem s settings { r with modifiable := false } c i j

/-- Reads items up to the end. Each round reads at least one byte, which `fuel` counts. -/
def readItems (s : Source) (settings : Settings) : Nat → Reading → Except Fault Reading
  | 0, r => .ok r
  | fuel + 1, r => do
    if s.size ≤ r.pos then .ok r
    else
      let r ← readItem s settings r
      readItems s settings fuel r

/-- Reads a pattern of bytes, or of characters if `utf` is set in the settings. -/
def parse (bytes : ByteArray) (settings : Settings) (options : Options) : Except Fault Parsed := do
  let ((settings, restrict), start) ← readSettings ⟨bytes, false⟩ bytes.size settings false 0
  let options := { options with restrictCase := options.restrictCase || restrict }
  let s : Source := ⟨bytes, settings.utf⟩
  let r ← readItems s settings (s.size + 1) { pos := start, options := options }
  if r.around.isEmpty then
    .ok {
      settings := settings, body := r.top.body, groups := r.groups
      names := r.names, sharedNumbers := r.sharedNumbers }
  else failAt .unclosedGroup s.size

end BoundedRegex.Pattern
