import BoundedRegex.Pattern.Escape

/-!
# Character classes in brackets

Reads the text of a class. Inside brackets most characters stand for themselves, two of them with a
hyphen between make a range, and `[:name:]` stands for a named class. A hyphen next to something
that is no single character is refused unless it ends the class.
-/
namespace BoundedRegex.Pattern

def kindOfName? (name : List Char) : Option CharKind :=
  match String.ofList name with
  | "alpha" => some .alpha
  | "lower" => some .lower
  | "upper" => some .upper
  | "alnum" => some .alnum
  | "ascii" => some .ascii
  | "blank" => some .blank
  | "cntrl" => some .cntrl
  | "digit" => some .digit
  | "graph" => some .graph
  | "print" => some .print
  | "punct" => some .punct
  | "space" => some .space
  | "word" => some .word
  | "xdigit" => some .xdigit
  | _ => none

/-- The property that a named class follows where classes follow properties. -/
def propertyOfKind? : CharKind → Option Property
  | .alpha => some (.group 'l')
  | .lower => some (.category .ll)
  | .upper => some (.category .lu)
  | .alnum => some .alnum
  | .cntrl => some (.category .cc)
  | .digit => some (.category .nd)
  | .graph => some .graph
  | .print => some .print
  | .punct => some .punct
  | .space => some .space
  | .word => some .word
  | .xdigit => some .xdigit
  | .ascii | .blank | .horizontal | .vertical => none

/-- The test of a named class under options. Caseless ones do not tell upper from lower. -/
def namedClassTest (settings : Settings) (o : Options) (k : CharKind) (negated : Bool) : CharTest :=
  let asciiOnly := o.asciiClass || (o.asciiDigitClass && (k == .digit || k == .xdigit))
  let k' := if o.caseless && (k == .lower || k == .upper) then .alpha else k
  if settings.ucp && !asciiOnly then
    match propertyOfKind? k with
    | some p => (CharTest.property p negated).underCase o.caseless
    | none => if k == .blank then .kind .horizontal negated else .kind k' negated
  else .kind k' negated

/-- The position of the terminator of a named class or collating element whose inside starts at
`i`, if its form is right. A backslash hides a bracket. -/
def namedClassEnd? (s : Source) (terminator : Char) (i : Nat) : Option Nat :=
  if i + 2 ≤ s.size then
    let next := s.at? (i + 1)
    if s.isAt i '\\' && (next == some ']' || next == some '\\') then
      namedClassEnd? s terminator (i + 2)
    else if (s.isAt i '[' && next == some terminator) || s.isAt i ']' then none
    else if s.isAt i terminator && next == some ']' then some i
    else namedClassEnd? s terminator (i + 1)
  else none
termination_by s.size - i

/-- Whether a bracket behind which `i` stands opens a named class or collating element; if so, its
terminator character and where that stands. -/
def namedClassAt? (s : Source) (i : Nat) : Option (Char × Nat) :=
  match s.at? i with
  | some c =>
    if c == ':' || c == '.' || c == '=' then (namedClassEnd? s c (i + 1)).map (c, ·) else none
  | none => none

inductive RangeState where
  /-- No range can start here. -/
  | none
  /-- A range has begun with this character. -/
  | started (c : Nat)
  /-- The last character may begin a range. -/
  | possible (c : Nat)
  /-- The last item cannot begin a range. -/
  | forbidden
  /-- A hyphen follows an item that cannot begin a range; it ends at this position. -/
  | forbiddenHyphen (i : Nat)
  deriving DecidableEq, Repr

/-- A class being read: its items in reverse, the state of ranges, and whether all is literal. -/
structure ClassState where
  items : List ClassItem := []
  range : RangeState := .none
  quoting : Bool := false

namespace ClassState

/-- Adds a character that starts at `i` and ends before `j`. -/
def addChar (s : Source) (st : ClassState) (c : Nat) (j : Nat) : Except Fault ClassState :=
  match st.range with
  | .started lo =>
    if lo > c then failAt .rangeOutOfOrder (s.beforeChar j)
    else .ok { st with items := .range lo c :: st.items.drop 1, range := .none }
  | .forbiddenHyphen k => failAt .invalidRange k
  | _ => .ok { st with items := .range c c :: st.items, range := .possible c }

/-- Adds a set of characters that ends before `j`. -/
def addTest (st : ClassState) (t : CharTest) (j : Nat) : Except Fault ClassState :=
  match st.range with
  | .started _ => failAt .invalidRange j
  | .forbiddenHyphen k => failAt .invalidRange k
  | _ => .ok { st with items := .test t :: st.items, range := .forbidden }

/-- The items in order. A hyphen that begins a range at the end of the class is one of them. -/
def finish (st : ClassState) : List ClassItem :=
  match st.range with
  | .started _ => (.range 0x2D 0x2D :: st.items).reverse
  | _ => st.items.reverse

end ClassState

/-- Reads a named class whose bracket is behind `i`, given its terminator. -/
def readNamedClass (s : Source) (settings : Settings) (o : Options) (st : ClassState)
    (terminator : Char) (stop i : Nat) : Except Fault (ClassState × Nat) := do
  let j := stop + 2
  match st.range with
  | .started _ => failAt .invalidRange j
  | .forbiddenHyphen k => failAt .invalidRange k
  | _ =>
    if terminator != ':' then failAt .collatingElement j
    else
      let negated := s.isAt (i + 1) '^'
      let start := if negated then i + 2 else i + 1
      match kindOfName? (s.slice start stop) with
      | none => failAt .unknownClassName j
      | some k =>
        let st ← st.addTest (namedClassTest settings o k negated) j
        .ok (st, j)

def readClassEscape (s : Source) (settings : Settings) (o : Options) (groups : Nat)
    (st : ClassState) (i : Nat) : Except Fault (ClassState × Nat) := do
  let (e, j) ← readEscape s groups true i
  match e with
  | .literal c => do let st ← st.addChar s c j; .ok (st, j)
  | .letter 'b' => do let st ← st.addChar s 8 j; .ok (st, j)
  | .letter 'Q' => .ok ({ st with quoting := true }, j)
  | .letter 'E' => .ok (st, j)
  | .letter 'N' =>
    match st.range with
    | .started _ => failAt .invalidRange j
    | .forbiddenHyphen k => failAt .invalidRange k
    | _ => failAt .notNewlineInClass j
  | .letter c =>
    if c == 'B' || c == 'R' || c == 'X' then failAt .escapeNotInClass (j - 1)
    else
      match st.range with
      | .started _ => failAt .invalidRange j
      | .forbiddenHyphen k => failAt .invalidRange k
      | _ =>
        if c == 'p' || c == 'P' then do
          let (t, k) ← readProperty s (c == 'P') j
          let st ← st.addTest (t.underCase o.caseless) k
          .ok (st, k)
        else
          match setOfLetter? settings o c with
          | some t => do let st ← st.addTest t j; .ok (st, j)
          | none => failAt .escapeNotInClass (j - 1)
  | .backref _ | .groupName | .backrefName => failAt .escapeNotInClass (j - 1)

/-- Reads one item of a class whose first character is `c` and ends before `j`. -/
def readClassItem (s : Source) (settings : Settings) (o : Options) (groups : Nat)
    (st : ClassState) (c j : Nat) : Except Fault (ClassState × Nat) := do
  if st.quoting then
    if c == '\\'.toNat && s.isAt j 'E' then .ok ({ st with quoting := false }, j + 1)
    else do let st ← st.addChar s c j; .ok (st, j)
  else if o.extendedMore && (c == 0x20 || c == 0x09) then .ok (st, j)
  else if c == '\\'.toNat then readClassEscape s settings o groups st j
  else
    match if c == '['.toNat then namedClassAt? s j else none with
    | some (terminator, stop) => readNamedClass s settings o st terminator stop j
    | none =>
      if c == '-'.toNat then
        match st.range with
        | .possible lo => .ok ({ st with range := .started lo }, j)
        | .forbidden =>
          .ok ({ st with items := .range c c :: st.items, range := .forbiddenHyphen j }, j)
        | _ => do let st ← st.addChar s c j; .ok (st, j)
      else do let st ← st.addChar s c j; .ok (st, j)

/-- Reads the items of a class, of which the first has the character `c` that ends before `j`, up to
and over the closing bracket. Each round reads at least one byte, which `fuel` counts. -/
def readClassItems (s : Source) (settings : Settings) (o : Options) (groups : Nat) :
    Nat → ClassState → Nat → Nat → Except Fault (List ClassItem × Nat)
  | 0, _, _, j => failAt .unclosedClass j
  | fuel + 1, st, c, j => do
    let (st, j) ← readClassItem s settings o groups st c j
    if s.size ≤ j then failAt .unclosedClass j
    else
      let c := s.charAt j
      let k := s.afterChar j
      if c == ']'.toNat && !st.quoting then .ok (st.finish, k)
      else readClassItems s settings o groups fuel st c k

/-- Skips what may stand before the first item: a caret, which negates, and empty quotations.
Returns the negation and the first item's character with the position behind it. -/
def readClassStart (s : Source) (o : Options) : Nat → Bool → Nat → Option (Bool × Nat × Nat)
  | 0, _, _ => none
  | fuel + 1, negated, i =>
    if s.size ≤ i then none
    else
      let c := s.charAt i
      let j := s.afterChar i
      if c == '\\'.toNat then
        if s.isAt j 'E' then readClassStart s o fuel negated (j + 1)
        else if s.startsAt j ['Q', '\\', 'E'] then readClassStart s o fuel negated (j + 3)
        else some (negated, c, j)
      else if o.extendedMore && (c == 0x20 || c == 0x09) then readClassStart s o fuel negated j
      else if c == '^'.toNat && !negated then readClassStart s o fuel true j
      else some (negated, c, j)

/-- Reads a class from behind its opening bracket. -/
def readClass (s : Source) (settings : Settings) (o : Options) (groups : Nat) (i : Nat) :
    Except Fault (CharClass × Nat) := do
  match namedClassAt? s i with
  | some (terminator, _) =>
    failAt (if terminator == ':' then .namedClassOutside else .collatingElement) (i - 1)
  | none =>
    match readClassStart s o (s.size + 1) false i with
    | none => failAt .unclosedClass s.size
    | some (negated, c, j) =>
      let (items, k) ← readClassItems s settings o groups (s.size + 1) {} c j
      .ok (⟨negated, caseRule? settings o, items⟩, k)

end BoundedRegex.Pattern
