import Mathlib.Data.List.Forall2
import Mathlib.Data.List.TakeWhile
import BoundedRegex.Flags

/-!
# Reading what has been shown

Quoted text and numbers can be read back from the front of a text, whatever comes after them. Quotes end
where they should, since those in the text between them are escaped, and a number ends where the next
character is no digit. Sets of flags are read by their own reader, which gives back every set, with bits
that have no name too.
-/
namespace BoundedRegex.Text

/-! ## Numbers -/

theorem isDigit_of_mem_toDigits {n : Nat} {c : Char} (h : c ∈ Nat.toDigits 10 n) : c.isDigit :=
  Nat.isDigit_of_mem_toDigits (by decide) (by decide) h

theorem toList_toString (n : Nat) : (toString n).toList = Nat.toDigits 10 n := String.toList_ofList

/-- Reads a number in base ten from the front of a text. -/
def readNat (cs : List Char) : Option (Nat × List Char) :=
  if (cs.takeWhile Char.isDigit).isEmpty then none
  else some (Nat.ofDigitChars 10 (cs.takeWhile Char.isDigit) 0, cs.dropWhile Char.isDigit)

/-- No digit comes first. -/
def Stops (cs : List Char) : Prop := ∀ c ∈ cs.head?, c.isDigit = false

theorem stops_append {fixed : String} (h : fixed.toList.head?.map Char.isDigit = some false)
    (rest : List Char) : Stops (fixed.toList ++ rest) := by
  obtain ⟨c, hc, hdigit⟩ := Option.map_eq_some_iff.mp h
  intro d hd
  rw [List.head?_append, hc, Option.some_or, Option.mem_some_iff] at hd
  exact hd ▸ hdigit

theorem readNat_toString (n : Nat) {rest : List Char} (h : Stops rest) :
    readNat ((toString n).toList ++ rest) = some (n, rest) := by
  have digits : ∀ c ∈ Nat.toDigits 10 n, c.isDigit := fun c => isDigit_of_mem_toDigits
  have taken : rest.takeWhile Char.isDigit = [] ∧ rest.dropWhile Char.isDigit = rest := by
    cases rest with
    | nil => exact ⟨rfl, rfl⟩
    | cons c cs =>
      have hc : c.isDigit = false := h c rfl
      simp [hc]
  rw [readNat, toList_toString, List.takeWhile_append_of_pos digits, List.dropWhile_append_of_pos digits,
    taken.1, taken.2, List.append_nil, Nat.ofDigitChars_ten_toDigits, if_neg]
  rw [List.isEmpty_iff]
  exact Nat.toDigits_ne_nil

/-- Reads a number with a sign. -/
def readInt (cs : List Char) : Option (Int × List Char) :=
  if cs.head? = some '-' then (readNat cs.tail).map fun (n, rest) => (-n, rest)
  else (readNat cs).map fun (n, rest) => (n, rest)

theorem readInt_toString (i : Int) {rest : List Char} (h : Stops rest) :
    readInt ((toString i).toList ++ rest) = some (i, rest) := by
  cases i with
  | ofNat n =>
    have unsigned : ((toString n).toList ++ rest).head? ≠ some '-' := by
      rw [toList_toString]
      cases hd : Nat.toDigits 10 n with
      | nil => exact absurd hd Nat.toDigits_ne_nil
      | cons d ds =>
        rintro ⟨⟩
        exact absurd (isDigit_of_mem_toDigits (hd ▸ List.mem_cons_self)) (by decide)
    have written : toString (Int.ofNat n) = toString n := rfl
    rw [written, readInt, if_neg unsigned, readNat_toString n h]
    rfl
  | negSucc n =>
    have written : (toString (Int.negSucc n)).toList = '-' :: (toString (n + 1)).toList :=
      String.toList_append
    rw [written, List.cons_append, readInt, if_pos (by rfl), List.tail_cons, readNat_toString _ h]
    rfl

/-! ## Numbers in base sixteen -/

theorem hexNumber?_append (n : Nat) (xs ys : List Char) :
    Flags.hexNumber? n (xs ++ ys) = (Flags.hexNumber? n xs).bind (Flags.hexNumber? · ys) := by
  induction xs generalizing n with
  | nil => rfl
  | cons c xs ih =>
    simp only [List.cons_append, Flags.hexNumber?, bind, Option.bind_assoc]
    congr
    funext d
    split
    · exact ih _
    · rfl

theorem hexValue?_digitChar {d : Nat} (h : d < 16) : Flags.hexValue? (Nat.digitChar d) = some d := by
  revert d
  decide

/-- Numbers of up to 32 bits can be read back from their digits. -/
theorem hexNumber?_hexDigits {n : Nat} (h : n < 0x100000000) :
    Flags.hexNumber? 0 (hexDigits n) = some n := by
  -- By the last digit: those before it are the digits of a smaller number, which fits into 32 bits too.
  induction n using Nat.strongRecOn with
  | _ n ih =>
    rw [hexDigits]
    by_cases hn : n < 16
    · rw [Nat.toDigits_of_lt_base hn, Flags.hexNumber?, hexValue?_digitChar hn]
      simp only [bind, Option.bind_some, Nat.mul_zero, Nat.zero_add, if_pos h]
      rfl
    · have hlt : n / 16 < n := Nat.div_lt_self (by omega) (by omega)
      have first := ih (n / 16) hlt (Nat.lt_trans hlt h)
      have last : n % 16 < 16 := Nat.mod_lt _ (by omega)
      rw [hexDigits] at first
      rw [Nat.toDigits_of_base_le (by decide) (by omega), hexNumber?_append, first, Option.bind_some,
        Flags.hexNumber?, hexValue?_digitChar last]
      simp only [bind, Option.bind_some, Nat.div_add_mod, if_pos h]
      rfl

/-- Each digit is one of sixteen characters. -/
theorem exists_digitChar {n : Nat} {c : Char} (h : c ∈ hexDigits n) :
    ∃ d < 16, c = Nat.digitChar d := by
  induction n using Nat.strongRecOn with
  | _ n ih =>
    rw [hexDigits] at h
    by_cases hn : n < 16
    · rw [Nat.toDigits_of_lt_base hn, List.mem_singleton] at h
      exact ⟨n, hn, h⟩
    · rw [Nat.toDigits_of_base_le (by decide) (by omega), List.mem_append, List.mem_singleton] at h
      rcases h with h | h
      · exact ih (n / 16) (Nat.div_lt_self (by omega) (by omega)) h
      · exact ⟨n % 16, Nat.mod_lt _ (by omega), h⟩

/-! ## Quoted text -/

/-- Where a reader of quoted text is. -/
inductive Place where
  | plain
  /-- Behind a backslash. -/
  | escaped
  /-- Behind the mark of a code point. -/
  | marked
  /-- Among the digits of a code point, the last one first. -/
  | digits (read : List Char)

/-- The character that stands for another one behind a backslash. -/
def unescaped (c : Char) : Char :=
  if c == 'n' then '\n' else if c == 'r' then '\r' else if c == 't' then '\t'
  else if c == '0' then '\x00' else c

/-- Reads on to the quotes at the end. -/
def readOn : Place → List Char → Option (List Char × List Char)
  | _, [] => none
  | .plain, c :: cs =>
    if c == '"' then some ([], cs)
    else if c == '\\' then readOn .escaped cs
    else (readOn .plain cs).map fun (text, rest) => (c :: text, rest)
  | .escaped, c :: cs =>
    if c == 'u' then readOn .marked cs
    else (readOn .plain cs).map fun (text, rest) => (unescaped c :: text, rest)
  | .marked, _ :: cs => readOn (.digits []) cs
  | .digits read, c :: cs =>
    if c == '\x7d' then do
      let n ← Flags.hexNumber? 0 read.reverse
      let (text, rest) ← readOn .plain cs
      return (Char.ofNat n :: text, rest)
    else readOn (.digits (c :: read)) cs

/-- Reads quoted text from the front of a text. -/
def readQuoted : List Char → Option (String × List Char)
  | '"' :: cs => (readOn .plain cs).map fun (text, rest) => (String.ofList text, rest)
  | _ => none

theorem readOn_digits (read ds rest : List Char) (h : '\x7d' ∉ ds) :
    readOn (.digits read) (ds ++ '\x7d' :: rest) =
      (Flags.hexNumber? 0 (read.reverse ++ ds)).bind fun n =>
        (readOn .plain rest).map fun (text, rest) => (Char.ofNat n :: text, rest) := by
  induction ds generalizing read with
  | nil =>
    rw [List.append_nil]
    cases hn : Flags.hexNumber? 0 read.reverse <;> cases hr : readOn .plain rest <;> simp [readOn, hn, hr]
  | cons d ds ih =>
    rw [List.mem_cons, not_or] at h
    have hd : (d == '\x7d') = false := beq_eq_false_iff_ne.mpr (Ne.symm h.1)
    rw [List.cons_append, readOn, hd, ih (d :: read) h.2, List.reverse_cons, List.append_assoc]
    rfl

/-- Each character is read back, whatever comes after it. -/
theorem readOn_quoteChar (c : Char) (rest : List Char) :
    readOn .plain (quoteChar c ++ rest) =
      (readOn .plain rest).map fun (text, rest) => (c :: text, rest) := by
  -- Six characters have escapes of their own. The others are written as they are, or by their numbers.
  by_cases simple : c ∈ ['"', '\\', '\n', '\r', '\t', '\x00']
  · simp only [List.mem_cons, List.not_mem_nil, or_false] at simple
    rcases simple with rfl | rfl | rfl | rfl | rfl | rfl <;> rfl
  simp only [List.mem_cons, List.not_mem_nil, or_false, not_or] at simple
  obtain ⟨hquote, hback, hline, hreturn, htab, hzero⟩ := simple
  have hzero : c.toNat ≠ 0 := by
    intro h
    apply hzero
    rw [← Char.ofNat_toNat c, h]
  simp only [quoteChar, beq_iff_eq, if_neg hquote, if_neg hback, if_neg hline, if_neg hreturn,
    if_neg htab, if_neg hzero]
  split
  · have value : Flags.hexNumber? 0 (hexDigits c.toNat) = some c.toNat :=
      hexNumber?_hexDigits c.val.toNat_lt
    have unbraced : '\x7d' ∉ hexDigits c.toNat := by
      intro hmem
      obtain ⟨d, hd, heq⟩ := exists_digitChar hmem
      revert d
      decide
    have digits := readOn_digits [] (hexDigits c.toNat) rest unbraced
    rw [List.reverse_nil, List.nil_append, value, Option.bind_some, Char.ofNat_toNat] at digits
    rw [List.append_assoc, List.append_assoc]
    exact digits
  · have hquote' : (c == '"') = false := beq_eq_false_iff_ne.mpr hquote
    have hback' : (c == '\\') = false := beq_eq_false_iff_ne.mpr hback
    rw [List.cons_append, List.nil_append, readOn, hquote', hback']
    rfl

/-- Quoted text is read back, whatever comes after it. -/
theorem readQuoted_quoted (text : String) (rest : List Char) :
    readQuoted ((quoted text).toList ++ rest) = some (text, rest) := by
  have body (cs : List Char) : readOn .plain (cs.flatMap quoteChar ++ '"' :: rest) = some (cs, rest) := by
    induction cs with
    | nil => rfl
    | cons c cs ih => rw [List.flatMap_cons, List.append_assoc, readOn_quoteChar, ih, Option.map_some]
  rw [quoted, String.toList_ofList, List.cons_append, List.append_assoc, List.singleton_append,
    readQuoted, body, Option.map_some]
  simp only [String.ofList_toList]

end BoundedRegex.Text

namespace BoundedRegex.Flags
open Text

/-! ## White space -/

theorem whiteSpacePoints_changes : Unicode.whiteSpacePoints.changes =
    #[0x9, 0xE, 0x20, 0x21, 0x85, 0x86, 0xA0, 0xA1, 0x1680, 0x1681, 0x2000, 0x200B, 0x2028, 0x202A,
      0x202F, 0x2030, 0x205F, 0x2060, 0x3000, 0x3001] := by
  -- Folds over strings do not evaluate, those over lists do.
  have number : Unicode.hexNumber = fun text =>
      text.toList.foldl (fun n c => 16 * n + Unicode.hexDigitValue c) 0 := by
    funext text
    simp only [Unicode.hexNumber, String.foldl_eq_foldl_toList]
  rw [Unicode.whiteSpacePoints, Unicode.PointSet.ofText, number]
  decide +kernel

/-- White space among the first characters. -/
theorem isBlank_of_lt {c : Char} (h : c.toNat < 0x80) :
    isBlank c = (9 ≤ c.toNat && c.toNat < 14 || c.toNat == 32) := by
  have early : ∀ n < 0x80, Unicode.whiteSpacePoints.contains n = (9 ≤ n && n < 14 || n == 32) := by
    unfold Unicode.PointSet.contains
    rw [whiteSpacePoints_changes]
    decide +kernel
  exact early c.toNat h

theorem isBlank_space : isBlank ' ' := by rw [isBlank_of_lt (by decide)]; decide

/-! ## Parts of a text of flags -/

/-- Text without bars and without white space. -/
def Plain (cs : List Char) : Prop := ∀ c ∈ cs, c ≠ '|' ∧ isBlank c = false

theorem plain_of_between {cs : List Char} (h : ∀ c ∈ cs, 0x20 < c.toNat ∧ c.toNat < '|'.toNat) :
    Plain cs := by
  intro c hc
  obtain ⟨low, high⟩ := h c hc
  have hlt : c.toNat < 0x7C := high
  constructor
  · rintro rfl
    exact absurd high (Nat.lt_irrefl _)
  · rw [isBlank_of_lt (by omega)]
    have tests : ¬c.toNat < 14 ∧ c.toNat ≠ 32 := by omega
    simp [tests]

theorem dropWhile_plain {cs back : List Char} (h : Plain cs) (hback : ∀ c ∈ back, isBlank c) :
    (cs ++ back).dropWhile isBlank = if cs = [] then [] else cs ++ back := by
  cases cs with
  | nil => exact List.dropWhile_eq_nil_iff.mpr hback
  | cons c cs =>
    have hc : isBlank c = false := (h c List.mem_cons_self).2
    simp [hc]

/-- White space around a part goes away. -/
theorem trim_plain {front cs back : List Char} (hfront : ∀ c ∈ front, isBlank c) (h : Plain cs)
    (hback : ∀ c ∈ back, isBlank c) : trim (front ++ (cs ++ back)) = cs := by
  have reversed : Plain cs.reverse := fun c hc => h c (List.mem_reverse.mp hc)
  rw [trim, List.dropWhile_append_of_pos hfront, dropWhile_plain h hback]
  by_cases hcs : cs = []
  · rw [if_pos hcs, hcs]
    rfl
  · have tail := dropWhile_plain reversed (List.forall_mem_nil fun c => isBlank c)
    rw [List.append_nil, if_neg (mt List.reverse_eq_nil_iff.mp hcs)] at tail
    rw [if_neg hcs, List.reverse_append,
      List.dropWhile_append_of_pos fun c hc => hback c (List.mem_reverse.mp hc), tail,
      List.reverse_reverse]

theorem splitAtBars_cons {c : Char} (hc : c ≠ '|') {cs first : List Char} {others : List (List Char)}
    (h : splitAtBars cs = first :: others) : splitAtBars (c :: cs) = (c :: first) :: others := by
  rw [splitAtBars.eq_def]
  split
  · next heq => cases heq
  · next heq =>
    cases heq
    exact absurd rfl hc
  · next heq =>
    cases heq
    rw [h]

theorem splitAtBars_append {cs : List Char} (h : '|' ∉ cs) (rest : List Char) :
    splitAtBars (cs ++ '|' :: rest) = cs :: splitAtBars rest := by
  induction cs with
  | nil => rfl
  | cons c cs ih =>
    rw [List.mem_cons, not_or] at h
    exact splitAtBars_cons (Ne.symm h.1) (ih h.2)

theorem splitAtBars_plain {cs : List Char} (h : '|' ∉ cs) : splitAtBars cs = [cs] := by
  induction cs with
  | nil => rfl
  | cons c cs ih =>
    rw [List.mem_cons, not_or] at h
    exact splitAtBars_cons (Ne.symm h.1) (ih h.2)

/-- The parts are found again between the bars. -/
theorem trim_splitAtBars {ps : List (List Char)} (hne : ps ≠ []) (h : ∀ p ∈ ps, Plain p)
    {front : List Char} (hfront : ∀ c ∈ front, isBlank c ∧ c ≠ '|') :
    (splitAtBars (front ++ " | ".toList.intercalate ps)).map trim = ps := by
  have unbarred {p : List Char} (hp : Plain p) {back : List Char} (hback : '|' ∉ back) (front : List Char)
      (hfront : ∀ c ∈ front, isBlank c ∧ c ≠ '|') : '|' ∉ front ++ (p ++ back) := by
    simp only [List.mem_append, not_or]
    exact ⟨fun hmem => (hfront _ hmem).2 rfl, fun hmem => (hp _ hmem).1 rfl, hback⟩
  -- The front is general, since there is white space between a bar and the part behind it.
  induction ps generalizing front with
  | nil => exact absurd rfl hne
  | cons p rest ih =>
    obtain ⟨hp, hrest⟩ := List.forall_mem_cons.mp h
    cases rest with
    | nil =>
      have whole := unbarred hp (List.not_mem_nil) front hfront
      have trimmed := trim_plain (fun c hc => (hfront c hc).1) hp (List.forall_mem_nil fun c => isBlank c)
      rw [List.append_nil] at whole trimmed
      rw [List.intercalate_singleton, splitAtBars_plain whole, List.map_singleton, trimmed]
    | cons q rest =>
      have space : ∀ c ∈ [' '], isBlank c ∧ c ≠ '|' := by simpa using isBlank_space
      have first := unbarred hp (fun hbar => (space _ hbar).2 rfl) front hfront
      have trimmed := trim_plain (fun c hc => (hfront c hc).1) hp fun c hc => (space c hc).1
      have text : front ++ " | ".toList.intercalate (p :: q :: rest) =
          (front ++ (p ++ [' '])) ++ '|' :: ([' '] ++ " | ".toList.intercalate (q :: rest)) := by
        simp [List.intercalate_cons_cons]
      rw [text, splitAtBars_append first, List.map_cons, trimmed,
        ih (List.cons_ne_nil q rest) hrest space]

/-! ## Sets of flags -/

/-- The text of a named flag or of the bits without a name. -/
def partTexts (f : Flags) : List String :=
  f.flags.map Flag.name ++ if f.rest == 0 then [] else [hexText f.rest]

theorem plain_name (x : Flag) : Plain x.name.toList := by
  have between : x.name.toList.all fun c => 0x20 < c.toNat ∧ c.toNat < '|'.toNat := by
    cases x <;> decide
  exact plain_of_between fun c hc => of_decide_eq_true (List.all_eq_true.mp between c hc)

theorem toList_hexText (bits : UInt32) : (hexText bits).toList = '0' :: 'x' :: hexDigits bits.toNat := by
  simp only [hexText, String.toList_append, String.toList_ofList]
  rfl

theorem plain_hexText (bits : UInt32) : Plain (hexText bits).toList := by
  apply plain_of_between
  rw [toList_hexText, List.forall_mem_cons, List.forall_mem_cons]
  refine ⟨by decide, by decide, fun c hc => ?_⟩
  obtain ⟨d, hd, rfl⟩ := exists_digitChar hc
  clear hc
  revert d
  decide

theorem part?_name (x : Flag) : part? x.name.toList = some ⟨x.bit⟩ := by
  cases x <;> decide

theorem bits?_hexDigits (bits : UInt32) : bits? (hexDigits bits.toNat) = some bits := by
  have number : hexNumber? 0 (hexDigits bits.toNat) = some bits.toNat :=
    hexNumber?_hexDigits bits.toNat_lt
  have unsigned : '+' ∉ hexDigits bits.toNat := by
    intro hmem
    obtain ⟨d, hd, heq⟩ := exists_digitChar hmem
    revert d
    decide
  cases hds : hexDigits bits.toNat with
  | nil => exact absurd hds Nat.toDigits_ne_nil
  | cons d ds =>
    have hd : d ≠ '+' := by
      rintro rfl
      exact unsigned (hds ▸ List.mem_cons_self)
    rw [hds] at number
    simp [bits?, hd, number]

theorem part?_hexText (bits : UInt32) : part? (hexText bits).toList = some ⟨bits⟩ := by
  rw [toList_hexText, part?, bits?_hexDigits]
  rfl

/-- Each part of the text stands for the bits of that part. -/
theorem forall₂_part? (f : Flags) :
    List.Forall₂ (fun text bits => Plain text.toList ∧ part? text.toList = some ⟨bits⟩)
      (partTexts f) f.parts := by
  apply List.rel_append
  · rw [List.forall₂_map_left_iff, List.forall₂_map_right_iff, List.forall₂_same]
    exact fun x _ => ⟨plain_name x, part?_name x⟩
  · split
    · exact .nil
    · exact .cons ⟨plain_hexText f.rest, part?_hexText f.rest⟩ .nil

theorem and_bit (bits : UInt32) (x : Flag) : bits &&& x.bit = 0 ∨ bits &&& x.bit = x.bit := by
  obtain ⟨i, hi⟩ : ∃ i, x.bit.toBitVec = BitVec.twoPow 32 i := by
    cases x
    exacts [⟨0, rfl⟩, ⟨1, rfl⟩, ⟨2, rfl⟩, ⟨3, rfl⟩, ⟨4, rfl⟩, ⟨5, rfl⟩]
  rw [← UInt32.toBitVec_inj, ← UInt32.toBitVec_inj, UInt32.toBitVec_and, hi, BitVec.and_twoPow]
  cases bits.toBitVec.getLsbD i
  · exact .inl rfl
  · exact .inr rfl

theorem and_or_distrib (a b c : UInt32) : a &&& (b ||| c) = a &&& b ||| a &&& c := by
  rw [← UInt32.toBitVec_inj]
  exact BitVec.and_or_distrib_left

theorem foldl_flags (f : Flags) (xs : List Flag) (n : UInt32) :
    ((xs.filter f.has).map Flag.bit).foldl (· ||| ·) n =
      xs.foldl (fun n x => n ||| (f.bits &&& x.bit)) n := by
  induction xs generalizing n with
  | nil => rfl
  | cons x xs ih =>
    rw [List.filter_cons, List.foldl_cons]
    by_cases hx : f.has x
    · have hbit : f.bits &&& x.bit = x.bit := beq_iff_eq.mp hx
      rw [if_pos hx, List.map_cons, List.foldl_cons, ih, hbit]
    · have hbit : f.bits &&& x.bit = 0 :=
        (and_bit f.bits x).resolve_right fun heq => hx (beq_iff_eq.mpr heq)
      rw [if_neg hx, ih, hbit, UInt32.or_zero]

theorem foldl_named (f : Flags) : (f.flags.map Flag.bit).foldl (· ||| ·) 0 = f.bits &&& known := by
  rw [flags, foldl_flags]
  simp only [Flag.all, List.foldl_cons, List.foldl_nil, UInt32.zero_or, ← and_or_distrib]
  rfl

/-- The parts of a set are the whole set. -/
theorem foldl_parts (f : Flags) : f.parts.foldl (· ||| ·) 0 = f.bits := by
  have whole : (f.bits &&& known) ||| f.rest = f.bits := by
    rw [rest, ← and_or_distrib]
    -- What has a name and what has none are all bits.
    have all : known ||| ~~~known = -1 := by decide
    rw [all, UInt32.and_neg_one]
  rw [parts, List.foldl_append, foldl_named]
  split
  · next hrest =>
    rw [beq_iff_eq.mp hrest, UInt32.or_zero] at whole
    exact whole
  · exact whole

/-- Parts between bars are read as the union of what they are read as. -/
theorem ofText?_intercalate {texts : List String} {bits : List UInt32} (hne : texts ≠ [])
    (h : List.Forall₂ (fun text b => Plain text.toList ∧ part? text.toList = some ⟨b⟩) texts bits) :
    ofText? (" | ".intercalate texts) = some ⟨bits.foldl (· ||| ·) 0⟩ := by
  obtain ⟨plain, read⟩ := (List.forall₂_and_left _ _).mp h
  have found := trim_splitAtBars (mt List.map_eq_nil_iff.mp hne) (List.forall_mem_map.mpr plain)
    (List.forall_mem_nil fun c => isBlank c ∧ c ≠ '|')
  -- The first part is read as something, so it is not empty, and its first character is not blank.
  have visible : ¬(" | ".intercalate texts).toList.all isBlank := by
    obtain ⟨first, rest, rfl⟩ := List.exists_cons_of_ne_nil hne
    obtain ⟨b, _, hb, _⟩ := List.forall₂_cons_left_iff.mp read
    rw [List.all_eq_true]
    intro blank
    cases hcs : first.toList with
    | nil =>
      rw [hcs] at hb
      exact absurd hb nofun
    | cons c cs =>
      have hc : isBlank c = false := (plain first List.mem_cons_self c (hcs ▸ List.mem_cons_self)).2
      have mem : c ∈ (" | ".intercalate (first :: rest)).toList := by
        rw [String.toList_intercalate, List.map_cons, hcs]
        cases rest <;> simp [List.intercalate_cons_cons]
      exact absurd (blank c mem) (Bool.eq_false_iff.mp hc)
  have union (f : Flags) : (texts.map String.toList).foldlM (fun f p => (part? p).map f.union) f =
      some ⟨bits.foldl (· ||| ·) f.bits⟩ := by
    clear hne h plain found visible
    induction read generalizing f with
    | nil => rfl
    | cons first _ ih =>
      rw [List.map_cons, List.foldlM_cons, first, List.foldl_cons]
      exact ih _
  rw [List.nil_append, ← String.toList_intercalate] at found
  have whole := union empty
  rw [← found, List.foldlM_map] at whole
  rw [ofText?, if_neg visible]
  exact whole

/-- Each set is read back from its text, one with bits that have no name too. -/
theorem ofText?_text (f : Flags) : ofText? (if f.isEmpty then "0x0" else f.text) = some f := by
  by_cases hf : f.isEmpty
  · have zero : f = ⟨0⟩ := congrArg Flags.mk (beq_iff_eq.mp hf)
    have read := ofText?_intercalate (List.cons_ne_nil (hexText 0) [])
      (.cons ⟨plain_hexText 0, part?_hexText 0⟩ .nil)
    rw [if_pos hf, zero]
    exact read
  · have some : partTexts f ≠ [] := by
      intro none
      have parts := forall₂_part? f
      rw [none, List.forall₂_nil_left_iff] at parts
      have bits := foldl_parts f
      rw [parts, List.foldl_nil] at bits
      exact hf (beq_iff_eq.mpr bits.symm)
    have read := ofText?_intercalate some (forall₂_part? f)
    rw [foldl_parts] at read
    rw [if_neg hf]
    exact read

end BoundedRegex.Flags
