import BoundedRegex.Unicode.Category
import BoundedRegex.Unicode.Property.Letter

/-!
# Quoted text

How text is shown between quotes: on one line, with escapes for what would end the quotes, for what
is not visible, and for marks that would join the character before them.
-/
namespace BoundedRegex.Text
open Unicode

/-- Whether a character would not be visible: controls, formats, surrogates, private and unassigned
code points, and all separators but the space. -/
def isInvisible (c : Char) : Bool :=
  if c == ' ' then false
  else
    match categoryOf c.toNat with
    | .cc => true
    | .cf => true
    | .cs => true
    | .co => true
    | .cn => true
    | .zl => true
    | .zp => true
    | .zs => true
    | _ => false

/-- Digits in base sixteen, in lower case. -/
def hexDigits (n : Nat) : List Char := Nat.toDigits 16 n

/-- How one character is shown. -/
def quoteChar (c : Char) : List Char :=
  if c == '"' then ['\\', '"']
  else if c == '\\' then ['\\', '\\']
  else if c == '\n' then ['\\', 'n']
  else if c == '\r' then ['\\', 'r']
  else if c == '\t' then ['\\', 't']
  else if c.toNat == 0 then ['\\', '0']
  else if graphemeExtendPoints.contains c.toNat || isInvisible c then
    ['\\', 'u', '\x7b'] ++ hexDigits c.toNat ++ ['\x7d']
  else [c]

def quoted (text : String) : String :=
  String.ofList ('"' :: (text.toList.flatMap quoteChar ++ ['"']))

end BoundedRegex.Text
