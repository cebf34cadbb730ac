/-
This file holds the white space of the Unicode standard.
-/

namespace ScriptHost.Text

/-- These are the characters with the property `White_Space`. -/
def isBlank (value : Char) : Bool :=
  let code := value.toNat
  (0x09 ≤ code && code ≤ 0x0D) || code == 0x20 || code == 0x85 || code == 0xA0 ||
    code == 0x1680 || (0x2000 ≤ code && code ≤ 0x200A) || code == 0x2028 || code == 0x2029 ||
    code == 0x202F || code == 0x205F || code == 0x3000

def trimChars (text : List Char) : List Char :=
  ((text.dropWhile isBlank).reverse.dropWhile isBlank).reverse

/-- This drops the white space at both ends. -/
def trim (text : String) : String :=
  String.ofList (trimChars text.toList)

end ScriptHost.Text
