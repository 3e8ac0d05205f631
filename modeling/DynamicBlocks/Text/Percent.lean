import DynamicBlocks.Text.Quoted

/-!
# Percent encoding

A text becomes part of a web address: letters, digits and four marks stay, and every other character is
written as the bytes of its UTF-8 form, two capital hexadecimal digits each behind a percent sign. Surrogates have no
UTF-8 form, so a text with one has no place in an address.
-/

set_option autoImplicit false

namespace DynamicBlocks.Text

/-- Characters that stand for themselves in any part of a web address. -/
def isUnreserved (c : Char) : Bool :=
  c.isAlphanum || c == '-' || c == '.' || c == '_' || c == '~'

/-- One character of a web address. -/
def percentChar (c : Char) : List Char :=
  if isUnreserved c then [c]
  else (String.singleton c).toUTF8.toList.flatMap fun byte =>
    '%' :: (hexDigits 2 byte.toNat).map Char.toUpper

/-- The text as part of a web address, unless a surrogate stands in it. -/
def percentEncoded? (s : String) : Option String :=
  if isEncodable s then some (String.ofList (s.toList.flatMap percentChar)) else none

end DynamicBlocks.Text
