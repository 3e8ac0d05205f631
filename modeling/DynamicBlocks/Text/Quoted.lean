import DynamicBlocks.Text.CodePoint
import DynamicBlocks.Text.Printable

/-!
# Quoted texts

A text inside a written-out value stands between quotes. Single quotes are used unless the text holds single
quotes and no double ones. The quote in use, the backslash, line breaks and tabs are escaped by name, and
every character that is not printable by its code point in the shortest of three widths.
-/

set_option autoImplicit false

namespace DynamicBlocks.Text

/-- Hexadecimal digits of a number, in lower case, filled up with zeros to a width. -/
def hexDigits (width n : Nat) : List Char :=
  let digits := Nat.toDigits 16 n
  List.replicate (width - digits.length) '0' ++ digits

/-- The quote that surrounds the text. -/
def quoteMark (cs : List Char) : Char :=
  if cs.contains '\'' && !cs.contains '"' then '"' else '\''

/-- One character between quotes. -/
def quoteChar (mark c : Char) : List Char :=
  if c = mark ∨ c = '\\' then ['\\', c]
  else if c = '\n' then ['\\', 'n']
  else if c = '\r' then ['\\', 'r']
  else if c = '\t' then ['\\', 't']
  else if isPrintable c then [c]
  else
    let code := codePoint c
    if code < 0x100 then '\\' :: 'x' :: hexDigits 2 code
    else if code < 0x10000 then '\\' :: 'u' :: hexDigits 4 code
    else '\\' :: 'U' :: hexDigits 8 code

def quoted (s : String) : String :=
  let mark := quoteMark s.toList
  String.ofList (mark :: s.toList.flatMap (quoteChar mark) ++ [mark])

end DynamicBlocks.Text
