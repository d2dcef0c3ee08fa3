import Sinkhole.Text.Numeral
import Sinkhole.Text.Unprintable

/-!
# Quoted texts

A name or a pattern that is reported to the operator stands between double
quotes. Inside them a quote and a backslash follow a backslash, four controls
have a letter or a digit of their own, and what a reader could not see is written
as its code point in braces.
-/

namespace Sinkhole
namespace Text

/-- How one character stands in a quoted text. -/
def quotedChar (character : Char) : List Char :=
  if character = '\x00' then ['\\', '0']
  else if character = '\t' then ['\\', 't']
  else if character = '\n' then ['\\', 'n']
  else if character = '\r' then ['\\', 'r']
  else if character = '\\' then ['\\', '\\']
  else if character = '"' then ['\\', '"']
  else if unprintable.contains character then
    ['\\', 'u', '\x7b'] ++ lowerHex character.toNat ++ ['\x7d']
  else
    [character]

/-- A text between double quotes, with everything unseen escaped. -/
def quoted (text : String) : String :=
  String.ofList ('"' :: text.toList.flatMap quotedChar ++ ['"'])

end Text
end Sinkhole
