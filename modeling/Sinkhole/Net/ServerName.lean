import Sinkhole.Net.Address
import Sinkhole.Text.Dotted

/-!
# Names that a certificate can be checked against

The name of a server that speaks TLS is a host name or an address. How a text is
read as one is not for the program to say, so that whoever needs it takes it as a
parameter.

The reading that the program is given is here too. A host name has labels of
letters, digits, hyphens and underscores, none of them with a hyphen at an end, the
last of them not all digits; one trailing dot is allowed.
-/

namespace Sinkhole
namespace Net

open Text

/-- A name that a certificate can be checked against. -/
inductive ServerName
  | host (name : String)
  | address (address : Address)
  deriving DecidableEq

namespace ServerName

/-- A way of reading names of servers. Of a text that is none there is a reason. -/
abbrev Reading := String → Except String ServerName

/-- The longest host name, its trailing dot included. -/
def maxHostLength : Nat := 253

/-- A character of a host name's label. -/
def isLabelChar (character : Char) : Bool :=
  isDigit character || ('a' ≤ character && character ≤ 'z') ||
    ('A' ≤ character && character ≤ 'Z') || character == '_' || character == '-'

/-- A label of a host name. -/
def isLabel (label : List Char) : Bool :=
  !label.isEmpty && label.length ≤ 63 && label.all isLabelChar &&
    label.head? != some '-' && label.getLast? != some '-'

/-- Whether a text is a host name. -/
def isHost (text : List Char) : Bool :=
  let labels := (withoutDot text).splitOn '.'
  text.length ≤ maxHostLength && labels.all isLabel &&
    !(labels.getLast?.any fun label => label.all isDigit)

/-- Read the name of a server. -/
def read : Reading := fun text =>
  if isHost text.toList then .ok (.host text)
  else
    match Address.parse? text with
    | some found => .ok (.address found)
    | none => .error "invalid dns name"

end ServerName
end Net
end Sinkhole
