import Sinkhole.Text.Blank
import Sinkhole.Text.Dotted
import Sinkhole.Text.Quoted

/-!
# Patterns

A pattern is the text of a name in which the label `*` stands for any one label.
The module says which texts are legal names, splits them into labels, and gives
the canonical form: lowercase, with a trailing dot. Two texts name the same thing
when their canonical forms are equal.
-/

namespace Sinkhole

/-- Why a text is not accepted as a pattern. -/
inductive Refusal
  | emptyName
  | blankCharacter
  | emptyLabel
  | longLabel
  | longName
  | reservedMark
  | fewLevels
  | partialWildcard
  | rootName
  | notInternational
  deriving DecidableEq

/-- The wording of a refusal. -/
def Refusal.text : Refusal → String
  | .emptyName => "empty name"
  | .blankCharacter => "control character or whitespace"
  | .emptyLabel => "empty label"
  | .longLabel => "label longer than 63 bytes"
  | .longName => "name longer than 255 bytes"
  | .reservedMark => "cannot contain `!`"
  | .fewLevels => "must have at least two levels"
  | .partialWildcard => "`*` must be a whole label"
  | .rootName => "root name"
  | .notInternational => "invalid internationalized name"

/-- A refused pattern. -/
structure PatternError where
  pattern : String
  reason : Refusal
  deriving DecidableEq

/-- The report of a refused pattern. -/
def PatternError.message (error : PatternError) : String :=
  "invalid pattern " ++ Text.quoted error.pattern ++ ": " ++ error.reason.text

namespace Pattern

/-- The label that matches any one label. -/
def wildcard : String := "*"

/-- A character kept out of wildcard patterns and of the names matched with them. -/
def reservedMark : Char := '!'

/-- The longest label, in octets. -/
def maxLabelSize : Nat := 63

/-- The longest name on the wire, in octets. -/
def maxNameSize : Nat := 255

/-- The labels of a text from left to right; a trailing dot adds none. -/
def labels (text : String) : List String :=
  let bare := Text.withoutDot text.toList
  if bare.isEmpty then [] else (bare.splitOn '.').map String.ofList

/-- A text with its ASCII letters in lowercase. -/
def lowercase (text : String) : String :=
  String.ofList (text.toList.map Char.toLower)

/-- The lowercase text with a trailing dot. -/
def canonical (text : String) : String :=
  let lowered := text.toList.map Char.toLower
  String.ofList (if lowered.getLast? = some '.' then lowered else lowered ++ ['.'])

/-- Whether a text is its own canonical form. -/
def isCanonical (text : String) : Bool :=
  canonical text == text

/-- The number of octets that labels take on the wire, with the end of the name. -/
def wireSize : List String → Nat
  | [] => 1
  | label :: rest => label.utf8ByteSize + 1 + wireSize rest

/-- The fault of one label, if it has one. -/
def labelFault? (label : String) : Option Refusal :=
  if label.isEmpty then some .emptyLabel
  else if maxLabelSize < label.utf8ByteSize then some .longLabel
  else none

/-- The first fault of a text that is to be a legal name, if it has one. The root
name is legal. -/
def fault? (text : String) : Option Refusal :=
  if text.isEmpty then some .emptyName
  else if text = "." then none
  else if text.toList.any fun character =>
      Text.isControl character || Text.isBlank character then
    some .blankCharacter
  else
    match (labels text).findSome? labelFault? with
    | some refusal => some refusal
    | none => if maxNameSize < wireSize (labels text) then some .longName else none

/-- Whether a text is a legal name. -/
def isLegal (text : String) : Bool :=
  (fault? text).isNone

/-- Whether a character occurs in a text. -/
def mentions (text : String) (character : Char) : Bool :=
  text.toList.contains character

/-- The first fault of a text that is to be a wildcard pattern, if it has one. -/
def wildcardFault? (text : String) : Option Refusal :=
  match fault? text with
  | some refusal => some refusal
  | none =>
      if mentions text reservedMark then some .reservedMark
      else if (labels text).length < 2 then some .fewLevels
      else if (labels text).any fun label => mentions label '*' && label != wildcard then
        some .partialWildcard
      else
        none

end Pattern
end Sinkhole
