import Sinkhole.Toml.Scalar
import Sinkhole.Toml.Table
import Sinkhole.Toml.Text

/-!
# Statements of a document

A document is a list of statements: headers, which open a table or one more table of
an array, and entries. A key has parts between dots; all but the last name tables on
the way. Arrays and tables between braces may be nested to a limited depth and may
span lines.
-/

namespace Sinkhole
namespace Toml

/-- A statement of a document. -/
inductive Statement
  | header (key : Key)
  | arrayHeader (key : Key)
  | entry (key : Key) (value : Value)

/-- A character of a part that needs no quotes. -/
def isBareChar (character : Char) : Bool :=
  character.isAlphanum || character == '-' || character == '_'

/-- Read one part of a key. -/
def keyPart : Scan String := fun input =>
  match input.takeWhile isBareChar with
  | [] => lineText input
  | part => some (String.ofList part, input.dropWhile isBareChar)

/-- One step through a key: a part, the blanks around it, and a dot if there is one. -/
def keyStep (parts : List String) (input : List Char) : Option (Progress (List String)) := do
  let (part, rest) ← keyPart (dropBlanks input)
  match dropBlanks rest with
  | '.' :: rest => pure (.more (part :: parts) rest)
  | rest => pure (.done (part :: parts) rest)

/-- The most parts of a key. -/
def mostParts : Nat := 80

/-- Read a key and the blanks around it. -/
def key : Scan Key := fun input => do
  let (parts, rest) ← repeatStep keyStep [] input
  match parts with
  | last :: parents =>
      if parts.length ≤ mostParts then some (⟨parents.reverse, last⟩, rest) else none
  | [] => none

/-- One step through items with a comma after each but perhaps the last. What was read
stands in reverse. -/
def itemStep
    {α : Type}
    (item : Scan α)
    (closing : Char)
    (items : List α)
    (input : List Char) :
    Option (Progress (List α)) := do
  let input ← dropGaps? input
  if input.head? == some closing then pure (.done items input.tail)
  else
    let (next, rest) ← item input
    match ← dropGaps? rest with
    | ',' :: rest => pure (.more (next :: items) rest)
    | mark :: rest => if mark == closing then pure (.done (next :: items) rest) else none
    | [] => none

/-- Read items up to a closing mark. -/
def itemsUntil {α : Type} (item : Scan α) (closing : Char) : Scan (List α) := fun input =>
  (repeatStep (itemStep item closing) [] input).map fun (items, rest) => (items.reverse, rest)

/-- Read an entry whose value is read by the given reader. -/
def entry (value : Scan Value) : Scan (Key × Value) := fun input => do
  let (key, rest) ← key input
  match rest with
  | '=' :: rest =>
      let (value, rest) ← value (dropBlanks rest)
      pure ((key, value), rest)
  | _ => none

/-- Read a text or a word. -/
def plainValue : Scan Value := fun input =>
  if input.head? == some '"' || input.head? == some '\'' then
    (text input).map fun (content, rest) => (.text content, rest)
  else
    let (word, rest) := splitWord input
    (word? word).map fun value => (value, rest)

/-- Read a value in which arrays and tables are nested at most as deep as given. -/
def value : Nat → Scan Value
  | 0, input => plainValue input
  | depth + 1, '[' :: rest =>
      (itemsUntil (value depth) ']' rest).map fun (elements, rest) =>
        (.array false elements, rest)
  | depth + 1, '\x7b' :: rest => do
      let (entries, rest) ← itemsUntil (entry (value depth)) '\x7d' rest
      let table ← Table.ofEntries? entries
      pure (table.value, rest)
  | _ + 1, input => plainValue input

/-- The greatest depth of nesting. -/
def greatestDepth : Nat := 80

/-- Read a key between marks. -/
def headerKey (opening closing : List Char) : Scan Key := fun input =>
  if opening.isPrefixOf input then do
    let (key, rest) ← key (input.drop opening.length)
    if closing.isPrefixOf rest then pure (key, rest.drop closing.length) else none
  else
    none

/-- Read a statement. -/
def statement : Scan Statement := fun input =>
  if "[[".toList.isPrefixOf input then
    (headerKey "[[".toList "]]".toList input).map fun (key, rest) => (.arrayHeader key, rest)
  else if input.head? == some '[' then
    (headerKey "[".toList "]".toList input).map fun (key, rest) => (.header key, rest)
  else
    (entry (value greatestDepth) input).map fun ((key, value), rest) =>
      (.entry key value, rest)

/-- One step through a document: an empty line or a statement with the end of its
line. -/
def documentStep (statements : List Statement) (input : List Char) :
    Option (Progress (List Statement)) :=
  let input := dropBlanks input
  if input.isEmpty then some (.done statements [])
  else
    match lineEnd? input with
    | some rest => some (.more statements rest)
    | none => do
        let (next, rest) ← statement input
        let rest ← lineEnd? rest
        pure (.more (next :: statements) rest)

/-- The mark that may stand at the very front of a document. -/
def byteOrderMark : Char := '\ufeff'

/-- The statements of a document. -/
def statements? (text : String) : Option (List Statement) :=
  let input := text.toList
  let input := if input.head? == some byteOrderMark then input.tail else input
  (repeatStep documentStep [] input).map fun (statements, _) => statements.reverse

end Toml
end Sinkhole
