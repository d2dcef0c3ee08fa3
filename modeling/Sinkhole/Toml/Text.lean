import Sinkhole.Text.Numeral
import Sinkhole.Toml.Scan

/-!
# Texts between quotes

A text stands between quotes of one of two kinds. Between double quotes a backslash
begins an escape; between single quotes it is a character as any other. Three quotes
open a text that may span lines: a line's end right after them does not count, and a
closing run may have up to two quotes more, which belong to the text.
-/

namespace Sinkhole
namespace Toml

open Sinkhole.Text

/-- The character with a number, if there is one. -/
def character? (code : Nat) : Option Char :=
  if code.isValidChar then some (Char.ofNat code) else none

/-- A character given by a number of hexadecimal digits. -/
def hexEscape (count : Nat) : Scan Char := fun input => do
  let digits := input.take count
  if digits.length = count then
    let code ← hexValue? digits
    let character ← character? code
    pure (character, input.drop count)
  else
    none

/-- The rest of an escape, after its backslash. -/
def escape : Scan Char
  | 'b' :: rest => some ('\x08', rest)
  | 't' :: rest => some ('\t', rest)
  | 'n' :: rest => some ('\n', rest)
  | 'f' :: rest => some ('\x0c', rest)
  | 'r' :: rest => some ('\r', rest)
  | 'e' :: rest => some ('\x1b', rest)
  | '"' :: rest => some ('"', rest)
  | '\\' :: rest => some ('\\', rest)
  | 'x' :: rest => hexEscape 2 rest
  | 'u' :: rest => hexEscape 4 rest
  | 'U' :: rest => hexEscape 8 rest
  | _ => none

/-- One step through a text on one line. What was read stands in reverse. -/
def lineStep (quote : Char) (content : List Char) : List Char → Option (Progress (List Char))
  | [] => none
  | character :: rest =>
      if character == quote then some (.done content rest)
      else if character == '\\' && quote == '"' then
        (escape rest).map fun (escaped, rest) => .more (escaped :: content) rest
      else if isPlain character then some (.more (character :: content) rest)
      else none

/-- What is left after a backslash at the end of a line: the blanks and ends of lines
that follow do not count. -/
def continued? (input : List Char) : Option (List Char) :=
  (newline? (dropBlanks input)).map dropLines

/-- The most quotes in a closing run. -/
def longestClosing : Nat := 5

/-- One step through a text that may span lines. -/
def blockStep (quote : Char) (content : List Char) : List Char → Option (Progress (List Char))
  | [] => none
  | input@(character :: rest) =>
      if character == quote then
        let run := min (input.takeWhile (· == quote)).length longestClosing
        if run < 3 then some (.more (List.replicate run quote ++ content) (input.drop run))
        else some (.done (List.replicate (run - 3) quote ++ content) (input.drop run))
      else if character == '\\' && quote == '"' then
        match continued? rest with
        | some rest => some (.more content rest)
        | none => (escape rest).map fun (escaped, rest) => .more (escaped :: content) rest
      else
        match newline? input with
        | some rest => some (.more ('\n' :: content) rest)
        | none => if isPlain character then some (.more (character :: content) rest) else none

/-- The text that a reversed list of characters spells. -/
def spelled (content : List Char) : String :=
  String.ofList content.reverse

/-- Read a text on one line. -/
def lineText : Scan String
  | quote :: rest =>
      if quote == '"' || quote == '\'' then
        (repeatStep (lineStep quote) [] rest).map fun (content, rest) => (spelled content, rest)
      else none
  | [] => none

/-- Read a text of either form. -/
def text : Scan String
  | input@(first :: second :: third :: rest) =>
      if (first == '"' || first == '\'') && second == first && third == first then
        (repeatStep (blockStep first) [] ((newline? rest).getD rest)).map
          fun (content, rest) => (spelled content, rest)
      else lineText input
  | input => lineText input

end Toml
end Sinkhole
