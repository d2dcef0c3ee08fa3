/-!
# Reading characters

Readers take characters off the front of a list and give what they read together
with the rest. A loop repeats a step that either goes on or ends; a step that goes
on has to take something.
-/

namespace Sinkhole
namespace Toml

/-- What a reader gives: a result and the characters that are left. -/
abbrev Scan (α : Type) := List Char → Option (α × List Char)

/-- What a step of a loop comes to. -/
inductive Progress (σ : Type)
  | more (state : σ) (rest : List Char)
  | done (state : σ) (rest : List Char)

/-- Repeat a step until it ends. -/
def repeatStep
    {σ : Type}
    (step : σ → List Char → Option (Progress σ))
    (state : σ) :
    Scan σ :=
  fun input =>
    match step state input with
    | none => none
    | some (.done state rest) => some (state, rest)
    | some (.more state rest) =>
        if rest.length < input.length then repeatStep step state rest else none
termination_by input => input.length

/-- A space or a tab. -/
def isBlank (character : Char) : Bool :=
  character == ' ' || character == '\t'

/-- A character that may stand in a comment or a text: no control character other
than the tab. -/
def isPlain (character : Char) : Bool :=
  character == '\t' || (' ' ≤ character && character != '\x7f')

/-- What is left after blanks. -/
def dropBlanks (input : List Char) : List Char :=
  input.dropWhile isBlank

/-- What is left after the end of a line, if the input begins with one. -/
def newline? : List Char → Option (List Char)
  | '\n' :: rest => some rest
  | '\r' :: '\n' :: rest => some rest
  | _ => none

/-- What is left after a comment, if the input begins with one. The line's end is
left. -/
def comment? : List Char → Option (List Char)
  | '#' :: rest =>
      let isInside (character : Char) : Bool := character != '\n' && character != '\r'
      if (rest.takeWhile isInside).all isPlain then some (rest.dropWhile isInside) else none
  | _ => none

/-- What is left after the blanks and the comment at the end of a line and after its
end. -/
def lineEnd? (input : List Char) : Option (List Char) :=
  let input := dropBlanks input
  let input := (comment? input).getD input
  if input.isEmpty then some [] else newline? input

/-- One step over a blank or the end of a line, and over a comment where these
count. -/
def gapStep (comments : Bool) (_ : Unit) : List Char → Option (Progress Unit)
  | [] => some (.done () [])
  | input@(character :: rest) =>
      if isBlank character then some (.more () rest)
      else
        match newline? input with
        | some rest => some (.more () rest)
        | none =>
            if comments && character == '#' then (comment? input).map (.more () ·)
            else some (.done () input)

/-- What is left after blanks and ends of lines. -/
def dropLines (input : List Char) : List Char :=
  ((repeatStep (gapStep false) () input).map Prod.snd).getD input

/-- What is left after blanks, ends of lines and comments, unless one of the comments
is at fault. -/
def dropGaps? (input : List Char) : Option (List Char) :=
  (repeatStep (gapStep true) () input).map Prod.snd

end Toml
end Sinkhole
