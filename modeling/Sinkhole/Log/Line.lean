import Sinkhole.Log.Event
import Sinkhole.Text.Numeral

/-!
# Lines of the log

An event is one line of the log, in either of two forms: an object in JSON, or text
with the values at its end.
-/

namespace Sinkhole
namespace Log

/-- A character of a text in JSON. -/
def jsonChar (character : Char) : String :=
  if character == '"' then "\\\""
  else if character == '\\' then "\\\\"
  else if character == '\n' then "\\n"
  else if character == '\r' then "\\r"
  else if character == '\t' then "\\t"
  else if character.toNat = 8 then "\\b"
  else if character.toNat = 12 then "\\f"
  else if ' ' ≤ character then String.singleton character
  else
    let digits := Text.lowerHex character.toNat
    "\\u" ++ String.ofList (List.replicate (4 - digits.length) '0' ++ digits)

/-- A text in JSON. -/
def jsonText (content : String) : String :=
  "\"" ++ String.join (content.toList.map jsonChar) ++ "\""

/-- An object in JSON, whose values are already written. -/
def jsonObject (members : List (String × String)) : String :=
  let member (name value : String) : String := jsonText name ++ ":" ++ value
  "\x7b" ++ ",".intercalate (members.map fun (name, value) => member name value) ++ "\x7d"

/-- A value in JSON: only texts stand between quotes. -/
def Value.json : Value → String
  | .text value => jsonText value
  | value => value.toText

namespace Event

/-- An event in JSON, after the time of it if that is given. -/
def jsonLine (event : Event) (time : Option String := none) : String :=
  let fields := event.fields.map fun (name, value) => (name, value.json)
  let stamp := time.toList.map fun time => ("timestamp", jsonText time)
  jsonObject
    (stamp ++
      [("level", jsonText event.level.text),
        ("fields", jsonObject (("message", jsonText event.message) :: fields))])

/-- An event in words, after the time of it if that is given. The levels are as wide as
the longest of them. -/
def textLine (event : Event) (time : Option String := none) : String :=
  let fields := event.fields.map fun (name, value) => " " ++ name ++ "=" ++ value.toText
  let padding := "".pushn ' ' (5 - event.level.text.length)
  let stamp := time.toList.map (· ++ " ")
  String.join (stamp ++ [padding, event.level.text, " ", event.message] ++ fields)

end Event
end Log
end Sinkhole
