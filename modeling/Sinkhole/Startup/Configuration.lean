import Sinkhole.Failure
import Sinkhole.Settings.Text
import Sinkhole.Startup.File
import Sinkhole.Text.Utf8

/-!
# The configuration file

The settings are in a file. Where there is none, one with the standard settings is
written.
-/

namespace Sinkhole

/-- Why there are no settings. -/
inductive ConfigurationError
  | reading (reason : String)
  | decoding
  | writing (reason : String)
  deriving DecidableEq

/-- The failure to get settings. -/
def ConfigurationError.failure : ConfigurationError → Failure
  | .reading reason => { contexts := ["reading config: " ++ reason], cause := reason }
  | .decoding => { cause := "decoding config: invalid document" }
  | .writing reason => { cause := reason }

/-- Settings from a file, and the text that is written if there is none. -/
structure Configuration where
  result : Except ConfigurationError Settings
  written : Option String := none

namespace Configuration

/-- The reason that octets are not text. -/
def notText : String := "stream did not contain valid UTF-8"

/-- The text that octets encode, if they encode one. -/
def textOf? (octets : List UInt8) : Option String :=
  String.fromUTF8? ⟨octets.toArray⟩

/-- Settings from the octets of a file. -/
def ofOctets (octets : List UInt8) : Except ConfigurationError Settings :=
  match textOf? octets with
  | none => .error (.reading notText)
  | some text =>
      match Settings.parse? text with
      | none => .error .decoding
      | some settings => .ok settings

/-- Settings from a file. A reason may stand against writing it. -/
def ofFile (file : File) (hindrance : Option String) : Configuration :=
  match file with
  | .missing =>
      match hindrance with
      | some reason => { result := .error (.writing reason) }
      | none => { result := .ok {}, written := some ({} : Settings).text }
  | .closed reason => { result := .error (.reading reason) }
  | .broken _ reason => { result := .error (.reading reason) }
  | .whole octets => { result := ofOctets octets }

end Configuration
end Sinkhole
