import Sinkhole.Blocklist.Basic
import Sinkhole.Failure
import Sinkhole.Log.Event
import Sinkhole.Text.Ascii
import Sinkhole.Text.Utf8

/-!
# Loading a blocklist

A list has one pattern a line. Blanks around it do not count, and a blank line is
no entry. A line that is not ASCII is an internationalized name; how such a name is
converted to ASCII is a parameter here. A line that is refused is skipped in
lenient mode and ends the loading in strict mode; what was loaded before stays.

Reading may fail part way. Then the lines that were complete count, and what was
read of the next one does not.
-/

namespace Sinkhole

/-- What happens to a refused line. -/
inductive LoadMode
  | lenient
  | strict
  deriving DecidableEq

/-- How many lines were accepted and how many were skipped. -/
structure LoadStats where
  inserted : Nat := 0
  skipped : Nat := 0
  deriving DecidableEq

/-- Why loading ended early: a refused line, by its number from one, or a failure
to read on. -/
inductive LoadError
  | line (number : Nat) (error : PatternError)
  | reading (failure : String) (loaded : LoadStats)
  deriving DecidableEq

/-- The report of a loading that ended early. -/
def LoadError.message : LoadError → String
  | .line number _ => "blocklist line " ++ toString number ++ " rejected"
  | .reading failure _ => "reading blocklist: " ++ failure

/-- A loading that ended early, with its cause. -/
def LoadError.failure (error : LoadError) : Failure :=
  { contexts := [error.message]
    cause :=
      match error with
      | .line _ error => error.message
      | .reading failure _ => failure }

/-- The octets of a list, and the failure that comes after them, if one does. -/
structure ListSource where
  octets : List UInt8
  failure : Option String := none

namespace ListSource

/-- The lines of a source, without the newlines that end them. The octets after the
last newline are a line if there are any and reading did not fail. -/
def lines (source : ListSource) : List (List UInt8) :=
  let pieces := source.octets.splitOn 0x0A
  if source.failure.isSome || pieces.getLast? == some [] then pieces.dropLast else pieces

end ListSource

/-- The text of a line without the blanks around it. -/
def lineText (octets : List UInt8) : String :=
  String.ofList (Text.trimmed (Text.repaired octets))

/-- What is on a line of a list. -/
inductive ListLine
  | blank
  | entry (entry : BlockEntry)
  | refused (error : PatternError)
  deriving DecidableEq

namespace ListLine

/-- The line with a text, which is converted to ASCII first if it is not ASCII. -/
def ofText (convert : String → Option String) (text : String) : ListLine :=
  if text.isEmpty then
    .blank
  else
    let entry :=
      if Text.allAscii text.toList then
        BlockEntry.ofText text
      else
        match convert text with
        | some ascii => BlockEntry.ofText ascii
        | none => .error ⟨text, .notInternational⟩
    match entry with
    | .ok entry => .entry entry
    | .error error => .refused error

/-- The line with some octets. -/
def ofOctets (convert : String → Option String) (octets : List UInt8) : ListLine :=
  ofText convert (lineText octets)

end ListLine

namespace Blocklist

/-- A blocklist while it is being loaded. -/
structure Loading where
  blocklist : Blocklist
  stats : LoadStats := {}
  events : Array Log.Event := #[]

/-- The event of a skipped line. -/
def skipping (number : Nat) (error : PatternError) : Log.Event :=
  { level := .debug
    message := "skipping blocklist entry"
    fields := [("line", .number number), ("error", .text error.message)] }

/-- The loading after a line with the given number. -/
def Loading.after (loading : Loading) (number : Nat) : ListLine → Loading
  | .blank => loading
  | .entry entry =>
      { loading with
        blocklist := loading.blocklist.add entry
        stats := { loading.stats with inserted := loading.stats.inserted + 1 } }
  | .refused error =>
      { loading with
        stats := { loading.stats with skipped := loading.stats.skipped + 1 }
        events := loading.events.push (skipping number error) }

/-- Load lines, the first of which has the given number. On an error the loading
stays as it was before the line at fault. -/
def loadLines
    (convert : String → Option String)
    (mode : LoadMode) :
    Nat → Loading → List (List UInt8) → Loading × Option LoadError
  | _, loading, [] => (loading, none)
  | number, loading, octets :: rest =>
      match mode, ListLine.ofOctets convert octets with
      | .strict, .refused error => (loading, some (.line number error))
      | _, line => loadLines convert mode (number + 1) (loading.after number line) rest

/-- What loading leaves: its result, the blocklist in either case, and the events. -/
structure Loaded where
  result : Except LoadError LoadStats
  blocklist : Blocklist
  events : Array Log.Event

/-- Add the entries of a source to a blocklist. -/
def load
    (convert : String → Option String)
    (mode : LoadMode)
    (source : ListSource)
    (blocklist : Blocklist) :
    Loaded :=
  let (loading, error?) := loadLines convert mode 1 { blocklist } source.lines
  let result : Except LoadError LoadStats :=
    match error?, source.failure with
    | some error, _ => .error error
    | none, some failure => .error (.reading failure loading.stats)
    | none, none => .ok loading.stats
  { result, blocklist := loading.blocklist, events := loading.events }

end Blocklist
end Sinkhole
