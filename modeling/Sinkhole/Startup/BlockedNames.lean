import Sinkhole.Blocklist.Load
import Sinkhole.Settings.Basic
import Sinkhole.Startup.File

/-!
# The file of blocked names

A file that cannot be opened or read is no reason not to start; what was read of it
counts. A refused line is one, if the settings say so.
-/

namespace Sinkhole

/-- The blocklist that a server starts with, or the line that kept it from starting,
and what there is to log. -/
structure BlockedNames where
  result : Except LoadError (Blocklist × LoadStats)
  events : Array Log.Event := #[]

namespace BlockedNames

/-- The event of a file that could not be used. -/
def unusable (message path reason : String) : Log.Event :=
  { level := .error
    message
    fields := [("path", .text path), ("error", .text reason)] }

/-- The names in what was read of a file, and the failure that ended the reading. -/
def ofSource
    (convert : String → Option String)
    (path : String)
    (mode : LoadMode)
    (source : ListSource) :
    BlockedNames :=
  let loaded := Blocklist.load convert mode source {}
  match loaded.result with
  | .ok stats => { result := .ok (loaded.blocklist, stats), events := loaded.events }
  | .error (.reading reason stats) =>
      { result := .ok (loaded.blocklist, stats)
        events := loaded.events.push (unusable "failed to read blocklist" path reason) }
  | .error (.line number error) =>
      { result := .error (.line number error), events := loaded.events }

/-- The names in the file at a path. -/
def ofFile
    (convert : String → Option String)
    (path : String)
    (mode : LoadMode) :
    File → BlockedNames
  | .missing => closed File.missingReason
  | .closed reason => closed reason
  | .broken octets reason => ofSource convert path mode { octets, failure := some reason }
  | .whole octets => ofSource convert path mode { octets }
where
  /-- Nothing is blocked if the file cannot be opened. -/
  closed (reason : String) : BlockedNames :=
    { result := .ok ({}, {}), events := #[unusable "failed to open blocklist" path reason] }

/-- The names that the settings say to block. -/
def ofSettings
    (convert : String → Option String)
    (blocking : Settings.Blocking)
    (file : String → File) :
    BlockedNames :=
  match blocking.path with
  | none => { result := .ok ({}, {}) }
  | some path => ofFile convert path (if blocking.strict then .strict else .lenient) (file path)

end BlockedNames

/-- The failure to start because of a refused line. -/
def LoadError.startFailure (path : String) (error : LoadError) : Failure :=
  error.failure.within ("loading blocklist " ++ path)

end Sinkhole
