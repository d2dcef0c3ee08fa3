/-!
# Files

What opening a file and reading it to its end comes to. A directory can be opened and
not be read.
-/

namespace Sinkhole

/-- A file as it is found: missing, not to be opened, broken off after some octets,
or read to its end. -/
inductive File
  | missing
  | closed (reason : String)
  | broken (octets : List UInt8) (reason : String)
  | whole (octets : List UInt8)
  deriving DecidableEq

namespace File

/-- The reason that a missing file cannot be opened. -/
def missingReason : String := "No such file or directory (os error 2)"

/-- The reason that a directory cannot be read. -/
def directoryReason : String := "Is a directory (os error 21)"

/-- A directory. -/
def directory : File := .broken [] directoryReason

end File
end Sinkhole
