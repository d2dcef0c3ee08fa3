import Sinkhole.Dns.Header
import Sinkhole.Dns.RecordType
import Sinkhole.Failure

/-!
# Why a query has no normal answer

Each reason has a wording for the log and a response code for the client.
-/

namespace Sinkhole

/-- Why a query could not be answered normally. -/
inductive ResolveError
  | requestId (failure : Failure)
  | invalidRequest (report : String)
  | noQuestion
  | unsupportedClass (rclass : Dns.RecordClass)
  | unsupportedType (rtype : Dns.RecordType)
  | exchange (failure : Failure)
  | idMismatch (expected got : UInt16)
  | emptyAnswer
  deriving DecidableEq

namespace ResolveError

/-- The wording of a reason. -/
def message : ResolveError → String
  | .requestId failure => "failed to generate request id: " ++ failure.message
  | .invalidRequest report => "invalid request: " ++ report
  | .noQuestion => "query has no question"
  | .unsupportedClass rclass => "unsupported class " ++ rclass.text
  | .unsupportedType rtype => "unsupported type " ++ rtype.text
  | .exchange failure => "upstream exchange failed: " ++ failure.message
  | .idMismatch expected got =>
      "transaction id mismatch: expected " ++ toString expected.toNat ++ ", got " ++
        toString got.toNat
  | .emptyAnswer => "upstream returned no answers"

/-- What the client is told. -/
def responseCode : ResolveError → Dns.ResponseCode
  | .requestId _ | .exchange _ | .idMismatch .. => .serverFailure
  | .invalidRequest _ => .formatError
  | .noQuestion | .unsupportedClass _ | .unsupportedType _ => .refused
  | .emptyAnswer => .nonexistentName

end ResolveError
end Sinkhole
