/-!
# Failures

A failure of the world outside has a cause, in words that come from where it
happened, and descriptions of what was being done, the outermost first.
-/

namespace Sinkhole

/-- Something outside that went wrong, and what was being done at the time. -/
structure Failure where
  contexts : List String := []
  cause : String
  deriving DecidableEq

namespace Failure

/-- The failure within one more context, which is now the outermost. -/
def within (failure : Failure) (context : String) : Failure :=
  { failure with contexts := context :: failure.contexts }

/-- All that a failure says, the outermost first. -/
def chain (failure : Failure) : List String :=
  failure.contexts ++ [failure.cause]

/-- A failure in one line. -/
def message (failure : Failure) : String :=
  ": ".intercalate failure.chain

@[simp] theorem chain_within (failure : Failure) (context : String) :
    (failure.within context).chain = context :: failure.chain :=
  rfl

end Failure
end Sinkhole
