import Sinkhole.Blocklist.Exact
import Sinkhole.Blocklist.Trie

/-!
# Blocklists

A blocklist has exact names and wildcard patterns. Whether an entry is the one or the
other, or is refused, depends on its text alone: a pattern contains the wildcard
character. A name is blocked when it is among the names or matches a pattern.
-/

namespace Sinkhole

/-- The names and patterns that are blocked. -/
structure Blocklist where
  exact : ExactSet := {}
  patterns : PatternTrie := {}

/-- An entry that is not refused: a name in canonical form, or the path of a pattern. -/
inductive BlockEntry
  | name (canonical : String)
  | pattern (path : List String)
  deriving DecidableEq

/-- The entry that a text writes. The root name is refused. -/
def BlockEntry.ofText (text : String) : Except PatternError BlockEntry :=
  match Pattern.fault? text with
  | some reason => .error ⟨text, reason⟩
  | none =>
      if text = "." then
        .error ⟨text, .rootName⟩
      else
        let canonical := Pattern.canonical text
        if Pattern.mentions canonical '*' then
          (PatternTrie.pathOf canonical).map .pattern
        else
          .ok (.name canonical)

namespace Blocklist

/-- Add an entry. -/
def add (blocklist : Blocklist) : BlockEntry → Blocklist
  | .name canonical => { blocklist with exact := blocklist.exact.insert canonical }
  | .pattern path => { blocklist with patterns := blocklist.patterns.mark path }

/-- Change the patterns, as far as the change gets. -/
def onPatterns
    (change : EStateM PatternError PatternTrie Unit) :
    EStateM PatternError Blocklist Unit := fun blocklist =>
  match change blocklist.patterns with
  | .ok _ patterns => .ok () { blocklist with patterns }
  | .error error patterns => .error error { blocklist with patterns }

/-- Add a name or a pattern. A pattern can be refused where patterns are added. -/
def insert (text : String) : EStateM PatternError Blocklist Unit :=
  match Pattern.fault? text with
  | some reason => throw ⟨text, reason⟩
  | none =>
      if text = "." then
        throw ⟨text, .rootName⟩
      else
        let canonical := Pattern.canonical text
        if Pattern.mentions canonical '*' then
          onPatterns (PatternTrie.insert canonical)
        else
          modify fun blocklist => { blocklist with exact := blocklist.exact.insert canonical }

/-- The blocklist that an attempt to add a text leaves, whether it fails or not. -/
def tryInsert (blocklist : Blocklist) (text : String) : Blocklist :=
  match insert text blocklist with
  | .ok _ next => next
  | .error _ next => next

/-- Whether a name is blocked. -/
def contains (blocklist : Blocklist) (name : String) : Bool :=
  blocklist.exact.contains name || blocklist.patterns.contains name

/-- The number of distinct names and patterns. -/
def size (blocklist : Blocklist) : Nat :=
  blocklist.exact.size + blocklist.patterns.size

/-- Whether nothing is blocked. -/
def isEmpty (blocklist : Blocklist) : Bool :=
  blocklist.size == 0

end Blocklist
end Sinkhole
