import Sinkhole.Blocklist.Load
import Sinkhole.Proofs.Blocklist.Membership

/-!
# What a loaded blocklist holds

A lenient loading adds the entries of the lines one after the other, whatever lines are
refused between them and whether or not the reading fails in the end. Adding an entry never
takes an exact name away, so every name that was listed and accepted is there.
-/

namespace Sinkhole

/-- The entry on a line, if there is one. -/
def ListLine.accepted? : ListLine → Option BlockEntry
  | .entry found => some found
  | .blank | .refused _ => none

/-- The entries of the lines of a source, in order. -/
def ListSource.entries
    (convert : String → Option String)
    (source : ListSource) :
    List BlockEntry :=
  source.lines.filterMap fun octets => (ListLine.ofOctets convert octets).accepted?

/-- An ASCII line is accepted as the text that it is. -/
theorem ListLine.ofText_eq_entry
    {convert : String → Option String}
    {text : String}
    {entry : BlockEntry}
    (ascii : Text.allAscii text.toList = true)
    (accepted : ofText convert text = .entry entry) :
    BlockEntry.ofText text = .ok entry := by
  simp only [ofText, ascii, if_true] at accepted
  split at accepted
  · cases accepted
  · split at accepted
    next read =>
      cases accepted
      exact read
    next => cases accepted

namespace Blocklist

/-- The blocklist after a line. -/
theorem Loading.blocklist_after
    (loading : Loading)
    (number : Nat)
    (line : ListLine) :
    (loading.after number line).blocklist = line.accepted?.toList.foldl add loading.blocklist := by
  cases line <;> rfl

/-- A lenient loading goes on after every line. -/
theorem loadLines_lenient_cons
    (convert : String → Option String)
    (number : Nat)
    (loading : Loading)
    (octets : List UInt8)
    (rest : List (List UInt8)) :
    loadLines convert .lenient number loading (octets :: rest) =
      loadLines convert .lenient (number + 1)
        (loading.after number (ListLine.ofOctets convert octets)) rest := by
  rw [loadLines]
  intro error strict
  cases strict

/-- A lenient loading adds the entries of its lines. -/
theorem blocklist_load_lenient
    (convert : String → Option String)
    (source : ListSource)
    (blocklist : Blocklist) :
    (load convert .lenient source blocklist).blocklist =
      (source.entries convert).foldl add blocklist := by
  have run (number : Nat) (loading : Loading) (lines : List (List UInt8)) :
      (loadLines convert .lenient number loading lines).1.blocklist =
        (lines.filterMap fun octets => (ListLine.ofOctets convert octets).accepted?).foldl add
          loading.blocklist := by
    induction lines generalizing number loading with
    | nil => rfl
    | cons octets rest hypothesis =>
        rw [loadLines_lenient_cons, hypothesis, Loading.blocklist_after, List.filterMap_cons]
        cases (ListLine.ofOctets convert octets).accepted? <;> rfl
  exact run 1 { blocklist } source.lines

/-- The exact names after adding entries are those from before and those that are added. -/
theorem contains_exact_foldl_add
    (entries : List BlockEntry)
    (blocklist : Blocklist)
    (name : String) :
    (entries.foldl add blocklist).exact.contains name = true ↔
      blocklist.exact.contains name = true ∨
        ∃ canonical, BlockEntry.name canonical ∈ entries ∧
          Pattern.canonical canonical = Pattern.canonical name := by
  induction entries generalizing blocklist with
  | nil => simp
  | cons entry rest hypothesis =>
      rw [List.foldl_cons, hypothesis]
      cases entry with
      | name canonical =>
          rw [add, ExactSet.contains_insert, Bool.or_eq_true, beq_iff_eq]
          simp only [List.mem_cons, BlockEntry.name.injEq, or_and_right, exists_or,
            exists_eq_left]
          rw [or_left_comm, or_assoc]
      | pattern path => simp [add]

/-- A name that is listed on an accepted ASCII line is blocked after a lenient loading,
whatever the other lines are and however the reading ends. -/
theorem contains_load_lenient
    {convert : String → Option String}
    {source : ListSource}
    {octets : List UInt8}
    {entry : BlockEntry}
    {name : String}
    (listed : octets ∈ source.lines)
    (ascii : Text.allAscii (lineText octets).toList = true)
    (concrete : Pattern.mentions (lineText octets) '*' = false)
    (accepted : ListLine.ofOctets convert octets = .entry entry)
    (same : Pattern.canonical (lineText octets) = Pattern.canonical name)
    (blocklist : Blocklist) :
    (load convert .lenient source blocklist).blocklist.contains name = true := by
  have read := ListLine.ofText_eq_entry ascii accepted
  have entry_eq : entry = .name (Pattern.canonical (lineText octets)) := by
    rw [BlockEntry.ofText_of_accepted ⟨entry, read⟩, concrete] at read
    cases read
    rfl
  have added : entry ∈ source.entries convert := by
    rw [ListSource.entries, List.mem_filterMap]
    exact ⟨octets, listed, by rw [accepted]; rfl⟩
  rw [contains, Bool.or_eq_true, blocklist_load_lenient, contains_exact_foldl_add]
  refine Or.inl (Or.inr ⟨_, entry_eq ▸ added, ?_⟩)
  rw [Pattern.canonical_canonical, same]

end Blocklist
end Sinkhole
