import Mathlib.Data.Finset.Card
import Mathlib.Data.List.Induction
import Sinkhole.Proofs.Blocklist.Acceptance
import Sinkhole.Proofs.Blocklist.Strictness

/-!
# Loading in parts and again

A lenient loading takes each line on its own. So what it counts depends on the lines alone, and
a list that is cut behind a newline can be loaded in two parts. What is loaded is what comes
of inserting the texts of the accepted lines, one after the other. How many names and patterns
there are then and what is blocked depends on which texts were inserted, but neither on their
order nor on how often, so nothing changes when a list is loaded again.
-/

namespace Sinkhole

/-! ## Counts -/

namespace LoadStats

instance : Add LoadStats where
  add first second :=
    { inserted := first.inserted + second.inserted
      skipped := first.skipped + second.skipped }

@[simp] theorem inserted_add (first second : LoadStats) :
    (first + second).inserted = first.inserted + second.inserted :=
  rfl

@[simp] theorem skipped_add (first second : LoadStats) :
    (first + second).skipped = first.skipped + second.skipped :=
  rfl

theorem add_assoc (first second third : LoadStats) :
    first + second + third = first + (second + third) :=
  congrArg₂ mk (Nat.add_assoc ..) (Nat.add_assoc ..)

theorem zero_add (stats : LoadStats) : {} + stats = stats :=
  congrArg₂ mk (Nat.zero_add _) (Nat.zero_add _)

end LoadStats

namespace ListLine

/-- What a line counts for. -/
def stats : ListLine → LoadStats
  | .blank => {}
  | .entry _ => { inserted := 1 }
  | .refused _ => { skipped := 1 }

theorem ofText_eq_blank_iff {convert : String → Option String} {text : String} :
    ofText convert text = .blank ↔ text = "" := by
  rw [← String.isEmpty_iff, ofText]
  split
  next empty => simp [empty]
  next nonempty =>
    simp only [nonempty]
    split <;> simp

end ListLine

namespace LoadStats

variable (convert : String → Option String)

/-- What some lines count for. -/
def ofLines : List (List UInt8) → LoadStats
  | [] => {}
  | octets :: rest => (ListLine.ofOctets convert octets).stats + ofLines rest

theorem ofLines_append (front back : List (List UInt8)) :
    ofLines convert (front ++ back) = ofLines convert front + ofLines convert back := by
  induction front with
  | nil => rw [List.nil_append, ofLines, zero_add]
  | cons octets front hypothesis =>
      rw [List.cons_append, ofLines, hypothesis, ofLines, add_assoc]

/-- Each line that is not blank counts once. -/
theorem inserted_add_skipped_ofLines (lines : List (List UInt8)) :
    (ofLines convert lines).inserted + (ofLines convert lines).skipped =
      lines.countP fun octets => lineText octets ≠ "" := by
  induction lines with
  | nil => rfl
  | cons octets rest hypothesis =>
      have blank_iff : ListLine.ofOctets convert octets = .blank ↔ lineText octets = "" :=
        ListLine.ofText_eq_blank_iff
      rw [List.countP_cons, ← hypothesis, ofLines, inserted_add, skipped_add]
      simp only [ne_eq, ← blank_iff]
      cases ListLine.ofOctets convert octets with
      | blank => simp [ListLine.stats]
      | entry | refused =>
          simp [ListLine.stats]
          omega

end LoadStats

/-- What a lenient loading of a source reports when its lines count for the stats. -/
def ListSource.report (source : ListSource) (stats : LoadStats) : Except LoadError LoadStats :=
  match source.failure with
  | some failure => .error (.reading failure stats)
  | none => .ok stats

namespace Blocklist

open Pattern BlockEntry

theorem Loading.stats_after (loading : Loading) (number : Nat) (line : ListLine) :
    (loading.after number line).stats = loading.stats + line.stats := by
  cases line <;> rfl

/-- A lenient loading counts its lines. -/
theorem stats_loadLines_lenient
    (convert : String → Option String)
    (number : Nat)
    (loading : Loading)
    (lines : List (List UInt8)) :
    (loadLines convert .lenient number loading lines).1.stats =
      loading.stats + LoadStats.ofLines convert lines := by
  induction lines generalizing number loading with
  | nil => rfl
  | cons octets rest hypothesis =>
      rw [loadLines_lenient_cons, hypothesis, Loading.stats_after, LoadStats.add_assoc]
      rfl

/-- A lenient loading reports what its lines count for. -/
theorem result_load_lenient
    (convert : String → Option String)
    (source : ListSource)
    (blocklist : Blocklist) :
    (load convert .lenient source blocklist).result =
      source.report (LoadStats.ofLines convert source.lines) := by
  have stats_eq := stats_loadLines_lenient convert 1 { blocklist } source.lines
  rw [LoadStats.zero_add] at stats_eq
  simp only [load, loadLines_lenient_snd, stats_eq, ListSource.report]
  cases source.failure <;> rfl

end Blocklist

/-! ## Accepted texts -/

/-- The text that is inserted for a line: that of the line if it is ASCII, and otherwise what it
is converted to. -/
def ListLine.ascii? (convert : String → Option String) (text : String) : Option String :=
  if Text.allAscii text.toList then some text else convert text

/-- The texts that are inserted for the accepted lines of a source, in order. -/
def ListSource.acceptedTexts
    (convert : String → Option String)
    (source : ListSource) :
    List String :=
  source.lines.filterMap fun octets =>
    (ListLine.ascii? convert (lineText octets)).filter fun text => BlockEntry.Accepted text

theorem ListSource.accepted_of_mem_acceptedTexts
    {convert : String → Option String}
    {source : ListSource}
    {text : String}
    (member : text ∈ source.acceptedTexts convert) :
    BlockEntry.Accepted text := by
  obtain ⟨octets, _, filtered⟩ := List.mem_filterMap.mp member
  exact of_decide_eq_true (Option.filter_eq_some_iff.mp filtered).2

namespace BlockEntry

open Pattern

/-- The entry of an accepted text. -/
def ofAccepted (text : String) : BlockEntry :=
  if mentions text '*' then .pattern (levels text) else .name (canonical text)

/-- A text that is not accepted has no entry. -/
theorem toOption_ofText (text : String) :
    (ofText text).toOption = if Accepted text then some (ofAccepted text) else none := by
  split
  next accepted =>
    rw [ofText_of_accepted accepted]
    rfl
  next refused =>
    cases read : ofText text with
    | ok entry => exact absurd ⟨entry, read⟩ refused
    | error error => rfl

end BlockEntry

/-- The entry on a line is that of its text in ASCII, if this is accepted. -/
theorem ListLine.accepted?_ofText (convert : String → Option String) (text : String) :
    (ofText convert text).accepted? =
      ((ascii? convert text).filter fun written => BlockEntry.Accepted written).map
        BlockEntry.ofAccepted := by
  -- A blank line has no entry. That fits, because the empty text would be refused.
  by_cases empty : text = ""
  · have refused : ¬BlockEntry.Accepted "" := by decide
    have itself : ascii? convert "" = some "" := rfl
    rw [empty, ofText_eq_blank_iff.mpr rfl, itself]
    simp [accepted?, refused]
  · have nonempty : text.isEmpty = false := by
      rwa [Bool.eq_false_iff, ne_eq, String.isEmpty_iff]
    have entry_eq (written : String) :
        (some written |>.filter fun written => BlockEntry.Accepted written).map
          BlockEntry.ofAccepted = (BlockEntry.ofText written).toOption := by
      rw [BlockEntry.toOption_ofText, Option.filter_some]
      split <;> simp_all
    rw [ofText, nonempty, ascii?]
    cases Text.allAscii text.toList with
    | true =>
        simp only [Bool.false_eq_true, if_false, if_true, entry_eq]
        cases BlockEntry.ofText text <;> rfl
    | false =>
        simp only [Bool.false_eq_true, if_false]
        cases convert text with
        | none => rfl
        | some written =>
            simp only [entry_eq]
            cases BlockEntry.ofText written <;> rfl

/-- The entries of a source are those of the accepted texts. -/
theorem ListSource.entries_eq (convert : String → Option String) (source : ListSource) :
    source.entries convert = (source.acceptedTexts convert).map BlockEntry.ofAccepted := by
  rw [entries, acceptedTexts, List.map_filterMap]
  exact congrArg (source.lines.filterMap ·) (funext fun octets => ListLine.accepted?_ofText ..)

/-- As many lines are inserted as there are accepted texts. -/
theorem LoadStats.inserted_ofLines_lines
    (convert : String → Option String)
    (source : ListSource) :
    (ofLines convert source.lines).inserted = (source.acceptedTexts convert).length := by
  have counted (lines : List (List UInt8)) : (ofLines convert lines).inserted =
      (lines.filterMap fun octets => (ListLine.ofOctets convert octets).accepted?).length := by
    induction lines with
    | nil => rfl
    | cons octets rest hypothesis =>
        rw [ofLines, inserted_add, hypothesis, List.filterMap_cons]
        cases ListLine.ofOctets convert octets with
        | blank | refused => exact Nat.zero_add _
        | entry => exact Nat.add_comm 1 _
  rw [counted, ← List.length_map BlockEntry.ofAccepted, ← source.entries_eq]
  rfl

namespace Blocklist

open Pattern BlockEntry

/-- A lenient loading tries to insert the accepted texts. -/
theorem blocklist_load_lenient_eq_foldl_tryInsert
    (convert : String → Option String)
    (source : ListSource)
    (blocklist : Blocklist) :
    (load convert .lenient source blocklist).blocklist =
      (source.acceptedTexts convert).foldl tryInsert blocklist := by
  rw [blocklist_load_lenient, ListSource.entries_eq, List.foldl_map]
  apply List.foldl_ext
  intro blocklist text member
  rw [tryInsert_of_accepted (ListSource.accepted_of_mem_acceptedTexts member), ofAccepted]

theorem blocklist_load_lenient_ofTexts
    (convert : String → Option String)
    (source : ListSource)
    (texts : List String) :
    (load convert .lenient source (ofTexts texts)).blocklist =
      ofTexts (texts ++ source.acceptedTexts convert) := by
  rw [blocklist_load_lenient_eq_foldl_tryInsert]
  exact List.foldl_append.symm

/-! ## Inserting again -/

/-- The canonical forms of the accepted ones of some texts. -/
def acceptedForms (texts : List String) : Finset String :=
  ((texts.filter fun text => Accepted text).map canonical).toFinset

theorem mem_acceptedForms {texts : List String} {form : String} :
    form ∈ acceptedForms texts ↔ ∃ text ∈ texts, Accepted text ∧ canonical text = form := by
  simp [acceptedForms, and_assoc]

/-- The size of a blocklist is the number of canonical forms that were inserted. -/
theorem size_ofTexts (texts : List String) : (ofTexts texts).size = (acceptedForms texts).card := by
  induction texts using List.reverseRecOn with
  | nil => rfl
  | append_singleton texts text hypothesis =>
      -- Whether the size grows is known only for the last text, so the induction is from there.
      have grown : ofTexts (texts ++ [text]) = (ofTexts texts).tryInsert text :=
        List.foldl_append
      by_cases accepted : Accepted text
      · have forms_eq : acceptedForms (texts ++ [text]) =
            Insert.insert (canonical text) (acceptedForms texts) := by
          simp [acceptedForms, accepted, Finset.union_comm]
        have known_iff : canonical text ∈ acceptedForms texts ↔ Known texts text :=
          mem_acceptedForms
        obtain ⟨next, inserted⟩ := (insert_isOk_iff (ofTexts texts) text).mpr accepted
        rw [grown, tryInsert, inserted, forms_eq, Finset.card_insert_eq_ite,
          (built_ofTexts texts).size_of_insert inserted, hypothesis]
        by_cases known : Known texts text
        · rw [if_pos known, if_pos (known_iff.mpr known), Nat.add_zero]
        · rw [if_neg known, if_neg (mt known_iff.mp known)]
      · rw [grown, tryInsert_of_not_accepted accepted, hypothesis]
        simp [acceptedForms, accepted]

/-- All accepted texts of a source count for the size. -/
theorem acceptedForms_acceptedTexts (convert : String → Option String) (source : ListSource) :
    acceptedForms (source.acceptedTexts convert) =
      ((source.acceptedTexts convert).map canonical).toFinset := by
  have kept (text : String) (member : text ∈ source.acceptedTexts convert) :
      decide (Accepted text) = true :=
    decide_eq_true (ListSource.accepted_of_mem_acceptedTexts member)
  rw [acceptedForms, List.filter_eq_self.mpr kept]

variable {first second : List String}

/-- Texts that are the same but for order and repetition make blocklists of the same size. -/
theorem size_ofTexts_congr (same : ∀ text, text ∈ first ↔ text ∈ second) :
    (ofTexts first).size = (ofTexts second).size := by
  have forms_eq : acceptedForms first = acceptedForms second := by
    ext form
    simp only [mem_acceptedForms, same]
  rw [size_ofTexts, size_ofTexts, forms_eq]

theorem contains_ofTexts_congr
    (same : ∀ text, text ∈ first ↔ text ∈ second)
    (name : String) :
    (ofTexts first).contains name = (ofTexts second).contains name := by
  rw [Bool.eq_iff_iff, contains_ofTexts_iff, contains_ofTexts_iff]
  simp only [same]

/-! ## Composition -/

/-- A list whose first part is empty or ends in a newline is loaded as its two parts are one after
the other, and their counts add up. What counts are the lines that are not blank. A blocklist
that is loaded from nothing has as many names and patterns as the accepted lines have canonical
forms. To load a list again, whatever was inserted before, changes neither how many there are
nor what is blocked, and it reports the same. -/
theorem lenient_loading_composes (convert : String → Option String) :
    (∀ (octets : List UInt8) (next : ListSource) (blocklist : Blocklist),
      octets = [] ∨ octets.getLast? = some 0x0A →
        let first := load convert .lenient { octets } blocklist
        let second := load convert .lenient next first.blocklist
        let whole := load convert .lenient { next with octets := octets ++ next.octets } blocklist
        ∃ firstStats secondStats, first.result = .ok firstStats ∧
          second.result = next.report secondStats ∧
          whole.result = next.report (firstStats + secondStats) ∧
          whole.blocklist = second.blocklist) ∧
    (∀ (source : ListSource) (blocklist : Blocklist),
      ∃ stats, (load convert .lenient source blocklist).result = source.report stats ∧
        stats.inserted + stats.skipped =
          source.lines.countP fun octets => lineText octets ≠ "") ∧
    (∀ source : ListSource,
      let loaded := load convert .lenient source {}
      ∃ stats, loaded.result = source.report stats ∧
        stats.inserted = (source.acceptedTexts convert).length ∧
        loaded.blocklist.size = ((source.acceptedTexts convert).map canonical).toFinset.card ∧
        loaded.blocklist.size ≤ stats.inserted) ∧
    ∀ (texts : List String) (source : ListSource),
      let once := load convert .lenient source (ofTexts texts)
      let twice := load convert .lenient source once.blocklist
      twice.result = once.result ∧ twice.blocklist.size = once.blocklist.size ∧
        ∀ name, twice.blocklist.contains name = once.blocklist.contains name := by
  refine ⟨?_, ?_, ?_, ?_⟩
  · intro octets next blocklist ends first second whole
    obtain ⟨front, rfl, unbroken⟩ := ListSource.exists_terminated_of_getLast? ends
    have first_lines := ListSource.lines_terminated unbroken
    have whole_lines :
        ListSource.lines { next with octets := ListSource.terminated front ++ next.octets } =
          front ++ next.lines :=
      ListSource.lines_terminated_append unbroken next.octets
    refine ⟨.ofLines convert front, .ofLines convert next.lines, ?_, ?_, ?_, ?_⟩
    · rw [result_load_lenient, first_lines]
      rfl
    · exact result_load_lenient ..
    · rw [result_load_lenient, whole_lines, LoadStats.ofLines_append]
      rfl
    · simp only [whole, second, first, blocklist_load_lenient, ListSource.entries, whole_lines,
        first_lines, List.filterMap_append, List.foldl_append]
  · intro source blocklist
    exact ⟨.ofLines convert source.lines, result_load_lenient ..,
      LoadStats.inserted_add_skipped_ofLines ..⟩
  · intro source loaded
    have inserted_eq := LoadStats.inserted_ofLines_lines convert source
    have loaded_eq : loaded.blocklist = ofTexts (source.acceptedTexts convert) :=
      blocklist_load_lenient_ofTexts convert source []
    have size_eq :
        loaded.blocklist.size = ((source.acceptedTexts convert).map canonical).toFinset.card := by
      rw [loaded_eq, size_ofTexts, acceptedForms_acceptedTexts]
    refine ⟨.ofLines convert source.lines, result_load_lenient .., inserted_eq, size_eq, ?_⟩
    rw [size_eq, inserted_eq, ← List.length_map canonical]
    exact List.toFinset_card_le _
  · intro texts source once twice
    have once_eq : once.blocklist = ofTexts (texts ++ source.acceptedTexts convert) :=
      blocklist_load_lenient_ofTexts ..
    have twice_eq : twice.blocklist =
        ofTexts (texts ++ source.acceptedTexts convert ++ source.acceptedTexts convert) := by
      simp only [twice, once_eq, blocklist_load_lenient_ofTexts]
    have same (text : String) :
        text ∈ texts ++ source.acceptedTexts convert ++ source.acceptedTexts convert ↔
          text ∈ texts ++ source.acceptedTexts convert := by
      simp
    rw [twice_eq, once_eq]
    refine ⟨?_, size_ofTexts_congr same, contains_ofTexts_congr same⟩
    rw [result_load_lenient, result_load_lenient]

/-- A name and a blank line, then the same name in another spelling and a name with an empty
label. -/
theorem lenient_loading_composes_respelled :
    let octets : List UInt8 := [0x41, 0x0A, 0x0A]
    let next : ListSource := { octets := [0x61, 0x2E, 0x0D, 0x0A, 0x62, 0x2E, 0x2E] }
    let whole := load (fun _ => none) .lenient { next with octets := octets ++ next.octets } {}
    let first := load (fun _ => none) .lenient { octets } {}
    octets.getLast? = some 0x0A ∧ whole.result = .ok { inserted := 2, skipped := 1 } ∧
      whole.blocklist.size = 1 ∧
      whole.blocklist = (load (fun _ => none) .lenient next first.blocklist).blocklist := by
  intro octets next whole first
  have ends : octets.getLast? = some 0x0A := rfl
  obtain ⟨compose, -, sizes, -⟩ := lenient_loading_composes fun _ => none
  obtain ⟨_, _, _, _, _, composed⟩ := compose octets next {} (Or.inr ends)
  obtain ⟨_, _, _, size_eq, _⟩ := sizes { next with octets := octets ++ next.octets }
  refine ⟨ends, by decide +kernel, ?_, composed⟩
  rw [size_eq]
  decide +kernel

end Blocklist
end Sinkhole
