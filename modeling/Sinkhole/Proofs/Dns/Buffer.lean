import Sinkhole.Proofs.Dns.Capacity

/-!
# What the writer holds

Writings may follow each other in any order, and go on after one that has failed. Each of them is
done as a whole or not at all. One that fails leaves the writer as it was, and one that succeeds
either appends the octets of its value or replaces as many octets as it brings, in their place. So
the octets stay within the limit of the writer, whatever is written.

A text is written as a name when it spells labels: they stand in it with dots between them, and any
number of dots may follow. It need not be the text of a legal name, but the labels must have the
right sizes.
-/

namespace Sinkhole
namespace Dns

/-! ## Texts that spell labels -/

/-- The octets of labels of any kind: each behind its length, and a zero at the end. -/
def labelledWire (labels : List (List Char)) : List UInt8 :=
  (labels.flatMap fun label => UInt8.ofNat (Text.utf8 label).length :: Text.utf8 label) ++ [0]

/-- A text spells labels when they stand in it with dots between them, and with nothing but dots
behind them. No label is empty, and neither one of them nor all together are too long. -/
structure Spelled (text : String) (labels : List (List Char)) : Prop where
  text_eq : ∃ dots, text.toList = ['.'].intercalate labels ++ List.replicate dots '.'
  dotless : ∀ label ∈ labels, '.' ∉ label
  nonempty : ∀ label ∈ labels, label ≠ []
  short : ∀ label ∈ labels, (Text.utf8 label).length ≤ maxLabelLength
  length_le : (labelledWire labels).length ≤ maxNameLength

namespace Writer

/-- A text is what is left of it without the dots at its end, and dots. -/
theorem exists_eq_withoutDots_append (characters : List Char) :
    ∃ dots, characters = withoutDots characters ++ List.replicate dots '.' := by
  have dotted (character : Char) (member : character ∈ characters.rtakeWhile (· == '.')) :
      character = '.' :=
    beq_iff_eq.mp (List.mem_rtakeWhile_imp (p := (· == '.')) member)
  refine ⟨(characters.rtakeWhile (· == '.')).length, ?_⟩
  rw [← List.eq_replicate_of_mem dotted]
  exact List.rdropWhile_append_rtakeWhile.symm

theorem withoutDots_append_dots
    {characters : List Char}
    (undotted : characters.getLast? ≠ some '.')
    (dots : Nat) :
    withoutDots (characters ++ List.replicate dots '.') = characters := by
  induction dots with
  | zero => rw [List.replicate_zero, List.append_nil, withoutDots_of_getLast?_ne undotted]
  | succ dots hypothesis =>
      rw [List.replicate_succ', ← List.append_assoc]
      exact (List.rdropWhile_concat_pos _ _ _ rfl).trans hypothesis

/-- The labels that a text spells, if it spells any. -/
def spelledLabels (text : String) : List (List Char) :=
  let bare := withoutDots text.toList
  if bare.isEmpty then [] else bare.splitOn '.'

theorem labelFault?_eq_none_iff {text : String} {label : List Char} :
    labelFault? text label = none ↔
      label ≠ [] ∧ (Text.utf8 label).length ≤ maxLabelLength := by
  unfold labelFault?
  split
  · next empty => simp [List.isEmpty_iff.mp empty]
  · next nonempty =>
      rw [List.isEmpty_iff] at nonempty
      split
      · next long => simp [Nat.not_le.mpr long]
      · next short => simp [nonempty, Nat.not_lt.mp short]

end Writer

open Writer

/-- A text spells one list of labels at most. -/
theorem Spelled.labels_eq
    {text : String}
    {labels : List (List Char)}
    (spelled : Spelled text labels) :
    labels = spelledLabels text := by
  obtain ⟨dots, text_eq⟩ := spelled.text_eq
  by_cases root : labels = []
  · subst root
    have bare : withoutDots text.toList = [] := by
      rw [text_eq]
      exact withoutDots_append_dots (by simp) dots
    rw [spelledLabels, bare]
    rfl
  · have split : (['.'].intercalate labels).splitOn '.' = labels :=
      List.splitOn_intercalate '.' spelled.dotless root
    have filled : [] ∉ (['.'].intercalate labels).splitOn '.' := by
      rw [split]
      exact fun member => spelled.nonempty [] member rfl
    have bare : withoutDots text.toList = ['.'].intercalate labels := by
      rw [text_eq]
      exact withoutDots_append_dots (Text.getLast?_ne_dot_of_nil_not_mem_splitOn filled) dots
    have nonempty : ¬(['.'].intercalate labels).isEmpty = true :=
      mt List.isEmpty_iff.mp (Text.ne_nil_of_nil_not_mem_splitOn filled)
    simp only [spelledLabels, bare, nonempty, Bool.false_eq_true, if_false, split]

/-- The labels of a text stand in it with dots between them, and with dots behind them. -/
theorem Writer.exists_toList_eq_intercalate (text : String) :
    ∃ dots, text.toList = ['.'].intercalate (spelledLabels text) ++ List.replicate dots '.' := by
  obtain ⟨dots, text_eq⟩ := exists_eq_withoutDots_append text.toList
  refine ⟨dots, ?_⟩
  unfold spelledLabels
  dsimp only
  split
  · next bare => rwa [List.isEmpty_iff.mp bare] at text_eq
  · rwa [List.intercalate_splitOn]

theorem Writer.dot_not_mem_of_mem_spelledLabels
    {text : String}
    {label : List Char}
    (member : label ∈ spelledLabels text) :
    '.' ∉ label := by
  unfold spelledLabels at member
  dsimp only at member
  split at member
  · cases member
  · exact Text.dot_not_mem_of_mem_splitOn member

theorem spelled_iff {text : String} {labels : List (List Char)} :
    Spelled text labels ↔
      labels = spelledLabels text ∧ labels.findSome? (labelFault? text) = none ∧
        (labelledWire labels).length ≤ maxNameLength := by
  simp only [List.findSome?_eq_none_iff, labelFault?_eq_none_iff]
  constructor
  · intro spelled
    refine ⟨spelled.labels_eq, fun label member => ?_, spelled.length_le⟩
    exact ⟨spelled.nonempty label member, spelled.short label member⟩
  · rintro ⟨rfl, faultless, length_le⟩
    exact {
      text_eq := exists_toList_eq_intercalate text
      dotless := fun _ => dot_not_mem_of_mem_spelledLabels
      nonempty := fun label member => (faultless label member).1
      short := fun label member => (faultless label member).2
      length_le }

/-- A text that spells labels is appended with their lengths, and any other text is refused by
every writer. -/
theorem Writer.dotted_cases (text : String) :
    (∃ labels piece, Spelled text labels ∧ dotted text = append piece (labelledWire labels)) ∨
      (∃ error, dotted text = throw error) ∧ ∀ labels, ¬Spelled text labels := by
  by_cases bare : (withoutDots text.toList).isEmpty = true
  · have labels_eq : spelledLabels text = [] := by simp [spelledLabels, bare]
    refine Or.inl ⟨[], .octet, spelled_iff.mpr ⟨labels_eq.symm, rfl, by decide⟩, ?_⟩
    rw [dotted, if_pos bare]
    rfl
  · have labels_eq : (withoutDots text.toList).splitOn '.' = spelledLabels text := by
      simp [spelledLabels, bare]
    simp only [dotted, bare, Bool.false_eq_true, if_false, labels_eq, ← List.flatMap_def]
    cases fault : (spelledLabels text).findSome? (labelFault? text) with
    | some error =>
        refine Or.inr ⟨⟨error, rfl⟩, fun labels spelled => ?_⟩
        obtain ⟨rfl, faultless, _⟩ := spelled_iff.mp spelled
        rw [fault] at faultless
        cases faultless
    | none =>
        by_cases short : (labelledWire (spelledLabels text)).length ≤ maxNameLength
        · exact Or.inl ⟨_, .name, spelled_iff.mpr ⟨rfl, fault, short⟩, if_pos short⟩
        · refine Or.inr ⟨⟨_, if_neg short⟩, fun labels spelled => ?_⟩
          obtain ⟨rfl, _, length_le⟩ := spelled_iff.mp spelled
          exact short length_le

/-! ## Single writings -/

/-- One writing, of whatever kind. -/
inductive Writing
  | octet (value : UInt8)
  | word (value : UInt16)
  | longWord (value : UInt32)
  | octets (values : List UInt8)
  | name (text : String)
  | overwrite (position : UInt64) (values : List UInt8)

namespace Writing

/-- Do a writing. -/
def write : Writing → Write Unit
  | .octet value => Writer.octet value
  | .word value => Writer.word value
  | .longWord value => Writer.longWord value
  | .octets values => Writer.octets values
  | .name text => Writer.dotted text
  | .overwrite position values => Writer.overwrite position.toNat values

/-- What a writing makes of the octets that were written before: it appends those of its value, or
replaces as many as it brings. -/
def Changes : Writing → List UInt8 → List UInt8 → Prop
  | .octet value, earlier, later => later = earlier ++ [value]
  | .word value, earlier, later => later = earlier ++ wordOctets value
  | .longWord value, earlier, later => later = earlier ++ longWordOctets value
  | .octets values, earlier, later => later = earlier ++ values
  | .name text, earlier, later =>
      ∃ labels, Spelled text labels ∧ later = earlier ++ labelledWire labels
  | .overwrite position values, earlier, later =>
      position.toNat + values.length ≤ earlier.length ∧
        later = earlier.take position.toNat ++ values ++
          earlier.drop (position.toNat + values.length)

end Writing

namespace Writer

variable {writer next : Writer}

theorem append_eq_ok_iff {piece : Piece} {octets : List UInt8} :
    append piece octets writer = .ok () next ↔
      next.written.toList = writer.written.toList ++ octets ∧ next.limit = writer.limit ∧
        next.written.size ≤ writer.limit := by
  have size_eq : next.written.toList = writer.written.toList ++ octets →
      next.written.size = writer.written.size + octets.length := by
    intro written_eq
    simpa using congrArg List.length written_eq
  constructor
  · intro done
    simp only [append] at done
    split at done
    · next fits =>
        cases done
        exact ⟨by simp, rfl, (size_written_appended writer octets).trans_le fits⟩
    · cases done
  · rintro ⟨written_eq, limit_eq, within⟩
    have fits : writer.written.size + octets.length ≤ writer.limit := size_eq written_eq ▸ within
    obtain ⟨written, limit⟩ := next
    obtain rfl : limit = writer.limit := limit_eq
    obtain rfl : written = writer.written ++ octets := by
      rw [← Array.toList_inj]
      simpa using written_eq
    simp only [append, fits, if_true]

theorem eq_of_append_eq_error
    {piece : Piece}
    {octets : List UInt8}
    {error : WriteError}
    (failed : append piece octets writer = .error error next) :
    next = writer := by
  simp only [append] at failed
  split at failed
  · cases failed
  · cases failed
    rfl

theorem eq_of_overwrite_eq_error
    {position : Nat}
    {values : List UInt8}
    {error : WriteError}
    (failed : overwrite position values writer = .error error next) :
    next = writer := by
  unfold overwrite at failed
  split at failed
  · cases failed
    rfl
  · split at failed
    · cases failed
    · cases failed
      rfl

/-- Positions that do not fit in a word are outside of all octets, so nothing is lost when they are
refused first. -/
theorem overwrite_eq
    (within : writer.written.size < UInt64.size)
    (position : Nat)
    (values : List UInt8) :
    (position + values.length ≤ writer.written.size ∧
      overwrite position values writer =
        .ok () { writer with written := replaceFrom writer.written position values }) ∨
    (writer.written.size < position + values.length ∧
      ∃ error, overwrite position values writer = .error error writer) := by
  unfold overwrite
  split
  · next outside => exact Or.inr ⟨Nat.lt_of_lt_of_le within outside, _, rfl⟩
  · split
    · next inside => exact Or.inl ⟨inside, rfl⟩
    · next outside => exact Or.inr ⟨Nat.not_le.mp outside, _, rfl⟩

theorem size_replaceFrom (written : Array UInt8) (position : Nat) (values : List UInt8) :
    (replaceFrom written position values).size = written.size := by
  induction values generalizing written position with
  | nil => rfl
  | cons value rest hypothesis =>
      rw [replaceFrom, hypothesis, Array.size_setIfInBounds]

theorem toList_replaceFrom
    {written : Array UInt8}
    {position : Nat}
    {values : List UInt8}
    (inside : position + values.length ≤ written.size) :
    (replaceFrom written position values).toList =
      written.toList.take position ++ values ++ written.toList.drop (position + values.length) := by
  obtain ⟨written⟩ := written
  rw [List.size_toArray] at inside
  have length_before : (written.take position).length = position :=
    List.length_take_of_le (by omega)
  have length_replaced : ((written.drop position).take values.length).length = values.length :=
    List.length_take_of_le (by rw [List.length_drop]; omega)
  have whole : written.take position ++ (written.drop position).take values.length ++
      written.drop (position + values.length) = written := by
    rw [List.append_assoc, ← List.drop_drop, List.take_append_drop, List.take_append_drop]
  have replaced := replaceFrom_append length_replaced (written.take position)
    (written.drop (position + values.length))
  rw [whole, length_before] at replaced
  rw [replaced]

theorem overwrite_eq_ok_iff
    (within : writer.written.size ≤ writer.limit)
    (limit_lt : writer.limit < UInt64.size)
    {position : UInt64}
    {values : List UInt8} :
    overwrite position.toNat values writer = .ok () next ↔
      (Writing.overwrite position values).Changes writer.written.toList next.written.toList ∧
        next.limit = writer.limit ∧ next.written.size ≤ writer.limit := by
  rcases overwrite_eq (Nat.lt_of_le_of_lt within limit_lt) position.toNat values with
    ⟨inside, done⟩ | ⟨outside, error, failed⟩
  · rw [done, Writing.Changes, ← toList_replaceFrom inside]
    constructor
    · intro equal
      cases equal
      exact ⟨⟨inside, rfl⟩, rfl, (size_replaceFrom ..).trans_le within⟩
    · rintro ⟨⟨_, written_eq⟩, limit_eq, _⟩
      obtain ⟨written, limit⟩ := next
      rw [← Array.toList_inj.mp written_eq, ← limit_eq]
  · rw [failed]
    constructor
    · intro equal
      cases equal
    · rintro ⟨⟨inside, _⟩, _⟩
      exact absurd inside (Nat.not_le.mpr outside)

end Writer

namespace Writing

variable {writer next : Writer}

/-- A writing succeeds exactly when what it makes of the octets is within the limit. -/
theorem write_eq_ok_iff
    (within : writer.written.size ≤ writer.limit)
    (limit_lt : writer.limit < UInt64.size)
    (writing : Writing) :
    writing.write writer = .ok () next ↔
      writing.Changes writer.written.toList next.written.toList ∧ next.limit = writer.limit ∧
        next.written.size ≤ writer.limit := by
  cases writing with
  | octet value => exact append_eq_ok_iff
  | word value => exact append_eq_ok_iff
  | longWord value => exact append_eq_ok_iff
  | octets values => exact append_eq_ok_iff
  | name text =>
      rw [write, Changes]
      rcases dotted_cases text with ⟨labels, piece, spelled, done⟩ | ⟨⟨error, failed⟩, unspelled⟩
      · rw [done, append_eq_ok_iff, spelled.labels_eq]
        refine and_congr_left fun _ => ⟨fun later_eq => ?_, ?_⟩
        · exact ⟨_, spelled.labels_eq ▸ spelled, later_eq⟩
        · rintro ⟨labels, otherSpelled, later_eq⟩
          rwa [otherSpelled.labels_eq] at later_eq
      · rw [failed]
        constructor
        · intro equal
          cases equal
        · rintro ⟨⟨labels, spelled, _⟩, _⟩
          exact absurd spelled (unspelled labels)
  | overwrite position values => exact overwrite_eq_ok_iff within limit_lt

/-- A writing that fails leaves the writer as it was. -/
theorem eq_of_write_eq_error
    {writing : Writing}
    {error : WriteError}
    (failed : writing.write writer = .error error next) :
    next = writer := by
  cases writing with
  | octet value => exact eq_of_append_eq_error failed
  | word value => exact eq_of_append_eq_error failed
  | longWord value => exact eq_of_append_eq_error failed
  | octets values => exact eq_of_append_eq_error failed
  | name text =>
      rw [write] at failed
      rcases dotted_cases text with ⟨labels, piece, _, done⟩ | ⟨⟨error, refused⟩, _⟩
      · rw [done] at failed
        exact eq_of_append_eq_error failed
      · rw [refused] at failed
        cases failed
        rfl
  | overwrite position values => exact eq_of_overwrite_eq_error failed

end Writing

/-! ## Writings in a row -/

namespace Writer

/-- The writer after a writing, whether it succeeded or failed. -/
def after (writer : Writer) (writing : Writing) : Writer :=
  match writing.write writer with
  | .ok _ next | .error _ next => next

/-- The writer after some writings in a row, each done with what the one before has left. -/
def afterAll (writer : Writer) (writings : List Writing) : Writer :=
  writings.foldl after writer

/-- A writer with some limit holds no more octets than that. -/
structure Within (writer : Writer) (limit : Nat) : Prop where
  limit_eq : writer.limit = limit
  size_le : writer.written.size ≤ limit

theorem Within.after
    {writer : Writer}
    {limit : Nat}
    (within : writer.Within limit)
    (limit_lt : limit < UInt64.size)
    (writing : Writing) :
    (writer.after writing).Within limit := by
  obtain ⟨rfl, size_le⟩ := within
  unfold Writer.after
  split
  · next next done =>
      obtain ⟨_, limit_eq, next_size_le⟩ := (writing.write_eq_ok_iff size_le limit_lt).mp done
      exact ⟨limit_eq, next_size_le⟩
  · next failed =>
      rw [Writing.eq_of_write_eq_error failed]
      exact ⟨rfl, size_le⟩

theorem Within.afterAll
    {writer : Writer}
    {limit : Nat}
    (within : writer.Within limit)
    (limit_lt : limit < UInt64.size)
    (writings : List Writing) :
    (writer.afterAll writings).Within limit := by
  induction writings generalizing writer with
  | nil => exact within
  | cons writing rest hypothesis => exact hypothesis (within.after limit_lt writing)

end Writer

/-- Writings follow each other in any order, whether they succeed or not. The octets stay within
the limit all the way. Each writing succeeds exactly when what it makes of the octets is within the
limit, and the writer then holds just that: the earlier octets and behind them those of the value,
or the earlier ones with some replaced in their place. One that fails leaves the writer as it was.
Replacing fails exactly when the place ends behind the octets that were written. -/
theorem writings_whole_or_nothing (limit : UInt64) (earlier : List Writing) :
    let writer := Writer.afterAll { limit := limit.toNat } earlier
    writer.limit = limit.toNat ∧ writer.written.size ≤ limit.toNat ∧
      (∀ writing next, Writing.write writing writer = .ok () next ↔
        writing.Changes writer.written.toList next.written.toList ∧ next.limit = limit.toNat ∧
          next.written.size ≤ limit.toNat) ∧
      (∀ writing error next, Writing.write writing writer = .error error next → next = writer) ∧
      ∀ position values,
        (∃ error next, (Writing.overwrite position values).write writer = .error error next) ↔
          writer.written.size < position.toNat + values.length := by
  intro writer
  have within : writer.Within limit.toNat :=
    Writer.Within.afterAll ⟨rfl, Nat.zero_le _⟩ limit.toNat_lt earlier
  have size_le : writer.written.size ≤ writer.limit := within.limit_eq ▸ within.size_le
  have limit_lt : writer.limit < UInt64.size := within.limit_eq ▸ limit.toNat_lt
  refine ⟨within.limit_eq, within.size_le, ?_, ?_, ?_⟩
  · intro writing next
    rw [← within.limit_eq]
    exact writing.write_eq_ok_iff size_le limit_lt
  · intro writing error next failed
    exact Writing.eq_of_write_eq_error failed
  · intro position values
    rw [Writing.write]
    rcases Writer.overwrite_eq (Nat.lt_of_le_of_lt size_le limit_lt) position.toNat values with
      ⟨inside, done⟩ | ⟨outside, error, failed⟩
    · rw [done]
      simp [inside]
    · exact iff_of_true ⟨error, writer, failed⟩ outside

/-- After a name of a letter that has two octets and a number that no longer fits, there is room
for two octets more, and none at a position that is as far away as can be. -/
theorem writings_whole_or_nothing_far :
    let writer := Writer.afterAll { limit := UInt64.toNat 8 } [.name "é.b..", .longWord 7]
    writer.written = #[2, 195, 169, 1, 98, 0] ∧
      (Writing.word 513).write writer =
        .ok () { limit := UInt64.toNat 8, written := #[2, 195, 169, 1, 98, 0, 2, 1] } ∧
      ∃ error, (Writing.overwrite 18446744073709551615 [1, 2]).write writer =
        .error error writer := by
  intro writer
  have written_eq : writer.written = #[2, 195, 169, 1, 98, 0] := by decide +kernel
  obtain ⟨_, _, succeeds, fails, outside⟩ :=
    writings_whole_or_nothing 8 [.name "é.b..", .longWord 7]
  refine ⟨written_eq, (succeeds _ _).mpr ⟨?_, rfl, by decide⟩, ?_⟩
  · change _ = writer.written.toList ++ wordOctets 513
    rw [written_eq]
    decide
  · have behind : writer.written.size < UInt64.toNat 18446744073709551615 + [1, 2].length := by
      rw [written_eq]
      decide
    obtain ⟨error, next, failed⟩ := (outside 18446744073709551615 [1, 2]).mpr behind
    obtain rfl : next = writer := fails _ _ _ failed
    exact ⟨error, failed⟩

end Dns
end Sinkhole
