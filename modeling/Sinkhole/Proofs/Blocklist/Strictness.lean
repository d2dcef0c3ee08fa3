import Sinkhole.Proofs.Blocklist.Lines
import Sinkhole.Proofs.Blocklist.Loading

/-!
# Strict and lenient loading

The two modes differ at refused lines only. A lenient loading counts them all, and a strict
one stops at the first: up to there it has done what a lenient loading of the lines before
does, and it reports the number of the line, blank lines included, and its error.
-/

namespace Sinkhole

/-- The error of a line, if it is refused. -/
def ListLine.refusal? : ListLine → Option PatternError
  | .refused error => some error
  | .blank | .entry _ => none

theorem ListLine.refusal?_eq_some_iff {line : ListLine} {error : PatternError} :
    line.refusal? = some error ↔ line = .refused error := by
  cases line <;> simp [refusal?]

namespace Blocklist

/-! ## Refused lines -/

/-- The refused lines among some lines, the first of which has the given number: the number of
each and its error. -/
def refusals
    (convert : String → Option String) :
    Nat → List (List UInt8) → List (Nat × PatternError)
  | _, [] => []
  | number, octets :: rest =>
      match (ListLine.ofOctets convert octets).refusal? with
      | some error => (number, error) :: refusals convert (number + 1) rest
      | none => refusals convert (number + 1) rest

theorem refusals_nil (convert : String → Option String) (number : Nat) :
    refusals convert number [] = [] :=
  rfl

theorem refusals_cons
    (convert : String → Option String)
    (number : Nat)
    (octets : List UInt8)
    (rest : List (List UInt8)) :
    refusals convert number (octets :: rest) =
      match (ListLine.ofOctets convert octets).refusal? with
      | some error => (number, error) :: refusals convert (number + 1) rest
      | none => refusals convert (number + 1) rest :=
  rfl

theorem refusals_append
    (convert : String → Option String)
    (number : Nat)
    (front back : List (List UInt8)) :
    refusals convert number (front ++ back) =
      refusals convert number front ++ refusals convert (number + front.length) back := by
  induction front generalizing number with
  | nil => rfl
  | cons octets front hypothesis =>
      rw [List.cons_append, refusals_cons, refusals_cons, hypothesis, List.length_cons,
        Nat.add_right_comm number 1, Nat.add_assoc]
      split <;> rfl

/-- The first of the refused lines has only accepted and blank lines before it, and its number
counts them all. -/
theorem exists_of_refusals_eq_cons
    {convert : String → Option String}
    {number refusedAt : Nat}
    {lines : List (List UInt8)}
    {error : PatternError}
    {more : List (Nat × PatternError)}
    (refusals_eq : refusals convert number lines = (refusedAt, error) :: more) :
    ∃ front line back, lines = front ++ line :: back ∧ refusals convert number front = [] ∧
      ListLine.ofOctets convert line = .refused error ∧ refusedAt = number + front.length := by
  induction lines generalizing number with
  | nil => cases refusals_eq
  | cons octets rest hypothesis =>
      rw [refusals_cons] at refusals_eq
      split at refusals_eq
      next first refused =>
        cases refusals_eq
        exact ⟨[], octets, rest, rfl, rfl, ListLine.refusal?_eq_some_iff.mp refused, rfl⟩
      next accepted =>
        obtain ⟨front, line, back, rfl, quiet, refused, rfl⟩ := hypothesis refusals_eq
        refine ⟨octets :: front, line, back, rfl, ?_, refused, ?_⟩
        · rw [refusals_cons, accepted]
          exact quiet
        · rw [List.length_cons]
          omega

/-- There are no refused lines when each line is blank or accepted. -/
theorem refusals_eq_nil_iff
    {convert : String → Option String}
    {number : Nat}
    {lines : List (List UInt8)} :
    refusals convert number lines = [] ↔
      ∀ line ∈ lines, (ListLine.ofOctets convert line).refusal? = none := by
  induction lines generalizing number with
  | nil => simp [refusals_nil]
  | cons octets rest hypothesis =>
      rw [refusals_cons, List.forall_mem_cons]
      cases (ListLine.ofOctets convert octets).refusal? with
      | none => simp [hypothesis]
      | some error => simp

/-! ## Lenient loading -/

variable
  (convert : String → Option String)
  (number : Nat)
  (loading : Loading)

/-- A lenient loading never ends early. -/
theorem loadLines_lenient_snd (lines : List (List UInt8)) :
    (loadLines convert .lenient number loading lines).2 = none := by
  induction lines generalizing number loading with
  | nil => rfl
  | cons octets rest hypothesis => rw [loadLines_lenient_cons, hypothesis]

/-- Each refused line is counted, and nothing else is. -/
theorem skipped_loadLines_lenient (lines : List (List UInt8)) :
    (loadLines convert .lenient number loading lines).1.stats.skipped =
      loading.stats.skipped + (refusals convert number lines).length := by
  induction lines generalizing number loading with
  | nil => rfl
  | cons octets rest hypothesis =>
      rw [loadLines_lenient_cons, hypothesis, refusals_cons]
      cases ListLine.ofOctets convert octets with
      | blank | entry => rfl
      | refused error =>
          simp only [Loading.after, ListLine.refusal?, List.length_cons]
          omega

/-- Each refused line leaves an event, in the order of the lines. -/
theorem events_loadLines_lenient (lines : List (List UInt8)) :
    (loadLines convert .lenient number loading lines).1.events.toList =
      loading.events.toList ++
        (refusals convert number lines).map fun (number, error) => skipping number error := by
  induction lines generalizing number loading with
  | nil => simp [loadLines, refusals_nil]
  | cons octets rest hypothesis =>
      rw [loadLines_lenient_cons, hypothesis, refusals_cons]
      cases ListLine.ofOctets convert octets with
      | blank | entry => rfl
      | refused error =>
          simp [Loading.after, ListLine.refusal?, List.append_assoc]

/-! ## Strict loading -/

/-- A refused line ends a strict loading. -/
theorem loadLines_strict_of_refused
    {octets : List UInt8}
    {error : PatternError}
    (refused : ListLine.ofOctets convert octets = .refused error)
    (rest : List (List UInt8)) :
    loadLines convert .strict number loading (octets :: rest) =
      (loading, some (.line number error)) := by
  simp only [loadLines, refused]

/-- A strict loading goes on after any other line. -/
theorem loadLines_strict_cons
    {octets : List UInt8}
    (accepted : (ListLine.ofOctets convert octets).refusal? = none)
    (rest : List (List UInt8)) :
    loadLines convert .strict number loading (octets :: rest) =
      loadLines convert .strict (number + 1)
        (loading.after number (ListLine.ofOctets convert octets)) rest := by
  cases line_eq : ListLine.ofOctets convert octets with
  | blank | entry => simp only [loadLines, line_eq]
  | refused error =>
      rw [line_eq] at accepted
      cases accepted

/-- As long as no line is refused, a strict loading does what a lenient one does. -/
theorem loadLines_strict_append
    {front : List (List UInt8)}
    (accepted : refusals convert number front = [])
    (back : List (List UInt8)) :
    loadLines convert .strict number loading (front ++ back) =
      loadLines convert .strict (number + front.length)
        (loadLines convert .lenient number loading front).1 back := by
  -- A blank line moves the number on and leaves the loading, so the two vary apart.
  induction front generalizing number loading with
  | nil => rfl
  | cons octets front hypothesis =>
      rw [refusals_cons] at accepted
      split at accepted
      next => cases accepted
      next quiet =>
        rw [List.cons_append, loadLines_strict_cons _ _ _ quiet, hypothesis _ _ accepted,
          loadLines_lenient_cons, List.length_cons, Nat.add_right_comm number 1, Nat.add_assoc]

/-- Without a refused line the two modes are one. -/
theorem loadLines_strict_of_refusals_eq_nil
    {lines : List (List UInt8)}
    (accepted : refusals convert number lines = []) :
    loadLines convert .strict number loading lines =
      loadLines convert .lenient number loading lines := by
  have run := loadLines_strict_append convert number loading accepted []
  rw [List.append_nil] at run
  rw [run, loadLines, Prod.ext_iff, loadLines_lenient_snd]
  exact ⟨rfl, rfl⟩

/-! ## Whole sources -/

variable (blocklist : Blocklist)

/-- What a lenient loading of some lines comes to. -/
def lenientRun (lines : List (List UInt8)) : Loading :=
  (loadLines convert .lenient 1 { blocklist } lines).1

theorem load_lenient_of_readable
    {source : ListSource}
    (readable : source.failure = none) :
    load convert .lenient source blocklist =
      { result := .ok (lenientRun convert blocklist source.lines).stats
        blocklist := (lenientRun convert blocklist source.lines).blocklist
        events := (lenientRun convert blocklist source.lines).events } := by
  simp only [load, readable, loadLines_lenient_snd]
  rfl

/-- A lenient loading of a source that can be read to its end counts the refused lines. -/
theorem exists_stats_of_readable
    {source : ListSource}
    (readable : source.failure = none) :
    ∃ stats, (load convert .lenient source blocklist).result = .ok stats ∧
      stats.skipped = (refusals convert 1 source.lines).length := by
  refine ⟨_, by rw [load_lenient_of_readable convert blocklist readable], ?_⟩
  rw [lenientRun, skipped_loadLines_lenient, Nat.zero_add]

theorem events_lenientRun (lines : List (List UInt8)) :
    (lenientRun convert blocklist lines).events.toList =
      (refusals convert 1 lines).map fun (number, error) => skipping number error := by
  rw [lenientRun, events_loadLines_lenient, List.nil_append]

/-- The first line of a source that a lenient loading skips, with what stands before it and
the error of the line. -/
structure FirstSkipped
    (source : ListSource)
    (before line : List UInt8)
    (error : PatternError) : Prop where
  isLine : ∃ after, ListSource.IsLine source.octets before line after
  refused : ListLine.ofOctets convert line = .refused error
  /-- Nothing before the line is skipped. -/
  quiet : ∃ stats,
    (load convert .lenient { octets := before } blocklist).result = .ok stats ∧
      stats.skipped = 0
  /-- The line itself is. -/
  skipped : ∃ stats,
    (load convert .lenient { octets := before ++ line ++ [0x0A] } blocklist).result = .ok stats ∧
      stats.skipped = 1
  reported :
    (load convert .lenient source blocklist).events.toList.head? =
      some (skipping (before.count 0x0A + 1) error)

variable
  {convert blocklist}
  {source : ListSource}

/-- A source without a refused line is loaded alike in the two modes. -/
theorem load_strict_of_refusals_eq_nil (accepted : refusals convert 1 source.lines = []) :
    load convert .strict source blocklist = load convert .lenient source blocklist := by
  rw [load, load, loadLines_strict_of_refusals_eq_nil convert 1 { blocklist } accepted]

/-- A refused line without refused lines before it is the first that is skipped. -/
theorem firstSkipped_of_lines_eq
    {front back : List (List UInt8)}
    {line : List UInt8}
    {error : PatternError}
    (readable : source.failure = none)
    (lines_eq : source.lines = front ++ line :: back)
    (quiet : refusals convert 1 front = [])
    (refused : ListLine.ofOctets convert line = .refused error) :
    FirstSkipped convert blocklist source (ListSource.terminated front) line error := by
  obtain ⟨unbroken, after, isLine⟩ := ListSource.isLine_of_lines_eq_append readable lines_eq
  have lines_through : ListSource.lines { octets := ListSource.terminated front ++ line ++ [0x0A] }
      = front ++ [line] := by
    rw [List.append_assoc, ListSource.lines_terminated_append unbroken,
      ListSource.lines_append_newline isLine.unbroken, ListSource.lines_nil]
  have refusals_of_line (rest : List (List UInt8)) : refusals convert 1 (front ++ line :: rest) =
      (1 + front.length, error) :: refusals convert (1 + front.length + 1) rest := by
    rw [refusals_append, quiet, refusals_cons, ListLine.refusal?_eq_some_iff.mpr refused]
    rfl
  refine ⟨⟨after, isLine⟩, refused, ?_, ?_, ?_⟩
  · have readable : ListSource.failure { octets := ListSource.terminated front } = none := rfl
    obtain ⟨stats, result_eq, skipped_eq⟩ := exists_stats_of_readable convert blocklist readable
    rw [ListSource.lines_terminated unbroken, quiet] at skipped_eq
    exact ⟨stats, result_eq, skipped_eq⟩
  · have readable :
        ListSource.failure { octets := ListSource.terminated front ++ line ++ [0x0A] } = none := rfl
    obtain ⟨stats, result_eq, skipped_eq⟩ := exists_stats_of_readable convert blocklist readable
    rw [lines_through, refusals_of_line] at skipped_eq
    exact ⟨stats, result_eq, skipped_eq⟩
  · rw [load_lenient_of_readable convert blocklist readable, events_lenientRun, lines_eq,
      refusals_of_line, ListSource.count_terminated unbroken, Nat.add_comm front.length]
    rfl

/-- A strict loading stops at the first line that a lenient one skips. -/
theorem exists_firstSkipped
    (readable : source.failure = none)
    (refused : refusals convert 1 source.lines ≠ []) :
    ∃ before line error, FirstSkipped convert blocklist source before line error ∧
      (load convert .strict source blocklist).result =
        .error (.line (before.count 0x0A + 1) error) ∧
      (load convert .strict source blocklist).blocklist =
        (load convert .lenient { octets := before } blocklist).blocklist := by
  obtain ⟨⟨_, error⟩, more, refusals_eq⟩ := List.exists_cons_of_ne_nil refused
  obtain ⟨front, line, back, lines_eq, quiet, refused, rfl⟩ :=
    exists_of_refusals_eq_cons refusals_eq
  obtain ⟨unbroken, -⟩ := ListSource.isLine_of_lines_eq_append readable lines_eq
  have stopped : loadLines convert .strict 1 { blocklist } source.lines =
      (lenientRun convert blocklist front, some (.line (1 + front.length) error)) := by
    rw [lines_eq, loadLines_strict_append _ _ _ quiet, loadLines_strict_of_refused _ _ _ refused]
    rfl
  refine ⟨ListSource.terminated front, line, error,
    firstSkipped_of_lines_eq readable lines_eq quiet refused, ?_, ?_⟩
  · rw [load, stopped, ListSource.count_terminated unbroken, Nat.add_comm]
  · rw [load, stopped, load_lenient_of_readable convert blocklist rfl,
      ListSource.lines_terminated unbroken]

/-- A strict loading refines a lenient one. If the lenient loading skips no line, the two come
to the same. Otherwise the strict loading stops at the first line that the lenient one skips:
it gives the number and the error of that line, and leaves the blocklist as a lenient loading
of the lines before it does. -/
theorem load_strict_refines_lenient
    (convert : String → Option String)
    {source : ListSource}
    (readable : source.failure = none)
    (blocklist : Blocklist) :
    ∃ stats, (load convert .lenient source blocklist).result = .ok stats ∧
      ((∃ strictStats, (load convert .strict source blocklist).result = .ok strictStats) ↔
        stats.skipped = 0) ∧
      (stats.skipped = 0 →
        (load convert .strict source blocklist).result = .ok stats ∧
          (load convert .strict source blocklist).blocklist =
            (load convert .lenient source blocklist).blocklist) ∧
      (stats.skipped ≠ 0 →
        ∃ before line error, FirstSkipped convert blocklist source before line error ∧
          (load convert .strict source blocklist).result =
            .error (.line (before.count 0x0A + 1) error) ∧
          (load convert .strict source blocklist).blocklist =
            (load convert .lenient { octets := before } blocklist).blocklist) := by
  obtain ⟨stats, result_eq, skipped_eq⟩ := exists_stats_of_readable convert blocklist readable
  refine ⟨stats, result_eq, ?_⟩
  simp only [skipped_eq, ne_eq, List.length_eq_zero_iff]
  by_cases accepted : refusals convert 1 source.lines = []
  · rw [load_strict_of_refusals_eq_nil accepted]
    exact ⟨iff_of_true ⟨_, result_eq⟩ accepted, fun _ => ⟨result_eq, rfl⟩,
      fun refused => absurd accepted refused⟩
  · refine ⟨iff_of_false ?_ accepted, fun quiet => absurd quiet accepted,
      fun _ => exists_firstSkipped readable accepted⟩
    rintro ⟨strictStats, finished⟩
    obtain ⟨before, line, error, -, stopped, -⟩ :=
      exists_firstSkipped readable accepted
    rw [stopped] at finished
    cases finished

/-- A blank line, a name, a name with an empty label, and a name without a newline. -/
theorem load_strict_refines_lenient_mixed :
    let source : ListSource :=
      { octets := [0x0D, 0x0A, 0x61, 0x0A, 0x62, 0x2E, 0x2E, 0x0D, 0x0A, 0x63] }
    source.failure = none ∧
      (load (fun _ => none) .lenient source {}).result = .ok { inserted := 2, skipped := 1 } ∧
      (load (fun _ => none) .strict source {}).result = .error (.line 3 ⟨"b..", .emptyLabel⟩) ∧
      ∃ before line error, FirstSkipped (fun _ => none) {} source before line error ∧
        (load (fun _ => none) .strict source {}).blocklist =
          (load (fun _ => none) .lenient { octets := before } {}).blocklist := by
  intro source
  have readable : source.failure = none := rfl
  have lenient : (load (fun _ => none) .lenient source {}).result =
      .ok { inserted := 2, skipped := 1 } := by
    decide +kernel
  obtain ⟨stats, result_eq, -, -, refused⟩ :=
    load_strict_refines_lenient (fun _ => none) readable {}
  have stats_eq : stats = { inserted := 2, skipped := 1 } := by
    rw [lenient] at result_eq
    injection result_eq.symm
  have skips : stats.skipped ≠ 0 := by
    rw [stats_eq]
    decide
  obtain ⟨before, line, error, first, -, blocklist_eq⟩ := refused skips
  exact ⟨readable, lenient, by decide +kernel, before, line, error, first, blocklist_eq⟩

end Blocklist
end Sinkhole
