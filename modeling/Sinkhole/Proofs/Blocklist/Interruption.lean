import Sinkhole.Proofs.Blocklist.Strictness
import Sinkhole.Startup.BlockedNames

/-!
# Readings that fail

When the reading of a list fails, the lines that were complete count, and what was read of the
next one does not. So the loading comes to what a loading of the longest beginning that ends
in a newline comes to, except that it reports the failure. A server starts with that much of
its list, unless it is strict about the list and one of those lines is refused.
-/

namespace Sinkhole
namespace ListSource

/-- The longest of the beginnings of some octets that are empty or end in a newline. -/
structure WholeLines (octets front : List UInt8) : Prop where
  isPrefix : front <+: octets
  ends : front = [] ∨ front.getLast? = some 0x0A
  longest : ∀ other, other <+: octets → other = [] ∨ other.getLast? = some 0x0A →
    other.length ≤ front.length

theorem terminated_ends (lines : List (List UInt8)) :
    terminated lines = [] ∨ (terminated lines).getLast? = some 0x0A := by
  induction lines with
  | nil => exact Or.inl rfl
  | cons line rest hypothesis =>
      right
      rw [terminated_cons, List.getLast?_append, List.getLast?_cons, Option.some_or]
      rcases hypothesis with empty | newline
      · rw [empty]
        rfl
      · rw [newline]
        rfl

/-- Terminated lines are the whole lines when there is no newline behind them. -/
theorem wholeLines_terminated
    {tail : List UInt8}
    (unbroken : 0x0A ∉ tail)
    (front : List (List UInt8)) :
    WholeLines (terminated front ++ tail) (terminated front) where
  isPrefix := List.prefix_append _ _
  ends := terminated_ends front
  longest := by
    intro other isPrefix ends
    by_contra longer
    rw [Nat.not_le] at longer
    obtain ⟨more, rfl⟩ : terminated front <+: other :=
      List.prefix_of_prefix_length_le (List.prefix_append _ _) isPrefix longer.le
    rw [List.prefix_append_right_inj] at isPrefix
    have nonempty : more ≠ [] := by
      rintro rfl
      simp at longer
    obtain ⟨octet, more, rfl⟩ := List.exists_cons_of_ne_nil nonempty
    rcases ends with empty | newline
    · simp at empty
    · rw [List.getLast?_append, List.getLast?_cons, Option.some_or, ← List.getLast?_cons]
        at newline
      exact unbroken (isPrefix.subset (List.mem_of_getLast? newline))

theorem splitOn_terminated_append
    {front : List (List UInt8)}
    {tail : List UInt8}
    (unbroken : ∀ line ∈ front, 0x0A ∉ line)
    (tailUnbroken : 0x0A ∉ tail) :
    (terminated front ++ tail).splitOn 0x0A = front ++ [tail] := by
  induction front with
  | nil => exact List.splitOn_eq_singleton tailUnbroken
  | cons line front hypothesis =>
      rw [List.forall_mem_cons] at unbroken
      rw [terminated_cons, List.append_assoc, List.cons_append, List.splitOn_append_cons_self,
        List.splitOn_eq_singleton unbroken.1, hypothesis unbroken.2]
      rfl

/-- The lines of a source whose reading fails are the lines of its longest beginning that ends
in a newline. -/
theorem exists_wholeLines (octets : List UInt8) :
    ∃ front, WholeLines octets front ∧
      ∀ reason, lines { octets, failure := some reason } = lines { octets := front } := by
  obtain ⟨front, tail, rfl, unbroken, tailUnbroken⟩ := exists_terminated_append octets
  refine ⟨terminated front, wholeLines_terminated tailUnbroken front, ?_⟩
  intro reason
  rw [lines_terminated unbroken, lines, splitOn_terminated_append unbroken tailUnbroken]
  exact List.dropLast_concat

end ListSource

/-- Some line among the octets of a list is refused. -/
def HasRefusal (convert : String → Option String) (octets : List UInt8) : Prop :=
  ∃ before line after error, ListSource.IsLine octets before line after ∧
    ListLine.ofOctets convert line = .refused error

/-- The octets of a file whose lines count: none if there is no file or it cannot be opened, the
whole lines if the reading fails, and otherwise all of them. -/
inductive File.Counts : Option File → List UInt8 → Prop
  | unnamed : Counts none []
  | missing : Counts (some .missing) []
  | closed (reason : String) : Counts (some (.closed reason)) []
  | broken
      {octets front : List UInt8}
      (reason : String)
      (wholeLines : ListSource.WholeLines octets front) :
      Counts (some (.broken octets reason)) front
  | whole (octets : List UInt8) : Counts (some (.whole octets)) octets

namespace Blocklist

/-- The refused lines can be found among the octets. -/
theorem hasRefusal_iff {convert : String → Option String} {octets : List UInt8} :
    HasRefusal convert octets ↔ refusals convert 1 (ListSource.lines { octets }) ≠ [] := by
  constructor
  · rintro ⟨before, line, after, error, isLine, refused⟩ accepted
    have nonempty : line ≠ [] := by
      rintro rfl
      simp [ListLine.ofOctets, ListLine.ofText, lineText, Text.repaired, Text.repairOnto] at refused
    obtain ⟨front, back, _, _, lines_eq⟩ := isLine.exists_lines_eq nonempty
    have none_refused := refusals_eq_nil_iff.mp accepted line (by simp [lines_eq])
    rw [ListLine.refusal?_eq_some_iff.mpr refused] at none_refused
    cases none_refused
  · intro refused
    obtain ⟨⟨number, error⟩, more, refusals_eq⟩ := List.exists_cons_of_ne_nil refused
    obtain ⟨front, line, back, lines_eq, _, refused, _⟩ := exists_of_refusals_eq_cons refusals_eq
    obtain ⟨_, after, isLine⟩ := ListSource.isLine_of_lines_eq_append rfl lines_eq
    exact ⟨_, line, after, error, isLine, refused⟩

section

variable
  (convert : String → Option String)
  (mode : LoadMode)
  (octets : List UInt8)
  (blocklist : Blocklist)

/-- A loading of a source that can be read to its end stops at a line exactly when it is strict
and some line is refused. -/
theorem load_readable_cases :
    (mode = .strict ∧ HasRefusal convert octets ∧
      ∃ before line error, FirstSkipped convert blocklist { octets } before line error ∧
        (load convert mode { octets } blocklist).result =
          .error (.line (before.count 0x0A + 1) error)) ∨
    (¬(mode = .strict ∧ HasRefusal convert octets) ∧
      ∃ stats, (load convert mode { octets } blocklist).result = .ok stats) := by
  have readable : ListSource.failure { octets } = none := rfl
  obtain ⟨stats, lenient, _⟩ := exists_stats_of_readable convert blocklist readable
  cases mode with
  | lenient =>
      right
      refine ⟨?_, stats, lenient⟩
      rintro ⟨strict, _⟩
      cases strict
  | strict =>
      by_cases refused : HasRefusal convert octets
      · left
        obtain ⟨before, line, error, first, stopped, _⟩ :=
          exists_firstSkipped readable (hasRefusal_iff.mp refused)
        exact ⟨rfl, refused, before, line, error, first, stopped⟩
      · right
        have accepted : refusals convert 1 (ListSource.lines { octets }) = [] :=
          not_ne_iff.mp (mt hasRefusal_iff.mpr refused)
        rw [load_strict_of_refusals_eq_nil accepted]
        exact ⟨fun both => refused both.2, stats, lenient⟩

/-- A loading whose reading fails comes to what a loading of the same lines comes to that can be
read to their end, and reports the failure unless it stopped before. -/
theorem load_of_lines_eq
    {front : List UInt8}
    {reason : String}
    (lines_eq : ListSource.lines { octets, failure := some reason } =
      ListSource.lines { octets := front }) :
    load convert mode { octets, failure := some reason } blocklist =
      { load convert mode { octets := front } blocklist with
        result :=
          match (load convert mode { octets := front } blocklist).result with
          | .ok stats => .error (.reading reason stats)
          | .error error => .error error } := by
  simp only [load, lines_eq]
  cases (loadLines convert mode 1 { blocklist } (ListSource.lines { octets := front })).2 <;> rfl

end

/-- The result of a loading that a server starts with: the blocklist along with the counts. -/
def Loaded.names (loaded : Loaded) : Except LoadError (Blocklist × LoadStats) :=
  loaded.result.map fun stats => (loaded.blocklist, stats)

/-- A loading of a source that can be read to its end gives no names exactly when it is strict and
some line is refused. -/
theorem names_cases
    (convert : String → Option String)
    (mode : LoadMode)
    (octets : List UInt8)
    (blocklist : Blocklist) :
    let loaded := load convert mode { octets } blocklist
    (mode = .strict ∧ HasRefusal convert octets ∧ ∃ error, loaded.names = .error error) ∨
      (¬(mode = .strict ∧ HasRefusal convert octets) ∧
        ∃ stats, loaded.result = .ok stats ∧ loaded.names = .ok (loaded.blocklist, stats)) := by
  intro loaded
  rcases load_readable_cases convert mode octets blocklist with
    ⟨strict, refused, before, line, error, _, stopped⟩ | ⟨unstopped, stats, finished⟩
  · left
    refine ⟨strict, refused, .line (before.count 0x0A + 1) error, ?_⟩
    rw [Loaded.names, stopped]
    rfl
  · right
    refine ⟨unstopped, stats, finished, ?_⟩
    rw [Loaded.names, finished]
    rfl

theorem result_ofSource
    (convert : String → Option String)
    (path : String)
    (mode : LoadMode)
    (source : ListSource) :
    (BlockedNames.ofSource convert path mode source).result =
      match (load convert mode source {}).result with
      | .ok stats => .ok ((load convert mode source {}).blocklist, stats)
      | .error (.reading _ stats) => .ok ((load convert mode source {}).blocklist, stats)
      | .error (.line number error) => .error (.line number error) := by
  unfold BlockedNames.ofSource
  split <;> simp_all

/-- A list that can be read to its end gives the names that a loading of it comes to. -/
theorem result_ofSource_of_readable
    (convert : String → Option String)
    (path : String)
    (mode : LoadMode)
    (octets : List UInt8) :
    (BlockedNames.ofSource convert path mode { octets }).result =
      (load convert mode { octets } {}).names := by
  rw [result_ofSource, Loaded.names]
  rcases load_readable_cases convert mode octets {} with
    ⟨_, _, _, _, _, _, stopped⟩ | ⟨_, _, finished⟩
  · rw [stopped]
    rfl
  · rw [finished]
    rfl

/-- A list whose reading fails gives the names that a loading of its whole lines comes to. -/
theorem exists_result_ofSource_of_broken
    (convert : String → Option String)
    (path : String)
    (mode : LoadMode)
    (octets : List UInt8)
    (reason : String) :
    ∃ front, ListSource.WholeLines octets front ∧
      (BlockedNames.ofSource convert path mode { octets, failure := some reason }).result =
        (load convert mode { octets := front } {}).names := by
  obtain ⟨front, wholeLines, lines_eq⟩ := ListSource.exists_wholeLines octets
  refine ⟨front, wholeLines, ?_⟩
  rw [result_ofSource, load_of_lines_eq convert mode octets {} (lines_eq reason), Loaded.names]
  rcases load_readable_cases convert mode front {} with
    ⟨_, _, _, _, _, _, stopped⟩ | ⟨_, _, finished⟩
  · rw [stopped]
    rfl
  · rw [finished]
    rfl

/-- A server starts with the names that a loading of the octets that count comes to. -/
theorem exists_result_ofSettings
    (convert : String → Option String)
    (blocking : Settings.Blocking)
    (file : String → File) :
    ∃ octets, File.Counts (blocking.path.map file) octets ∧
      (BlockedNames.ofSettings convert blocking file).result =
        (load convert (if blocking.strict then .strict else .lenient) { octets } {}).names := by
  unfold BlockedNames.ofSettings
  cases blocking.path with
  | none => exact ⟨[], .unnamed, rfl⟩
  | some path =>
      dsimp only [Option.map_some]
      cases file path with
      | missing => exact ⟨[], .missing, rfl⟩
      | closed reason => exact ⟨[], .closed reason, rfl⟩
      | broken octets reason =>
          obtain ⟨front, wholeLines, result_eq⟩ :=
            exists_result_ofSource_of_broken convert path _ octets reason
          exact ⟨front, .broken reason wholeLines, result_eq⟩
      | whole octets => exact ⟨octets, .whole octets, result_ofSource_of_readable ..⟩

/-- A loading whose reading fails stops at the first refused line among the whole lines, if it is
strict and there is one. Otherwise it reports the failure, with the counts and the blocklist of a
loading of the whole lines alone. So the names that a server starts with are missing exactly
when a strict list has a refused line among those that count, and otherwise they are those of
the lines that count. -/
theorem interrupted_loading_keeps_whole_lines (convert : String → Option String) :
    (∀ (octets : List UInt8) (reason : String) (blocklist : Blocklist),
      ∃ front, ListSource.WholeLines octets front ∧
        ∀ mode,
          let interrupted := load convert mode { octets, failure := some reason } blocklist
          let whole := load convert mode { octets := front } blocklist
          (mode = .strict ∧ HasRefusal convert front →
            ∃ before line error,
              FirstSkipped convert blocklist { octets := front } before line error ∧
                interrupted.result = .error (.line (before.count 0x0A + 1) error)) ∧
          (¬(mode = .strict ∧ HasRefusal convert front) →
            ∃ stats, whole.result = .ok stats ∧
              interrupted.result = .error (.reading reason stats) ∧
              interrupted.blocklist = whole.blocklist)) ∧
    ∀ (blocking : Settings.Blocking) (file : String → File),
      ∃ octets, File.Counts (blocking.path.map file) octets ∧
        let names := BlockedNames.ofSettings convert blocking file
        let mode : LoadMode := if blocking.strict then .strict else .lenient
        let loaded := load convert mode { octets } {}
        ((∃ error, names.result = .error error) ↔
          blocking.strict = true ∧ HasRefusal convert octets) ∧
        (¬(blocking.strict = true ∧ HasRefusal convert octets) →
          ∃ stats, loaded.result = .ok stats ∧
            names.result = .ok (loaded.blocklist, stats)) := by
  constructor
  · intro octets reason blocklist
    obtain ⟨front, wholeLines, lines_eq⟩ := ListSource.exists_wholeLines octets
    refine ⟨front, wholeLines, ?_⟩
    intro mode interrupted whole
    have interrupted_eq := load_of_lines_eq convert mode octets blocklist (lines_eq reason)
    rcases load_readable_cases convert mode front blocklist with
      ⟨strict, refused, before, line, error, first, stopped⟩ | ⟨unstopped, stats, finished⟩
    · refine ⟨fun _ => ⟨before, line, error, first, ?_⟩,
        fun unstopped => absurd ⟨strict, refused⟩ unstopped⟩
      simp only [interrupted, interrupted_eq, stopped]
    · refine ⟨fun stops => absurd stops unstopped, fun _ => ⟨stats, finished, ?_, ?_⟩⟩
      · simp only [interrupted, interrupted_eq, finished]
      · simp only [interrupted, interrupted_eq, whole]
  · intro blocking file
    obtain ⟨octets, counts, result_eq⟩ := exists_result_ofSettings convert blocking file
    refine ⟨octets, counts, ?_⟩
    intro names mode loaded
    have strict_iff : mode = .strict ↔ blocking.strict = true := by
      cases strict : blocking.strict <;> simp [mode, strict]
    rw [← strict_iff, result_eq]
    rcases names_cases convert mode octets {} with
      ⟨strict, refused, error, failed⟩ | ⟨unstopped, stats, finished, succeeded⟩
    · exact ⟨iff_of_true ⟨error, failed⟩ ⟨strict, refused⟩,
        fun unstopped => absurd ⟨strict, refused⟩ unstopped⟩
    · refine ⟨iff_of_false ?_ unstopped, fun _ => ⟨stats, finished, succeeded⟩⟩
      rw [succeeded]
      rintro ⟨error, impossible⟩
      cases impossible

/-- A name, a name with an empty label, and the beginning of a third line that breaks off inside
a character. -/
theorem interrupted_loading_keeps_whole_lines_cut :
    let octets : List UInt8 := [0x61, 0x0A, 0x62, 0x2E, 0x2E, 0x0A, 0x63, 0xC3]
    let source : ListSource := { octets, failure := some "device gone" }
    let counts : LoadStats := { inserted := 1, skipped := 1 }
    (load (fun _ => none) .strict source {}).result = .error (.line 2 ⟨"b..", .emptyLabel⟩) ∧
      (load (fun _ => none) .lenient source {}).result =
        .error (.reading "device gone" counts) ∧
      ∃ front, ListSource.WholeLines octets front ∧
        (load (fun _ => none) .lenient { octets := front } {}).result = .ok counts ∧
        (load (fun _ => none) .lenient source {}).blocklist =
          (load (fun _ => none) .lenient { octets := front } {}).blocklist := by
  intro octets source counts
  have lenient : (load (fun _ => none) .lenient source {}).result =
      .error (.reading "device gone" counts) := by
    decide +kernel
  obtain ⟨front, wholeLines, modes⟩ :=
    (interrupted_loading_keeps_whole_lines fun _ => none).1 octets "device gone" {}
  have unstopped : ¬(LoadMode.lenient = .strict ∧ HasRefusal (fun _ => none) front) := by
    rintro ⟨strict, _⟩
    cases strict
  obtain ⟨stats, finished, interrupted, blocklist_eq⟩ := (modes .lenient).2 unstopped
  have stats_eq : stats = counts := by
    have both := interrupted.symm.trans lenient
    injection both with reported
    injection reported
  exact ⟨by decide +kernel, lenient, front, wholeLines, stats_eq ▸ finished, blocklist_eq⟩

end Blocklist
end Sinkhole
