import Sinkhole.Blocklist.Load

/-!
# The lines of a source

A newline ends a line, and the octets behind the last newline are a line if there are any. So
a source that can be read to its end is its lines one behind the other, each with its newline
except perhaps the last, and the number of a line is one more than the number of newlines
before it.
-/

namespace Sinkhole
namespace ListSource

/-- Lines as a source has them, each with the newline that ends it. -/
def terminated (lines : List (List UInt8)) : List UInt8 :=
  lines.flatMap fun line => line ++ [0x0A]

/-- A line of some octets, with the octets before it and those behind it. -/
structure IsLine (octets before line after : List UInt8) : Prop where
  whole : octets = before ++ line ++ after
  starts : before = [] ∨ before.getLast? = some 0x0A
  unbroken : 0x0A ∉ line
  ends : after = [] ∨ after.head? = some 0x0A

@[simp] theorem terminated_nil : terminated [] = [] := rfl

@[simp] theorem terminated_cons (line : List UInt8) (lines : List (List UInt8)) :
    terminated (line :: lines) = line ++ 0x0A :: terminated lines := by
  simp [terminated]

/-- Each of the terminated lines takes one newline. -/
theorem count_terminated
    {lines : List (List UInt8)}
    (unbroken : ∀ line ∈ lines, 0x0A ∉ line) :
    (terminated lines).count 0x0A = lines.length := by
  induction lines with
  | nil => rfl
  | cons line rest hypothesis =>
      rw [List.forall_mem_cons] at unbroken
      rw [terminated_cons, List.count_append, List.count_cons_self, hypothesis unbroken.2,
        List.count_eq_zero_of_not_mem unbroken.1, Nat.zero_add, List.length_cons]

/-! ## Splitting octets into lines -/

@[simp] theorem lines_nil : lines { octets := [] } = [] := rfl

/-- The first newline ends the first line, whether or not the reading fails behind it. -/
theorem lines_append_newline
    {line : List UInt8}
    {failure : Option String}
    (unbroken : 0x0A ∉ line)
    (rest : List UInt8) :
    lines { octets := line ++ 0x0A :: rest, failure } =
      line :: lines { octets := rest, failure } := by
  obtain ⟨piece, pieces, split_eq⟩ :=
    List.exists_cons_of_ne_nil (List.splitOn_ne_nil (0x0A : UInt8) rest)
  simp only [lines, List.splitOn_append_cons_self, List.splitOn_eq_singleton unbroken, split_eq,
    List.singleton_append, List.getLast?_cons_cons]
  split
  · rw [List.dropLast_cons_cons]
  · rfl

/-- Octets without a newline are one line. -/
theorem lines_of_unbroken
    {line : List UInt8}
    (unbroken : 0x0A ∉ line)
    (nonempty : line ≠ []) :
    lines { octets := line } = [line] := by
  simp [lines, List.splitOn_eq_singleton unbroken, nonempty]

/-- Terminated lines are the lines that they are made of, and what follows them is split on
its own. -/
theorem lines_terminated_append
    {front : List (List UInt8)}
    {failure : Option String}
    (unbroken : ∀ line ∈ front, 0x0A ∉ line)
    (rest : List UInt8) :
    lines { octets := terminated front ++ rest, failure } =
      front ++ lines { octets := rest, failure } := by
  induction front with
  | nil => rfl
  | cons line front hypothesis =>
      rw [List.forall_mem_cons] at unbroken
      rw [terminated_cons, List.append_assoc, List.cons_append, lines_append_newline unbroken.1,
        hypothesis unbroken.2, List.cons_append]

theorem lines_terminated
    {lines : List (List UInt8)}
    (unbroken : ∀ line ∈ lines, 0x0A ∉ line) :
    ListSource.lines { octets := terminated lines } = lines := by
  have split_eq :
      ListSource.lines { octets := terminated lines ++ [] } =
        lines ++ ListSource.lines { octets := [] } :=
    lines_terminated_append unbroken []
  rwa [List.append_nil, lines_nil, List.append_nil] at split_eq

/-! ## Finding a line among the octets -/

/-- The first line is all there is, or a newline comes behind it and then the other lines. -/
theorem of_lines_eq_cons
    {octets line : List UInt8}
    {rest : List (List UInt8)}
    (lines_eq : lines { octets } = line :: rest) :
    0x0A ∉ line ∧
      (octets = line ∧ rest = [] ∨
        ∃ more, octets = line ++ 0x0A :: more ∧ lines { octets := more } = rest) := by
  by_cases broken : 0x0A ∈ octets
  · obtain ⟨first, more, rfl, unbroken⟩ := List.eq_append_cons_of_mem broken
    rw [lines_append_newline unbroken] at lines_eq
    injection lines_eq with first_eq rest_eq
    subst first_eq
    exact ⟨unbroken, Or.inr ⟨more, rfl, rest_eq⟩⟩
  · by_cases empty : octets = []
    · rw [empty, lines_nil] at lines_eq
      cases lines_eq
    · rw [lines_of_unbroken broken empty] at lines_eq
      injection lines_eq with line_eq rest_eq
      subst line_eq
      exact ⟨broken, Or.inl ⟨rfl, rest_eq.symm⟩⟩

/-- A line stays one when another is put before it. -/
theorem IsLine.cons
    {octets before line after : List UInt8}
    (isLine : IsLine octets before line after)
    (first : List UInt8) :
    IsLine (first ++ 0x0A :: octets) (first ++ 0x0A :: before) line after where
  whole := by rw [isLine.whole]; simp
  starts := by
    right
    rcases isLine.starts with rfl | newline
    · simp
    · rw [List.getLast?_append, List.getLast?_cons, newline]
      rfl
  unbroken := isLine.unbroken
  ends := isLine.ends

/-- Every line of a source stands behind the lines before it, and none of these is broken. -/
theorem isLine_of_lines_eq_append
    {source : ListSource}
    {line : List UInt8}
    {front back : List (List UInt8)}
    (readable : source.failure = none)
    (lines_eq : source.lines = front ++ line :: back) :
    (∀ line ∈ front, 0x0A ∉ line) ∧
      ∃ after, IsLine source.octets (terminated front) line after := by
  obtain ⟨octets, _⟩ := source
  subst readable
  induction front generalizing octets with
  | nil =>
      rw [List.nil_append] at lines_eq
      obtain ⟨unbroken, ⟨rfl, -⟩ | ⟨more, rfl, -⟩⟩ := of_lines_eq_cons lines_eq
      · exact ⟨by simp, [], by simp, Or.inl rfl, unbroken, Or.inl rfl⟩
      · exact ⟨by simp, 0x0A :: more, by simp, Or.inl rfl, unbroken, Or.inr rfl⟩
  | cons first front hypothesis =>
      rw [List.cons_append] at lines_eq
      obtain ⟨unbroken, ⟨-, impossible⟩ | ⟨more, rfl, rest_eq⟩⟩ := of_lines_eq_cons lines_eq
      · simp at impossible
      · obtain ⟨frontUnbroken, after, isLine⟩ := hypothesis more rest_eq
        rw [List.forall_mem_cons, terminated_cons]
        exact ⟨⟨unbroken, frontUnbroken⟩, after, isLine.cons first⟩

/-- Octets are terminated lines and what comes behind the last newline. -/
theorem exists_terminated_append (octets : List UInt8) :
    ∃ front tail, octets = terminated front ++ tail ∧ (∀ line ∈ front, 0x0A ∉ line) ∧
      0x0A ∉ tail := by
  induction octets with
  | nil => exact ⟨[], [], rfl, by simp, by simp⟩
  | cons octet rest hypothesis =>
      obtain ⟨front, tail, rfl, unbroken, tailUnbroken⟩ := hypothesis
      by_cases newline : octet = 0x0A
      · refine ⟨[] :: front, tail, ?_, ?_, tailUnbroken⟩
        · rw [newline, terminated_cons, List.nil_append, List.cons_append]
        · exact List.forall_mem_cons.mpr ⟨by simp, unbroken⟩
      · cases front with
        | nil =>
            refine ⟨[], octet :: tail, rfl, by simp, ?_⟩
            rw [List.mem_cons, not_or]
            exact ⟨Ne.symm newline, tailUnbroken⟩
        | cons line front =>
            rw [List.forall_mem_cons] at unbroken
            refine ⟨(octet :: line) :: front, tail, ?_, ?_, tailUnbroken⟩
            · rw [terminated_cons, terminated_cons, List.cons_append]
              rfl
            · refine List.forall_mem_cons.mpr ⟨?_, unbroken.2⟩
              rw [List.mem_cons, not_or]
              exact ⟨Ne.symm newline, unbroken.1⟩

/-- Octets that are empty or end in a newline are terminated lines. -/
theorem exists_terminated_of_getLast?
    {octets : List UInt8}
    (ends : octets = [] ∨ octets.getLast? = some 0x0A) :
    ∃ front, octets = terminated front ∧ ∀ line ∈ front, 0x0A ∉ line := by
  obtain ⟨front, tail, rfl, unbroken, tailUnbroken⟩ := exists_terminated_append octets
  cases tail with
  | nil => exact ⟨front, List.append_nil _, unbroken⟩
  | cons octet tail =>
      -- The last octet is behind the last newline, so it cannot be one.
      exfalso
      rcases ends with empty | newline
      · simp at empty
      · rw [List.getLast?_append, List.getLast?_cons, Option.some_or, ← List.getLast?_cons]
          at newline
        exact tailUnbroken (List.mem_of_getLast? newline)

/-- A line that is not empty is one of the lines of its source, and the lines before it are those
of the octets before it. -/
theorem IsLine.exists_lines_eq
    {octets before line after : List UInt8}
    (isLine : IsLine octets before line after)
    (nonempty : line ≠ []) :
    ∃ front back, before = terminated front ∧ (∀ line ∈ front, 0x0A ∉ line) ∧
      lines { octets } = front ++ line :: back := by
  obtain ⟨front, rfl, unbroken⟩ := exists_terminated_of_getLast? isLine.starts
  rw [isLine.whole, List.append_assoc, lines_terminated_append unbroken]
  rcases isLine.ends with rfl | newline
  · refine ⟨front, [], rfl, unbroken, ?_⟩
    rw [List.append_nil, lines_of_unbroken isLine.unbroken nonempty]
  · obtain ⟨rest, rfl⟩ := List.head?_eq_some_iff.mp newline
    refine ⟨front, lines { octets := rest }, rfl, unbroken, ?_⟩
    rw [lines_append_newline isLine.unbroken]

end ListSource
end Sinkhole
