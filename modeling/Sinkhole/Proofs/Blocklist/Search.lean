import Sinkhole.Blocklist.Search
import Sinkhole.Proofs.Blocklist.Shape

/-!
# Finding branches by halving

In a row that ascends, what comes too early stands before what comes too late. Halving such a row
keeps everything behind the stretch too late, and what the stretch begins with not too late, so that
the one place that is left decides. The labels below each node of a tree ascend. So halving finds
the same branch as going through them one by one, and a missing branch goes to the place at which it
is put.
-/

namespace Sinkhole

/-! ## Rows -/

namespace Search

variable {α : Type} {order : α → Ordering} {items : Array α}

/-- What stands before an item that does not come too late comes too early. -/
def Ascending (order : α → Ordering) (items : Array α) : Prop :=
  ∀ earlier later : Fin items.size, earlier < later →
    order items[later] ≠ .gt → order items[earlier] = .lt

/-- Where an item is, or where it would have to be put. -/
inductive Places (order : α → Ordering) (items : Array α) : Except Nat (Fin items.size) → Prop
  | found
      (place : Fin items.size)
      (here : order items[place] = .eq)
      (before : ∀ other < place, order items[other] = .lt) :
      Places order items (.ok place)
  | missing
      (place : Nat)
      (within : place ≤ items.size)
      (before : ∀ other : Fin items.size, other < place → order items[other] = .lt)
      (after : ∀ other : Fin items.size, place ≤ other → order items[other] = .gt) :
      Places order items (.error place)

/-- What stands behind an item that comes too late comes too late. -/
theorem Ascending.gt_of_gt
    (ascending : Ascending order items)
    {earlier later : Fin items.size}
    (less : earlier < later)
    (late : order items[earlier] = .gt) :
    order items[later] = .gt := by
  by_contra notLate
  rw [ascending earlier later less notLate] at late
  cases late

/-- What halving keeps of a stretch: everything behind it comes too late, and what it begins with
does not, unless it begins the row. -/
structure Stretch
    (order : α → Ordering)
    (items : Array α)
    (base : Fin items.size)
    (size : Nat) : Prop where
  start : base.val = 0 ∨ order items[base] ≠ .gt
  after : ∀ other : Fin items.size, base + size ≤ other → order items[other] = .gt

theorem Stretch.narrow
    (ascending : Ascending order items)
    {base : Fin items.size}
    {size : Nat}
    (stretch : Stretch order items base size)
    (within : base + size ≤ items.size)
    (positive : 0 < size) :
    Stretch order items (narrow order items base size within) 1 := by
  induction base, size, within using narrow.induct order items with
  | case1 base size within several middle late hypothesis =>
      rw [Search.narrow, dif_pos several, if_pos late]
      refine hypothesis ⟨stretch.start, fun other behind => ?_⟩ (by omega)
      have reached : middle.val ≤ other.val := by
        simp only [middle]
        omega
      rcases Nat.eq_or_lt_of_le reached with same | less
      · rwa [← Fin.ext same]
      · exact ascending.gt_of_gt less late
  | case2 base size within several middle notLate hypothesis =>
      rw [Search.narrow, dif_pos several, if_neg notLate]
      refine hypothesis ⟨.inr notLate, fun other behind => stretch.after other ?_⟩ (by omega)
      simp only [middle] at behind
      omega
  | case3 base size within few =>
      rw [Search.narrow, dif_neg few]
      obtain rfl : size = 1 := by omega
      exact stretch

/-- The one place that is left decides. Before it everything comes too early, unless nothing stands
there. -/
theorem Stretch.places
    (ascending : Ascending order items)
    {last : Fin items.size}
    (stretch : Stretch order items last 1) :
    Places order items
      (match order items[last] with
        | .eq => .ok last
        | .lt => .error (last + 1)
        | .gt => .error last) := by
  have before (notLate : order items[last] ≠ .gt) (other : Fin items.size) (less : other < last) :
      order items[other] = .lt :=
    ascending other last less notLate
  cases compared : order items[last] with
  | eq =>
      have notLate : order items[last] ≠ .gt := by
        rw [compared]
        decide
      exact .found last compared (before notLate)
  | lt =>
      have notLate : order items[last] ≠ .gt := by
        rw [compared]
        decide
      refine .missing (last + 1) last.isLt (fun other less => ?_) stretch.after
      rcases Nat.eq_or_lt_of_le (Nat.le_of_lt_succ less) with same | less
      · rwa [Fin.ext same]
      · exact before notLate other less
  | gt =>
      have first : last.val = 0 := stretch.start.resolve_right (not_not_intro compared)
      refine .missing last last.isLt.le (fun other less => by omega) fun other reached => ?_
      rcases Nat.eq_or_lt_of_le reached with same | less
      · rwa [← Fin.ext same]
      · exact stretch.after other less

/-- A search in a row that ascends finds an item, or the place at which it would have to be put. -/
theorem places_place (ascending : Ascending order items) :
    Places order items (place order items) := by
  unfold place
  split
  · next nonempty =>
      have whole : Stretch order items ⟨0, nonempty⟩ items.size :=
        ⟨.inl rfl, fun other behind => by omega⟩
      exact (whole.narrow ascending (by simp) nonempty).places ascending
  · next empty =>
      refine .missing 0 (Nat.zero_le _) (fun other less => by omega) fun other _ => ?_
      exact absurd (Nat.zero_lt_of_lt other.isLt) empty

end Search

/-! ## Branches -/

namespace Branches

variable {branches : Branches} {label : String}

theorem map_fst_entries (branches : Branches) :
    branches.entries.map Prod.fst = branches.labels := by
  induction branches with
  | none => rfl
  | branch label marked below others _ hypothesis =>
      rw [entries, List.map_cons, hypothesis, labels]

theorem fst_mem_labels {entry : String × Node} (member : entry ∈ branches.entries) :
    entry.1 ∈ branches.labels := by
  rw [← map_fst_entries]
  exact List.mem_map_of_mem member

/-- A row of labels that ascend can be searched for a label. -/
theorem places_place
    (ascending : branches.labels.Pairwise (· < ·))
    (label : String) :
    Search.Places (fun entry => compare entry.1 label) branches.entries.toArray
      (branches.place label) := by
  refine Search.places_place fun earlier later less notLate => ?_
  rw [← map_fst_entries, List.pairwise_map, List.pairwise_iff_getElem] at ascending
  have labelsLess := ascending earlier later earlier.isLt later.isLt less
  rw [ne_eq, compare_gt_iff_gt, not_lt] at notLate
  exact compare_lt_iff_lt.mpr (labelsLess.trans_le notLate)

/-- If the labels ascend, the branch of a label in the row is the one that is found. -/
theorem find?_of_mem_entries
    (ascending : branches.labels.Pairwise (· < ·))
    {node : Node}
    (member : (label, node) ∈ branches.entries) :
    branches.find? label = some node := by
  induction branches with
  | none => cases member
  | branch present marked below others _ hypothesis =>
      obtain ⟨before, othersAscend⟩ := List.pairwise_cons.mp ascending
      rcases List.mem_cons.mp member with equal | beside
      · cases equal
        rw [find?_branch, if_pos rfl]
      · have different : label ≠ present := (before label (fst_mem_labels beside)).ne'
        rw [find?_branch, if_neg different, hypothesis othersAscend beside]

/-- If the labels ascend, halving finds the branch that going through them finds. -/
theorem child_eq_find?
    (ascending : branches.labels.Pairwise (· < ·))
    (label : String) :
    branches.child label = branches.find? label := by
  have places := places_place ascending label
  unfold child
  generalize branches.place label = place at places
  cases places with
  | found place here before =>
      obtain rfl := compare_eq_iff_eq.mp here
      exact (find?_of_mem_entries ascending (List.getElem_mem place.isLt)).symm
  | missing place within before after =>
      cases found : branches.find? label with
      | none => rfl
      | some node =>
          have member := mem_labels_of_find? found
          rw [← map_fst_entries, List.mem_map] at member
          obtain ⟨entry, inRow, rfl⟩ := member
          obtain ⟨index, inside, rfl⟩ := List.getElem_of_mem inRow
          rcases Nat.lt_or_ge index place with less | reached
          · have early := before ⟨index, inside⟩ less
            simp at early
          · have late := after ⟨index, inside⟩ reached
            simp at late

/-- An insertion at a label that is in the row changes the node there. -/
theorem entries_insert_of_found
    (index : Nat)
    (inside : index < branches.entries.length)
    (here : branches.entries[index].1 = label)
    (before : ∀ other (earlier : other < index), branches.entries[other].1 < label)
    (path : List String) :
    (branches.insert (label :: path)).entries =
      branches.entries.set index (label, branches.entries[index].2.insert path) := by
  induction branches generalizing index with
  | none => simp [entries] at inside
  | branch present marked below others _ hypothesis =>
      cases index with
      | zero =>
          obtain rfl : present = label := here
          rw [insert_cons_branch, if_pos rfl]
          rfl
      | succ index =>
          have less : present < label := before 0 (Nat.zero_lt_succ index)
          rw [insert_cons_branch, if_neg less.ne', if_neg less.asymm]
          have others_eq := hypothesis index (Nat.lt_of_succ_lt_succ inside) here
            fun other earlier => before (other + 1) (Nat.succ_lt_succ earlier)
          exact congrArg (List.cons (present, { marked, below })) others_eq

/-- An insertion at a label that is missing in the row puts a new node where it belongs. -/
theorem entries_insert_of_missing
    (index : Nat)
    (within : index ≤ branches.entries.length)
    (before : ∀ other (earlier : other < index), branches.entries[other].1 < label)
    (after : ∀ other (inside : other < branches.entries.length), index ≤ other →
      label < branches.entries[other].1)
    (path : List String) :
    (branches.insert (label :: path)).entries =
      branches.entries.insertIdx index (label, ({} : Node).insert path) := by
  induction branches generalizing index with
  | none =>
      obtain rfl : index = 0 := by simpa [entries] using within
      rw [insert_cons_none]
      rfl
  | branch present marked below others _ hypothesis =>
      cases index with
      | zero =>
          have less : label < present := after 0 (by simp [entries]) (Nat.le_refl 0)
          rw [insert_cons_branch, if_neg less.ne, if_pos less]
          rfl
      | succ index =>
          have less : present < label := before 0 (Nat.zero_lt_succ index)
          rw [insert_cons_branch, if_neg less.ne', if_neg less.asymm]
          have others_eq := hypothesis index (Nat.le_of_succ_le_succ within)
            (fun other earlier => before (other + 1) (Nat.succ_lt_succ earlier))
            fun other inside reached =>
              after (other + 1) (Nat.succ_lt_succ inside) (Nat.succ_le_succ reached)
          exact congrArg (List.cons (present, { marked, below })) others_eq

/-- If the labels ascend, an insertion changes the row at the place that halving finds. -/
theorem entries_insert
    (ascending : branches.labels.Pairwise (· < ·))
    (label : String)
    (path : List String) :
    (branches.insert (label :: path)).entries = branches.entriesWith label (Node.insert path) := by
  have places := places_place ascending label
  unfold entriesWith
  generalize branches.place label = place at places
  cases places with
  | found place here before =>
      refine entries_insert_of_found place place.isLt (compare_eq_iff_eq.mp here)
        (fun other earlier => ?_) path
      exact compare_lt_iff_lt.mp (before ⟨other, earlier.trans place.isLt⟩ earlier)
  | missing place within before after =>
      refine entries_insert_of_missing place within (fun other earlier => ?_)
        (fun other inside reached => ?_) path
      · exact compare_lt_iff_lt.mp (before ⟨other, earlier.trans_le within⟩ earlier)
      · exact compare_gt_iff_gt.mp (after ⟨other, inside⟩ reached)

end Branches

/-! ## Trees -/

/-- At each node of a tree in the shape that insertions give it, halving finds the branch that
going through the branches finds, and an insertion changes the row at the place that halving
finds. -/
theorem PatternTrie.Shaped.searched
    {trie : PatternTrie}
    (shaped : trie.Shaped)
    {path : List String}
    {node : Node}
    (member : (path, node) ∈ trie.nodes)
    (label : String) :
    node.below.child label = node.below.find? label ∧
      ∀ rest, (node.below.insert (label :: rest)).entries =
        node.below.entriesWith label (Node.insert rest) := by
  have ascending := shaped.ascending path node member
  exact ⟨Branches.child_eq_find? ascending label, Branches.entries_insert ascending label⟩

end Sinkhole
