import Sinkhole.Proofs.Blocklist.PatternSet

/-!
# What the fallback rescues

A look-up that has taken the branch of a label of its own falls back to the wildcard beside it
when it cannot go on by one more label. So a pattern that matches a name is found as long as
at each of its wildcards the branch of the name's own label either is not there or goes no
further: each such branch costs one fallback, and there may be any number of them.
-/

namespace Sinkhole

open Pattern PatternSet

/-- A path that diverts a look-up agrees with the path that it diverts from up to a wildcard,
and has there the label of the name and what continues with the rest of it. -/
theorem Pattern.Diverts.exists_index
    {other path name : List String}
    (diverts : Diverts other path name) :
    ∃ index own rest, path[index]? = some wildcard ∧ name[index]? = some own ∧
      other = path.take index ++ own :: rest ∧ Continues rest (name.drop (index + 1)) := by
  induction diverts with
  | @here own rest path name continues => exact ⟨0, own, rest, rfl, rfl, rfl, continues⟩
  | @later label _ _ path name _ hypothesis =>
      obtain ⟨index, own, rest, isWildcard, isOwn, rfl, continues⟩ := hypothesis
      exact ⟨index + 1, own, rest, isWildcard, isOwn, rfl, continues⟩

namespace PatternTrie

/-- No pattern leads a look-up away from the wildcards of a path for good: where a pattern has
the label of the name in place of a wildcard, none goes on from there with the next label of
the name or with a wildcard. -/
def Rescued (forms : Finset String) (path name : List String) : Prop :=
  ∀ index own, path[index]? = some wildcard → name[index]? = some own →
    ¬HasNode forms (path.take index ++ [own]) ∨
      ∃ next, name[index + 1]? = some next ∧
        ¬HasNode forms (path.take index ++ [own, next]) ∧
        ¬HasNode forms (path.take index ++ [own, wildcard])

/-- Nothing that a tree holds diverts a look-up from a path whose wildcards are rescued. -/
theorem Rescued.not_diverts
    {forms : Finset String}
    {path name : List String}
    (rescued : Rescued forms path name)
    {other : List String}
    (terminal : IsTerminal forms other) :
    ¬Diverts other path name := by
  intro diverts
  obtain ⟨index, own, rest, isWildcard, isOwn, rfl, continues⟩ := diverts.exists_index
  rcases rescued index own isWildcard isOwn with absent | ⟨next, isNext, absent, wildcardAbsent⟩
  · exact absent (hasNode_iff.mpr ⟨rest, by simpa using terminal⟩)
  · have drop_eq : name.drop (index + 1) = next :: name.drop (index + 2) := by
      rw [List.drop_eq_getElem?_toList_append, isNext]
      rfl
    rw [drop_eq] at continues
    rcases continues with goesOn | goesOn
    · obtain ⟨rest, rfl⟩ := List.head?_eq_some_iff.mp goesOn
      exact absent (hasNode_iff.mpr ⟨rest, by simpa using terminal⟩)
    · obtain ⟨rest, rfl⟩ := List.head?_eq_some_iff.mp goesOn
      exact wildcardAbsent (hasNode_iff.mpr ⟨rest, by simpa using terminal⟩)

/-- A name that an accepted pattern matches is found if at each wildcard of the pattern a
look-up can fall back, or need not: the branch of the name's own label is not there, or goes
on neither with the next label of the name nor with a wildcard. -/
theorem contains_of_rescued
    {patterns : List String}
    {pattern name : String}
    (member : pattern ∈ patterns)
    (accepts : Accepts pattern)
    (legal : isLegal name = true)
    (concrete : mentions name '*' = false)
    (unreserved : mentions name reservedMark = false)
    (matched : Matches pattern name)
    (rescued : Rescued (acceptedForms patterns) (levels pattern) (levels name)) :
    (ofPatterns patterns).contains name = true := by
  have represents := represents_ofPatterns patterns
  have enough : 2 ≤ (labels name).length := by
    have pattern_enough := two_le_length_of_faultless (accepts_iff.mp accepts)
    rwa [labels_lowercase, length_loweredLabels, length_eq_of_matches matched] at pattern_enough
  have matchable : isMatchable name = true := by
    simp [isMatchable, legal, concrete, unreserved, enough]
  have accepted : canonical pattern ∈ acceptedForms patterns :=
    mem_acceptedForms.mpr ⟨pattern, member, accepts, rfl⟩
  rw [contains, isMatchable_lowercase, path_lowercase, Walk.run_start, matchable, Bool.true_and,
    Node.leads_iff represents.spells.below.fruitful (wildcard_not_mem_levels concrete)]
  refine ⟨levels pattern, ?_, matches_iff.mp matched, ?_⟩
  · rw [represents.spells.holds_iff, List.nil_append, isTerminal_levels_iff represents.canonical_eq]
    exact accepted
  · intro other held
    apply rescued.not_diverts
    rwa [represents.spells.holds_iff] at held

/-- A pattern with two wildcards, at both of which another pattern has the label of the name. -/
theorem contains_of_rescued_twice :
    let patterns := ["e.*.c.*.a", "x.b.a", "y.d.c.*.a"]
    HasNode (acceptedForms patterns) ["a", "b"] ∧
      HasNode (acceptedForms patterns) ["a", "*", "c", "d"] ∧
      (ofPatterns patterns).contains "E.D.C.B.A." = true := by
  intro patterns
  have patternLevels : levels "e.*.c.*.a" = ["a", "*", "c", "*", "e"] := by decide +kernel
  have nameLevels : levels "E.D.C.B.A." = ["a", "b", "c", "d", "e"] := by decide +kernel
  have rescued :
      Rescued (acceptedForms patterns) (levels "e.*.c.*.a") (levels "E.D.C.B.A.") := by
    rw [patternLevels, nameLevels]
    intro index own isWildcard isOwn
    right
    match index with
    | 0 | 2 | 4 => simp [wildcard] at isWildcard
    | 1 =>
        cases isOwn
        exact ⟨"c", rfl, by decide +kernel, by decide +kernel⟩
    | 3 =>
        cases isOwn
        exact ⟨"e", rfl, by decide +kernel, by decide +kernel⟩
    | _ + 5 => simp at isOwn
  refine ⟨by decide +kernel, by decide +kernel, ?_⟩
  apply contains_of_rescued (List.mem_cons_self ..)
  · decide +kernel
  · decide +kernel
  · decide +kernel
  · decide +kernel
  · decide +kernel
  · exact rescued

end PatternTrie
end Sinkhole
