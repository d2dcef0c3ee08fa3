import Mathlib.Data.Finset.Card
import Sinkhole.Settings.Basic

/-!
# The endpoints that are asked

A nameserver may be named more than once in the settings. Each is asked on one endpoint, all on
the same port, and the endpoints are in the order in which the nameservers are first named.
-/

namespace Sinkhole
namespace Settings

/-! ## Lists without their repetitions -/

section Repetitions

variable {α β : Type} [DecidableEq α] [DecidableEq β]

/-- An item at the end of a list is a repetition if the list has it, and is kept otherwise. -/
theorem eraseDups_concat (items : List α) (item : α) :
    (items ++ [item]).eraseDups =
      if item ∈ items then items.eraseDups else items.eraseDups ++ [item] := by
  rw [List.eraseDups_append]
  split
  · next member => simp [List.removeAll, member]
  · next new => simp [List.removeAll, new, List.eraseDups_cons]

/-- The items that are kept are in the order in which they are first in the list. -/
theorem pairwise_idxOf_eraseDups (items : List α) :
    items.eraseDups.Pairwise fun earlier later => items.idxOf earlier < items.idxOf later := by
  induction items using List.reverseRecOn with
  | nil => exact .nil
  | append_singleton items item hypothesis =>
      -- No item that was there before is found at another place now.
      have kept : items.eraseDups.Pairwise fun earlier later =>
          (items ++ [item]).idxOf earlier < (items ++ [item]).idxOf later := by
        refine hypothesis.imp_of_mem fun earlierKept laterKept before => ?_
        rwa [List.idxOf_append_of_mem (List.mem_eraseDups.mp earlierKept),
          List.idxOf_append_of_mem (List.mem_eraseDups.mp laterKept)]
      rw [eraseDups_concat]
      split
      · exact kept
      · next new =>
          refine List.pairwise_append.mpr ⟨kept, List.pairwise_singleton _ _, ?_⟩
          intro earlier earlierKept later isItem
          obtain rfl := List.mem_singleton.mp isItem
          have member := List.mem_eraseDups.mp earlierKept
          rw [List.idxOf_append_of_mem member, List.idxOf_append_of_notMem new]
          exact Nat.lt_add_right _ (List.idxOf_lt_length_of_mem member)

theorem nodup_eraseDups (items : List α) : items.eraseDups.Nodup :=
  (pairwise_idxOf_eraseDups items).imp fun before same =>
    absurd (congrArg items.idxOf same) (Nat.ne_of_lt before)

theorem length_eraseDups (items : List α) : items.eraseDups.length = items.toFinset.card := by
  rw [← List.toFinset_card_of_nodup (nodup_eraseDups items)]
  congr 1
  ext item
  rw [List.mem_toFinset, List.mem_toFinset, List.mem_eraseDups]

theorem eraseDups_map
    {make : α → β}
    (injective : Function.Injective make)
    (items : List α) :
    (items.map make).eraseDups = items.eraseDups.map make := by
  induction items using List.reverseRecOn with
  | nil => rfl
  | append_singleton items item hypothesis =>
      rw [List.map_append, List.map_singleton, eraseDups_concat, eraseDups_concat, hypothesis]
      simp only [List.mem_map_of_injective injective]
      split
      · rfl
      · rw [List.map_append, List.map_singleton]

end Repetitions

namespace Upstream

/-! ## Nameservers and endpoints -/

/-- The nameservers without their repetitions, each with the port. -/
theorem endpoints_eq_map (upstream : Upstream) :
    upstream.endpoints =
      upstream.nameservers.eraseDups.map fun address =>
        ({ address, port := upstream.askedPort } : Net.Endpoint) := by
  apply eraseDups_map
  intro address other same
  exact congrArg Net.Endpoint.address same

theorem mem_endpoints_iff
    {upstream : Upstream}
    {endpoint : Net.Endpoint} :
    endpoint ∈ upstream.endpoints ↔
      ∃ address ∈ upstream.nameservers, endpoint = { address, port := upstream.askedPort } := by
  rw [endpoints_eq_map]
  simp only [List.mem_map, List.mem_eraseDups, eq_comm]

theorem nodup_endpoints (upstream : Upstream) : upstream.endpoints.Nodup :=
  nodup_eraseDups _

/-- A nameserver that is first named before another is asked before it. -/
theorem pairwise_endpoints (upstream : Upstream) :
    upstream.endpoints.Pairwise fun earlier later =>
      upstream.nameservers.idxOf earlier.address < upstream.nameservers.idxOf later.address := by
  rw [endpoints_eq_map, List.pairwise_map]
  exact pairwise_idxOf_eraseDups upstream.nameservers

theorem length_endpoints (upstream : Upstream) :
    upstream.endpoints.length = upstream.nameservers.toFinset.card := by
  rw [endpoints_eq_map, List.length_map, length_eraseDups]

end Upstream
end Settings
end Sinkhole
