import Mathlib.Data.List.Induction
import Mathlib.Data.List.Nodup
import ScriptSocket.Host.Resolver

/-!
# Endpoints in the order of their first occurrences

The host's resolvers list the endpoints of a family, each once.  `filterFamily` looks a new endpoint
up among those that it has kept so far.  What it has kept are the endpoints of the family that came
before (`mem_filterFamily_iff`), so an endpoint is added exactly when it occurs for the first time;
order, freedom from duplicates and the laws for filtering twice follow from that.
-/

namespace ScriptSocket.Host

@[simp]
theorem ofFamily_none (endpoint : Endpoint) : ofFamily none endpoint = true := rfl

theorem ofFamily_iff {family : Option Family} {endpoint : Endpoint} :
    ofFamily family endpoint = true ↔ ∀ requested ∈ family, endpoint.family = requested := by
  cases family <;> simp [ofFamily]

/-! ## One endpoint more -/

@[simp]
theorem filterFamily_nil (family : Option Family) : filterFamily [] family = [] := rfl

theorem filterFamily_concat (endpoints : List Endpoint) (last : Endpoint)
    (family : Option Family) :
    filterFamily (endpoints ++ [last]) family =
      if ofFamily family last ∧ last ∉ filterFamily endpoints family then
        filterFamily endpoints family ++ [last]
      else filterFamily endpoints family := by
  unfold filterFamily
  rw [List.foldl_append]
  rfl

theorem mem_filterFamily_iff {endpoints : List Endpoint} {family : Option Family}
    {endpoint : Endpoint} :
    endpoint ∈ filterFamily endpoints family ↔
      endpoint ∈ endpoints ∧ ofFamily family endpoint = true := by
  induction endpoints using List.reverseRecOn with
  | nil => simp
  | append_singleton endpoints last ih =>
      rw [filterFamily_concat]
      split
      · rename_i hnew
        rw [List.mem_append, List.mem_append, List.mem_singleton, ih, or_and_right]
        apply or_congr_right
        exact ⟨fun heq => ⟨heq, heq ▸ hnew.1⟩, And.left⟩
      · rename_i hold
        rw [List.mem_append, List.mem_singleton, ih]
        constructor
        · rintro ⟨hmem, hof⟩
          exact ⟨Or.inl hmem, hof⟩
        · rintro ⟨hmem | rfl, hof⟩
          · exact ⟨hmem, hof⟩
          · exact ih.mp (by_contra fun hnot => hold ⟨hof, hnot⟩)

/-- What was kept stands for all that came before: an endpoint is added when it occurs for the
first time. -/
theorem filterFamily_concat_eq_ite (endpoints : List Endpoint) (last : Endpoint)
    (family : Option Family) :
    filterFamily (endpoints ++ [last]) family =
      if ofFamily family last ∧ last ∉ endpoints then filterFamily endpoints family ++ [last]
      else filterFamily endpoints family := by
  rw [filterFamily_concat]
  apply if_congr _ rfl rfl
  apply and_congr_right
  intro hof
  rw [mem_filterFamily_iff, and_iff_left hof]

/-! ## Order -/

theorem filterFamily_sublist (endpoints : List Endpoint) (family : Option Family) :
    (filterFamily endpoints family).Sublist endpoints := by
  induction endpoints using List.reverseRecOn with
  | nil => exact List.Sublist.refl []
  | append_singleton endpoints last ih =>
      rw [filterFamily_concat]
      split
      · exact ih.append_right [last]
      · exact ih.trans (List.sublist_append_left endpoints [last])

/-- Endpoints are listed in the order in which they first occur. -/
theorem pairwise_idxOf_filterFamily (endpoints : List Endpoint) (family : Option Family) :
    (filterFamily endpoints family).Pairwise
      fun earlier later => endpoints.idxOf earlier < endpoints.idxOf later := by
  induction endpoints using List.reverseRecOn with
  | nil => exact List.Pairwise.nil
  | append_singleton endpoints last ih =>
      have hmem : ∀ endpoint ∈ filterFamily endpoints family, endpoint ∈ endpoints :=
        fun endpoint hkept => (mem_filterFamily_iff.mp hkept).1
      -- an endpoint that has occurred keeps the place of its first occurrence
      have hplaces : (filterFamily endpoints family).Pairwise fun earlier later =>
          (endpoints ++ [last]).idxOf earlier < (endpoints ++ [last]).idxOf later := by
        refine ih.imp_of_mem ?_
        intro earlier later hearlier hlater hlt
        rwa [List.idxOf_append_of_mem (hmem earlier hearlier),
          List.idxOf_append_of_mem (hmem later hlater)]
      rw [filterFamily_concat_eq_ite]
      split
      · rename_i hnew
        refine List.pairwise_append.mpr ⟨hplaces, List.pairwise_singleton _ last, ?_⟩
        intro earlier hearlier later hlater
        rw [List.mem_singleton.mp hlater, List.idxOf_append_of_mem (hmem earlier hearlier),
          List.idxOf_append_of_notMem hnew.2]
        exact Nat.lt_add_right _ (List.idxOf_lt_length_of_mem (hmem earlier hearlier))
      · exact hplaces

theorem nodup_filterFamily (endpoints : List Endpoint) (family : Option Family) :
    (filterFamily endpoints family).Nodup := by
  refine (pairwise_idxOf_filterFamily endpoints family).imp ?_
  rintro earlier later hlt rfl
  exact Nat.lt_irrefl _ hlt

/-! ## Filtering twice -/

/-- Filtering by a family takes the endpoints of that family from the endpoints of all. -/
theorem filterFamily_eq_filter (endpoints : List Endpoint) (family : Option Family) :
    filterFamily endpoints family = (filterFamily endpoints none).filter (ofFamily family) := by
  induction endpoints using List.reverseRecOn with
  | nil => rfl
  | append_singleton endpoints last ih =>
      rw [filterFamily_concat_eq_ite, filterFamily_concat_eq_ite]
      by_cases hold : last ∈ endpoints
      · simp [hold, ih]
      · cases hof : ofFamily family last <;> simp [hold, hof, ih]

theorem filterFamily_none_of_nodup {endpoints : List Endpoint} (hnodup : endpoints.Nodup) :
    filterFamily endpoints none = endpoints := by
  induction endpoints using List.reverseRecOn with
  | nil => rfl
  | append_singleton endpoints last ih =>
      have hparts := List.nodup_cons.mp (List.nodup_append_comm.mp hnodup)
      rw [filterFamily_concat_eq_ite, if_pos ⟨rfl, hparts.1⟩, ih hparts.2]

theorem filterFamily_filterFamily_none (endpoints : List Endpoint) (family : Option Family) :
    filterFamily (filterFamily endpoints none) family = filterFamily endpoints family := by
  rw [filterFamily_eq_filter (filterFamily endpoints none) family,
    filterFamily_none_of_nodup (nodup_filterFamily endpoints none), ← filterFamily_eq_filter]

theorem filterFamily_idem (endpoints : List Endpoint) (family : Option Family) :
    filterFamily (filterFamily endpoints family) family = filterFamily endpoints family := by
  rw [filterFamily_eq_filter (filterFamily endpoints family) family,
    filterFamily_none_of_nodup (nodup_filterFamily endpoints family), List.filter_eq_self]
  intro endpoint hkept
  exact (mem_filterFamily_iff.mp hkept).2

/-- Filtering lists each endpoint of the family once, in the order of first occurrences.  The result
is part of the list in its order; filtering again changes nothing, and the endpoints of a family may
be taken from the filtered list of all. -/
theorem filterFamily_lists_first_occurrences
    (endpoints : List Endpoint) (family : Option Family) :
    (filterFamily endpoints family).Nodup ∧
    (∀ endpoint, endpoint ∈ filterFamily endpoints family ↔
      endpoint ∈ endpoints ∧ ∀ requested ∈ family, endpoint.family = requested) ∧
    (filterFamily endpoints family).Pairwise
      (fun earlier later => endpoints.idxOf earlier < endpoints.idxOf later) ∧
    (filterFamily endpoints family).Sublist endpoints ∧
    filterFamily (filterFamily endpoints family) family = filterFamily endpoints family ∧
    filterFamily (filterFamily endpoints none) family = filterFamily endpoints family := by
  refine ⟨nodup_filterFamily endpoints family, ?_, pairwise_idxOf_filterFamily endpoints family,
    filterFamily_sublist endpoints family, filterFamily_idem endpoints family,
    filterFamily_filterFamily_none endpoints family⟩
  intro endpoint
  rw [mem_filterFamily_iff, ofFamily_iff]

end ScriptSocket.Host
