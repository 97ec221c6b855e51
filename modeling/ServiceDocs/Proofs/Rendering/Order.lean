import Mathlib.Data.Prod.Lex
import Mathlib.Data.String.Basic
import ServiceDocs.Proofs.Lists
import ServiceDocs.Rendering.Endpoints

namespace ServiceDocs.Rendering

/-!
# The order of endpoints

Endpoints are ordered by path and method, and those that are equal in both keep their order.  So
the sorted list is determined by what stands under each path and method.

* `endpointKey`, `comparesBy_endpointKey` — the path and the method, by which endpoints are ordered;
* `under`, `under_eq_nil_iff`, `under_flatMap`, `under_eq_of_perm` — what stands under a path and
  method;
* `sortEndpoints_eq_of_under` — lists with the same endpoints under each are sorted alike.
-/

/-- The path and the method; what is absent counts as empty. -/
def endpointKey (e : Endpoint) : String × String := (e.path.getD "", e.method.getD "")

/-- Endpoints are ordered by path first and then by method. -/
theorem comparesBy_endpointKey : ComparesBy (fun e => toLex (endpointKey e)) endpointLe := by
  intro a b
  rw [Prod.Lex.toLex_le_toLex]
  simp [endpointLe, endpointKey]

/-! ### What stands under a path and method -/

/-- The endpoints of a path and method. -/
def under (key : String × String) (es : List Endpoint) : List Endpoint :=
  es.filter (endpointKey · = key)

/-- Nothing stands under a path and method that no endpoint has. -/
theorem under_eq_nil_iff {key : String × String} {es : List Endpoint} :
    under key es = [] ↔ ∀ e ∈ es, endpointKey e ≠ key := by
  simp [under, List.filter_eq_nil_iff]

theorem under_flatMap {α : Type} (key : String × String) (f : α → List Endpoint) (as : List α) :
    under key (as.flatMap f) = as.flatMap fun a => under key (f a) := by
  rw [under, List.filter_flatMap]
  rfl

/-- What stands under a path and method is a block of equal endpoints. -/
theorem filter_toLex (key : String ×ₗ String) (es : List Endpoint) :
    es.filter (fun e => toLex (endpointKey e) = key) = under (ofLex key) es := by
  refine List.filter_congr fun e _ => ?_
  rw [decide_eq_decide]
  exact toLex.eq_symm_apply.symm

/-- When no two endpoints have the same path and method, their order does not matter to what stands
    under each. -/
theorem under_eq_of_perm {es fs : List Endpoint} (hp : es.Perm fs)
    (h : (es.map endpointKey).Nodup) (key : String × String) : under key es = under key fs := by
  have hunder : (under key es).Perm (under key fs) := hp.filter _
  cases hes : under key es with
  | nil =>
    rw [hes] at hunder
    exact hunder.nil_eq
  | cons e rest =>
    cases rest with
    | nil =>
      rw [hes] at hunder
      exact (List.perm_singleton.1 hunder.symm).symm
    | cons f rest =>
      -- Two endpoints under one path and method would have them in common.
      have hkeys : ((under key es).map endpointKey).Nodup :=
        h.sublist (List.filter_sublist.map endpointKey)
      have hkey : ∀ g ∈ under key es, endpointKey g = key := by simp [under]
      rw [hes] at hkeys hkey
      have heq : endpointKey e = endpointKey f := by rw [hkey e (by simp), hkey f (by simp)]
      simp [heq] at hkeys

/-- Lists with the same endpoints under each path and method are sorted alike. -/
theorem sortEndpoints_eq_of_under {es fs : List Endpoint}
    (h : ∀ key, under key es = under key fs) : sortEndpoints es = sortEndpoints fs := by
  apply comparesBy_endpointKey.mergeSort_eq (comparesBy_endpointKey.pairwise_mergeSort fs)
  intro key
  rw [comparesBy_endpointKey.filter_mergeSort, filter_toLex, filter_toLex, h]

end ServiceDocs.Rendering
