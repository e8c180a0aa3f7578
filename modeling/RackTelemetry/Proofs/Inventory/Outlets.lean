import Mathlib.Data.List.Basic
import RackTelemetry.Inventory.Outlet

/-!
Changes of one outlet. A change is made exactly where there is an outlet, and the list of outlets
stays as long as it is.
-/

namespace RackTelemetry

namespace OutletRegistry

variable {r after : OutletRegistry} {index : Nat} {change : Outlet → Outlet}

theorem update_eq (r : OutletRegistry) (index : Nat) (change : Outlet → Outlet) :
    r.update index change =
      if index < r.outlets.length then .ok { r with outlets := r.outlets.modify index change }
      else .error (.outOfBounds index r.outlets.length) := by
  unfold update
  cases hget : r.outlets[index]? with
  | none => rw [if_neg (Nat.not_lt.mpr (List.getElem?_eq_none_iff.mp hget))]
  | some outlet =>
    obtain ⟨hlt, rfl⟩ := List.getElem?_eq_some_iff.mp hget
    rw [if_pos hlt, List.modify_eq_set_get _ hlt]
    rfl

theorem update_eq_ok_iff : r.update index change = .ok after ↔
    index < r.outlets.length ∧ { r with outlets := r.outlets.modify index change } = after := by
  rw [update_eq]
  split
  · next hlt => rw [Except.ok.injEq, and_iff_right hlt]
  · next hbeyond => simp only [reduceCtorEq, hbeyond, false_and]

theorem length_update (h : r.update index change = .ok after) :
    after.outlets.length = r.outlets.length := by
  obtain ⟨-, rfl⟩ := update_eq_ok_iff.mp h
  exact List.length_modify _ _ _

/-- What a change leaves of an outlet, it leaves of all outlets. -/
theorem map_update {α : Type} {observe : Outlet → α} (h : r.update index change = .ok after)
    (hsame : ∀ outlet, observe (change outlet) = observe outlet) :
    after.outlets.map observe = r.outlets.map observe := by
  obtain ⟨hlt, rfl⟩ := update_eq_ok_iff.mp h
  have hself : (r.outlets.map observe).set index (observe r.outlets[index]) =
      r.outlets.map observe := by
    rw [← List.getElem_map observe, List.set_getElem_self]
    rwa [List.length_map]
  rw [List.modify_eq_set_get _ hlt, List.map_set, hsame]
  exact hself

/-- There is an outlet at an index that was found. -/
theorem setSwitchable_of_indexOf {topic : String} (h : r.indexOf topic = .ok index)
    (switchable : Bool) : ∃ after, r.setSwitchable index switchable = .ok after := by
  unfold indexOf at h
  split at h
  · next found hfound =>
    obtain rfl := Except.ok.inj h
    exact ⟨_, update_eq_ok_iff.mpr ⟨(List.findIdx?_eq_some_iff_getElem.mp hfound).1, rfl⟩⟩
  · cases h

end OutletRegistry

end RackTelemetry
