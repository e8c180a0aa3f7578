import RackTelemetry.Document.Leaf

/-!
Which leaves are met in a document: their paths begin with the root, and none of them is a
container. Both go along the way from the leaf up to the root.
-/

namespace RackTelemetry

namespace Json

/-- What holds at the path of a leaf, and goes from every step to the path above it, holds at the
root of a document that has the leaf. -/
theorem visits_induction {P : String → Prop} {depth : Nat} {root path : String}
    {document value : Json}
    (hleaf : (∀ items, value ≠ .list items) → (∀ members, value ≠ .object members) → P path)
    (hstep : ∀ root name, P (step root name) → P root)
    (h : Visit.leaf path value ∈ document.visits depth root) : P root := by
  induction depth generalizing root document with
  | zero =>
    cases document with
    | list items => cases List.mem_singleton.mp h
    | object members => cases List.mem_singleton.mp h
    | _ =>
      obtain ⟨rfl, rfl⟩ := Visit.leaf.inj (List.mem_singleton.mp h)
      exact hleaf nofun nofun
  | succ depth ih =>
    cases document with
    | list items =>
      obtain ⟨⟨item, index⟩, -, hmem⟩ := List.mem_flatMap.mp h
      exact hstep root (toString index) (ih hmem)
    | object members =>
      obtain ⟨⟨name, value⟩, -, hmem⟩ := List.mem_flatMap.mp h
      exact hstep root name (ih hmem)
    | _ =>
      obtain ⟨rfl, rfl⟩ := Visit.leaf.inj (List.mem_singleton.mp h)
      exact hleaf nofun nofun

variable {depth : Nat} {root path : String} {document value : Json}

/-- Whatever is met in a document has a path that begins with the topic. -/
theorem path_of_mem_visits (h : Visit.leaf path value ∈ document.visits depth root) :
    root.toList <+: path.toList := by
  refine visits_induction (P := fun root => root.toList <+: path.toList) ?_ ?_ h
  · intro _ _
    exact List.prefix_refl _
  · intro root name hname
    refine List.IsPrefix.trans ?_ hname
    rw [step, String.toList_append, String.toList_append, List.append_assoc]
    exact List.prefix_append _ _

/-- A leaf is no container, so as a document of its own it is met at once. -/
theorem visits_of_mem_visits (h : Visit.leaf path value ∈ document.visits depth root) (other : Nat)
    (topic : String) : value.visits other topic = [.leaf topic value] := by
  refine visits_induction (P := fun _ => value.visits other topic = [.leaf topic value]) ?_ ?_ h
  · intro hlist hobject
    cases value with
    | list items => exact absurd rfl (hlist items)
    | object members => exact absurd rfl (hobject members)
    | _ => cases other <;> rfl
  · intro _ _ hstep
    exact hstep

end Json

end RackTelemetry
