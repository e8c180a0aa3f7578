import Mathlib.Data.List.Forall2
import Mathlib.Data.List.Flatten
import RackTelemetry.Proofs.Document.Leaf

/-!
Where the leaves of a document stand. The address of a value lists the positions of the steps that
lead to it, one for each container around it; addresses in lexicographic order are the order of the
document. The walk meets the leaves that do not lie too deep, each of them once and in order.
-/

namespace RackTelemetry

namespace Json

/-- The value is no container. -/
def isLeaf : Json → Bool
  | .list _ | .object _ => false
  | _ => true

/-- What stands in a container, each with its name or index. -/
def children : Json → List (String × Json)
  | .object members => members
  | .list items => items.zipIdx.map fun (item, index) => (toString index, item)
  | _ => []

/-- The value at an address, with the name of every step. -/
def at? (document : Json) : List Nat → Option (List String × Json)
  | [] => some ([], document)
  | position :: rest => do
    let (name, child) ← document.children[position]?
    let (names, value) ← child.at? rest
    return (name :: names, value)

/-- The addresses of the leaves with at most `depth` containers around them. -/
def leafAddresses : Nat → Json → List (List Nat)
  | 0, document => if document.isLeaf then [[]] else []
  | depth + 1, document =>
    if document.isLeaf then [[]]
    else document.children.zipIdx.flatMap fun (child, position) =>
      (leafAddresses depth child.2).map (position :: ·)

variable {depth : Nat} {document value : Json} {address : List Nat} {names : List String}

/-- Either a leaf is met, or a container that lies too deep, or one whose children are walked. -/
theorem walk_induction {P : Nat → Json → Prop}
    (leaf : ∀ depth document, document.isLeaf = true → P depth document)
    (deep : ∀ document, document.isLeaf = false → P 0 document)
    (container : ∀ depth document, document.isLeaf = false →
      (∀ child, P depth child) → P (depth + 1) document)
    (depth : Nat) (document : Json) : P depth document := by
  induction depth generalizing document with
  | zero =>
    cases h : document.isLeaf with
    | true => exact leaf 0 document h
    | false => exact deep document h
  | succ depth ih =>
    cases h : document.isLeaf with
    | true => exact leaf (depth + 1) document h
    | false => exact container depth document h ih

/-! ### Addresses -/

theorem children_of_isLeaf (h : document.isLeaf = true) : document.children = [] := by
  cases document with
  | list items => cases h
  | object members => cases h
  | _ => rfl

theorem at?_cons_eq_some_iff {position : Nat} :
    document.at? (position :: address) = some (names, value) ↔
      ∃ name child others, document.children[position]? = some (name, child) ∧
        child.at? address = some (others, value) ∧ names = name :: others := by
  simp only [at?, bind, Option.bind_eq_some_iff, pure, Option.some.injEq, Prod.mk.injEq,
    Prod.exists, eq_comm (b := names)]
  constructor
  · rintro ⟨name, child, hchild, others, value', hvalue, rfl, rfl⟩
    exact ⟨name, child, others, hchild, hvalue, rfl⟩
  · rintro ⟨name, child, others, hchild, hvalue, rfl⟩
    exact ⟨name, child, hchild, others, value, hvalue, rfl, rfl⟩

theorem leafAddresses_of_isLeaf (h : document.isLeaf = true) (depth : Nat) :
    document.leafAddresses depth = [[]] := by
  cases depth with
  | zero => rw [leafAddresses, if_pos h]
  | succ depth => rw [leafAddresses, if_pos h]

theorem leafAddresses_zero (h : document.isLeaf = false) : document.leafAddresses 0 = [] := by
  rw [leafAddresses, if_neg (by rw [h]; decide)]

theorem leafAddresses_succ (h : document.isLeaf = false) (depth : Nat) :
    document.leafAddresses (depth + 1) =
      document.children.zipIdx.flatMap fun child =>
        (child.1.2.leafAddresses depth).map (child.2 :: ·) := by
  rw [leafAddresses, if_neg (by rw [h]; decide)]

/-- The addresses come in the order of the document, each of them once. -/
theorem pairwise_leafAddresses (depth : Nat) (document : Json) :
    (document.leafAddresses depth).Pairwise (· < ·) := by
  induction depth, document using walk_induction with
  | leaf depth document hleaf =>
    rw [leafAddresses_of_isLeaf hleaf]
    exact List.pairwise_singleton _ _
  | deep document hcontainer =>
    rw [leafAddresses_zero hcontainer]
    exact List.Pairwise.nil
  | container depth document hcontainer ih =>
    rw [leafAddresses_succ hcontainer, List.pairwise_flatMap]
    constructor
    · rintro ⟨⟨name, child⟩, position⟩ -
      rw [List.pairwise_map]
      exact (ih child).imp fun h => List.cons_lt_cons_iff.mpr (.inr ⟨rfl, h⟩)
    · have hpositions : document.children.zipIdx.Pairwise fun x y => x.2 < y.2 := by
        rw [← List.pairwise_map (f := Prod.snd) (R := (· < ·)), List.zipIdx_map_snd]
        exact List.pairwise_lt_range' 1
      refine hpositions.imp ?_
      rintro ⟨_, i⟩ ⟨_, j⟩ hlt _ hx _ hy
      obtain ⟨x, -, rfl⟩ := List.mem_map.mp hx
      obtain ⟨y, -, rfl⟩ := List.mem_map.mp hy
      exact List.cons_lt_cons_iff.mpr (.inl hlt)

/-- The addresses are those of the leaves that do not lie too deep. -/
theorem mem_leafAddresses (depth : Nat) (document : Json) (address : List Nat) :
    address ∈ document.leafAddresses depth ↔
      address.length ≤ depth ∧
        ∃ names value, document.at? address = some (names, value) ∧ value.isLeaf = true := by
  induction depth, document using walk_induction generalizing address with
  | leaf depth document hleaf =>
    rw [leafAddresses_of_isLeaf hleaf, List.mem_singleton]
    constructor
    · rintro rfl
      exact ⟨Nat.zero_le _, [], document, rfl, hleaf⟩
    · rintro ⟨-, names, value, hvalue, -⟩
      cases address with
      | nil => rfl
      | cons position rest =>
        obtain ⟨name, child, others, hchild, -⟩ := at?_cons_eq_some_iff.mp hvalue
        rw [children_of_isLeaf hleaf] at hchild
        cases hchild
  | deep document hcontainer =>
    rw [leafAddresses_zero hcontainer]
    refine ⟨nofun, ?_⟩
    rintro ⟨hlength, names, value, hvalue, hleaf⟩
    obtain rfl := List.length_eq_zero_iff.mp (Nat.le_zero.mp hlength)
    obtain ⟨-, rfl⟩ := Prod.mk.inj (Option.some.inj hvalue)
    rw [hcontainer] at hleaf
    cases hleaf
  | container depth document hcontainer ih =>
    rw [leafAddresses_succ hcontainer, List.mem_flatMap]
    constructor
    · rintro ⟨⟨⟨name, child⟩, position⟩, hchild, hmem⟩
      obtain ⟨rest, hrest, rfl⟩ := List.mem_map.mp hmem
      obtain ⟨hlength, others, value, hvalue, hleaf⟩ := (ih child rest).mp hrest
      exact ⟨Nat.succ_le_succ hlength, name :: others, value, at?_cons_eq_some_iff.mpr
        ⟨name, child, others, List.mem_zipIdx_iff_getElem?.mp hchild, hvalue, rfl⟩, hleaf⟩
    · rintro ⟨hlength, names, value, hvalue, hleaf⟩
      cases address with
      | nil =>
        obtain ⟨-, rfl⟩ := Prod.mk.inj (Option.some.inj hvalue)
        rw [hcontainer] at hleaf
        cases hleaf
      | cons position rest =>
        obtain ⟨name, child, others, hchild, hrest, -⟩ := at?_cons_eq_some_iff.mp hvalue
        refine ⟨((name, child), position), List.mem_zipIdx_iff_getElem?.mpr hchild, ?_⟩
        exact List.mem_map_of_mem
          ((ih child rest).mpr ⟨Nat.le_of_succ_le_succ hlength, others, value, hrest, hleaf⟩)

/-! ### The walk -/

theorem leaves_of_isLeaf (h : document.isLeaf = true) (depth : Nat) (root : String) :
    document.leaves depth root = [(root, document)] := by
  cases document with
  | list items => cases h
  | object members => cases h
  | _ => cases depth <;> rfl

theorem leaves_zero (h : document.isLeaf = false) (root : String) :
    document.leaves 0 root = [] := by
  cases document with
  | list items => rfl
  | object members => rfl
  | _ => cases h

theorem leaves_succ (h : document.isLeaf = false) (depth : Nat) (root : String) :
    document.leaves (depth + 1) root =
      document.children.flatMap fun child => child.2.leaves depth (step root child.1) := by
  cases document with
  | list items =>
    simp only [leaves, visits, children, List.filterMap_flatMap, List.flatMap_map]
  | object members => simp only [leaves, visits, children, List.filterMap_flatMap]
  | _ => cases h

/-- No container is met as a leaf. -/
theorem isLeaf_of_mem_visits {root path : String}
    (h : Visit.leaf path value ∈ document.visits depth root) : value.isLeaf = true := by
  refine visits_induction (P := fun _ => value.isLeaf = true) ?_ ?_ h
  · intro hlist hobject
    cases value with
    | list items => exact absurd rfl (hlist items)
    | object members => exact absurd rfl (hobject members)
    | _ => rfl
  · intro _ _ hstep
    exact hstep

/-- What is met at an address: the value there, on the path from the root through the names of all
steps. -/
def MetAt (document : Json) (root : String) (address : List Nat) (leaf : String × Json) : Prop :=
  ∃ names, document.at? address = some (names, leaf.2) ∧ leaf.1 = "/".intercalate (root :: names)

theorem forall₂_metAt (depth : Nat) (document : Json) (root : String) :
    List.Forall₂ (document.MetAt root) (document.leafAddresses depth)
      (document.leaves depth root) := by
  induction depth, document using walk_induction generalizing root with
  | leaf depth document hleaf =>
    rw [leafAddresses_of_isLeaf hleaf, leaves_of_isLeaf hleaf]
    exact .cons ⟨[], rfl, rfl⟩ .nil
  | deep document hcontainer =>
    rw [leafAddresses_zero hcontainer, leaves_zero hcontainer]
    exact .nil
  | container depth document hcontainer ih =>
    have hsame : List.Forall₂ (fun x y => x.1 = y ∧ document.children[x.2]? = some x.1)
        document.children.zipIdx document.children := by
      conv => rhs; rw [← List.zipIdx_map_fst 0 document.children]
      rw [List.forall₂_map_right_iff, List.forall₂_same]
      exact fun child hmem => ⟨rfl, List.mem_zipIdx_iff_getElem?.mp hmem⟩
    rw [leafAddresses_succ hcontainer, leaves_succ hcontainer]
    refine List.rel_flatMap hsame ?_
    rintro ⟨⟨name, child⟩, position⟩ _ ⟨rfl, hchild⟩
    rw [List.forall₂_map_left_iff]
    refine (ih child (step root name)).imp ?_
    rintro address leaf ⟨names, hvalue, hpath⟩
    exact ⟨name :: names, at?_cons_eq_some_iff.mpr ⟨name, child, names, hchild, hvalue, rfl⟩, hpath⟩

/-- The leaves of a document with at most `depth` containers around them, each of them once and in
the order of the document. -/
def IsWalk (document : Json) (depth : Nat) (root : String) (met : List (String × Json)) : Prop :=
  ∃ addresses : List (List Nat), addresses.Pairwise (· < ·) ∧
    (∀ address, address ∈ addresses ↔ address.length ≤ depth ∧
      ∃ names value, document.at? address = some (names, value) ∧ value.isLeaf = true) ∧
    List.Forall₂ (document.MetAt root) addresses met

theorem isWalk_leaves (depth : Nat) (root : String) (document : Json) :
    document.IsWalk depth root (document.leaves depth root) :=
  ⟨document.leafAddresses depth, pairwise_leafAddresses depth document,
    mem_leafAddresses depth document, forall₂_metAt depth document root⟩

end Json

end RackTelemetry
