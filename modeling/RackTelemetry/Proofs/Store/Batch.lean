import Mathlib.Data.List.Induction
import RackTelemetry.Store

/-!
Batches of writes. A batch without the empty name succeeds as a whole; afterwards every name holds
what the batch wrote last under it, and names that are not in the batch hold what they held before.
-/

namespace RackTelemetry

namespace Store

theorem set_of_ne {store : Store} {key : String} (value : String) (h : key ≠ "") :
    ∃ after, store.set key value = .ok after := by
  rw [set, if_neg (by simpa using h)]
  exact ⟨_, rfl⟩

@[simp] theorem get?_set_self {store after : Store} {key value : String}
    (h : store.set key value = .ok after) : after.get? key = some value := by
  rw [get?_of_set h, if_pos rfl]

theorem get?_set_other {store after : Store} {key value other : String}
    (h : store.set key value = .ok after) (hne : other ≠ key) :
    after.get? other = store.get? other := by
  rw [get?_of_set h, if_neg (Ne.symm hne)]

theorem contains_eq_isSome (store : Store) (key : String) :
    store.contains key = (store.get? key).isSome :=
  Std.ExtTreeMap.contains_eq_isSome_getElem?

theorem contains_congr {first second : Store} {key : String}
    (h : first.get? key = second.get? key) : first.contains key = second.contains key := by
  rw [contains_eq_isSome, contains_eq_isSome, h]

theorem get?_delMany_of_notMem {store : Store} {keys : List String} {key : String}
    (h : key ∉ keys) : (store.delMany keys).1.get? key = store.get? key := by
  rw [get?_delMany, if_neg h]

theorem delMany_append (store : Store) (first second : List String) :
    (store.delMany (first ++ second)).1 = ((store.delMany first).1.delMany second).1 := by
  induction first generalizing store with
  | nil => rfl
  | cons key rest ih => exact ih (store.erase key)

theorem get?_setMany_of_notMem (store : Store) (writes : List (String × String)) {key : String}
    (h : key ∉ writes.map Prod.fst) : (store.setMany writes).1.get? key = store.get? key := by
  induction writes generalizing store with
  | nil => rfl
  | cons write rest ih =>
    obtain ⟨name, value⟩ := write
    simp only [List.map_cons, List.mem_cons, not_or] at h
    cases hset : store.set name value with
    | error e => simp only [setMany, hset]
    | ok after =>
      simp only [setMany, hset]
      rw [ih after h.2, get?_set_other hset h.1]

/-! ### The same requests to two stores -/

section Congr

variable {first second : Store} {name : String} (h : first.get? name = second.get? name)
include h

theorem get?_set_congr {after after' : Store} {key value : String}
    (hfirst : first.set key value = .ok after) (hsecond : second.set key value = .ok after') :
    after.get? name = after'.get? name := by
  rw [get?_of_set hfirst, get?_of_set hsecond, h]

theorem get?_delMany_congr (keys : List String) :
    (first.delMany keys).1.get? name = (second.delMany keys).1.get? name := by
  rw [get?_delMany, get?_delMany, h]

theorem get?_setMany_congr (writes : List (String × String)) :
    (first.setMany writes).1.get? name = (second.setMany writes).1.get? name := by
  induction writes generalizing first second with
  | nil => exact h
  | cons write rest ih =>
    obtain ⟨key, value⟩ := write
    by_cases hkey : key = ""
    · simpa [setMany, set, hkey] using h
    · obtain ⟨after, hfirst⟩ := first.set_of_ne value hkey
      obtain ⟨after', hsecond⟩ := second.set_of_ne value hkey
      simp only [setMany, hfirst, hsecond]
      exact ih (get?_set_congr h hfirst hsecond)

end Congr

theorem setMany_ok (store : Store) (writes : List (String × String))
    (h : ∀ write ∈ writes, write.1 ≠ "") : (store.setMany writes).2 = .ok () := by
  induction writes generalizing store with
  | nil => rfl
  | cons write rest ih =>
    obtain ⟨name, value⟩ := write
    obtain ⟨after, hset⟩ := store.set_of_ne value (h (name, value) (by simp))
    simp only [setMany, hset]
    exact ih after (fun write hwrite => h write (by simp [hwrite]))

/-- A batch that has only one value for a name leaves it with that value. -/
theorem get?_setMany_of_mem (store : Store) (writes : List (String × String)) {key value : String}
    (hne : ∀ write ∈ writes, write.1 ≠ "") (h : (key, value) ∈ writes)
    (hone : ∀ other, (key, other) ∈ writes → other = value) :
    (store.setMany writes).1.get? key = some value := by
  induction writes generalizing store with
  | nil => simp at h
  | cons write rest ih =>
    obtain ⟨name, written⟩ := write
    obtain ⟨after, hset⟩ := store.set_of_ne written (hne (name, written) (by simp))
    have hrest : ∀ write ∈ rest, write.1 ≠ "" := fun write hwrite => hne write (by simp [hwrite])
    simp only [setMany, hset]
    by_cases hlater : key ∈ rest.map Prod.fst
    · obtain ⟨⟨_, other⟩, hmem, rfl⟩ := List.mem_map.mp hlater
      obtain rfl := hone other (by simp [hmem])
      exact ih after hrest hmem (fun x hx => hone x (by simp [hx]))
    · rcases List.mem_cons.mp h with heq | htail
      · obtain ⟨rfl, rfl⟩ := Prod.mk.inj heq
        rw [get?_setMany_of_notMem after rest hlater, get?_set_self hset]
      · exact absurd (List.mem_map_of_mem htail) hlater

/-- Names are withdrawn, then a batch with one value for each of its names is published. -/
theorem get?_setMany_delMany_eq_some_iff {store : Store} {stale : List String}
    {fresh : List (String × String)} (hne : ∀ write ∈ fresh, write.1 ≠ "")
    (hone : ∀ name value other, (name, value) ∈ fresh → (name, other) ∈ fresh → other = value)
    {name value : String} :
    ((store.delMany stale).1.setMany fresh).1.get? name = some value ↔
      (name, value) ∈ fresh ∨
        (∀ other, (name, other) ∉ fresh) ∧ name ∉ stale ∧ store.get? name = some value := by
  by_cases hwritten : ∃ written, (name, written) ∈ fresh
  · obtain ⟨written, hmem⟩ := hwritten
    rw [get?_setMany_of_mem _ fresh hne hmem fun other => hone name written other hmem,
      Option.some.injEq]
    constructor
    · rintro rfl
      exact .inl hmem
    · rintro (hvalue | ⟨hnone, -⟩)
      · exact hone name value written hvalue hmem
      · exact absurd hmem (hnone written)
  · have hnone : ∀ other, (name, other) ∉ fresh := not_exists.mp hwritten
    have hkept : name ∉ fresh.map Prod.fst := by
      rintro hmem
      obtain ⟨⟨_, other⟩, hwrite, rfl⟩ := List.mem_map.mp hmem
      exact hnone other hwrite
    rw [get?_setMany_of_notMem _ fresh hkept, get?_delMany]
    by_cases hstale : name ∈ stale
    · rw [if_pos hstale]
      constructor
      · intro h
        cases h
      · rintro (hmem | ⟨-, hnot, -⟩)
        · exact absurd hmem (hnone value)
        · exact absurd hstale hnot
    · rw [if_neg hstale]
      constructor
      · intro h
        exact .inr ⟨hnone, hstale, h⟩
      · rintro (hmem | ⟨-, -, h⟩)
        · exact absurd hmem (hnone value)
        · exact h

/-! ### Writes one by one -/

/-- Publishes a value where that is not refused. -/
def offer (store : Store) (write : String × String) : Store :=
  match store.set write.1 write.2 with
  | .ok after => after
  | .error _ => store

theorem get?_offer (store : Store) (write : String × String) {name : String} (hne : name ≠ "") :
    (store.offer write).get? name = if write.1 = name then some write.2 else store.get? name := by
  unfold offer
  split
  · next after hset => exact get?_of_set hset name
  · next e hset =>
    have hempty : write.1 = "" := by
      refine Decidable.byContradiction fun h => ?_
      obtain ⟨after, hok⟩ := store.set_of_ne write.2 h
      rw [hok] at hset
      cases hset
    rw [if_neg]
    rw [hempty]
    exact Ne.symm hne

/-- What was offered last under a name is found there. -/
theorem get?_foldl_offer (store : Store) (writes : List (String × String)) {name : String}
    (hne : name ≠ "") :
    (writes.foldl offer store).get? name =
      ((writes.filter fun write => write.1 = name).getLast?.map Prod.snd).or (store.get? name) := by
  induction writes using List.reverseRecOn with
  | nil => rfl
  | append_singleton writes write ih =>
    rw [List.foldl_append, List.foldl_cons, List.foldl_nil, get?_offer _ _ hne,
      List.filter_append]
    by_cases h : write.1 = name
    · simp [h]
    · simp [h, ih]

/-- One of the values that were offered under a name is found there. -/
theorem get?_foldl_offer_of_mem (store : Store) (writes : List (String × String))
    {name value : String} (hne : name ≠ "") (h : (name, value) ∈ writes) :
    ∃ last, (name, last) ∈ writes ∧ (writes.foldl offer store).get? name = some last := by
  rw [get?_foldl_offer store writes hne]
  cases hlast : (writes.filter fun write => write.1 = name).getLast? with
  | none =>
    rw [List.getLast?_eq_none_iff, List.filter_eq_nil_iff] at hlast
    exact absurd (decide_eq_true rfl) (hlast _ h)
  | some write =>
    obtain ⟨hwrite, heq⟩ := List.mem_filter.mp (List.mem_of_getLast? hlast)
    obtain rfl : write.1 = name := of_decide_eq_true heq
    exact ⟨write.2, hwrite, rfl⟩

theorem get?_foldl_offer_of_notMem (store : Store) (writes : List (String × String)) {name : String}
    (h : ∀ write ∈ writes, write.1 ≠ name) :
    (writes.foldl offer store).get? name = store.get? name := by
  refine List.foldlRecOn (motive := fun after : Store => after.get? name = store.get? name)
    writes offer rfl ?_
  intro after hafter write hmem
  unfold offer
  split
  · next hset => exact (get?_set_other hset (Ne.symm (h write hmem))).trans hafter
  · exact hafter

end Store

end RackTelemetry
