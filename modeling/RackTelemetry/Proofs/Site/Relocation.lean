import RackTelemetry.Proofs.Inventory.Order
import RackTelemetry.Proofs.Naming.Step
import RackTelemetry.Proofs.Store.Batch
import RackTelemetry.Site.Devices

/-!
Renumbering relocates all moved devices at once: what a device published under its old position is
found under its new one, whatever stood there before, and all other names are left alone.
-/

namespace RackTelemetry

namespace Site

open KeySpace

/-- A device of an earlier layout stands elsewhere now. -/
structure Moved (devices : DeviceRegistry) (before : List (String × Nat)) (old new contacts : Nat)
    (key : String) : Prop where
  listed : before[old]? = some (key, contacts)
  found : devices.position? key = some new
  moved : new ≠ old

variable {ks : KeySpace} {devices : DeviceRegistry} {before : List (String × Nat)}

theorem mem_relocations {old new : String} :
    (old, new) ∈ relocations ks devices before ↔
      ∃ p q contacts key, Moved devices before p q contacts key ∧
        ∃ s ∈ objectSteps contacts, old = ks.device p s ∧ new = ks.device q s := by
  simp only [relocations, List.mem_flatMap]
  constructor
  · rintro ⟨⟨⟨key, contacts⟩, p⟩, hlisted, h⟩
    have hbefore : before[p]? = some (key, contacts) := List.mem_zipIdx_iff_getElem?.mp hlisted
    cases hfound : devices.position? key with
    | none => simp [hfound] at h
    | some q =>
      simp only [hfound] at h
      split at h
      · simp at h
      · next hmoved =>
        rw [deviceObjectKeys_eq_map, deviceObjectKeys_eq_map, List.zip_map', List.mem_map] at h
        obtain ⟨s, hs, heq⟩ := h
        obtain ⟨rfl, rfl⟩ := Prod.mk.inj heq
        exact ⟨p, q, contacts, key, ⟨hbefore, hfound, hmoved⟩, s, hs, rfl, rfl⟩
  · rintro ⟨p, q, contacts, key, ⟨hbefore, hfound, hmoved⟩, s, hs, rfl, rfl⟩
    refine ⟨((key, contacts), p), List.mem_zipIdx_iff_getElem?.mpr hbefore, ?_⟩
    simp only [hfound, if_neg hmoved]
    rw [deviceObjectKeys_eq_map, deviceObjectKeys_eq_map, List.zip_map', List.mem_map]
    exact ⟨s, hs, rfl⟩

/-- A moved device is known by its new position. -/
theorem Moved.unique {p p' q contacts contacts' : Nat} {key key' : String}
    (hbefore : (before.map Prod.fst).Nodup) (h : Moved devices before p q contacts key)
    (h' : Moved devices before p' q contacts' key') : p = p' ∧ contacts = contacts' := by
  obtain ⟨d, hd, hkey⟩ := DeviceRegistry.device_of_position? h.found
  obtain ⟨d', hd', hkey'⟩ := DeviceRegistry.device_of_position? h'.found
  obtain rfl : d = d' := Option.some.inj (hd.symm.trans hd')
  obtain rfl : key = key' := hkey.symm.trans hkey'
  have hlt : p < (before.map Prod.fst).length := by
    rw [List.length_map]
    exact (List.getElem?_eq_some_iff.mp h.listed).1
  have hsame : p = p' := by
    refine (List.getElem?_inj hlt hbefore).mp ?_
    rw [List.getElem?_map, List.getElem?_map, h.listed, h'.listed]
    rfl
  subst hsame
  have hentry := h.listed.symm.trans h'.listed
  exact ⟨rfl, (Prod.mk.inj (Option.some.inj hentry)).2⟩

/-- The values that the moved devices take along, under their new names. -/
def luggage (ks : KeySpace) (site : Site) (before : List (String × Nat)) : List (String × String) :=
  (relocations ks site.devices before).filterMap fun (old, new) =>
    (site.store.get? old).map fun value => (new, value)

variable {site : Site}

theorem mem_luggage {name value : String} :
    (name, value) ∈ luggage ks site before ↔
      ∃ old, (old, name) ∈ relocations ks site.devices before ∧
        site.store.get? old = some value := by
  simp only [luggage, List.mem_filterMap, Option.map_eq_some_iff, Prod.mk.injEq, Prod.exists]
  constructor
  · rintro ⟨old, new, hmem, v, hv, rfl, rfl⟩
    exact ⟨old, hmem, hv⟩
  · rintro ⟨old, hmem, hv⟩
    exact ⟨old, name, hmem, value, hv, rfl, rfl⟩

theorem luggage_name_ne_empty {write : String × String} (h : write ∈ luggage ks site before) :
    write.1 ≠ "" := by
  obtain ⟨name, value⟩ := write
  obtain ⟨old, hold, -⟩ := mem_luggage.mp h
  obtain ⟨p, q, contacts, key, -, s, -, -, rfl⟩ := mem_relocations.mp hold
  exact device_ne_empty ks q s

/-- Renumbering always succeeds, and only touches the published state. -/
theorem renumber_eq (ks : KeySpace) (site : Site) (before : List (String × Nat)) :
    (renumber ks site before).result = .ok () ∧
      (renumber ks site before).site =
        { site with
          store :=
            ((site.store.delMany ((relocations ks site.devices before).map Prod.fst)).1.setMany
              (luggage ks site before)).1 } := by
  unfold renumber
  simp only
  split
  · next hempty =>
    have hnil : relocations ks site.devices before = [] := List.isEmpty_iff.mp hempty
    simp [done, luggage, hnil, Store.delMany, Store.setMany]
  · have hok := Store.setMany_ok
      (site.store.delMany ((relocations ks site.devices before).map Prod.fst)).1
      (luggage ks site before) (fun _ h => luggage_name_ne_empty h)
    have hfold : ((relocations ks site.devices before).filterMap fun (old, new) =>
        (site.store.get? old).map fun value => (new, value)) = luggage ks site before := rfl
    rw [hfold]
    cases hmany : (site.store.delMany
        ((relocations ks site.devices before).map Prod.fst)).1.setMany (luggage ks site before) with
    | mk store result =>
      rw [hmany] at hok
      obtain rfl : result = .ok () := hok
      exact ⟨rfl, rfl⟩

theorem mem_map_relocations {name : String} :
    name ∈ (relocations ks devices before).map Prod.fst ↔
      ∃ p q contacts key, Moved devices before p q contacts key ∧
        ∃ s ∈ objectSteps contacts, name = ks.device p s := by
  rw [List.mem_map]
  constructor
  · rintro ⟨⟨old, new⟩, hmem, rfl⟩
    obtain ⟨p, q, contacts, key, hmoved, s, hs, rfl, -⟩ := mem_relocations.mp hmem
    exact ⟨p, q, contacts, key, hmoved, s, hs, rfl⟩
  · rintro ⟨p, q, contacts, key, hmoved, s, hs, rfl⟩
    exact ⟨_, mem_relocations.mpr ⟨p, q, contacts, key, hmoved, s, hs, rfl, rfl⟩, rfl⟩

section Values

variable (hbefore : (before.map Prod.fst).Nodup)
include hbefore

/-- No two moved devices bring a value to one name. -/
theorem luggage_unique {q contacts p : Nat} {key s value : String}
    (hmoved : Moved site.devices before p q contacts key)
    (h : (ks.device q s, value) ∈ luggage ks site before) :
    site.store.get? (ks.device p s) = some value := by
  obtain ⟨old, hold, hvalue⟩ := mem_luggage.mp h
  obtain ⟨p', q', contacts', key', hmoved', s', -, rfl, hname⟩ := mem_relocations.mp hold
  obtain ⟨rfl, rfl⟩ := device_inj.mp hname
  obtain ⟨rfl, rfl⟩ := hmoved'.unique hbefore hmoved
  exact hvalue

/-- A value goes where its device goes. -/
theorem get?_renumber_of_moved {p q contacts : Nat} {key s value : String}
    (hmoved : Moved site.devices before p q contacts key) (hs : s ∈ objectSteps contacts)
    (hvalue : site.store.get? (ks.device p s) = some value) :
    (renumber ks site before).site.store.get? (ks.device q s) = some value := by
  rw [(renumber_eq ks site before).2]
  apply Store.get?_setMany_of_mem
  · exact fun _ h => luggage_name_ne_empty h
  · exact mem_luggage.mpr
      ⟨ks.device p s, mem_relocations.mpr ⟨p, q, contacts, key, hmoved, s, hs, rfl, rfl⟩, hvalue⟩
  · intro other hother
    exact Option.some.inj ((luggage_unique hbefore hmoved hother).symm.trans hvalue)

end Values

/-- What no moved device brings along is withdrawn with the old names, and kept otherwise. -/
theorem get?_renumber_of_notMem {name : String}
    (h : ∀ value, (name, value) ∉ luggage ks site before) :
    (renumber ks site before).site.store.get? name =
      if name ∈ (relocations ks site.devices before).map Prod.fst then none
      else site.store.get? name := by
  have hkept : name ∉ (luggage ks site before).map Prod.fst := by
    rintro hmem
    obtain ⟨⟨_, value⟩, hwrite, rfl⟩ := List.mem_map.mp hmem
    exact h value hwrite
  rw [(renumber_eq ks site before).2]
  simp only [Store.get?_setMany_of_notMem _ _ hkept, Store.get?_delMany]

/-- Only names of devices are touched. -/
theorem get?_renumber_other {name : String} (h : ∀ p s, name ≠ ks.device p s) :
    (renumber ks site before).site.store.get? name = site.store.get? name := by
  rw [get?_renumber_of_notMem, if_neg]
  · intro hmem
    obtain ⟨p, _, _, _, -, s, -, rfl⟩ := mem_map_relocations.mp hmem
    exact h p s rfl
  · intro value hmem
    obtain ⟨_, hold, -⟩ := mem_luggage.mp hmem
    obtain ⟨_, q, _, _, -, s, -, -, rfl⟩ := mem_relocations.mp hold
    exact h q s rfl

end Site

end RackTelemetry
