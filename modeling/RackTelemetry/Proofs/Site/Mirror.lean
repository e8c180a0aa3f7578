import RackTelemetry.Proofs.Site.Relocation

/-!
A site mirrors its devices: each position publishes the key of its device, and nothing is published
below the root of the devices that is not an entry of a device that is there. While that holds,
renumbering carries over everything there is of a device, and leaves nothing behind.
-/

namespace RackTelemetry

open KeySpace

/-- A name stands below the root of the environment devices. -/
def KeySpace.Ambient (ks : KeySpace) (name : String) : Prop :=
  (ks.ambientRoot ++ ".").toList <+: name.toList

theorem KeySpace.ambient_device (ks : KeySpace) (p : Nat) (s : String) :
    ks.Ambient (ks.device p s) := by
  refine ⟨(toString (Number.ordinal p) ++ "." ++ s).toList, ?_⟩
  simp only [KeySpace.device, String.toList_append, List.append_assoc]

theorem DeviceRegistry.getElem?_layout (r : DeviceRegistry) (p : Nat) :
    r.layout[p]? = r.devices[p]?.map fun device => (device.key, device.contacts) := by
  simp [DeviceRegistry.layout]

theorem DeviceRegistry.map_fst_layout (r : DeviceRegistry) : r.layout.map Prod.fst = r.keys := by
  simp [DeviceRegistry.layout, DeviceRegistry.keys]

namespace Site

/-- What a site has published under a step of a position. -/
def entry (ks : KeySpace) (site : Site) (p : Nat) (s : String) : Option String :=
  site.store.get? (ks.device p s)

/-- The published state mirrors the devices. -/
structure Mirrored (ks : KeySpace) (site : Site) : Prop where
  distinct : site.devices.keys.Nodup
  keyed : ∀ p device, site.devices.devices[p]? = some device →
    site.entry ks p "key" = some device.key
  owned : ∀ name value, ks.Ambient name → site.store.get? name = some value →
    ∃ p device, site.devices.devices[p]? = some device ∧
      name ∈ ks.deviceObjectKeys p device.contacts

variable {ks : KeySpace} {site : Site}

/-- An entry belongs to the device at its position. -/
theorem Mirrored.owner (h : Mirrored ks site) {p : Nat} {s value : String}
    (hentry : site.entry ks p s = some value) :
    ∃ device, site.devices.devices[p]? = some device ∧ s ∈ objectSteps device.contacts := by
  obtain ⟨q, device, hq, hname⟩ := h.owned _ value (ks.ambient_device p s) hentry
  obtain ⟨rfl, hs⟩ := device_mem_deviceObjectKeys.mp hname
  exact ⟨device, hq, hs⟩

/-- The position that the device at `q` of a new order has in the old one. -/
def origin? (site : Site) (devices : DeviceRegistry) (q : Nat) : Option Nat :=
  devices.devices[q]?.bind fun device => site.devices.position? device.key

section NewOrder

variable {devices : DeviceRegistry} (h : Mirrored ks site) (hdistinct : devices.keys.Nodup)
  (hkept : ∀ device ∈ site.devices.devices, device ∈ devices.devices)
include h hdistinct hkept

theorem Mirrored.origin?_eq_some {p q : Nat} :
    site.origin? devices q = some p ↔
      ∃ device, site.devices.devices[p]? = some device ∧ devices.devices[q]? = some device := by
  constructor
  · intro horigin
    obtain ⟨device, hq, hp⟩ := Option.bind_eq_some_iff.mp horigin
    obtain ⟨old, hold, hkey⟩ := DeviceRegistry.device_of_position? hp
    obtain ⟨q', hq', -⟩ :=
      DeviceRegistry.position?_of_mem hdistinct (hkept old (List.mem_of_getElem? hold))
    obtain rfl := DeviceRegistry.position_unique hdistinct hq' hq hkey
    obtain rfl : old = device := Option.some.inj (hq'.symm.trans hq)
    exact ⟨old, hold, hq⟩
  · rintro ⟨device, hp, hq⟩
    exact Option.bind_eq_some_iff.mpr
      ⟨device, hq, DeviceRegistry.position?_of_device h.distinct hp⟩

/-- The devices that moved are those whose origin is another position. -/
theorem Mirrored.moved_iff {p q contacts : Nat} :
    (∃ key, Moved devices site.devices.layout p q contacts key) ↔
      site.origin? devices q = some p ∧ q ≠ p ∧
        ∃ device, site.devices.devices[p]? = some device ∧ device.contacts = contacts := by
  constructor
  · rintro ⟨key, hlisted, hfound, hmoved⟩
    rw [DeviceRegistry.getElem?_layout] at hlisted
    obtain ⟨device, hp, heq⟩ := Option.map_eq_some_iff.mp hlisted
    obtain ⟨rfl, rfl⟩ := Prod.mk.inj heq
    obtain ⟨q', hq', hfound'⟩ :=
      DeviceRegistry.position?_of_mem hdistinct (hkept device (List.mem_of_getElem? hp))
    obtain rfl : q' = q := Option.some.inj (hfound'.symm.trans hfound)
    exact ⟨(h.origin?_eq_some hdistinct hkept).mpr ⟨device, hp, hq'⟩, hmoved, device, hp, rfl⟩
  · rintro ⟨horigin, hmoved, device, hp, rfl⟩
    obtain ⟨same, hp', hq⟩ := (h.origin?_eq_some hdistinct hkept).mp horigin
    obtain rfl : same = device := Option.some.inj (hp'.symm.trans hp)
    refine ⟨same.key, ?_, DeviceRegistry.position?_of_device hdistinct hq, hmoved⟩
    rw [DeviceRegistry.getElem?_layout, hp]
    rfl

/-- What is brought to a place comes from its origin. -/
theorem Mirrored.origin?_of_luggage {q : Nat} {s value : String}
    (hbrought : (ks.device q s, value) ∈ luggage ks { site with devices } site.devices.layout) :
    ∃ p, site.origin? devices q = some p ∧ q ≠ p ∧ site.entry ks p s = some value := by
  obtain ⟨old, hold, hvalue⟩ := mem_luggage.mp hbrought
  obtain ⟨p, q', contacts, key, hmoved, s', -, rfl, hname⟩ := mem_relocations.mp hold
  obtain ⟨rfl, rfl⟩ := device_inj.mp hname
  obtain ⟨horigin, hne, -⟩ := (h.moved_iff hdistinct hkept).mp ⟨key, hmoved⟩
  exact ⟨p, horigin, hne, hvalue⟩

theorem Mirrored.entry_renumber_of_origin {p q : Nat} {s value : String}
    (horigin : site.origin? devices q = some p) (hvalue : site.entry ks p s = some value) :
    (renumber ks { site with devices } site.devices.layout).site.entry ks q s = some value := by
  obtain ⟨device, hp, hs⟩ := h.owner hvalue
  by_cases hstay : q = p
  · -- the device stays: nothing is brought to its names, and none of them is withdrawn
    subst hstay
    unfold entry
    rw [get?_renumber_of_notMem, if_neg]
    · exact hvalue
    · intro hstale
      obtain ⟨p, q', contacts, key, hmoved, s', -, hname⟩ := mem_map_relocations.mp hstale
      obtain ⟨rfl, rfl⟩ := device_inj.mp hname
      obtain ⟨horigin', hne, -⟩ := (h.moved_iff hdistinct hkept).mp ⟨key, hmoved⟩
      obtain ⟨d, hd, hq⟩ := (h.origin?_eq_some hdistinct hkept).mp horigin
      obtain ⟨d', hd', hq'⟩ := (h.origin?_eq_some hdistinct hkept).mp horigin'
      obtain rfl : d = d' := Option.some.inj (hd.symm.trans hd')
      exact hne (DeviceRegistry.position_unique hdistinct hq' hq rfl)
    · intro other hbrought
      obtain ⟨p, horigin', hne, -⟩ := h.origin?_of_luggage hdistinct hkept hbrought
      exact hne (Option.some.inj (horigin.symm.trans horigin'))
  · have hbefore : (site.devices.layout.map Prod.fst).Nodup := by
      rw [DeviceRegistry.map_fst_layout]
      exact h.distinct
    obtain ⟨key, hmoved⟩ := (h.moved_iff hdistinct hkept).mpr ⟨horigin, hstay, device, hp, rfl⟩
    exact get?_renumber_of_moved hbefore hmoved hs hvalue

theorem Mirrored.entry_renumber_of_none {q : Nat} {s : String}
    (hnone : ((site.origin? devices q).bind fun p => site.entry ks p s) = none) :
    (renumber ks { site with devices } site.devices.layout).site.entry ks q s = none := by
  have hnothing : ∀ value,
      (ks.device q s, value) ∉ luggage ks { site with devices } site.devices.layout := by
    intro value hbrought
    obtain ⟨p, horigin, -, hvalue⟩ := h.origin?_of_luggage hdistinct hkept hbrought
    rw [horigin, Option.bind_some, hvalue] at hnone
    cases hnone
  unfold entry
  rw [get?_renumber_of_notMem hnothing]
  split
  · rfl
  · next hfresh =>
    -- whoever published something here still stands here, so it was carried over
    cases hvalue : site.store.get? (ks.device q s) with
    | none => rfl
    | some value =>
      obtain ⟨device, hq, hs⟩ := h.owner hvalue
      obtain ⟨q', hq', -⟩ :=
        DeviceRegistry.position?_of_mem hdistinct (hkept device (List.mem_of_getElem? hq))
      have horigin := (h.origin?_eq_some hdistinct hkept).mpr ⟨device, hq, hq'⟩
      by_cases hstay : q' = q
      · subst hstay
        rw [horigin, Option.bind_some, entry, hvalue] at hnone
        cases hnone
      · obtain ⟨key, hmoved⟩ :=
          (h.moved_iff hdistinct hkept).mpr ⟨horigin, hstay, device, hq, rfl⟩
        exact absurd (mem_map_relocations.mpr ⟨_, _, _, _, hmoved, s, hs, rfl⟩) hfresh

/-- Renumbering carries the entries of each device from its origin to its place; a place without
an origin has no entries. -/
theorem Mirrored.entry_renumber (q : Nat) (s : String) :
    (renumber ks { site with devices } site.devices.layout).site.entry ks q s =
      (site.origin? devices q).bind fun p => site.entry ks p s := by
  cases hcarried : (site.origin? devices q).bind fun p => site.entry ks p s with
  | some value =>
    obtain ⟨p, horigin, hvalue⟩ := Option.bind_eq_some_iff.mp hcarried
    exact h.entry_renumber_of_origin hdistinct hkept horigin hvalue
  | none => exact h.entry_renumber_of_none hdistinct hkept hcarried

end NewOrder

end Site

end RackTelemetry
