import RackTelemetry.Proofs.Site.Announcement

/-!
Devices are dropped: those after the last announced one, or all of them. Everything that was
published for them goes with them, and nothing else does.
-/

namespace RackTelemetry

open KeySpace

namespace Site

variable {ks : KeySpace} {site : Site}

/-- The devices from position `n` on are gone, with everything that was published for them. -/
structure Truncated (ks : KeySpace) (n : Nat) (before after : Site) : Prop where
  devices : after.devices.devices = before.devices.devices.take n
  limit : after.devices.maxSensors = before.devices.maxSensors
  outlets : after.outlets = before.outlets
  draft : after.draft = before.draft
  withdrawn : ∀ p device name, n ≤ p → before.devices.devices[p]? = some device →
    name ∈ ks.deviceObjectKeys p device.contacts → after.store.get? name = none
  published : ∀ name, (∀ p device, n ≤ p → before.devices.devices[p]? = some device →
    name ∉ ks.deviceObjectKeys p device.contacts) → after.store.get? name = before.store.get? name

section Tail

variable {n : Nat} {after : Site} (h : Mirrored ks site) (ht : Truncated ks n site after)
include h ht

omit h in
/-- The entries of the devices that stay are not touched. -/
theorem Truncated.entry {p : Nat} (hp : p < n) (s : String) :
    after.entry ks p s = site.entry ks p s := by
  apply ht.published
  intro q device hq _ hmem
  obtain ⟨rfl, -⟩ := device_mem_deviceObjectKeys.mp hmem
  omega

theorem Mirrored.truncated : Mirrored ks after := by
  have hget : ∀ p, after.devices.devices[p]? =
      if p < n then site.devices.devices[p]? else none := by
    intro p
    rw [ht.devices, List.getElem?_take]
  refine ⟨?_, ?_, ?_⟩
  · rw [DeviceRegistry.keys, ht.devices, List.map_take]
    exact h.distinct.sublist (List.take_sublist n _)
  · intro p device hp
    rw [hget] at hp
    split at hp
    · next hlt => rw [ht.entry hlt, h.keyed p device hp]
    · cases hp
  · intro name value hambient hvalue
    by_cases hgone : ∃ p device, n ≤ p ∧ site.devices.devices[p]? = some device ∧
        name ∈ ks.deviceObjectKeys p device.contacts
    · obtain ⟨p, device, hle, hp, hmem⟩ := hgone
      rw [ht.withdrawn p device name hle hp hmem] at hvalue
      cases hvalue
    · rw [ht.published name (fun p device hle hp hmem => hgone ⟨p, device, hle, hp, hmem⟩)]
        at hvalue
      obtain ⟨p, device, hp, hmem⟩ := h.owned name value hambient hvalue
      refine ⟨p, device, ?_, hmem⟩
      rw [hget, if_pos, hp]
      exact Nat.lt_of_not_le fun hle => hgone ⟨p, device, hle, hp, hmem⟩

omit h in
theorem Truncated.carried : Carried ks site after := by
  intro q device hq
  rw [ht.devices, List.getElem?_take] at hq
  split at hq
  · next hlt => exact .inl ⟨q, hq, fun s => ht.entry hlt s⟩
  · cases hq

omit h in
theorem Truncated.sameElsewhere : SameElsewhere ks site after := by
  refine ⟨ht.outlets, ht.draft, ht.limit, ?_⟩
  intro name hname
  apply ht.published
  rintro p device - - hmem
  obtain ⟨s, -, rfl⟩ := mem_deviceObjectKeys.mp hmem
  exact hname (ks.ambient_device p s)

end Tail

theorem foldl_withdraw (ks : KeySpace) (dropped : List (Nat × Device)) (site : Site) :
    dropped.foldl (fun site (position, device) =>
        site.withdraw (ks.deviceObjectKeys position device.contacts)) site =
      site.withdraw (dropped.flatMap fun (position, device) =>
        ks.deviceObjectKeys position device.contacts) := by
  induction dropped generalizing site with
  | nil => rfl
  | cons entry rest ih =>
    obtain ⟨position, device⟩ := entry
    rw [List.foldl_cons, ih, List.flatMap_cons]
    simp only [withdraw, Store.delMany_append]

/-- Withdrawing everything of the devices from position `n` on truncates the site. -/
theorem truncated_of_withdraw {n : Nat} {names : List String}
    (hnames : ∀ name, name ∈ names ↔ ∃ p device, n ≤ p ∧
      site.devices.devices[p]? = some device ∧ name ∈ ks.deviceObjectKeys p device.contacts)
    {devices : DeviceRegistry} (hdevices : devices.devices = site.devices.devices.take n)
    (hlimit : devices.maxSensors = site.devices.maxSensors) :
    Truncated ks n site { site with devices, store := (site.store.delMany names).1 } := by
  refine ⟨hdevices, hlimit, rfl, rfl, ?_, ?_⟩
  · intro p device name hle hp hmem
    have hgone : name ∈ names := (hnames name).mpr ⟨p, device, hle, hp, hmem⟩
    simp only [Store.get?_delMany, if_pos hgone]
  · intro name hother
    have hstays : name ∉ names := by
      intro hgone
      obtain ⟨p, device, hle, hp, hmem⟩ := (hnames name).mp hgone
      exact hother p device hle hp hmem
    simp only [Store.get?_delMany, if_neg hstays]

/-- Dropping the devices after the last announced one. -/
theorem truncated_trimTail (ks : KeySpace) (site : Site) {last : Nat}
    (hlast : last < Number.maxWord) :
    (trimTail ks site last).result = .ok () ∧
      Truncated ks (last + 1) site (trimTail ks site last).site := by
  obtain ⟨after, dropped, htrim⟩ := site.devices.exists_trimAfter hlast
  obtain ⟨-, rfl, -⟩ := DeviceRegistry.trimAfter_eq_some htrim
  simp only [trimTail, htrim, note, foldl_withdraw]
  refine ⟨trivial, truncated_of_withdraw ?_ rfl rfl⟩
  intro name
  rw [List.mem_flatMap]
  constructor
  · rintro ⟨⟨p, device⟩, hmem, hname⟩
    obtain ⟨hle, hp⟩ := (DeviceRegistry.mem_trimAfter htrim).mp hmem
    exact ⟨p, device, hle, hp, hname⟩
  · rintro ⟨p, device, hle, hp, hname⟩
    exact ⟨(p, device), (DeviceRegistry.mem_trimAfter htrim).mpr ⟨hle, hp⟩, hname⟩

/-- The announced number of devices stays as it is. -/
theorem declared_trimTail (ks : KeySpace) (site : Site) (last : Nat) :
    (trimTail ks site last).site.devices.declared = site.devices.declared := by
  unfold trimTail
  cases htrim : site.devices.trimAfter last with
  | none => rfl
  | some trimmed =>
    obtain ⟨after, dropped⟩ := trimmed
    obtain ⟨-, rfl, -⟩ := DeviceRegistry.trimAfter_eq_some htrim
    simp only [note, foldl_withdraw]
    rfl

/-- Announcing that there are no devices drops all of them. -/
theorem truncated_countDevices_zero (ks : KeySpace) (site : Site) :
    Truncated ks 0 site (countDevices ks site 0).site := by
  simp only [countDevices, if_true, DeviceRegistry.removeAll, DeviceRegistry.declare, note]
  refine truncated_of_withdraw ?_ rfl rfl
  intro name
  rw [List.mem_flatMap]
  constructor
  · rintro ⟨⟨device, p⟩, hmem, hname⟩
    exact ⟨p, device, Nat.zero_le p, List.mem_zipIdx_iff_getElem?.mp hmem, hname⟩
  · rintro ⟨p, device, -, hp, hname⟩
    exact ⟨(device, p), List.mem_zipIdx_iff_getElem?.mpr hp, hname⟩

/-- An announcement settles the device; the last one of a list then drops the rest. -/
theorem announceDevice_eq {key : String} {position : Nat}
    (hok : (settleDevice ks site key position).result = .ok ()) :
    (announceDevice ks site key position).result = .ok () ∧
      (announceDevice ks site key position).site =
        if (settleDevice ks site key position).site.devices.completesDeclared position = some true
        then (trimTail ks (settleDevice ks site key position).site position).site
        else (settleDevice ks site key position).site := by
  simp only [announceDevice, Outcome.andThen, hok]
  cases hlast : (settleDevice ks site key position).site.devices.completesDeclared position with
  | none => exact ⟨rfl, rfl⟩
  | some last =>
    cases last with
    | false => exact ⟨rfl, rfl⟩
    | true =>
      have hindex := (DeviceRegistry.completesDeclared_eq_true_iff.mp hlast).1
      exact ⟨(truncated_trimTail ks _ hindex).1, rfl⟩

theorem announceDevice_ok {key : String} (ks : KeySpace) (site : Site) (hkey : key ≠ "")
    (position : Nat) : (announceDevice ks site key position).result = .ok () :=
  (announceDevice_eq (settleDevice_ok ks site hkey position)).1

/-- An announced device is settled without an error, and the site mirrors its devices again. -/
theorem Mirrored.announce {key : String} (h : Mirrored ks site) (hkey : key ≠ "")
    (position : Nat) :
    Mirrored ks (announceDevice ks site key position).site ∧
      SameElsewhere ks site (announceDevice ks site key position).site := by
  obtain ⟨hok, hsettled⟩ := h.settle hkey position
  rw [(announceDevice_eq hok).2]
  split
  · next hlast =>
    have hindex := (DeviceRegistry.completesDeclared_eq_true_iff.mp hlast).1
    have htrimmed := (truncated_trimTail ks (settleDevice ks site key position).site hindex).2
    exact ⟨hsettled.mirrored.truncated htrimmed, hsettled.elsewhere.trans htrimmed.sameElsewhere⟩
  · exact ⟨hsettled.mirrored, hsettled.elsewhere⟩

/-- Whoever is there after an announcement survives it or appears with it. -/
theorem Mirrored.carried_announce {key : String} (h : Mirrored ks site) (hkey : key ≠ "")
    (position : Nat) : Carried ks site (announceDevice ks site key position).site := by
  obtain ⟨hok, hsettled⟩ := h.settle hkey position
  rw [(announceDevice_eq hok).2]
  split
  · next hlast =>
    have hindex := (DeviceRegistry.completesDeclared_eq_true_iff.mp hlast).1
    have htrimmed := (truncated_trimTail ks (settleDevice ks site key position).site hindex).2
    exact hsettled.carried.trans htrimmed.carried hsettled.kept
  · exact hsettled.carried

end Site

end RackTelemetry
