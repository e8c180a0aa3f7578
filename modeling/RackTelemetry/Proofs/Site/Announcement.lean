import RackTelemetry.Proofs.Site.Mirror

/-!
A device is announced. On a site that mirrors its devices the announcement succeeds, and everything
that was published for a device stays with it: a device that is there afterwards is one of the old
devices with its old entries, or it is new and has published its key and nothing else.
-/

namespace RackTelemetry

open KeySpace

namespace Site

/-- Two sites differ in the devices and in what is published for devices, if at all. -/
structure SameElsewhere (ks : KeySpace) (before after : Site) : Prop where
  outlets : after.outlets = before.outlets
  draft : after.draft = before.draft
  limit : after.devices.maxSensors = before.devices.maxSensors
  published : ∀ name, ¬ ks.Ambient name → after.store.get? name = before.store.get? name

theorem SameElsewhere.refl (ks : KeySpace) (site : Site) : SameElsewhere ks site site :=
  ⟨rfl, rfl, rfl, fun _ _ => rfl⟩

theorem SameElsewhere.trans {ks : KeySpace} {a b c : Site} (hab : SameElsewhere ks a b)
    (hbc : SameElsewhere ks b c) : SameElsewhere ks a c :=
  ⟨hbc.outlets.trans hab.outlets, hbc.draft.trans hab.draft, hbc.limit.trans hab.limit,
    fun name hname => (hbc.published name hname).trans (hab.published name hname)⟩

/-- The device at `q` stood at some position before, with the same sensors and the same entries. -/
def Survives (ks : KeySpace) (before after : Site) (q : Nat) (device : Device) : Prop :=
  ∃ p, before.devices.devices[p]? = some device ∧
    ∀ s, after.entry ks q s = before.entry ks p s

/-- The device at `q` was not there before, has no sensors, and has published its key only. -/
def Appears (ks : KeySpace) (before after : Site) (q : Nat) (device : Device) : Prop :=
  device.key ∉ before.devices.keys ∧ device = { key := device.key } ∧
    ∀ s, after.entry ks q s = if s = "key" then some device.key else none

/-- Every device that is there afterwards survives or appears. -/
def Carried (ks : KeySpace) (before after : Site) : Prop :=
  ∀ q device, after.devices.devices[q]? = some device →
    Survives ks before after q device ∨ Appears ks before after q device

theorem Carried.refl (ks : KeySpace) (site : Site) : Carried ks site site :=
  fun q _ hq => .inl ⟨q, hq, fun _ => rfl⟩

/-- A device that was there before takes its sensors and its entries along. -/
theorem Carried.kept {ks : KeySpace} {before after : Site} (h : Carried ks before after)
    (hdistinct : before.devices.keys.Nodup) {p q : Nat} {old device : Device}
    (hp : before.devices.devices[p]? = some old) (hq : after.devices.devices[q]? = some device)
    (hkey : old.key = device.key) :
    device = old ∧ ∀ s, after.entry ks q s = before.entry ks p s := by
  rcases h q device hq with ⟨o, ho, hentries⟩ | ⟨hnew, -, -⟩
  · obtain rfl := DeviceRegistry.position_unique hdistinct hp ho hkey
    exact ⟨Option.some.inj (ho.symm.trans hp), hentries⟩
  · exact absurd (hkey ▸ List.mem_map_of_mem (List.mem_of_getElem? hp)) hnew

/-- A device that was not there before appears. -/
theorem Carried.fresh {ks : KeySpace} {before after : Site} (h : Carried ks before after) {q : Nat}
    {device : Device} (hq : after.devices.devices[q]? = some device)
    (hnew : device.key ∉ before.devices.keys) : Appears ks before after q device := by
  rcases h q device hq with ⟨o, ho, -⟩ | happears
  · exact absurd (List.mem_map_of_mem (List.mem_of_getElem? ho)) hnew
  · exact happears

/-- Provenance is traced through a site that has lost no device. -/
theorem Carried.trans {ks : KeySpace} {a b c : Site} (hab : Carried ks a b) (hbc : Carried ks b c)
    (hkept : ∀ device ∈ a.devices.devices, device ∈ b.devices.devices) : Carried ks a c := by
  intro q device hq
  rcases hbc q device hq with ⟨p, hp, hentries⟩ | ⟨hnew, hempty, hentries⟩
  · rcases hab p device hp with ⟨o, ho, hold⟩ | ⟨hnew, hempty, hold⟩
    · exact .inl ⟨o, ho, fun s => (hentries s).trans (hold s)⟩
    · exact .inr ⟨hnew, hempty, fun s => (hentries s).trans (hold s)⟩
  · refine .inr ⟨?_, hempty, hentries⟩
    intro hknown
    obtain ⟨old, hold, hkey⟩ := List.mem_map.mp hknown
    exact hnew (hkey ▸ List.mem_map_of_mem (hkept old hold))

variable {ks : KeySpace} {site : Site} {key : String} {position : Nat}

/-! ### The three ways to settle a device -/

theorem settleDevice_stay (h : site.devices.position? key = some position) :
    settleDevice ks site key position = site.done := by
  have hfound := DeviceRegistry.positionOf_eq_ok.mpr h
  simp [settleDevice, hfound]

variable (ks) in
theorem settleDevice_move {current : Nat} {devices : DeviceRegistry}
    (h : site.devices.position? key = some current) (hne : current ≠ position)
    (hmove : site.devices.move current
      (if site.devices.devices.length ≤ position then .last else .index position) =
        .ok (devices, true)) :
    (settleDevice ks site key position).result = .ok () ∧
      (settleDevice ks site key position).site =
        (renumber ks { site with devices } site.devices.layout).site := by
  have hfound := DeviceRegistry.positionOf_eq_ok.mpr h
  have hok := (renumber_eq ks { site with devices } site.devices.layout).1
  simp only [settleDevice, hfound, if_neg hne, hmove, Outcome.after, hok, and_self]

theorem settleDevice_keep {current : Nat} {devices : DeviceRegistry}
    (h : site.devices.position? key = some current) (hne : current ≠ position)
    (hmove : site.devices.move current
      (if site.devices.devices.length ≤ position then .last else .index position) =
        .ok (devices, false)) :
    settleDevice ks site key position = site.done := by
  have hfound := DeviceRegistry.positionOf_eq_ok.mpr h
  obtain rfl := (DeviceRegistry.perm_of_move hmove).2.2.2 rfl
  simp only [settleDevice, hfound, if_neg hne, hmove]

variable (ks) in
theorem settleDevice_new {index : Nat} {devices : DeviceRegistry}
    (h : site.devices.position? key = none)
    (hadd : site.devices.add
      (if site.devices.devices.length < position then .last else .index position) key =
        .ok (devices, index)) :
    ∃ store, (renumber ks { site with devices } site.devices.layout).site.store.set
        (ks.device index "key") key = .ok store ∧
      (settleDevice ks site key position).result = .ok () ∧
      (settleDevice ks site key position).site = { site with devices, store } := by
  obtain ⟨hok, hsite⟩ := renumber_eq ks { site with devices } site.devices.layout
  obtain ⟨store, hset⟩ :=
    (renumber ks { site with devices } site.devices.layout).site.store.set_of_ne key
      (device_ne_empty ks index "key")
  refine ⟨store, hset, ?_⟩
  cases hfound : site.devices.positionOf key with
  | ok p => simp [DeviceRegistry.positionOf_eq_ok.mp hfound] at h
  | error e =>
    have hnotFound := (DeviceRegistry.positionOf_eq_error hfound).2
    simp only [settleDevice, hfound, hnotFound, if_true, hadd, Outcome.andThen, hok, put, hset]
    rw [hsite]
    exact ⟨rfl, rfl⟩

variable (ks site) in
/-- A device is settled without an error: it stays where it is, it moves, or it is new. -/
theorem settleDevice_cases (hkey : key ≠ "") (position : Nat) :
    settleDevice ks site key position = site.done ∨
      (∃ current target devices, site.devices.move current target = .ok (devices, true) ∧
        (settleDevice ks site key position).result = .ok () ∧
        (settleDevice ks site key position).site =
          (renumber ks { site with devices } site.devices.layout).site) ∨
      (key ∉ site.devices.keys ∧ ∃ index store, index ≤ site.devices.devices.length ∧
        (renumber ks { site with devices := site.devices.inserted index key }
          site.devices.layout).site.store.set (ks.device index "key") key = .ok store ∧
        (settleDevice ks site key position).result = .ok () ∧
        (settleDevice ks site key position).site =
          { site with devices := site.devices.inserted index key, store }) := by
  cases hfound : site.devices.position? key with
  | none =>
    have hnew := DeviceRegistry.position?_eq_none_iff.mp hfound
    obtain ⟨index, hindex, hadd⟩ : ∃ index, index ≤ site.devices.devices.length ∧
        site.devices.add (if site.devices.devices.length < position then .last else .index position)
          key = .ok (site.devices.inserted index key, index) := by
      split
      · exact ⟨_, Nat.le_refl _, DeviceRegistry.add_last hkey hnew⟩
      · next hle => exact ⟨position, by omega, DeviceRegistry.add_index hkey hnew (by omega)⟩
    obtain ⟨store, hset, hok, hsite⟩ := settleDevice_new ks hfound hadd
    exact .inr (.inr ⟨hnew, index, store, hindex, hset, hok, hsite⟩)
  | some current =>
    by_cases hstay : current = position
    · subst hstay
      exact .inl (settleDevice_stay hfound)
    · have hlt : current < site.devices.devices.length :=
        (List.findIdx?_eq_some_iff_getElem.mp hfound).1
      obtain ⟨devices, changed, hmove⟩ := site.devices.exists_move
        (if site.devices.devices.length ≤ position then .last else .index position) hlt
        (by
          intro i hi
          split at hi
          · cases hi
          · cases hi
            omega)
      cases changed with
      | false => exact .inl (settleDevice_keep hfound hstay hmove)
      | true =>
        obtain ⟨hok, hsite⟩ := settleDevice_move ks hfound hstay hmove
        exact .inr (.inl ⟨current, _, devices, hmove, hok, hsite⟩)

theorem settleDevice_ok (ks : KeySpace) (site : Site) (hkey : key ≠ "") (position : Nat) :
    (settleDevice ks site key position).result = .ok () := by
  rcases settleDevice_cases ks site hkey position with
    hstays | ⟨_, _, _, -, hok, -⟩ | ⟨-, _, _, -, -, hok, -⟩
  · rw [hstays]
    rfl
  · exact hok
  · exact hok

/-! ### What settling keeps -/

section NewOrder

variable {devices : DeviceRegistry} (h : Mirrored ks site) (hdistinct : devices.keys.Nodup)
  (hkept : ∀ device ∈ site.devices.devices, device ∈ devices.devices)
include h hdistinct hkept

/-- What a renumbered site publishes for devices belongs to devices that are there. -/
theorem Mirrored.owned_renumber {name value : String} (hambient : ks.Ambient name)
    (hvalue : (renumber ks { site with devices } site.devices.layout).site.store.get? name =
      some value) :
    ∃ q device, devices.devices[q]? = some device ∧
      name ∈ ks.deviceObjectKeys q device.contacts := by
  by_cases hname : ∃ q s, name = ks.device q s
  · obtain ⟨q, s, rfl⟩ := hname
    have hentry := (h.entry_renumber hdistinct hkept q s).symm.trans hvalue
    obtain ⟨p, horigin, hold⟩ := Option.bind_eq_some_iff.mp hentry
    obtain ⟨device, hp, hq⟩ := (h.origin?_eq_some hdistinct hkept).mp horigin
    obtain ⟨owner, hp', hs⟩ := h.owner hold
    obtain rfl : device = owner := Option.some.inj (hp.symm.trans hp')
    exact ⟨q, device, hq, device_mem_deviceObjectKeys.mpr ⟨rfl, hs⟩⟩
  · have hother : ∀ p s, name ≠ ks.device p s := fun p s e => hname ⟨p, s, e⟩
    rw [get?_renumber_other hother] at hvalue
    obtain ⟨p, device, -, hmem⟩ := h.owned name value hambient hvalue
    obtain ⟨s, -, rfl⟩ := mem_deviceObjectKeys.mp hmem
    exact absurd rfl (hother p s)

/-- A device that was there before survives renumbering. -/
theorem Mirrored.survives_renumber {p q : Nat} {device : Device}
    (hp : site.devices.devices[p]? = some device) (hq : devices.devices[q]? = some device)
    (s : String) :
    (renumber ks { site with devices } site.devices.layout).site.entry ks q s =
      site.entry ks p s := by
  rw [h.entry_renumber hdistinct hkept,
    (h.origin?_eq_some hdistinct hkept).mpr ⟨device, hp, hq⟩, Option.bind_some]

end NewOrder

theorem published_renumber {devices : DeviceRegistry} {name : String} (hname : ¬ ks.Ambient name) :
    (renumber ks { site with devices } site.devices.layout).site.store.get? name =
      site.store.get? name := by
  refine get?_renumber_other ?_
  rintro p s rfl
  exact hname (ks.ambient_device p s)

/-- Reordering the devices carries everything along. -/
theorem Mirrored.reordered {devices : DeviceRegistry} (h : Mirrored ks site)
    (hperm : devices.devices.Perm site.devices.devices)
    (hlimit : devices.maxSensors = site.devices.maxSensors) :
    let after := (renumber ks { site with devices } site.devices.layout).site
    after.devices = devices ∧ Mirrored ks after ∧ SameElsewhere ks site after ∧
      Carried ks site after := by
  have hdistinct : devices.keys.Nodup :=
    (hperm.map Device.key).nodup_iff.mpr h.distinct
  have hkept : ∀ device ∈ site.devices.devices, device ∈ devices.devices :=
    fun device hmem => hperm.mem_iff.mpr hmem
  have hsite := (renumber_eq ks { site with devices } site.devices.layout).2
  have hdevices : (renumber ks { site with devices } site.devices.layout).site.devices = devices :=
    by rw [hsite]
  have hsurvives : ∀ q device, devices.devices[q]? = some device →
      Survives ks site (renumber ks { site with devices } site.devices.layout).site q device := by
    intro q device hq
    obtain ⟨p, hp⟩ := List.mem_iff_getElem?.mp (hperm.mem_iff.mp (List.mem_of_getElem? hq))
    exact ⟨p, hp, fun s => h.survives_renumber hdistinct hkept hp hq s⟩
  refine ⟨hdevices, ⟨?_, ?_, ?_⟩, ⟨?_, ?_, ?_, ?_⟩, ?_⟩
  · rw [hdevices]
    exact hdistinct
  · intro q device hq
    rw [hdevices] at hq
    obtain ⟨p, hp, hentries⟩ := hsurvives q device hq
    rw [hentries, h.keyed p device hp]
  · intro name value hambient hvalue
    rw [hdevices]
    exact h.owned_renumber hdistinct hkept hambient hvalue
  · rw [hsite]
  · rw [hsite]
  · rw [hdevices, hlimit]
  · exact fun name hname => published_renumber hname
  · intro q device hq
    rw [hdevices] at hq
    exact .inl (hsurvives q device hq)

section NewDevice

variable {index : Nat} {store : Store} (h : Mirrored ks site) (hnew : key ∉ site.devices.keys)
  (hindex : index ≤ site.devices.devices.length)
  (hset : (renumber ks { site with devices := site.devices.inserted index key }
    site.devices.layout).site.store.set (ks.device index "key") key = .ok store)
include h hnew hindex hset

/-- Up to the key of the new device, adding it carries the entries of each device to its place. -/
theorem Mirrored.entry_inserted {q : Nat} {s : String} (hne : q = index → s ≠ "key") :
    ({ site with devices := site.devices.inserted index key, store } : Site).entry ks q s =
      (site.origin? (site.devices.inserted index key) q).bind fun p => site.entry ks p s := by
  have hdistinct := DeviceRegistry.nodup_keys_inserted h.distinct hindex hnew
  have hkept := DeviceRegistry.kept_inserted key hindex
  rw [← h.entry_renumber hdistinct hkept]
  refine Store.get?_set_other hset ?_
  intro e
  obtain ⟨rfl, rfl⟩ := device_inj.mp e
  exact hne rfl rfl

/-- The new device has its key only, and every other one is carried along. -/
theorem Mirrored.carried_inserted :
    Carried ks site { site with devices := site.devices.inserted index key, store } := by
  have hdistinct := DeviceRegistry.nodup_keys_inserted h.distinct hindex hnew
  have hkept := DeviceRegistry.kept_inserted key hindex
  have hself := DeviceRegistry.inserted_self key hindex
  intro q device hq
  rcases (DeviceRegistry.mem_inserted hindex).mp (List.mem_of_getElem? hq) with rfl | hold
  · -- the device at the index is the new one, which has no origin
    obtain rfl := DeviceRegistry.position_unique hdistinct hq hself rfl
    refine .inr ⟨hnew, rfl, fun s => ?_⟩
    by_cases hs : s = "key"
    · subst hs
      rw [if_pos rfl]
      exact Store.get?_set_self hset
    · rw [if_neg hs, h.entry_inserted hnew hindex hset (fun _ => hs), origin?, hself,
        Option.bind_some, DeviceRegistry.position?_eq_none_iff.mpr hnew, Option.bind_none]
  · obtain ⟨p, hp⟩ := List.mem_iff_getElem?.mp hold
    have hqne : q ≠ index := by
      rintro rfl
      obtain rfl : device = { key } := Option.some.inj (hq.symm.trans hself)
      exact hnew (List.mem_map_of_mem hold)
    refine .inl ⟨p, hp, fun s => ?_⟩
    rw [h.entry_inserted hnew hindex hset (fun e => absurd e hqne),
      (h.origin?_eq_some hdistinct hkept).mpr ⟨device, hp, hq⟩, Option.bind_some]

theorem Mirrored.inserted :
    let after : Site := { site with devices := site.devices.inserted index key, store }
    Mirrored ks after ∧ SameElsewhere ks site after ∧ Carried ks site after := by
  have hdistinct := DeviceRegistry.nodup_keys_inserted h.distinct hindex hnew
  have hkept := DeviceRegistry.kept_inserted key hindex
  have hself := DeviceRegistry.inserted_self key hindex
  have hcarried := h.carried_inserted hnew hindex hset
  refine ⟨⟨hdistinct, ?_, ?_⟩, ⟨rfl, rfl, rfl, ?_⟩, hcarried⟩
  · intro q device hq
    rcases hcarried q device hq with ⟨p, hp, hentries⟩ | ⟨-, -, hentries⟩
    · rw [hentries, h.keyed p device hp]
    · rw [hentries, if_pos rfl]
  · intro name value hambient hvalue
    by_cases hname : name = ks.device index "key"
    · subst hname
      exact ⟨index, { key }, hself,
        device_mem_deviceObjectKeys.mpr ⟨rfl, key_mem_objectSteps _⟩⟩
    · rw [Store.get?_set_other hset hname] at hvalue
      exact h.owned_renumber hdistinct hkept hambient hvalue
  · intro name hname
    have hother : name ≠ ks.device index "key" := by
      rintro rfl
      exact hname (ks.ambient_device index "key")
    rw [Store.get?_set_other hset hother]
    exact published_renumber hname

end NewDevice

/-- What settling a device does to a site that mirrors its devices. -/
structure Settled (ks : KeySpace) (before after : Site) : Prop where
  mirrored : Mirrored ks after
  elsewhere : SameElsewhere ks before after
  carried : Carried ks before after
  kept : ∀ device ∈ before.devices.devices, device ∈ after.devices.devices
  declared : after.devices.declared = before.devices.declared

/-- A device is settled without an error, and no device is lost over it. -/
theorem Mirrored.settle (h : Mirrored ks site) (hkey : key ≠ "") (position : Nat) :
    (settleDevice ks site key position).result = .ok () ∧
      Settled ks site (settleDevice ks site key position).site := by
  rcases settleDevice_cases ks site hkey position with
    hstays | ⟨current, target, devices, hmove, hok, hsite⟩ |
      ⟨hnew, index, store, hindex, hset, hok, hsite⟩
  · rw [hstays]
    exact ⟨rfl, h, .refl ks site, .refl ks site, fun _ hmem => hmem, rfl⟩
  · obtain ⟨hperm, hdeclared, hlimit, -⟩ := DeviceRegistry.perm_of_move hmove
    obtain ⟨hdevices, hmirrored, helsewhere, hcarried⟩ := h.reordered hperm hlimit
    rw [hsite]
    refine ⟨hok, hmirrored, helsewhere, hcarried, ?_, ?_⟩
    · intro device hmem
      rw [hdevices]
      exact hperm.mem_iff.mpr hmem
    · rw [hdevices, hdeclared]
  · obtain ⟨hmirrored, helsewhere, hcarried⟩ := h.inserted hnew hindex hset
    rw [hsite]
    exact ⟨hok, hmirrored, helsewhere, hcarried, DeviceRegistry.kept_inserted key hindex, rfl⟩

end Site

end RackTelemetry
