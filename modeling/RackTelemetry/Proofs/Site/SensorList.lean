import RackTelemetry.Proofs.Site.Change
import RackTelemetry.Proofs.Site.DeviceList

/-!
A whole list of sensors of one kind of one device is announced: first how many there are, then each
in its slot, in order. Whatever the slots were before, they are those of the list afterwards, and
nothing is known of any of them; the induction is on the sensors announced so far. Of what is
published, contacts that go take theirs with them, and a status is set where there was none.
-/

namespace RackTelemetry

open KeySpace DeviceRegistry

/-- A sensor of which the key is known, and nothing else. -/
def Sensor.named (key : String) : Sensor := { key := some key }

namespace SensorGroup

/-- The slots of a list of sensors of which the first `i` have been announced. -/
def announced (keys : List String) (i : Nat) : SensorGroup :=
  (keys.take i).map Sensor.named ++ List.replicate (keys.length - i) ({} : Sensor)

variable {keys : List String} {key : String} {i : Nat}

theorem announced_zero (keys : List String) : announced keys 0 = ofCount keys.length := rfl

theorem announced_length (keys : List String) :
    announced keys keys.length = keys.map Sensor.named := by
  rw [announced, List.take_length, Nat.sub_self, List.replicate_zero, List.append_nil]

theorem length_take_named (hi : i ≤ keys.length) :
    ((keys.take i).map Sensor.named).length = i := by
  rw [List.length_map, List.length_take, Nat.min_eq_left hi]

/-- The next slot is still without a key. -/
theorem getElem?_announced (hi : i < keys.length) : (announced keys i)[i]? = some {} := by
  have hlength := length_take_named (Nat.le_of_lt hi)
  rw [announced, List.getElem?_append_right (Nat.le_of_eq hlength), hlength, Nat.sub_self,
    List.getElem?_replicate, if_pos (by omega)]

theorem set_announced (hkey : keys[i]? = some key) :
    (announced keys i).set i (Sensor.named key) = announced keys (i + 1) := by
  have hi : i < keys.length := (List.getElem?_eq_some_iff.mp hkey).1
  have hlength := length_take_named (Nat.le_of_lt hi)
  have hrest : keys.length - i = keys.length - (i + 1) + 1 := by omega
  rw [announced, announced, List.set_append_right i _ (Nat.le_of_eq hlength), hlength,
    Nat.sub_self, hrest, List.replicate_succ, List.set_cons_zero, List.take_add_one, hkey,
    Option.toList_some, List.map_append, List.append_assoc]
  rfl

end SensorGroup

namespace Device

theorem withGroup_withGroup (device : Device) (kind : SensorKind) (first second : SensorGroup) :
    (device.withGroup kind first).withGroup kind second = device.withGroup kind second := by
  cases kind <;> rfl

theorem withSlot_withGroup (device : Device) (kind : SensorKind) (sensors : SensorGroup) (i : Nat)
    (sensor : Sensor) :
    (device.withGroup kind sensors).withSlot kind i sensor =
      device.withGroup kind (sensors.set i sensor) := by
  rw [withSlot, withGroup_withGroup, group_withGroup, if_pos rfl]

end Device

namespace Site

variable {ks : KeySpace} {site : Site} {name key : String} {kind : SensorKind} {p i : Nat}
  {device : Device}

/-! ### One announcement -/

/-- What is withdrawn when a device has fewer contacts than before. -/
def droppedKeys (ks : KeySpace) (p : Nat) (kind : SensorKind) (count : Nat) (device : Device) :
    List String :=
  if kind = .digitalInput then
    (List.range' count (device.contacts - count)).flatMap (ks.contactKeys p)
  else []

theorem mem_droppedKeys {count : Nat} {other : String} :
    other ∈ droppedKeys ks p kind count device ↔
      kind = .digitalInput ∧ ∃ j, count ≤ j ∧ j < device.contacts ∧ other ∈ ks.contactKeys p j := by
  unfold droppedKeys
  split
  · next hkind =>
    rw [List.mem_flatMap]
    constructor
    · rintro ⟨j, hj, hother⟩
      rw [List.mem_range'_1] at hj
      exact ⟨hkind, j, hj.1, by omega, hother⟩
    · rintro ⟨-, j, hle, hlt, hother⟩
      exact ⟨j, List.mem_range'_1.mpr ⟨hle, by omega⟩, hother⟩
  · next hkind =>
    constructor
    · intro h
      cases h
    · rintro ⟨h, -⟩
      exact absurd h hkind

/-- The sensors of a known device are counted. -/
theorem site_countSensors {count : Nat} (hname : site.devices.position? name = some p)
    (hp : site.devices.devices[p]? = some device) (hcount : count ≤ site.devices.maxSensors) :
    (countSensors ks site name kind count).site =
      ({ site with
          devices := site.devices.replace p (device.withGroup kind (.ofCount count)) } :
        Site).withdraw (droppedKeys ks p kind count device) := by
  rw [countSensors_of_addSensors ks (addSensors_of_position? kind hname hp hcount) hname]
  cases kind <;> rfl

/-- A sensor of a known device gets its key, and the status that its kind has is good where there
was none. -/
theorem site_announceSensor (ks : KeySpace) {sensor : Sensor}
    (hname : site.devices.position? name = some p)
    (hslot : site.devices.Slot p kind i device sensor) (hnone : sensor.key = none)
    (hkey : key ≠ "") :
    ∃ store, (announceSensor ks site name kind i key).site =
        { site with
          devices := site.devices.replace p (device.withSlot kind i { sensor with key := some key })
          store } ∧
      ∀ other, store.get? other =
        if kind.isIndexed = false ∧ other = ks.device p (statusStep kind) then
          (site.store.get? other).or (some "good")
        else site.store.get? other := by
  have hinit := initSensor_of_slot hname hslot hnone hkey
  obtain ⟨store, hannounce, hstore⟩ := announceSensor_of_initSensor ks hinit hname
  refine ⟨store, by rw [hannounce]; rfl, fun other => ?_⟩
  cases hkind : kind.isIndexed with
  | true =>
    rw [if_neg fun h => absurd (h.2.1.symm.trans hkind) (by decide)] at hstore
    rw [hstore, if_neg fun h => absurd h.1 (by decide)]
  | false =>
    have hstatus := ks.sensor_status p i hkind
    have hcontains := site.store.contains_eq_isSome (ks.device p (statusStep kind))
    rw [hstatus, hcontains] at hstore
    cases hvalue : site.store.get? (ks.device p (statusStep kind)) with
    | some value =>
      rw [hvalue, if_neg fun h => absurd h.2.2 (by simp)] at hstore
      rw [hstore]
      split
      · next hother => rw [hother.2, hvalue, Option.or_some, Option.getD_some]
      · rfl
    | none =>
      rw [hvalue, if_pos ⟨rfl, hkind, rfl⟩] at hstore
      split
      · next hother =>
        obtain ⟨-, rfl⟩ := hother
        rw [Store.get?_set_self hstore, hvalue, Option.none_or]
      · next hother => exact Store.get?_set_other hstore fun h => hother ⟨rfl, h⟩

/-! ### One announcement after the other -/

/-- The sensors of a list are announced one after the other. -/
def announceSensors (ks : KeySpace) (site : Site) (name : String) (kind : SensorKind)
    (announced : List (String × Nat)) : Site :=
  announced.foldl (fun site entry => (announceSensor ks site name kind entry.2 entry.1).site) site

theorem announceSensors_take_succ (ks : KeySpace) (site : Site) (name : String)
    (kind : SensorKind) {keys : List String} (hi : keys[i]? = some key) :
    announceSensors ks site name kind (keys.zipIdx.take (i + 1)) =
      (announceSensor ks (announceSensors ks site name kind (keys.zipIdx.take i)) name kind i
        key).site := by
  rw [zipIdx_take_succ hi]
  simp only [announceSensors, List.foldl_append, List.foldl_cons, List.foldl_nil]

/-- The first `i` sensors of the list have been announced, after those of the device were counted.
-/
structure Keyed (ks : KeySpace) (p : Nat) (kind : SensorKind) (device : Device)
    (keys : List String) (before site : Site) (i : Nat) : Prop where
  devices : site.devices =
    before.devices.replace p (device.withGroup kind (SensorGroup.announced keys i))
  outlets : site.outlets = before.outlets
  draft : site.draft = before.draft
  published : ∀ other, site.store.get? other =
    if other ∈ droppedKeys ks p kind keys.length device then none
    else if kind.isIndexed = false ∧ 0 < i ∧ other = ks.device p (statusStep kind) then
      (before.store.get? other).or (some "good")
    else before.store.get? other

section List

variable {before : Site} {keys : List String} (hname : before.devices.position? name = some p)
  (hp : before.devices.devices[p]? = some device)
include hname hp

theorem keyed_countSensors (hcount : keys.length ≤ before.devices.maxSensors) :
    Keyed ks p kind device keys before
      (countSensors ks before name kind keys.length).site 0 := by
  rw [site_countSensors hname hp hcount]
  refine ⟨by rw [SensorGroup.announced_zero]; rfl, rfl, rfl, ?_⟩
  intro other
  rw [withdraw, Store.get?_delMany]
  split
  · rfl
  · rw [if_neg fun h => Nat.lt_irrefl 0 h.2.1]

theorem Keyed.announceSensor (h : Keyed ks p kind device keys before site i)
    (hi : keys[i]? = some key) (hkey : key ≠ "") :
    Keyed ks p kind device keys before
      (announceSensor ks site name kind i key).site (i + 1) := by
  have hlt : i < keys.length := (List.getElem?_eq_some_iff.mp hi).1
  have hname' : site.devices.position? name = some p := by
    rw [h.devices, position?_replace hp (device.key_withGroup kind _), hname]
  have hslot : site.devices.Slot p kind i
      (device.withGroup kind (SensorGroup.announced keys i)) {} := by
    refine ⟨?_, ?_⟩
    · rw [h.devices, stands_replace hp]
    · rw [Device.group_withGroup, if_pos rfl, SensorGroup.getElem?_announced hlt]
  obtain ⟨store, hsite, hstore⟩ := site_announceSensor ks hname' hslot rfl hkey
  rw [hsite]
  refine ⟨?_, h.outlets, h.draft, ?_⟩
  · rw [h.devices, replace_replace, Device.withSlot_withGroup]
    exact congrArg (fun sensors => before.devices.replace p (device.withGroup kind sensors))
      (SensorGroup.set_announced hi)
  · intro other
    rw [hstore, h.published]
    by_cases hdropped : other ∈ droppedKeys ks p kind keys.length device
    · -- contacts have a number, so what they leave is no status of temperature or humidity
      have hindexed : ¬ kind.isIndexed = false := by
        rw [(mem_droppedKeys.mp hdropped).1]
        decide
      rw [if_pos hdropped, if_pos hdropped, if_neg fun h => hindexed h.1]
    · rw [if_neg hdropped, if_neg hdropped]
      by_cases hstatus : kind.isIndexed = false ∧ other = ks.device p (statusStep kind)
      · have hstarted : kind.isIndexed = false ∧ 0 < i + 1 ∧
            other = ks.device p (statusStep kind) :=
          ⟨hstatus.1, Nat.succ_pos i, hstatus.2⟩
        rw [if_pos hstatus, if_pos hstarted]
        split
        · rw [Option.or_assoc, Option.or_self]
        · rfl
      · rw [if_neg hstatus, if_neg fun h => hstatus ⟨h.1, h.2.2⟩,
          if_neg fun h => hstatus ⟨h.1, h.2.2⟩]

theorem keyed_announceSensors (ks : KeySpace) (kind : SensorKind)
    (hcount : keys.length ≤ before.devices.maxSensors)
    (hne : ∀ key ∈ keys, key ≠ "") :
    ∀ i ≤ keys.length, Keyed ks p kind device keys before
      (announceSensors ks (countSensors ks before name kind keys.length).site name kind
        (keys.zipIdx.take i)) i := by
  intro i
  induction i with
  | zero => exact fun _ => keyed_countSensors hname hp hcount
  | succ i ih =>
    intro hi
    have hkey : keys[i]? = some keys[i] := List.getElem?_eq_getElem (by omega)
    rw [announceSensors_take_succ ks _ name kind hkey]
    exact (ih (by omega)).announceSensor hname hp hkey (hne _ (List.getElem_mem _))

end List

/-- What a list of sensors of one kind of the device at a position leads to. -/
structure SensorsListed (ks : KeySpace) (p : Nat) (kind : SensorKind) (device : Device)
    (keys : List String) (before after : Site) : Prop where
  /-- The device has the sensors of the list, nothing is known of them, and the other devices and
  groups are as they were. -/
  devices : after.devices =
    before.devices.replace p (device.withGroup kind (keys.map Sensor.named))
  /-- Contacts that go take what was published for them. -/
  withdrawn : kind = .digitalInput → ∀ j, keys.length ≤ j → j < device.contacts →
    ∀ name ∈ ks.contactKeys p j, after.store.get? name = none
  /-- The status of temperature or humidity is good if there was none. -/
  started : kind.isIndexed = false → keys ≠ [] →
    before.store.get? (ks.sensor p kind 0 (some "status")) = none →
      after.store.get? (ks.sensor p kind 0 (some "status")) = some "good"
  /-- Everything else that is published stays. -/
  published : ∀ name,
    ¬ (kind = .digitalInput ∧ ∃ j, keys.length ≤ j ∧ j < device.contacts ∧
        name ∈ ks.contactKeys p j) →
      ¬ (kind.isIndexed = false ∧ keys ≠ [] ∧ name = ks.sensor p kind 0 (some "status") ∧
          before.store.get? name = none) →
        after.store.get? name = before.store.get? name
  outlets : after.outlets = before.outlets
  draft : after.draft = before.draft

variable {before after repeated : Site} {keys : List String}

theorem sensorsListed (ks : KeySpace) (kind : SensorKind)
    (hname : before.devices.position? name = some p)
    (hp : before.devices.devices[p]? = some device)
    (hcount : keys.length ≤ before.devices.maxSensors) (hne : ∀ key ∈ keys, key ≠ "") :
    SensorsListed ks p kind device keys before
      (announceSensors ks (countSensors ks before name kind keys.length).site name kind
        keys.zipIdx) := by
  have hkeyed := keyed_announceSensors hname hp ks kind hcount hne keys.length (Nat.le_refl _)
  have hwhole : keys.zipIdx.take keys.length = keys.zipIdx :=
    List.take_of_length_le (Nat.le_of_eq List.length_zipIdx)
  rw [hwhole] at hkeyed
  refine ⟨SensorGroup.announced_length keys ▸ hkeyed.devices, ?_, ?_, ?_, hkeyed.outlets,
    hkeyed.draft⟩
  · intro hkind j hle hlt other hother
    rw [hkeyed.published, if_pos (mem_droppedKeys.mpr ⟨hkind, j, hle, hlt, hother⟩)]
  · intro hkind hkeys hnone
    have hkept : ks.sensor p kind 0 (some "status") ∉
        droppedKeys ks p kind keys.length device := by
      intro hdropped
      rw [(mem_droppedKeys.mp hdropped).1] at hkind
      cases hkind
    rw [hkeyed.published, if_neg hkept, hnone,
      if_pos ⟨hkind, List.length_pos_iff.mpr hkeys, ks.sensor_status p 0 hkind⟩, Option.none_or]
  · intro other hkept hunset
    rw [hkeyed.published, if_neg fun hdropped => hkept (mem_droppedKeys.mp hdropped)]
    split
    · next hstatus =>
      obtain ⟨hkind, hpos, hother⟩ := hstatus
      cases hvalue : before.store.get? other with
      | some value => rfl
      | none =>
        rw [← ks.sensor_status p 0 hkind] at hother
        exact absurd ⟨hkind, List.length_pos_iff.mp hpos, hother, hvalue⟩ hunset
    · rfl

/-! ### Announcing the same list again -/

/-- Listed once more, the sensors are the same, and what is published is. -/
theorem SensorsListed.again (h : SensorsListed ks p kind device keys before after)
    (hagain : SensorsListed ks p kind (device.withGroup kind (keys.map Sensor.named)) keys after
      repeated) :
    repeated.devices = after.devices ∧ ∀ name, repeated.store.get? name = after.store.get? name := by
  refine ⟨?_, ?_⟩
  · rw [hagain.devices, Device.withGroup_withGroup, h.devices, replace_replace]
  · intro other
    apply hagain.published
    · rintro ⟨rfl, j, hle, hlt, -⟩
      have hcontacts : (device.withGroup .digitalInput (keys.map Sensor.named)).contacts =
          keys.length := List.length_map _
      omega
    · rintro ⟨hkind, hkeys, rfl, hnone⟩
      cases hvalue : before.store.get? (ks.sensor p kind 0 (some "status")) with
      | none =>
        rw [h.started hkind hkeys hvalue] at hnone
        cases hnone
      | some value =>
        have hsame := h.published (ks.sensor p kind 0 (some "status")) ?_ ?_
        · rw [hsame, hvalue] at hnone
          cases hnone
        · rintro ⟨rfl, -⟩
          cases hkind
        · rintro ⟨-, -, -, hunset⟩
          rw [hvalue] at hunset
          cases hunset

end Site

end RackTelemetry
