import RackTelemetry.Proofs.Inventory.Operation

/-!
Sensors found by their keys. A slot gets its key by its number, and is looked up by the key: the
first slot of the group that has it is found. Nothing refuses a key that another slot of the group
has already, and from then on only the first of the two is ever found. As long as that does not
happen, the keys of every group stay distinct, and a sensor is found in the slot it was announced
for.
-/

namespace RackTelemetry

namespace SensorGroup

/-- The key of a slot, if there is such a slot and it has one. -/
def keyAt? (group : SensorGroup) (i : Nat) : Option String := group[i]?.bind Sensor.key

/-- No two slots have the same key. -/
def KeysApart (group : SensorGroup) : Prop :=
  ∀ i j key, group.keyAt? i = some key → group.keyAt? j = some key → i = j

/-- The slot that is found by a key after slot `index` was announced with it. -/
def foundAt (group : SensorGroup) (index : Nat) (key : String) : Nat :=
  (group.indexOf? key).elim index (min index)

variable {group : SensorGroup} {i j index : Nat} {key : String} {sensor : Sensor}

theorem keyAt?_eq_some_iff :
    group.keyAt? i = some key ↔ ∃ sensor, group[i]? = some sensor ∧ sensor.key = some key :=
  Option.bind_eq_some_iff

/-- The slot that is found is the first one with the key. -/
theorem indexOf?_eq_some_iff :
    group.indexOf? key = some i ↔
      group.keyAt? i = some key ∧ ∀ j < i, group.keyAt? j ≠ some key := by
  have hkey : ∀ (j : Nat) (hj : j < group.length),
      group.keyAt? j = some key ↔ decide (group[j].key = some key) = true := by
    intro j hj
    rw [keyAt?, List.getElem?_eq_getElem hj, Option.bind_some, decide_eq_true_eq]
  rw [indexOf?, List.findIdx?_eq_some_iff_getElem]
  constructor
  · rintro ⟨hi, hfound, hfirst⟩
    refine ⟨(hkey i hi).mpr hfound, ?_⟩
    intro j hj hsame
    exact hfirst j hj ((hkey j (by omega)).mp hsame)
  · rintro ⟨hfound, hfirst⟩
    obtain ⟨sensor, hsensor, -⟩ := keyAt?_eq_some_iff.mp hfound
    have hi : i < group.length := (List.getElem?_eq_some_iff.mp hsensor).1
    refine ⟨hi, (hkey i hi).mp hfound, ?_⟩
    intro j hj hsame
    exact hfirst j hj ((hkey j (by omega)).mpr hsame)

theorem indexOf?_eq_none_iff : group.indexOf? key = none ↔ ∀ i, group.keyAt? i ≠ some key := by
  rw [indexOf?, List.findIdx?_eq_none_iff]
  constructor
  · intro h i hsame
    obtain ⟨sensor, hsensor, hkey⟩ := keyAt?_eq_some_iff.mp hsame
    exact absurd (decide_eq_true hkey) (by simp [h sensor (List.mem_of_getElem? hsensor)])
  · intro h sensor hmem
    obtain ⟨i, hi⟩ := List.mem_iff_getElem?.mp hmem
    exact decide_eq_false fun hkey => h i (keyAt?_eq_some_iff.mpr ⟨sensor, hi, hkey⟩)

theorem keyAt?_set (hi : i < group.length) (sensor : Sensor) (j : Nat) :
    keyAt? (group.set i sensor) j = if i = j then sensor.key else group.keyAt? j := by
  rw [keyAt?, List.getElem?_set, if_pos hi]
  split
  · rfl
  · rfl

theorem keysApart_ofCount (count : Nat) : (ofCount count).KeysApart := by
  intro i j key hi
  obtain ⟨sensor, hsensor, hkey⟩ := keyAt?_eq_some_iff.mp hi
  have hfresh := List.eq_of_mem_replicate (List.mem_of_getElem? hsensor)
  rw [hfresh] at hkey
  cases hkey

/-- A sensor that replaces one with the same key, or without one, leaves the keys distinct. -/
theorem KeysApart.set_same (h : group.KeysApart) (hsensor : group[index]? = some sensor)
    {other : Sensor} (hkey : other.key = sensor.key) : KeysApart (group.set index other) := by
  have hlt : index < group.length := (List.getElem?_eq_some_iff.mp hsensor).1
  have hkeys : ∀ i, keyAt? (group.set index other) i = group.keyAt? i := by
    intro i
    rw [keyAt?_set hlt]
    split
    · next hsame => rw [hkey, ← hsame, keyAt?, hsensor, Option.bind_some]
    · rfl
  intro i j key hi hj
  rw [hkeys] at hi hj
  exact h i j key hi hj

/-- A slot without a key gets one: the keys are still distinct exactly if no slot had it. -/
theorem KeysApart.set_key_iff (h : group.KeysApart) (hsensor : group[index]? = some sensor)
    (hnone : sensor.key = none) :
    KeysApart (group.set index { sensor with key := some key }) ↔
      ∀ j, group.keyAt? j ≠ some key := by
  have hlt : index < group.length := (List.getElem?_eq_some_iff.mp hsensor).1
  have hunkeyed : group.keyAt? index = none := by rw [keyAt?, hsensor, Option.bind_some, hnone]
  constructor
  · intro hafter j hj
    have hother : index ≠ j := by
      rintro rfl
      rw [hunkeyed] at hj
      cases hj
    refine hother (hafter index j key ?_ ?_)
    · rw [keyAt?_set hlt, if_pos rfl]
    · rw [keyAt?_set hlt, if_neg hother, hj]
  · intro hnew i j other hi hj
    rw [keyAt?_set hlt] at hi hj
    split at hi
    · next hindex =>
      subst hindex
      obtain rfl : key = other := Option.some.inj hi
      split at hj
      · assumption
      · exact absurd hj (hnew j)
    · split at hj
      · obtain rfl : key = other := Option.some.inj hj
        exact absurd hi (hnew i)
      · exact h i j other hi hj

theorem foundAt_of_none (h : group.indexOf? key = none) : group.foundAt index key = index := by
  rw [foundAt, h, Option.elim_none]

theorem foundAt_of_some {first : Nat} (h : group.indexOf? key = some first) :
    group.foundAt index key = min index first := by
  rw [foundAt, h, Option.elim_some]

/-- The slot that is found after an announcement is the announced one, or one before it. -/
theorem indexOf?_set_key (hsensor : group[index]? = some sensor) (key : String) :
    indexOf? (group.set index { sensor with key := some key }) key =
      some (group.foundAt index key) := by
  have hlt : index < group.length := (List.getElem?_eq_some_iff.mp hsensor).1
  rw [indexOf?_eq_some_iff, keyAt?_set hlt]
  cases hfirst : group.indexOf? key with
  | none =>
    rw [foundAt_of_none hfirst, if_pos rfl]
    refine ⟨rfl, ?_⟩
    intro j hj
    rw [keyAt?_set hlt, if_neg (by omega)]
    exact indexOf?_eq_none_iff.mp hfirst j
  | some first =>
    obtain ⟨hfound, hbefore⟩ := indexOf?_eq_some_iff.mp hfirst
    rw [foundAt_of_some hfirst]
    constructor
    -- the announced slot has the key now, and hides the one found before if that comes later
    · rcases Nat.le_total index first with hle | hle
      · rw [Nat.min_eq_left hle, if_pos rfl]
      · rw [Nat.min_eq_right hle, hfound, ite_self]
    · intro j hj
      rw [keyAt?_set hlt, if_neg (by omega)]
      exact hbefore j (by omega)

/-- The announced slot itself is found exactly if no earlier one has its key. -/
theorem foundAt_eq_iff :
    group.foundAt index key = index ↔ ∀ j < index, group.keyAt? j ≠ some key := by
  cases hfirst : group.indexOf? key with
  | none =>
    exact iff_of_true (foundAt_of_none hfirst) fun j _ => indexOf?_eq_none_iff.mp hfirst j
  | some first =>
    obtain ⟨hfound, hbefore⟩ := indexOf?_eq_some_iff.mp hfirst
    rw [foundAt_of_some hfirst]
    constructor
    · intro hmin j hj
      exact hbefore j (by omega)
    · intro hnone
      refine Nat.min_eq_left (Nat.le_of_not_lt fun hlt => ?_)
      exact hnone first hlt hfound

end SensorGroup

namespace DeviceRegistry

/-- No two slots of one group of one device have the same key. -/
def KeysApart (r : DeviceRegistry) : Prop :=
  ∀ device ∈ r.devices, ∀ kind, (device.group kind).KeysApart

/-- A slot without a key is to get one that another slot of its group has. -/
def Repeats (r : DeviceRegistry) : DeviceOperation → Prop
  | .initSensor deviceKey kind index key =>
    key ≠ "" ∧ ∃ p device sensor, r.position? deviceKey = some p ∧
      r.Slot p kind index device sensor ∧ sensor.key = none ∧
      ∃ j, (device.group kind).keyAt? j = some key
  | _ => False

variable {r after : DeviceRegistry} {operation : DeviceOperation}

theorem permits_of_repeats (h : r.Repeats operation) : r.Permits operation := by
  cases operation with
  | initSensor deviceKey kind index key =>
    obtain ⟨hkey, p, device, sensor, hposition, hslot, hnone, -⟩ := h
    exact ⟨hkey, p, device, sensor, hposition, hslot, .inl hnone⟩
  | _ => exact h.elim

theorem KeysApart.of_subset (h : r.KeysApart) (hsubset : after.devices ⊆ r.devices) :
    after.KeysApart :=
  fun device hmem => h device (hsubset hmem)

/-- One group is replaced: whether all keys are distinct depends on this group only. -/
theorem KeysApart.withGroup_iff (h : r.KeysApart) {p : Nat} {device : Device}
    (hp : r.devices[p]? = some device) (kind : SensorKind) (sensors : SensorGroup) :
    (r.replace p (device.withGroup kind sensors)).KeysApart ↔ sensors.KeysApart := by
  constructor
  · intro hafter
    have hmem := List.mem_of_getElem? (stands_replace hp (device.withGroup kind sensors))
    have hgroup := hafter _ hmem kind
    rwa [Device.group_withGroup, if_pos rfl] at hgroup
  · intro hsensors found hmem other
    rcases List.mem_or_eq_of_mem_set hmem with hold | rfl
    · exact h found hold other
    · rw [Device.group_withGroup]
      split
      · exact hsensors
      · exact h device (List.mem_of_getElem? hp) other

theorem KeysApart.inserted (h : r.KeysApart) {index : Nat} (key : String)
    (hindex : index ≤ r.devices.length) : (r.inserted index key).KeysApart := by
  intro device hmem kind
  rcases (mem_inserted hindex).mp hmem with rfl | hold
  · have hempty : ({ key } : Device).group kind = .ofCount 0 := by cases kind <;> rfl
    rw [hempty]
    exact SensorGroup.keysApart_ofCount 0
  · exact h device hold kind

/-- Announcing a slot keeps the keys distinct unless it repeats one. -/
theorem KeysApart.initSensor_iff (h : r.KeysApart) {deviceKey key : String} {kind : SensorKind}
    {index : Nat} {isNew : Bool} (hinit : r.initSensor deviceKey kind index key = .ok (after, isNew)) :
    after.KeysApart ↔ ¬ r.Repeats (.initSensor deviceKey kind index key) := by
  obtain ⟨hkey, p, device, sensor, hposition, hslot, hsensor, rfl⟩ := keyed_of_initSensor hinit
  have hgroup := h device (List.mem_of_getElem? hslot.stands) kind
  rw [Device.withSlot, h.withGroup_iff hslot.stands]
  -- a slot that had its key already is not changed, so only a slot without one can repeat a key
  rcases hsensor with hnone | hsame
  · rw [hgroup.set_key_iff hslot.holds hnone]
    constructor
    · rintro hnew ⟨-, q, other, found, hq, hother, -, j, hj⟩
      obtain rfl : q = p := Option.some.inj (hq.symm.trans hposition)
      obtain ⟨rfl, -⟩ := hslot.unique hother
      exact hnew j hj
    · intro hnot j hj
      exact hnot ⟨hkey, p, device, sensor, hposition, hslot, hnone, j, hj⟩
  · refine iff_of_true (hgroup.set_same hslot.holds hsame.symm) ?_
    rintro ⟨-, q, other, found, hq, hother, hnone, -⟩
    obtain rfl : q = p := Option.some.inj (hq.symm.trans hposition)
    obtain ⟨-, rfl⟩ := hslot.unique hother
    rw [hsame] at hnone
    cases hnone

/-- Keys that are distinct are so after an operation unless it repeats one. -/
theorem KeysApart.attempt_iff (h : r.KeysApart) (hattempt : r.attempt operation = .ok after) :
    after.KeysApart ↔ ¬ r.Repeats operation := by
  cases operation with
  | add position key =>
    obtain ⟨index, hadd⟩ := map_fst_eq_ok.mp hattempt
    obtain ⟨-, -, hindex, rfl⟩ := add_eq_ok hadd
    exact iff_of_true (h.inserted key hindex) id
  | move source target =>
    obtain ⟨changed, hmove⟩ := map_fst_eq_ok.mp hattempt
    exact iff_of_true (h.of_subset (perm_of_move hmove).1.subset) id
  | remove p =>
    obtain ⟨device, hremove⟩ := map_fst_eq_ok.mp hattempt
    obtain ⟨-, rfl⟩ := remove_eq_ok.mp hremove
    exact iff_of_true (h.of_subset (List.eraseIdx_subset)) id
  | removeAll =>
    obtain rfl := Except.ok.inj hattempt
    exact iff_of_true (h.of_subset (List.nil_subset _)) id
  | declare count =>
    obtain rfl := Except.ok.inj hattempt
    exact iff_of_true (h.of_subset (List.Subset.refl _)) id
  | trimAfter index =>
    obtain rfl := Except.ok.inj hattempt
    refine iff_of_true ?_ id
    cases htrim : r.trimAfter index with
    | none => exact h
    | some trimmed =>
      obtain ⟨-, hafter, -⟩ := trimAfter_eq_some htrim
      simp only [Option.elim_some, hafter]
      exact h.of_subset (List.take_subset _ _)
  | addSensors key kind count =>
    obtain ⟨previous, hcount⟩ := map_fst_eq_ok.mp hattempt
    obtain ⟨p, device, -, hp, -, -, rfl⟩ := addSensors_eq_ok hcount
    have hfresh := SensorGroup.keysApart_ofCount count
    exact iff_of_true ((h.withGroup_iff hp kind _).mpr hfresh) id
  | initSensor deviceKey kind index key =>
    obtain ⟨isNew, hinit⟩ := map_fst_eq_ok.mp hattempt
    exact h.initSensor_iff hinit
  | setState p kind index state =>
    obtain ⟨previous, hset⟩ := map_fst_eq_ok.mp hattempt
    obtain ⟨device, sensor, hslot, -, rfl⟩ := setState_eq_ok hset
    have hgroup := h device (List.mem_of_getElem? hslot.stands) kind
    have hsame : SensorGroup.KeysApart ((device.group kind).set index { sensor with state }) :=
      hgroup.set_same hslot.holds rfl
    exact iff_of_true ((h.withGroup_iff hslot.stands kind _).mpr hsame) id

theorem KeysApart.step_iff (h : r.KeysApart) (operation : DeviceOperation) :
    (r.step operation).1.KeysApart ↔ ¬ r.Repeats operation := by
  rcases step_cases r operation with ⟨after, hattempt, hstep⟩ | ⟨e, hattempt, hstep⟩
  · rw [hstep]
    exact h.attempt_iff hattempt
  · rw [hstep]
    refine iff_of_true h fun hrepeats => ?_
    obtain ⟨after, hok⟩ := exists_attempt_eq_ok_iff.mpr (permits_of_repeats hrepeats)
    rw [hattempt] at hok
    cases hok

theorem performed_take_succ (maxSensors : Nat) {operations : List DeviceOperation} {n : Nat}
    (h : operations[n]? = some operation) :
    performed maxSensors (operations.take (n + 1)) =
      ((performed maxSensors (operations.take n)).step operation).1 := by
  rw [List.take_add_one, h, Option.toList_some, performed_concat]

/-- The keys of all groups are distinct all along exactly if no announcement repeats one. -/
theorem keysApart_performed_iff (maxSensors : Nat) (operations : List DeviceOperation) :
    (∀ n, (performed maxSensors (operations.take n)).KeysApart) ↔
      ∀ n operation, operations[n]? = some operation →
        ¬ (performed maxSensors (operations.take n)).Repeats operation := by
  constructor
  · intro hapart n operation hoperation
    have hnext := hapart (n + 1)
    rw [performed_take_succ maxSensors hoperation] at hnext
    exact ((hapart n).step_iff operation).mp hnext
  · intro hnot n
    induction n with
    | zero =>
      intro device hmem
      cases hmem
    | succ n ih =>
      cases hoperation : operations[n]? with
      | none =>
        rw [List.take_add_one, hoperation, Option.toList_none, List.append_nil]
        exact ih
      | some operation =>
        rw [performed_take_succ maxSensors hoperation]
        exact (ih.step_iff operation).mpr (hnot n operation hoperation)

/-- An announced sensor is found by its key in the first slot that has it. -/
theorem resolve_of_initSensor {deviceKey key : String} {kind : SensorKind} {index : Nat}
    {isNew : Bool} (h : r.initSensor deviceKey kind index key = .ok (after, isNew)) :
    ∃ p device, r.position? deviceKey = some p ∧ r.devices[p]? = some device ∧
      after.resolve deviceKey kind key = .ok (p, (device.group kind).foundAt index key) := by
  obtain ⟨-, p, device, sensor, hposition, hslot, -, rfl⟩ := keyed_of_initSensor h
  refine ⟨p, device, hposition, hslot.stands, resolve_eq_ok.mpr ⟨?_, _, stands_replace hslot.stands _, ?_⟩⟩
  · rw [position?_replace hslot.stands (Device.key_withSlot _ _ _ _), hposition]
  · rw [Device.withSlot, Device.group_withGroup, if_pos rfl]
    exact SensorGroup.indexOf?_set_key hslot.holds key

/-- After any operations on an empty list, an announced sensor is found in the announced slot, or in
an earlier slot of the group if one has its key already. The keys of all groups are distinct all
along exactly if no announcement gives a slot the key of another one. -/
theorem keyed_sensor_found_first (maxSensors : Nat) (operations : List DeviceOperation) :
    let r := performed maxSensors operations
    (∀ deviceKey kind index key after isNew,
      r.initSensor deviceKey kind index key = .ok (after, isNew) →
        ∃ p device, r.position? deviceKey = some p ∧ r.devices[p]? = some device ∧
          after.resolve deviceKey kind key = .ok (p, (device.group kind).foundAt index key) ∧
          (after.resolve deviceKey kind key = .ok (p, index) ↔
            ∀ i < index, (device.group kind).keyAt? i ≠ some key)) ∧
      ((∀ n, (performed maxSensors (operations.take n)).KeysApart) ↔
        ∀ n operation, operations[n]? = some operation →
          ¬ (performed maxSensors (operations.take n)).Repeats operation) := by
  intro r
  refine ⟨?_, keysApart_performed_iff maxSensors operations⟩
  intro deviceKey kind index key after isNew hinit
  obtain ⟨p, device, hposition, hdevice, hresolve⟩ := resolve_of_initSensor hinit
  refine ⟨p, device, hposition, hdevice, hresolve, ?_⟩
  rw [hresolve, ← SensorGroup.foundAt_eq_iff]
  constructor
  · intro hslot
    exact (Prod.mk.inj (Except.ok.inj hslot)).2
  · intro hslot
    rw [hslot]

/-- Two slots of one group get the same key, and the second is not found by it. -/
theorem one_key_in_two_slots :
    let r := performed 32 [.add .last "dev-a", .addSensors "dev-a" .temperature 2,
      .initSensor "dev-a" .temperature 0 "T1"]
    ∃ after, r.initSensor "dev-a" .temperature 1 "T1" = .ok (after, true) ∧
      after.resolve "dev-a" .temperature "T1" = .ok (0, 0) ∧ ¬ after.KeysApart := by
  intro r
  refine ⟨{ devices := [{ key := "dev-a", temperatures := [.mk (some "T1") .unknown,
    .mk (some "T1") .unknown] }] }, by rfl, by rfl, ?_⟩
  intro hapart
  have hslots := hapart _ (List.mem_singleton_self _) .temperature 0 1 "T1" rfl rfl
  cases hslots

end DeviceRegistry

end RackTelemetry
