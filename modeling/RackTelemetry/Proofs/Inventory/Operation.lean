import RackTelemetry.Proofs.Inventory.Move
import RackTelemetry.Proofs.Inventory.Refusal

/-!
Any sequence of operations on a list of devices, starting with an empty one. What an operation needs
is said for each of them; an operation that lacks it is refused and leaves the list as it is. The
invariant of the list is kept by one operation and so by any number of them, and with it the keys
tell where the devices stand.
-/

namespace RackTelemetry

/-- What can be asked of a list of devices. -/
inductive DeviceOperation where
  | add (position : Position) (key : String)
  | move (source : Nat) (target : Position)
  | remove (position : Nat)
  | removeAll
  | declare (count : Nat)
  | trimAfter (index : Nat)
  | addSensors (key : String) (kind : SensorKind) (count : Nat)
  | initSensor (deviceKey : String) (kind : SensorKind) (index : Nat) (key : String)
  | setState (position : Nat) (kind : SensorKind) (index : Nat) (state : SensorState)
  deriving Repr, DecidableEq

/-- The index that a position means in a list of `len` devices. -/
def Position.inList (len : Nat) : Position → Nat
  | .index i => i
  | .last => len

namespace DeviceRegistry

/-- The devices after an operation that is not refused. Where a trim has no result, the devices are
those from before. -/
def attempt (r : DeviceRegistry) : DeviceOperation → Except Error DeviceRegistry
  | .add position key => (r.add position key).map Prod.fst
  | .move source target => (r.move source target).map Prod.fst
  | .remove position => (r.remove position).map Prod.fst
  | .removeAll => .ok r.removeAll.1
  | .declare count => .ok (r.declare count)
  | .trimAfter index => .ok ((r.trimAfter index).elim r Prod.fst)
  | .addSensors key kind count => (r.addSensors key kind count).map Prod.fst
  | .initSensor deviceKey kind index key => (r.initSensor deviceKey kind index key).map Prod.fst
  | .setState position kind index state => (r.setState position kind index state).map Prod.fst

/-- The devices after an operation, and why it was refused if it was. -/
def step (r : DeviceRegistry) (operation : DeviceOperation) : DeviceRegistry × Option Error :=
  match r.attempt operation with
  | .ok after => (after, none)
  | .error e => (r, some e)

/-- The devices after some operations on an empty list. -/
def performed (maxSensors : Nat) (operations : List DeviceOperation) : DeviceRegistry :=
  operations.foldl (fun r operation => (r.step operation).1) { maxSensors }

/-- What an operation needs. -/
def Permits (r : DeviceRegistry) : DeviceOperation → Prop
  | .add position key =>
    key ≠ "" ∧ key ∉ r.keys ∧ position.inList r.devices.length ≤ r.devices.length
  | .move source target =>
    source < r.devices.length ∧ ∀ i, target = .index i → i < r.devices.length
  | .remove position => position < r.devices.length
  | .removeAll | .declare _ | .trimAfter _ => True
  | .addSensors key _ count => count ≤ r.maxSensors ∧ key ∈ r.keys
  | .initSensor deviceKey kind index key =>
    key ≠ "" ∧ ∃ p device sensor, r.position? deviceKey = some p ∧
      r.Slot p kind index device sensor ∧ (sensor.key = none ∨ sensor.key = some key)
  | .setState position kind index _ => ∃ device sensor, r.Slot position kind index device sensor

variable {r after : DeviceRegistry} {operation : DeviceOperation}

/-! ### Which operations are refused -/

theorem map_fst_eq_ok {α β : Type} {x : Except Error (α × β)} {a : α} :
    x.map Prod.fst = .ok a ↔ ∃ b, x = .ok (a, b) := by
  cases x with
  | ok pair =>
    constructor
    · intro h
      obtain rfl := Except.ok.inj h
      exact ⟨pair.2, rfl⟩
    · rintro ⟨b, h⟩
      obtain rfl := Except.ok.inj h
      rfl
  | error e =>
    constructor
    · intro h
      cases h
    · rintro ⟨b, h⟩
      cases h

theorem exists_map_fst_eq_ok {α β : Type} {x : Except Error (α × β)} :
    (∃ a, x.map Prod.fst = .ok a) ↔ ∃ a b, x = .ok (a, b) :=
  exists_congr fun _ => map_fst_eq_ok

theorem add_of_permits {position : Position} {key : String} (h : r.Permits (.add position key)) :
    r.add position key =
      .ok (r.inserted (position.inList r.devices.length) key,
        position.inList r.devices.length) := by
  obtain ⟨hkey, hnew, hposition⟩ := h
  cases position with
  | last => exact add_last hkey hnew
  | index i => exact add_index hkey hnew hposition

theorem exists_add_eq_ok_iff {position : Position} {key : String} :
    (∃ after index, r.add position key = .ok (after, index)) ↔ r.Permits (.add position key) := by
  constructor
  · rintro ⟨after, index, hadd⟩
    obtain ⟨hkey, hnew, -, -⟩ := add_eq_ok hadd
    refine ⟨hkey, hnew, ?_⟩
    cases position with
    | last => exact Nat.le_refl _
    | index i =>
      by_contra hbeyond
      have hunknown : (r.devices.any fun device => device.key = key) = false := by
        simpa [keys] using hnew
      have hrefused : r.add (.index i) key = .error (.outOfBounds i r.devices.length) := by
        have hi : ¬ i ≤ r.devices.length := hbeyond
        simp [add, hkey, hunknown, hi]
      rw [hrefused] at hadd
      cases hadd
  · intro hpermits
    exact ⟨_, _, add_of_permits hpermits⟩

theorem exists_move_eq_ok_iff {source : Nat} {target : Position} :
    (∃ after changed, r.move source target = .ok (after, changed)) ↔
      r.Permits (.move source target) := by
  constructor
  · rintro ⟨after, changed, hmove⟩
    have haccepted : ¬ ∃ e, r.move source target = .error e := by
      rintro ⟨e, herror⟩
      rw [hmove] at herror
      cases herror
    rw [exists_move_eq_error_iff, not_or, not_or] at haccepted
    obtain ⟨-, hsource, htarget⟩ := haccepted
    exact ⟨Nat.lt_of_not_le hsource, fun i hi => Nat.lt_of_not_le fun hle => htarget ⟨i, hi, hle⟩⟩
  · rintro ⟨hsource, htarget⟩
    exact r.exists_move target hsource htarget

theorem exists_deviceAt_iff {p : Nat} :
    (∃ device, r.deviceAt p = .ok device) ↔ p < r.devices.length := by
  simp only [deviceAt_eq_ok]
  constructor
  · rintro ⟨device, hdevice⟩
    exact (List.getElem?_eq_some_iff.mp hdevice).1
  · intro hlt
    exact ⟨_, List.getElem?_eq_getElem hlt⟩

theorem remove_eq_ok {p : Nat} {device : Device} :
    r.remove p = .ok (after, device) ↔
      r.devices[p]? = some device ∧ after = { r with devices := r.devices.eraseIdx p } := by
  rw [← deviceAt_eq_ok]
  constructor
  · intro h
    obtain ⟨found, hfound, h⟩ := exists_of_bind_eq_ok h
    obtain ⟨rfl, rfl⟩ := Prod.mk.inj (Except.ok.inj h)
    exact ⟨hfound, rfl⟩
  · rintro ⟨hdevice, rfl⟩
    rw [remove, hdevice]
    rfl

theorem exists_addSensors_eq_ok_iff {key : String} {kind : SensorKind} {count : Nat} :
    (∃ after previous, r.addSensors key kind count = .ok (after, previous)) ↔
      r.Permits (.addSensors key kind count) := by
  constructor
  · rintro ⟨after, previous, hcount⟩
    obtain ⟨p, device, hposition, -, hlimit, -⟩ := addSensors_eq_ok hcount
    refine ⟨hlimit, Decidable.byContradiction fun hunknown => ?_⟩
    rw [position?_eq_none_iff.mpr hunknown] at hposition
    cases hposition
  · rintro ⟨hlimit, hknown⟩
    cases hposition : r.position? key with
    | none => exact absurd hknown (position?_eq_none_iff.mp hposition)
    | some p =>
      obtain ⟨device, hdevice, -⟩ := device_of_position? hposition
      exact ⟨_, _, addSensors_of_position? kind hposition hdevice hlimit⟩

theorem exists_initSensor_eq_ok_iff {deviceKey key : String} {kind : SensorKind} {index : Nat} :
    (∃ after isNew, r.initSensor deviceKey kind index key = .ok (after, isNew)) ↔
      r.Permits (.initSensor deviceKey kind index key) := by
  constructor
  · rintro ⟨after, isNew, hinit⟩
    obtain ⟨hkey, p, device, sensor, hposition, hslot, hsensor, -⟩ := keyed_of_initSensor hinit
    exact ⟨hkey, p, device, sensor, hposition, hslot, hsensor⟩
  · rintro ⟨hkey, p, device, sensor, hposition, hslot, hnone | hsame⟩
    · exact ⟨_, _, initSensor_of_slot hposition hslot hnone hkey⟩
    · exact ⟨_, _, initSensor_of_keyed hposition hslot hsame hkey⟩

theorem exists_setState_eq_ok_iff {p index : Nat} {kind : SensorKind} {state : SensorState} :
    (∃ after previous, r.setState p kind index state = .ok (after, previous)) ↔
      r.Permits (.setState p kind index state) := by
  constructor
  · rintro ⟨after, previous, hset⟩
    obtain ⟨device, sensor, hslot, -⟩ := setState_eq_ok hset
    exact ⟨device, sensor, hslot⟩
  · rintro ⟨device, sensor, hslot⟩
    obtain ⟨after, hset⟩ := setState_of_slot hslot state
    exact ⟨after, sensor.state, hset⟩

theorem exists_attempt_eq_ok_iff : (∃ after, r.attempt operation = .ok after) ↔
    r.Permits operation := by
  cases operation with
  | add position key => exact exists_map_fst_eq_ok.trans exists_add_eq_ok_iff
  | move source target => exact exists_map_fst_eq_ok.trans exists_move_eq_ok_iff
  | remove p =>
    rw [Permits, ← exists_deviceAt_iff, attempt, exists_map_fst_eq_ok]
    simp only [remove_eq_ok, deviceAt_eq_ok]
    constructor
    · rintro ⟨after, device, hdevice, -⟩
      exact ⟨device, hdevice⟩
    · rintro ⟨device, hdevice⟩
      exact ⟨_, device, hdevice, rfl⟩
  | removeAll => exact ⟨fun _ => trivial, fun _ => ⟨_, rfl⟩⟩
  | declare count => exact ⟨fun _ => trivial, fun _ => ⟨_, rfl⟩⟩
  | trimAfter index => exact ⟨fun _ => trivial, fun _ => ⟨_, rfl⟩⟩
  | addSensors key kind count => exact exists_map_fst_eq_ok.trans exists_addSensors_eq_ok_iff
  | initSensor deviceKey kind index key =>
    exact exists_map_fst_eq_ok.trans exists_initSensor_eq_ok_iff
  | setState p kind index state => exact exists_map_fst_eq_ok.trans exists_setState_eq_ok_iff

theorem step_cases (r : DeviceRegistry) (operation : DeviceOperation) :
    (∃ after, r.attempt operation = .ok after ∧ r.step operation = (after, none)) ∨
      ∃ e, r.attempt operation = .error e ∧ r.step operation = (r, some e) := by
  unfold step
  cases hattempt : r.attempt operation with
  | ok after => exact .inl ⟨after, rfl, rfl⟩
  | error e => exact .inr ⟨e, rfl, rfl⟩

theorem exists_refusal_iff :
    (∃ e, (r.step operation).2 = some e) ↔ ¬ r.Permits operation := by
  rw [← exists_attempt_eq_ok_iff]
  rcases step_cases r operation with ⟨after, hattempt, hstep⟩ | ⟨e, hattempt, hstep⟩
  · rw [hstep, hattempt]
    constructor
    · rintro ⟨e, h⟩
      cases h
    · intro h
      exact absurd ⟨after, rfl⟩ h
  · rw [hstep, hattempt]
    constructor
    · rintro - ⟨after, h⟩
      cases h
    · intro _
      exact ⟨e, rfl⟩

theorem step_of_refusal {e : Error} (h : (r.step operation).2 = some e) :
    (r.step operation).1 = r := by
  rcases step_cases r operation with ⟨after, -, hstep⟩ | ⟨e, -, hstep⟩
  · rw [hstep] at h
    cases h
  · rw [hstep]

/-! ### What every operation keeps -/

/-- An operation leads from a list that operations built to another one with the same limit. -/
theorem attempt_keeps (h : r.attempt operation = .ok after) :
    (r.Built → after.Built) ∧ after.maxSensors = r.maxSensors := by
  cases operation with
  | add position key =>
    obtain ⟨index, hadd⟩ := map_fst_eq_ok.mp h
    obtain ⟨-, -, -, rfl⟩ := add_eq_ok hadd
    exact ⟨fun hbuilt => .added hbuilt hadd, rfl⟩
  | move source target =>
    obtain ⟨changed, hmove⟩ := map_fst_eq_ok.mp h
    exact ⟨fun hbuilt => .moved hbuilt hmove, (perm_of_move hmove).2.2.1⟩
  | remove p =>
    obtain ⟨device, hremove⟩ := map_fst_eq_ok.mp h
    obtain ⟨-, rfl⟩ := remove_eq_ok.mp hremove
    exact ⟨fun hbuilt => .removed hbuilt hremove, rfl⟩
  | removeAll =>
    obtain rfl := Except.ok.inj h
    exact ⟨.cleared, rfl⟩
  | declare count =>
    obtain rfl := Except.ok.inj h
    exact ⟨.declared count, rfl⟩
  | trimAfter index =>
    obtain rfl := Except.ok.inj h
    cases htrim : r.trimAfter index with
    | none => exact ⟨id, rfl⟩
    | some trimmed =>
      obtain ⟨-, hafter, -⟩ := trimAfter_eq_some htrim
      refine ⟨fun hbuilt => .trimmed hbuilt htrim, ?_⟩
      rw [Option.elim_some, hafter]
  | addSensors key kind count =>
    obtain ⟨previous, hcount⟩ := map_fst_eq_ok.mp h
    obtain ⟨p, device, -, -, -, -, rfl⟩ := addSensors_eq_ok hcount
    exact ⟨fun hbuilt => .counted hbuilt hcount, rfl⟩
  | initSensor deviceKey kind index key =>
    obtain ⟨isNew, hinit⟩ := map_fst_eq_ok.mp h
    obtain ⟨-, p, device, sensor, -, -, -, rfl⟩ := keyed_of_initSensor hinit
    exact ⟨fun hbuilt => .keyed hbuilt hinit, rfl⟩
  | setState p kind index state =>
    obtain ⟨previous, hset⟩ := map_fst_eq_ok.mp h
    obtain ⟨device, sensor, -, -, rfl⟩ := setState_eq_ok hset
    exact ⟨fun hbuilt => .switched hbuilt hset, rfl⟩

theorem step_keeps (r : DeviceRegistry) (operation : DeviceOperation) :
    (r.Built → (r.step operation).1.Built) ∧ (r.step operation).1.maxSensors = r.maxSensors := by
  rcases step_cases r operation with ⟨after, hattempt, hstep⟩ | ⟨e, -, hstep⟩
  · rw [hstep]
    exact attempt_keeps hattempt
  · rw [hstep]
    exact ⟨id, rfl⟩

theorem performed_concat (maxSensors : Nat) (operations : List DeviceOperation)
    (operation : DeviceOperation) :
    performed maxSensors (operations ++ [operation]) =
      ((performed maxSensors operations).step operation).1 := by
  rw [performed, List.foldl_append]
  rfl

theorem built_performed (maxSensors : Nat) (operations : List DeviceOperation) :
    (performed maxSensors operations).Built ∧
      (performed maxSensors operations).maxSensors = maxSensors := by
  induction operations using List.reverseRecOn with
  | nil => exact ⟨.fresh maxSensors, rfl⟩
  | append_singleton operations operation ih =>
    obtain ⟨hbuilt, hlimit⟩ := step_keeps (performed maxSensors operations) operation
    rw [performed_concat]
    exact ⟨hbuilt ih.1, hlimit.trans ih.2⟩

/-! ### What successful operations change -/

/-- A device without sensors is put at an index, and those from there on stand one further. -/
structure Added (r : DeviceRegistry) (index : Nat) (key : String) (after : DeviceRegistry) :
    Prop where
  stands : after.devices[index]? = some { key }
  before : ∀ q < index, after.devices[q]? = r.devices[q]?
  shifted : ∀ q, index ≤ q → after.devices[q + 1]? = r.devices[q]?
  declared : after.declared = r.declared

/-- The sensors of one kind of one device are others than before, and nothing else is. -/
structure Regrouped (r : DeviceRegistry) (p : Nat) (kind : SensorKind) (sensors : SensorGroup)
    (after : DeviceRegistry) : Prop where
  order : after.keys = r.keys
  others : ∀ q, q ≠ p → after.devices[q]? = r.devices[q]?
  group : ∀ device, after.devices[p]? = some device → device.group kind = sensors
  groups : ∀ device changed, r.devices[p]? = some device → after.devices[p]? = some changed →
    ∀ other, other ≠ kind → changed.group other = device.group other
  declared : after.declared = r.declared

theorem added_inserted {index : Nat} (key : String) (hindex : index ≤ r.devices.length) :
    Added r index key (r.inserted index key) := by
  refine ⟨inserted_self key hindex, ?_, ?_, rfl⟩
  · intro q hq
    exact List.getElem?_insertIdx_of_lt hq
  · intro q hq
    exact List.getElem?_insertIdx_of_gt (Nat.lt_succ_of_le hq)

theorem regrouped_withGroup {p : Nat} {device : Device} (hp : r.devices[p]? = some device)
    (kind : SensorKind) (sensors : SensorGroup) :
    Regrouped r p kind sensors (r.replace p (device.withGroup kind sensors)) := by
  have hchanged : (r.replace p (device.withGroup kind sensors)).devices[p]? =
      some (device.withGroup kind sensors) := stands_replace hp _
  refine ⟨keys_replace hp (device.key_withGroup kind sensors), ?_, ?_, ?_, rfl⟩
  · intro q hq
    rw [getElem?_replace, if_neg (Ne.symm hq)]
  · intro changed h
    obtain rfl := Option.some.inj (hchanged.symm.trans h)
    rw [Device.group_withGroup, if_pos rfl]
  · intro old changed hold h other hother
    obtain rfl := Option.some.inj (hchanged.symm.trans h)
    obtain rfl := Option.some.inj (hp.symm.trans hold)
    rw [Device.group_withGroup, if_neg hother]

/-- What holds of a list of devices whatever was asked of it before. -/
structure Consistent (r : DeviceRegistry) : Prop where
  sound : r.Sound fun key => key ≠ ""
  found : ∀ key p, r.positionOf key = .ok p ↔ r.keys[p]? = some key
  refused : ∀ operation, (∃ e, (r.step operation).2 = some e) ↔ ¬ r.Permits operation
  kept : ∀ operation e, (r.step operation).2 = some e → (r.step operation).1 = r
  added : ∀ position key after index, r.add position key = .ok (after, index) →
    index = position.inList r.devices.length ∧ Added r index key after
  counted : ∀ key kind count after previous, r.addSensors key kind count = .ok (after, previous) →
    ∃ p device, r.keys[p]? = some key ∧ r.devices[p]? = some device ∧
      previous = (device.group kind).length ∧ Regrouped r p kind (.ofCount count) after
  keyed : ∀ deviceKey kind index key after isNew,
    r.initSensor deviceKey kind index key = .ok (after, isNew) →
      ∃ p device sensor, r.keys[p]? = some deviceKey ∧ r.Slot p kind index device sensor ∧
        Regrouped r p kind ((device.group kind).set index { sensor with key := some key }) after
  switched : ∀ p kind index state after previous,
    r.setState p kind index state = .ok (after, previous) →
      ∃ device sensor, r.Slot p kind index device sensor ∧ previous = sensor.state ∧
        Regrouped r p kind ((device.group kind).set index { sensor with state }) after

theorem Built.consistent (hbuilt : r.Built) : r.Consistent where
  sound := hbuilt.sound
  found := by
    intro key p
    rw [positionOf_eq_ok]
    exact position?_eq_some_iff hbuilt.sound.distinct
  refused := fun _ => exists_refusal_iff
  kept := fun _ _ => step_of_refusal
  added := by
    intro position key after index hadd
    have hpermits := exists_add_eq_ok_iff.mp ⟨after, index, hadd⟩
    obtain ⟨rfl, rfl⟩ := Prod.mk.inj (Except.ok.inj (hadd.symm.trans (add_of_permits hpermits)))
    exact ⟨rfl, added_inserted key hpermits.2.2⟩
  counted := by
    intro key kind count after previous hcount
    obtain ⟨p, device, hposition, hdevice, -, hprevious, rfl⟩ := addSensors_eq_ok hcount
    exact ⟨p, device, getElem?_keys_of_position? hposition, hdevice, hprevious,
      regrouped_withGroup hdevice kind _⟩
  keyed := by
    intro deviceKey kind index key after isNew hinit
    obtain ⟨-, p, device, sensor, hposition, hslot, -, rfl⟩ := keyed_of_initSensor hinit
    exact ⟨p, device, sensor, getElem?_keys_of_position? hposition, hslot,
      regrouped_withGroup hslot.stands kind _⟩
  switched := by
    intro p kind index state after previous hset
    obtain ⟨device, sensor, hslot, hprevious, rfl⟩ := setState_eq_ok hset
    exact ⟨device, sensor, hslot, hprevious, regrouped_withGroup hslot.stands kind _⟩

/-- After any sequence of operations on an empty list, refused ones among them, the list is
consistent, and its limit is the one it began with. -/
theorem operations_keep_consistent (maxSensors : Nat) (operations : List DeviceOperation) :
    (performed maxSensors operations).Consistent ∧
      (performed maxSensors operations).maxSensors = maxSensors := by
  obtain ⟨hbuilt, hlimit⟩ := built_performed maxSensors operations
  exact ⟨hbuilt.consistent, hlimit⟩

end DeviceRegistry

end RackTelemetry
