import RackTelemetry.Proofs.Inventory.Limits

/-!
Where a device ends up. Put at an index, a key stands there or at the end of the list, and the other
keys keep their order. Adding and moving a device puts it at its target, except that a device that
is to move to the place right after its own stays where it is.
-/

namespace RackTelemetry

namespace DeviceRegistry

/-! ### A key is put at an index -/

/-- The keys with this one put at an index; an index beyond the list is its end. -/
def placed (keys : List String) (key : String) (index : Nat) : List String :=
  (keys.erase key).insertIdx (min index (keys.erase key).length) key

variable {keys : List String} {key : String}

theorem length_placed (keys : List String) (key : String) (index : Nat) :
    (placed keys key index).length = (keys.erase key).length + 1 := by
  rw [placed, List.length_insertIdx, if_pos (Nat.min_le_right _ _)]

theorem getElem?_placed (keys : List String) (key : String) (index : Nat) :
    (placed keys key index)[min index ((placed keys key index).length - 1)]? = some key := by
  rw [length_placed, Nat.add_sub_cancel, placed, List.getElem?_insertIdx_self,
    if_pos (Nat.min_le_right _ _)]

theorem nodup_placed (hnodup : keys.Nodup) (key : String) (index : Nat) :
    (placed keys key index).Nodup := by
  have hperm := List.perm_insertIdx key (keys.erase key)
    (Nat.min_le_right index (keys.erase key).length)
  exact hperm.nodup_iff.mpr (List.nodup_cons.mpr ⟨hnodup.not_mem_erase, hnodup.erase key⟩)

/-- The other keys keep their order. -/
theorem erase_placed (hnodup : keys.Nodup) (key : String) (index : Nat) :
    (placed keys key index).erase key = keys.erase key := by
  obtain ⟨hlt, hkey⟩ := List.getElem?_eq_some_iff.mp (getElem?_placed keys key index)
  have herase := (nodup_placed hnodup key index).erase_getElem _ hlt
  rw [hkey, length_placed, Nat.add_sub_cancel] at herase
  rw [herase, placed, List.eraseIdx_insertIdx_self]

theorem keys_inserted_placed {r : DeviceRegistry} (hnew : key ∉ r.keys) {index : Nat}
    (hindex : index ≤ r.devices.length) : (r.inserted index key).keys = placed r.keys key index := by
  rw [keys_inserted, placed, List.erase_of_not_mem hnew, length_keys, Nat.min_eq_left hindex]

/-! ### Moving a device -/

variable {r : DeviceRegistry} {source index : Nat} {device : Device}

/-- A device moves to any place but the one right after its own. -/
theorem move_to (hnodup : r.keys.Nodup) (hsource : r.devices[source]? = some device)
    (target : Position) (index : Nat) (htarget : target = .last ∧ index + 1 = r.devices.length ∨
      target = .index index ∧ index < r.devices.length ∧ index ≠ source + 1) :
    r.move source target =
      .ok ({ r with devices := (r.devices.eraseIdx source).insertIdx index device },
        index != source) := by
  obtain ⟨hlt, hget⟩ := List.getElem?_eq_some_iff.mp hsource
  have hempty : ¬ r.devices.length = 0 := by omega
  have hbeyond : ¬ r.devices.length ≤ source := by omega
  rcases htarget with ⟨rfl, hend⟩ | ⟨rfl, hindex, hne⟩
  · have hlength : (r.devices.eraseIdx source).length = index := by
      rw [List.length_eraseIdx_of_lt hlt]
      omega
    unfold move
    simp only [hempty, hbeyond, if_false, hsource, bind, Except.bind, pure, Except.pure,
      Option.bind_none, Option.map_none, Option.map_eq_none_iff, Option.getD_none, hlength]
    split
    · -- without a follower the device is the last one already
      next hfollower =>
      have hlast : index = source := by
        have := List.getElem?_eq_none_iff.mp hfollower
        omega
      rw [hlast, ← hget, List.insertIdx_eraseIdx_getElem hlt, bne_self_eq_false]
    · rfl
  · have hother : ¬ r.devices[source + 1]?.map Device.key = r.devices[index]?.map Device.key := by
      rw [← getElem?_keys, ← getElem?_keys]
      intro h
      exact hne ((List.getElem?_inj (by rwa [length_keys]) hnodup).mp h.symm)
    unfold move
    simp only [hempty, hbeyond, hindex, hsource, if_false, if_true, bind, Except.bind, pure,
      Except.pure, Option.bind_some, hother, Option.getD_some]

/-- A device that stands right before its target stays. -/
theorem move_follower (r : DeviceRegistry) (h : source + 1 < r.devices.length) :
    r.move source (.index (source + 1)) = .ok (r, false) := by
  have hempty : ¬ r.devices.length = 0 := by omega
  have hbeyond : ¬ r.devices.length ≤ source := by omega
  unfold move
  simp only [hempty, hbeyond, h, if_false, if_true, bind, Except.bind, pure, Except.pure,
    Option.bind_some]

theorem keys_moved (hnodup : r.keys.Nodup) (hsource : r.devices[source]? = some device)
    (index : Nat) :
    ({ r with devices := (r.devices.eraseIdx source).insertIdx index device } :
      DeviceRegistry).keys = (r.keys.erase device.key).insertIdx index device.key := by
  obtain ⟨hlt, hget⟩ := List.getElem?_eq_some_iff.mp hsource
  have hlt' : source < r.keys.length := by rwa [length_keys]
  have hkey : r.keys[source] = device.key := by simp [keys, hget]
  have herase := hnodup.erase_getElem source hlt'
  rw [hkey] at herase
  rw [herase, keys, keys, List.map_insertIdx, List.eraseIdx_map]

/-- A device moves to its announced position or to the end; from right before that position it does
not move. -/
theorem exists_move_placed (hnodup : r.keys.Nodup) (hsource : r.devices[source]? = some device)
    (position : Nat) :
    ∃ after changed,
      r.move source (if r.devices.length ≤ position then .last else .index position) =
        .ok (after, changed) ∧
      after.keys =
        if source + 1 = position ∧ position < r.devices.length then r.keys
        else placed r.keys device.key position := by
  have hlt : source < r.devices.length := (List.getElem?_eq_some_iff.mp hsource).1
  have hmem : device.key ∈ r.keys := List.mem_map_of_mem (List.mem_of_getElem? hsource)
  have hothers : (r.keys.erase device.key).length = r.devices.length - 1 := by
    rw [List.length_erase_of_mem hmem, length_keys]
  split
  · next hbeyond =>
    have hmove := move_to hnodup hsource .last (r.devices.length - 1) (.inl ⟨rfl, by omega⟩)
    refine ⟨_, _, hmove, ?_⟩
    rw [keys_moved hnodup hsource, if_neg (by omega), placed, hothers,
      Nat.min_eq_right (by omega)]
  · next hwithin =>
    by_cases hfollower : source + 1 = position
    · subst hfollower
      refine ⟨r, false, move_follower r (by omega), ?_⟩
      rw [if_pos ⟨rfl, by omega⟩]
    · have hmove := move_to hnodup hsource (.index position) position
        (.inr ⟨rfl, by omega, by omega⟩)
      refine ⟨_, _, hmove, ?_⟩
      rw [keys_moved hnodup hsource, if_neg (fun h => hfollower h.1), placed, hothers,
        Nat.min_eq_left (by omega)]

/-! ### Settling a device -/

/-- The device with this key stands right before a position of the list. -/
def StandsBefore (r : DeviceRegistry) (key : String) (position : Nat) : Prop :=
  position < r.devices.length ∧ (r.position? key).map (· + 1) = some position

instance (r : DeviceRegistry) (key : String) (position : Nat) :
    Decidable (r.StandsBefore key position) :=
  inferInstanceAs (Decidable (_ ∧ _))

/-- The keys after a device is settled at a position: one that stands right before it stays. -/
def settledKeys (r : DeviceRegistry) (key : String) (position : Nat) : List String :=
  if r.StandsBefore key position then r.keys else placed r.keys key position

/-- Where a device stands after it is settled at a position, in a list of `len` devices. -/
def settledAt (r : DeviceRegistry) (key : String) (position len : Nat) : Nat :=
  if r.StandsBefore key position then position - 1 else min position (len - 1)

theorem position?_of_getElem?_keys (hnodup : r.keys.Nodup) (h : r.keys[index]? = some key) :
    r.position? key = some index := by
  rw [getElem?_keys] at h
  obtain ⟨device, hdevice, rfl⟩ := Option.map_eq_some_iff.mp h
  exact position?_of_device hnodup hdevice

theorem getElem?_keys_of_position? (h : r.position? key = some index) :
    r.keys[index]? = some key := by
  obtain ⟨device, hdevice, rfl⟩ := device_of_position? h
  rw [getElem?_keys, hdevice]
  rfl

theorem position?_eq_some_iff (hnodup : r.keys.Nodup) :
    r.position? key = some index ↔ r.keys[index]? = some key :=
  ⟨getElem?_keys_of_position?, position?_of_getElem?_keys hnodup⟩

theorem StandsBefore.getElem?_keys {position : Nat} (h : r.StandsBefore key position) :
    0 < position ∧ r.keys[position - 1]? = some key := by
  obtain ⟨source, hsource, rfl⟩ := Option.map_eq_some_iff.mp h.2
  obtain ⟨device, hdevice, rfl⟩ := device_of_position? hsource
  refine ⟨Nat.succ_pos source, ?_⟩
  rw [Nat.add_sub_cancel, DeviceRegistry.getElem?_keys, hdevice]
  rfl

theorem nodup_settledKeys (hnodup : r.keys.Nodup) (key : String) (position : Nat) :
    (r.settledKeys key position).Nodup := by
  unfold settledKeys
  split
  · exact hnodup
  · exact nodup_placed hnodup key position

theorem erase_settledKeys (hnodup : r.keys.Nodup) (key : String) (position : Nat) :
    (r.settledKeys key position).erase key = r.keys.erase key := by
  unfold settledKeys
  split
  · rfl
  · exact erase_placed hnodup key position

theorem getElem?_settledKeys (r : DeviceRegistry) (key : String) (position : Nat) :
    (r.settledKeys key position)[r.settledAt key position (r.settledKeys key position).length]? =
      some key := by
  unfold settledKeys settledAt
  split
  · next hbefore => exact hbefore.getElem?_keys.2
  · exact getElem?_placed r.keys key position

theorem settledAt_le (r : DeviceRegistry) (key : String) (position len : Nat) :
    r.settledAt key position len ≤ position := by
  unfold settledAt
  split
  · exact Nat.sub_le _ _
  · exact Nat.min_le_left _ _

/-- Dropping what stands after the position does not change where the device stands. -/
theorem settledAt_min (r : DeviceRegistry) (key : String) (position len : Nat) :
    r.settledAt key position (min (position + 1) len) = r.settledAt key position len := by
  unfold settledAt
  split
  · rfl
  · omega

/-! ### Registries built by operations -/

/-- The registries that the operations lead to, starting with a fresh one. -/
inductive Built : DeviceRegistry → Prop where
  | fresh (maxSensors : Nat) : Built { maxSensors }
  | declared {r : DeviceRegistry} (count : Nat) : Built r → Built (r.declare count)
  | added {r after : DeviceRegistry} {position : Position} {key : String} {index : Nat} :
    Built r → r.add position key = .ok (after, index) → Built after
  | moved {r after : DeviceRegistry} {source : Nat} {target : Position} {changed : Bool} :
    Built r → r.move source target = .ok (after, changed) → Built after
  | removed {r after : DeviceRegistry} {p : Nat} {device : Device} :
    Built r → r.remove p = .ok (after, device) → Built after
  | cleared {r : DeviceRegistry} : Built r → Built r.removeAll.1
  | trimmed {r after : DeviceRegistry} {index : Nat} {dropped : List (Nat × Device)} :
    Built r → r.trimAfter index = some (after, dropped) → Built after
  | counted {r after : DeviceRegistry} {key : String} {kind : SensorKind} {count previous : Nat} :
    Built r → r.addSensors key kind count = .ok (after, previous) → Built after
  | keyed {r after : DeviceRegistry} {deviceKey key : String} {kind : SensorKind} {index : Nat}
      {isNew : Bool} :
    Built r → r.initSensor deviceKey kind index key = .ok (after, isNew) → Built after
  | switched {r after : DeviceRegistry} {p index : Nat} {kind : SensorKind}
      {state previous : SensorState} :
    Built r → r.setState p kind index state = .ok (after, previous) → Built after

theorem add_eq_ok {after : DeviceRegistry} {position : Position}
    (h : r.add position key = .ok (after, index)) :
    key ≠ "" ∧ key ∉ r.keys ∧ index ≤ r.devices.length ∧ after = r.inserted index key := by
  unfold add at h
  split at h
  · cases h
  split at h
  · cases h
  next hkey hknown =>
  have hkey' : key ≠ "" := by simpa using hkey
  have hnew : key ∉ r.keys := by simpa [keys] using hknown
  cases position with
  | last =>
    obtain ⟨rfl, rfl⟩ := Prod.mk.inj (Except.ok.inj h)
    exact ⟨hkey', hnew, Nat.le_refl _, rfl⟩
  | index i =>
    simp only at h
    split at h
    · next hle =>
      obtain ⟨rfl, rfl⟩ := Prod.mk.inj (Except.ok.inj h)
      exact ⟨hkey', hnew, hle, rfl⟩
    · cases h

/-- However a registry was built, its keys are distinct and not empty, and its groups are within the
limit. -/
theorem Built.sound (h : r.Built) : r.Sound fun key => key ≠ "" := by
  induction h with
  | fresh maxSensors => exact ⟨.nil, fun _ hmem => (List.not_mem_nil hmem).elim,
      fun _ hmem => (List.not_mem_nil hmem).elim⟩
  | declared count _ ih => exact ih.of_perm (.refl _) rfl
  | added _ hadd ih =>
    obtain ⟨hkey, hnew, hindex, rfl⟩ := add_eq_ok hadd
    exact ih.inserted hkey hnew hindex
  | moved _ hmove ih =>
    obtain ⟨hperm, -, hlimit, -⟩ := perm_of_move hmove
    exact ih.of_perm hperm hlimit
  | removed _ hremove ih =>
    obtain ⟨_, -, hremove⟩ := exists_of_bind_eq_ok hremove
    obtain ⟨rfl, -⟩ := Prod.mk.inj (Except.ok.inj hremove)
    exact ih.of_sublist (List.eraseIdx_sublist _ _) rfl
  | cleared _ ih => exact ih.of_sublist (List.nil_sublist _) rfl
  | trimmed _ htrim ih =>
    obtain ⟨-, rfl, -⟩ := trimAfter_eq_some htrim
    exact ih.of_sublist (List.take_sublist _ _) rfl
  | counted _ hcount ih =>
    obtain ⟨p, device, -, hp, hcount, -, rfl⟩ := addSensors_eq_ok hcount
    exact ih.withGroup hp (by rwa [SensorGroup.ofCount, List.length_replicate])
  | keyed _ hinit ih =>
    obtain ⟨p, device, sensor, -, hslot, ⟨-, rfl⟩ | ⟨-, -, -, rfl⟩⟩ := initSensor_eq_ok hinit
    · exact ih
    · exact ih.withSlot hslot.stands _
  | switched _ hset ih =>
    obtain ⟨device, sensor, hslot, -, rfl⟩ := setState_eq_ok hset
    exact ih.withSlot hslot.stands _

end DeviceRegistry

end RackTelemetry
