import Mathlib.Data.List.InsertIdx
import Mathlib.Data.List.Nodup
import Mathlib.Data.List.Perm.Basic
import RackTelemetry.Inventory.Device

/-!
The order of the devices. With distinct keys a key stands for one position; adding a device shifts
those after it, moving one permutes the list, and trimming keeps a beginning of it.
-/

namespace RackTelemetry

namespace DeviceRegistry

variable {r after : DeviceRegistry}

theorem getElem?_keys (r : DeviceRegistry) (p : Nat) :
    r.keys[p]? = r.devices[p]?.map Device.key := by
  simp [keys]

theorem position?_eq_findIdx?_keys (r : DeviceRegistry) (key : String) :
    r.position? key = r.keys.findIdx? fun other => other = key := by
  rw [keys, List.findIdx?_map]
  rfl

theorem device_of_position? {key : String} {p : Nat} (h : r.position? key = some p) :
    ∃ device, r.devices[p]? = some device ∧ device.key = key := by
  obtain ⟨hp, hkey, -⟩ := List.findIdx?_eq_some_iff_getElem.mp h
  exact ⟨r.devices[p], List.getElem?_eq_getElem hp, by simpa using hkey⟩

theorem position?_eq_none_iff {key : String} : r.position? key = none ↔ key ∉ r.keys := by
  simp [position?, keys, List.findIdx?_eq_none_iff]

theorem position_unique (hnodup : r.keys.Nodup) {p q : Nat} {d e : Device}
    (hp : r.devices[p]? = some d) (hq : r.devices[q]? = some e) (hkey : d.key = e.key) : p = q := by
  have hlt : p < r.keys.length := by
    rw [length_keys]
    exact (List.getElem?_eq_some_iff.mp hp).1
  refine (List.getElem?_inj hlt hnodup).mp ?_
  rw [getElem?_keys, getElem?_keys, hp, hq]
  simp [hkey]

theorem position?_of_device (hnodup : r.keys.Nodup) {p : Nat} {device : Device}
    (h : r.devices[p]? = some device) : r.position? device.key = some p := by
  cases hpos : r.position? device.key with
  | none =>
    have hmem : device.key ∈ r.keys := List.mem_map_of_mem (List.mem_of_getElem? h)
    exact absurd hmem (position?_eq_none_iff.mp hpos)
  | some q =>
    obtain ⟨other, hq, hkey⟩ := device_of_position? hpos
    rw [position_unique hnodup hq h hkey]

theorem position?_of_mem (hnodup : r.keys.Nodup) {device : Device} (h : device ∈ r.devices) :
    ∃ p, r.devices[p]? = some device ∧ r.position? device.key = some p := by
  obtain ⟨p, hp⟩ := List.mem_iff_getElem?.mp h
  exact ⟨p, hp, position?_of_device hnodup hp⟩

theorem positionOf_eq_ok {key : String} {p : Nat} :
    r.positionOf key = .ok p ↔ r.position? key = some p := by
  unfold positionOf
  split
  · next hempty =>
    have hnil : r.devices = [] := List.isEmpty_iff.mp hempty
    simp [position?, hnil]
  · cases r.position? key with
    | none => simp
    | some q => simp

theorem positionOf_eq_error {key : String} {e : Error} (h : r.positionOf key = .error e) :
    r.position? key = none ∧ e.isNotFound = true := by
  unfold positionOf at h
  split at h
  · next hempty =>
    have hnil : r.devices = [] := List.isEmpty_iff.mp hempty
    obtain rfl := Except.error.inj h
    exact ⟨by simp [position?, hnil], rfl⟩
  · cases hpos : r.position? key with
    | none =>
      rw [hpos] at h
      obtain rfl := Except.error.inj h
      exact ⟨rfl, rfl⟩
    | some q =>
      rw [hpos] at h
      cases h

theorem deviceAt_eq_ok {p : Nat} {device : Device} :
    r.deviceAt p = .ok device ↔ r.devices[p]? = some device := by
  unfold deviceAt
  split
  · next hempty =>
    have hnil : r.devices = [] := List.isEmpty_iff.mp hempty
    simp [hnil]
  · cases r.devices[p]? with
    | none => simp
    | some d => simp

/-! ### Adding a device -/

def inserted (r : DeviceRegistry) (index : Nat) (key : String) : DeviceRegistry :=
  { r with devices := r.devices.insertIdx index { key } }

/-- A device that is not there yet can be added anywhere up to the end. -/
theorem add_index {key : String} {i : Nat} (hkey : key ≠ "") (hnew : key ∉ r.keys)
    (hi : i ≤ r.devices.length) :
    r.add (.index i) key = .ok (r.inserted i key, i) := by
  have hknown : (r.devices.any fun device => device.key = key) = false := by
    simpa [keys] using hnew
  simp [add, hkey, hknown, hi, inserted]

theorem add_last {key : String} (hkey : key ≠ "") (hnew : key ∉ r.keys) :
    r.add .last key = .ok (r.inserted r.devices.length key, r.devices.length) := by
  have hknown : (r.devices.any fun device => device.key = key) = false := by
    simpa [keys] using hnew
  simp [add, hkey, hknown, inserted]

theorem keys_inserted (r : DeviceRegistry) (i : Nat) (key : String) :
    (r.inserted i key).keys = r.keys.insertIdx i key := by
  rw [keys, inserted, List.map_insertIdx, keys]

theorem nodup_keys_inserted (hnodup : r.keys.Nodup) {i : Nat} {key : String}
    (hi : i ≤ r.devices.length) (hnew : key ∉ r.keys) : (r.inserted i key).keys.Nodup := by
  rw [keys_inserted]
  have hperm := List.perm_insertIdx key r.keys (by simpa using hi)
  exact hperm.nodup_iff.mpr (List.nodup_cons.mpr ⟨hnew, hnodup⟩)

theorem mem_inserted {i : Nat} {key : String} {device : Device} (hi : i ≤ r.devices.length) :
    device ∈ (r.inserted i key).devices ↔ device = { key } ∨ device ∈ r.devices :=
  List.mem_insertIdx hi

theorem kept_inserted {i : Nat} (key : String) (hi : i ≤ r.devices.length) :
    ∀ device ∈ r.devices, device ∈ (r.inserted i key).devices := by
  intro device hmem
  exact (mem_inserted hi).mpr (.inr hmem)

theorem inserted_self {i : Nat} (key : String) (hi : i ≤ r.devices.length) :
    (r.inserted i key).devices[i]? = some { key } := by
  rw [inserted, List.getElem?_insertIdx_self, if_pos hi]

/-! ### Moving a device -/

/-- Taking a device out and putting it in again permutes the list. -/
theorem perm_insertIdx_eraseIdx {devices : List Device} {source index : Nat} {device : Device}
    (hsource : devices[source]? = some device) (hindex : index < devices.length) :
    ((devices.eraseIdx source).insertIdx index device).Perm devices := by
  obtain ⟨hlt, hget⟩ := List.getElem?_eq_some_iff.mp hsource
  have hlen := List.length_eraseIdx_of_lt hlt
  have hput := List.perm_insertIdx device (devices.eraseIdx source) (i := index) (by omega)
  have htake := List.getElem_cons_eraseIdx_perm hlt
  rw [hget] at htake
  exact hput.trans htake

/-- What a move that is not a matter of course does, with the index the device ends up at. -/
theorem move_eq_ok {source : Nat} {target : Position} {changed : Bool}
    (h : r.move source target = .ok (after, changed)) :
    (after = r ∧ changed = false) ∨
      ∃ device index, r.devices[source]? = some device ∧ index < r.devices.length ∧
        changed = (index != source) ∧
        after = { r with devices := (r.devices.eraseIdx source).insertIdx index device } := by
  unfold move at h
  simp only at h
  split at h
  · cases h
  split at h
  · cases h
  next hempty hsource =>
  have hlt : source < r.devices.length := by omega
  have hget : r.devices[source]? = some r.devices[source] := List.getElem?_eq_getElem hlt
  have hlen := List.length_eraseIdx_of_lt hlt
  cases target with
  | last =>
    simp only [bind, Except.bind, pure, Except.pure, hget] at h
    split at h
    · obtain ⟨rfl, rfl⟩ := Prod.mk.inj (Except.ok.inj h)
      exact .inl ⟨rfl, rfl⟩
    · obtain ⟨rfl, rfl⟩ := Prod.mk.inj (Except.ok.inj h)
      exact .inr ⟨_, _, hget, by simp only [Option.getD_none]; omega, rfl, rfl⟩
  | index i =>
    by_cases hi : i < r.devices.length
    · simp only [bind, Except.bind, pure, Except.pure, hget, hi, if_true] at h
      split at h
      · obtain ⟨rfl, rfl⟩ := Prod.mk.inj (Except.ok.inj h)
        exact .inl ⟨rfl, rfl⟩
      · obtain ⟨rfl, rfl⟩ := Prod.mk.inj (Except.ok.inj h)
        exact .inr ⟨_, _, hget, hi, rfl, rfl⟩
    · simp [hi, bind, Except.bind] at h

theorem exists_move (r : DeviceRegistry) {source : Nat} (target : Position)
    (hsource : source < r.devices.length)
    (htarget : ∀ i, target = .index i → i < r.devices.length) :
    ∃ after changed, r.move source target = .ok (after, changed) := by
  have hempty : ¬ r.devices.length = 0 := by omega
  have hbeyond : ¬ r.devices.length ≤ source := by omega
  have hget : r.devices[source]? = some r.devices[source] := List.getElem?_eq_getElem hsource
  unfold move
  cases target with
  | last =>
    simp only [hempty, hbeyond, if_false, bind, Except.bind, pure, Except.pure, hget]
    split <;> exact ⟨_, _, rfl⟩
  | index i =>
    simp only [hempty, hbeyond, htarget i rfl, if_false, if_true, bind, Except.bind, pure,
      Except.pure, hget]
    split <;> exact ⟨_, _, rfl⟩

/-- A move permutes the devices and changes nothing else; told that the order is unchanged, it has
changed nothing at all. -/
theorem perm_of_move {source : Nat} {target : Position} {changed : Bool}
    (h : r.move source target = .ok (after, changed)) :
    after.devices.Perm r.devices ∧ after.declared = r.declared ∧
      after.maxSensors = r.maxSensors ∧ (changed = false → after = r) := by
  rcases move_eq_ok h with ⟨rfl, -⟩ | ⟨device, index, hsource, hindex, rfl, rfl⟩
  · exact ⟨.refl _, rfl, rfl, fun _ => rfl⟩
  · refine ⟨perm_insertIdx_eraseIdx hsource hindex, rfl, rfl, ?_⟩
    intro hchanged
    obtain rfl : index = source := by simpa using hchanged
    obtain ⟨hlt, rfl⟩ := List.getElem?_eq_some_iff.mp hsource
    rw [List.insertIdx_eraseIdx_getElem hlt]

/-- A device moves to an earlier position without exception: only the device right after it could
keep it in place. -/
theorem move_earlier (hnodup : r.keys.Nodup) {source i : Nat} {device : Device}
    (hsource : r.devices[source]? = some device) (hi : i < source) :
    r.move source (.index i) =
      .ok ({ r with devices := (r.devices.eraseIdx source).insertIdx i device }, true) := by
  obtain ⟨hlt, hget⟩ := List.getElem?_eq_some_iff.mp hsource
  have hilt : i < r.devices.length := by omega
  have hempty : ¬ r.devices.length = 0 := by omega
  have hbeyond : ¬ r.devices.length ≤ source := by omega
  have hother : ¬ r.devices[source + 1]?.map Device.key = r.devices[i]?.map Device.key := by
    rw [← getElem?_keys, ← getElem?_keys]
    intro h
    have := (List.getElem?_inj (by rw [length_keys]; exact hilt) hnodup).mp h.symm
    omega
  have hchanged : (i != source) = true := bne_iff_ne.mpr (by omega)
  unfold move
  simp only [hempty, hbeyond, hilt, hsource, if_false, if_true, bind, Except.bind, pure,
    Except.pure, Option.bind_some, hother, Option.getD_some, hchanged]

/-! ### Dropping the tail -/

variable {after : DeviceRegistry} {dropped : List (Nat × Device)} {index : Nat}

/-- The last announced index is one less than the announced number. -/
theorem completesDeclared_eq_true_iff :
    r.completesDeclared index = some true ↔
      index < Number.maxWord ∧ r.declared = index + 1 := by
  unfold completesDeclared
  split
  · simp only [Option.some.injEq, Bool.false_eq_true, false_iff]
    omega
  · rw [Option.map_eq_some_iff]
    simp only [Number.ordinal?_eq_some_iff, decide_eq_true_eq]
    constructor
    · rintro ⟨number, ⟨hindex, hnumber⟩, hlast⟩
      exact ⟨hindex, hlast.symm.trans hnumber.symm⟩
    · rintro ⟨hindex, hlast⟩
      exact ⟨index + 1, ⟨hindex, rfl⟩, hlast.symm⟩

/-- There is no answer at the largest index once devices are announced. -/
theorem completesDeclared_eq_none_iff :
    r.completesDeclared index = none ↔ 0 < r.declared ∧ Number.maxWord ≤ index := by
  unfold completesDeclared
  split
  · simp only [reduceCtorEq, false_iff]
    omega
  · rw [Option.map_eq_none_iff, Number.ordinal?_eq_none_iff, Nat.pos_iff_ne_zero]
    exact (and_iff_right ‹_›).symm

theorem exists_trimAfter (r : DeviceRegistry) (hindex : index < Number.maxWord) :
    ∃ after dropped, r.trimAfter index = some (after, dropped) := by
  rw [trimAfter, Number.ordinal?_of_lt hindex]
  exact ⟨_, _, rfl⟩

theorem trimAfter_eq_some (h : r.trimAfter index = some (after, dropped)) :
    index < Number.maxWord ∧ after = { r with devices := r.devices.take (index + 1) } ∧
      dropped = (r.devices.zipIdx.drop (index + 1)).reverse.map
        fun (device, position) => (position, device) := by
  obtain ⟨kept, hkept, htrimmed⟩ := Option.map_eq_some_iff.mp h
  obtain ⟨hindex, rfl⟩ := Number.ordinal?_eq_some_iff.mp hkept
  obtain ⟨rfl, rfl⟩ := Prod.mk.inj htrimmed
  exact ⟨hindex, rfl, rfl⟩

theorem trimAfter_eq_none_iff : r.trimAfter index = none ↔ Number.maxWord ≤ index := by
  rw [trimAfter, Option.map_eq_none_iff, Number.ordinal?_eq_none_iff]

/-- The dropped devices are those after the given position, each with its own position. -/
theorem mem_trimAfter (h : r.trimAfter index = some (after, dropped)) {p : Nat} {device : Device} :
    (p, device) ∈ dropped ↔ index + 1 ≤ p ∧ r.devices[p]? = some device := by
  obtain ⟨-, -, rfl⟩ := trimAfter_eq_some h
  simp only [List.mem_map, List.mem_reverse, Prod.mk.injEq]
  constructor
  · rintro ⟨⟨d, i⟩, hmem, rfl, rfl⟩
    obtain ⟨k, hk⟩ := List.mem_iff_getElem?.mp hmem
    rw [List.getElem?_drop, List.getElem?_zipIdx] at hk
    obtain ⟨d', hd', heq⟩ := Option.map_eq_some_iff.mp hk
    obtain ⟨rfl, hi⟩ := Prod.mk.inj heq
    rw [Nat.zero_add] at hi
    subst hi
    exact ⟨by omega, hd'⟩
  · rintro ⟨hle, hp⟩
    refine ⟨(device, p), List.mem_iff_getElem?.mpr ⟨p - (index + 1), ?_⟩, rfl, rfl⟩
    rw [List.getElem?_drop, List.getElem?_zipIdx, Nat.add_sub_cancel' hle, hp]
    simp

end DeviceRegistry

end RackTelemetry
