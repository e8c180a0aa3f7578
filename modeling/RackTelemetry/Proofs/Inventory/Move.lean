import RackTelemetry.Proofs.Inventory.Placement

/-!
What a move does to the list of devices. It is refused exactly where there is no device to move or
no position to move it to. Otherwise the device stands at its target and the others keep their
order, and the move tells whether the order is another one than before. A device that stands right
before its target is the exception: it stays.
-/

namespace RackTelemetry

namespace DeviceRegistry

variable {r : DeviceRegistry} {source index : Nat} {target : Position} {device : Device}

/-- A move is refused if there are no devices, if none stands at the source, or if the target is no
position of the list. -/
theorem exists_move_eq_error_iff :
    (∃ e, r.move source target = .error e) ↔
      r.devices = [] ∨ r.devices.length ≤ source ∨
        ∃ i, target = .index i ∧ r.devices.length ≤ i := by
  constructor
  · rintro ⟨e, herror⟩
    by_contra hvalid
    obtain ⟨-, hvalid⟩ := not_or.mp hvalid
    obtain ⟨hsource, htarget⟩ := not_or.mp hvalid
    have hwithin : ∀ i, target = .index i → i < r.devices.length := fun i hi =>
      Nat.lt_of_not_le fun hle => htarget ⟨i, hi, hle⟩
    obtain ⟨after, changed, hmove⟩ := r.exists_move target (Nat.lt_of_not_le hsource) hwithin
    rw [hmove] at herror
    cases herror
  · intro hrefused
    by_cases hempty : r.devices.length = 0
    · exact ⟨.emptyRegistry, by simp only [move, hempty, if_true]⟩
    by_cases hsource : r.devices.length ≤ source
    · exact ⟨.outOfBounds source r.devices.length, by
        simp only [move, hempty, hsource, if_false, if_true]⟩
    rcases hrefused with hnil | hbeyond | ⟨i, rfl, hi⟩
    · exact absurd (List.length_eq_zero_iff.mpr hnil) hempty
    · exact absurd hbeyond hsource
    · refine ⟨.outOfBounds i r.devices.length, ?_⟩
      simp only [move, hempty, hsource, Nat.not_lt.mpr hi, if_false, bind, Except.bind]

/-- Where a device stands after it is moved from `source`: at its target, or where it stood if that
was right before the target. -/
def landing (r : DeviceRegistry) (source : Nat) : Position → Nat
  | .last => r.devices.length - 1
  | .index i => if i = source + 1 then source else i

/-- What a move of the device at `source` leads to. -/
structure Moved (r : DeviceRegistry) (source : Nat) (target : Position) (after : DeviceRegistry)
    (changed : Bool) : Prop where
  /-- The devices are those from before, with their sensors. -/
  perm : after.devices.Perm r.devices
  stands : after.devices[r.landing source target]? = r.devices[source]?
  /-- Apart from the device that is moved, the devices stand in the order from before. -/
  others : after.devices.eraseIdx (r.landing source target) = r.devices.eraseIdx source
  stays : target = .index (source + 1) → after = r
  told : changed = true ↔ after.keys ≠ r.keys
  declared : after.declared = r.declared
  maxSensors : after.maxSensors = r.maxSensors

theorem moved_self (r : DeviceRegistry) (source : Nat) :
    Moved r source (.index (source + 1)) r false := by
  have hlanding : r.landing source (.index (source + 1)) = source := if_pos rfl
  refine ⟨.refl _, ?_, ?_, fun _ => rfl, by simp, rfl, rfl⟩
  · rw [hlanding]
  · rw [hlanding]

/-- The key at the new place tells that the order is another one. -/
theorem keys_moved_ne_iff (hnodup : r.keys.Nodup) (hsource : r.devices[source]? = some device)
    (hindex : index < r.devices.length) :
    ({ r with devices := (r.devices.eraseIdx source).insertIdx index device } :
      DeviceRegistry).keys ≠ r.keys ↔ index ≠ source := by
  obtain ⟨hlt, hget⟩ := List.getElem?_eq_some_iff.mp hsource
  constructor
  · rintro hkeys rfl
    rw [← hget, List.insertIdx_eraseIdx_getElem hlt] at hkeys
    exact hkeys rfl
  · intro hne hkeys
    have hbefore : r.keys[source]? = some device.key := by rw [getElem?_keys, hsource]; rfl
    have hafter : r.keys[index]? = some device.key := by
      have hlength := List.length_eraseIdx_of_lt hlt
      rw [← hkeys, getElem?_keys, List.getElem?_insertIdx_self, if_pos (by omega)]
      rfl
    have hlt' : index < r.keys.length := by rwa [length_keys]
    exact hne ((List.getElem?_inj hlt' hnodup).mp (hafter.trans hbefore.symm))

theorem moved_to (hnodup : r.keys.Nodup) (hsource : r.devices[source]? = some device)
    (hindex : index < r.devices.length) (hlanding : r.landing source target = index)
    (htarget : target ≠ .index (source + 1)) :
    Moved r source target
      { r with devices := (r.devices.eraseIdx source).insertIdx index device }
      (index != source) := by
  have hlt : source < r.devices.length := (List.getElem?_eq_some_iff.mp hsource).1
  have hlength := List.length_eraseIdx_of_lt hlt
  refine ⟨perm_insertIdx_eraseIdx hsource hindex, ?_, ?_, fun h => absurd h htarget, ?_, rfl, rfl⟩
  · rw [hlanding, hsource, List.getElem?_insertIdx_self, if_pos (by omega)]
  · rw [hlanding, List.eraseIdx_insertIdx_self]
  · rw [keys_moved_ne_iff hnodup hsource hindex, bne_iff_ne]

/-- A move is refused exactly if there are no devices, none stands at the source, or the target is
no position; a refused move leaves no list but the old one. Every other move puts the device at its
target, unless it stands right before it, and keeps the order of the others. -/
theorem move_relocates (hnodup : r.keys.Nodup) (source : Nat) (target : Position) :
    ((∃ e, r.move source target = .error e) ↔
      r.devices = [] ∨ r.devices.length ≤ source ∨
        ∃ i, target = .index i ∧ r.devices.length ≤ i) ∧
    ∀ after changed, r.move source target = .ok (after, changed) →
      Moved r source target after changed := by
  refine ⟨exists_move_eq_error_iff, ?_⟩
  intro after changed hmove
  have hvalid : ¬ ∃ e, r.move source target = .error e := by
    rintro ⟨e, herror⟩
    rw [hmove] at herror
    cases herror
  rw [exists_move_eq_error_iff, not_or, not_or] at hvalid
  obtain ⟨-, hsource, htarget⟩ := hvalid
  have hlt : source < r.devices.length := Nat.lt_of_not_le hsource
  have hdevice : r.devices[source]? = some r.devices[source] := List.getElem?_eq_getElem hlt
  cases target with
  | last =>
    have hlast := move_to hnodup hdevice .last (r.devices.length - 1) (.inl ⟨rfl, by omega⟩)
    obtain ⟨rfl, rfl⟩ := Prod.mk.inj (Except.ok.inj (hmove.symm.trans hlast))
    exact moved_to hnodup hdevice (by omega) rfl nofun
  | index i =>
    have hi : i < r.devices.length := Nat.lt_of_not_le fun hle => htarget ⟨i, rfl, hle⟩
    by_cases hfollower : i = source + 1
    · subst hfollower
      have hstays := r.move_follower hi
      obtain ⟨hafter, rfl⟩ := Prod.mk.inj (Except.ok.inj (hmove.symm.trans hstays))
      rw [hafter]
      exact moved_self r source
    · have hindex := move_to hnodup hdevice (.index i) i (.inr ⟨rfl, hi, hfollower⟩)
      obtain ⟨rfl, rfl⟩ := Prod.mk.inj (Except.ok.inj (hmove.symm.trans hindex))
      exact moved_to hnodup hdevice hi (if_neg hfollower)
        fun h => hfollower (Position.index.inj h)

/-- The first device, which has a sensor, goes to the end of the list. -/
theorem move_relocates_first :
    let first : Device := { key := "DD", temperatures := [{ key := some "T1" }] }
    let r : DeviceRegistry := { devices := [first, { key := "A" }, { key := "B" }], declared := 3 }
    let after : DeviceRegistry := { r with devices := [{ key := "A" }, { key := "B" }, first] }
    r.keys.Nodup ∧
      ((∃ e, r.move 0 (.index 2) = .error e) ↔
        r.devices = [] ∨ r.devices.length ≤ 0 ∨
          ∃ i, Position.index 2 = .index i ∧ r.devices.length ≤ i) ∧
      r.move 0 (.index 2) = .ok (after, true) ∧ Moved r 0 (.index 2) after true := by
  intro first r after
  have hnodup : r.keys.Nodup := by decide
  obtain ⟨hrefused, hmoved⟩ := move_relocates hnodup 0 (.index 2)
  exact ⟨hnodup, hrefused, rfl, hmoved after true rfl⟩

end DeviceRegistry

end RackTelemetry
