import RackTelemetry.Proofs.Inventory.Placement
import RackTelemetry.Proofs.Site.Truncation
import RackTelemetry.Site.Handling

/-!
The order of the devices after an announcement. The announced device ends up at its position, or at
the end of the list if the position lies beyond it; only a device that stood right before its
position stays. The others keep their order, and none is dropped but those after the last announced
position.
-/

namespace RackTelemetry

open DeviceRegistry

namespace Site

variable {ks : KeySpace} {site : Site} {key : String} {position : Nat}

theorem devices_renumber (ks : KeySpace) (site : Site) (before : List (String × Nat)) :
    (renumber ks site before).site.devices = site.devices := by
  rw [(renumber_eq ks site before).2]

/-- A known device is settled by a move, also by one that changes nothing. -/
theorem devices_settle_of_move {current : Nat} {devices : DeviceRegistry} {changed : Bool}
    (h : site.devices.position? key = some current) (hne : current ≠ position)
    (hmove : site.devices.move current
      (if site.devices.devices.length ≤ position then .last else .index position) =
        .ok (devices, changed)) :
    (settleDevice ks site key position).site.devices = devices := by
  cases changed with
  | true => rw [(settleDevice_move ks h hne hmove).2, devices_renumber]
  | false =>
    rw [settleDevice_keep h hne hmove]
    exact ((perm_of_move hmove).2.2.2 rfl).symm

theorem declared_settle (ks : KeySpace) (site : Site) (hkey : key ≠ "") (position : Nat) :
    (settleDevice ks site key position).site.devices.declared = site.devices.declared := by
  rcases settleDevice_cases ks site hkey position with
    hstays | ⟨_, _, devices, hmove, -, hsite⟩ | ⟨-, _, _, -, -, -, hsite⟩
  · rw [hstays]
    rfl
  · rw [hsite, devices_renumber]
    exact (perm_of_move hmove).2.1
  · rw [hsite]
    rfl

theorem keys_settle (ks : KeySpace) (hnodup : site.devices.keys.Nodup) (hkey : key ≠ "")
    (position : Nat) :
    (settleDevice ks site key position).site.devices.keys =
      site.devices.settledKeys key position := by
  cases hfound : site.devices.position? key with
  | none =>
    have hnew := position?_eq_none_iff.mp hfound
    have hunmoved : ¬ site.devices.StandsBefore key position := by
      rintro ⟨-, h⟩
      rw [hfound] at h
      cases h
    rw [settledKeys, if_neg hunmoved]
    by_cases hbeyond : site.devices.devices.length < position
    · obtain ⟨store, -, -, hsite⟩ := settleDevice_new ks hfound
        (by rw [if_pos hbeyond]; exact add_last hkey hnew)
      rw [hsite, keys_inserted_placed hnew (Nat.le_refl _), placed, placed,
        List.erase_of_not_mem hnew, length_keys, Nat.min_self, Nat.min_eq_right (by omega)]
    · obtain ⟨store, -, -, hsite⟩ := settleDevice_new ks hfound
        (by rw [if_neg hbeyond]; exact add_index hkey hnew (by omega))
      rw [hsite, keys_inserted_placed hnew (by omega)]
  | some current =>
    obtain ⟨device, hdevice, rfl⟩ := device_of_position? hfound
    have hbefore : site.devices.StandsBefore device.key position ↔
        current + 1 = position ∧ position < site.devices.devices.length := by
      rw [StandsBefore, hfound, Option.map_some, Option.some.injEq, and_comm]
    by_cases hstay : current = position
    · subst hstay
      have hlt : current < site.devices.keys.length := by
        rw [length_keys]
        exact (List.getElem?_eq_some_iff.mp hdevice).1
      have hget : site.devices.keys[current] = device.key := by
        simp [DeviceRegistry.keys, (List.getElem?_eq_some_iff.mp hdevice).2]
      have herase := hnodup.erase_getElem current hlt
      rw [hget] at herase
      rw [settleDevice_stay hfound, settledKeys, if_neg (fun h => by have := hbefore.mp h; omega),
        placed, herase, List.length_eraseIdx_of_lt hlt, Nat.min_eq_left (by omega), ← hget,
        List.insertIdx_eraseIdx_getElem hlt]
      rfl
    · obtain ⟨devices, changed, hmove, hkeys⟩ := exists_move_placed hnodup hdevice position
      rw [devices_settle_of_move hfound hstay hmove, hkeys, settledKeys]
      simp only [hbefore]

/-! ### The whole announcement -/

theorem completesDeclared_settle (ks : KeySpace) (site : Site) (hkey : key ≠ "")
    (position : Nat) :
    (settleDevice ks site key position).site.devices.completesDeclared position =
      site.devices.completesDeclared position := by
  rw [completesDeclared, completesDeclared, declared_settle ks site hkey position]

/-- The devices are settled, and those after the last declared position are dropped. -/
theorem keys_announce (ks : KeySpace) (hnodup : site.devices.keys.Nodup) (hkey : key ≠ "")
    (position : Nat) :
    (announceDevice ks site key position).site.devices.keys =
      if site.devices.completesDeclared position = some true then
        (site.devices.settledKeys key position).take (position + 1)
      else site.devices.settledKeys key position := by
  have hsettled := keys_settle ks hnodup hkey position
  rw [(announceDevice_eq (settleDevice_ok ks site hkey position)).2,
    completesDeclared_settle ks site hkey position]
  split
  · next hlast =>
    have hindex := (completesDeclared_eq_true_iff.mp hlast).1
    have htruncated := (truncated_trimTail ks (settleDevice ks site key position).site hindex).2
    rw [DeviceRegistry.keys, htruncated.devices, List.map_take, ← hsettled]
    rfl
  · exact hsettled

theorem position?_announce (ks : KeySpace) (hnodup : site.devices.keys.Nodup) (hkey : key ≠ "")
    (position : Nat) :
    let after := (announceDevice ks site key position).site.devices
    after.position? key = some (site.devices.settledAt key position after.devices.length) := by
  intro after
  have hkeys : after.keys = _ := keys_announce ks hnodup hkey position
  have hstands := site.devices.getElem?_settledKeys key position
  have hdistinct := nodup_settledKeys hnodup key position
  have hle := site.devices.settledAt_le key position
    (site.devices.settledKeys key position).length
  rw [← length_keys]
  split at hkeys
  · refine position?_of_getElem?_keys ?_ ?_
    · rw [hkeys]
      exact hdistinct.sublist (List.take_sublist _ _)
    · rw [hkeys, List.length_take, settledAt_min, List.getElem?_take_of_lt (by omega), hstands]
  · refine position?_of_getElem?_keys ?_ ?_
    · rwa [hkeys]
    · rw [hkeys, hstands]

end Site

/-- An announcement with a key and a position settles the device of the key there. -/
theorem Handler.process_deviceIndex (ks : KeySpace) (template : Option KeyTemplate) (site : Site)
    {value text key : String} {position : Nat} (hkey : Value.lastSegment value = .ok key)
    (hposition : Value.index text = .ok position) :
    Handler.deviceIndex.process ks template value [text] site =
      Site.announceDevice ks site key position := by
  simp only [Handler.process, hkey, hposition]
  rfl

/-- In every registry that its operations build, whatever number of devices is declared, an
announcement that succeeds puts the device at its position, or at the end of the list if the
position lies beyond it. Only a device that stood right before its position stays there. -/
theorem Handler.announced_device_position (ks : KeySpace) (template : Option KeyTemplate)
    {site : Site} (hbuilt : site.devices.Built) {value text key : String} {position : Nat}
    (hkey : Value.lastSegment value = .ok key) (hposition : Value.index text = .ok position) :
    let outcome := Handler.deviceIndex.process ks template value [text] site
    outcome.result = .ok () →
      outcome.site.devices.positionOf key =
        .ok (if site.devices.StandsBefore key position then position - 1
          else min position (outcome.site.devices.devices.length - 1)) := by
  intro outcome _
  have hne : key ≠ "" := (Value.isSegment_lastSegment hkey).1
  have houtcome : outcome = Site.announceDevice ks site key position :=
    process_deviceIndex ks template site hkey hposition
  rw [houtcome]
  exact positionOf_eq_ok.mpr (Site.position?_announce ks hbuilt.sound.distinct hne position)

def pairOfDevices : DeviceRegistry := { devices := [{ key := "dev-a" }, { key := "dev-b" }] }

theorem built_pairOfDevices : pairOfDevices.Built := by
  have hfirst : DeviceRegistry.add {} .last "dev-a" =
      .ok ({ devices := [{ key := "dev-a" }] }, 0) := rfl
  have hsecond : DeviceRegistry.add { devices := [{ key := "dev-a" }] } .last "dev-b" =
      .ok (pairOfDevices, 1) := rfl
  exact .added (.added (.fresh 32) hfirst) hsecond

theorem Handler.announced_device_position_front :
    let site : Site := { devices := pairOfDevices }
    let outcome := Handler.deviceIndex.process {} none "/devices/dev-b" ["0"] site
    site.devices.Built ∧ Value.lastSegment "/devices/dev-b" = .ok "dev-b" ∧
      Value.index "0" = .ok 0 ∧ outcome.result = .ok () ∧
      outcome.site.devices.positionOf "dev-b" =
        .ok (if site.devices.StandsBefore "dev-b" 0 then 0 - 1
          else min 0 (outcome.site.devices.devices.length - 1)) := by
  have hkey : Value.lastSegment "/devices/dev-b" = .ok "dev-b" := by decide
  have hposition : Value.index "0" = .ok 0 := by decide
  intro site outcome
  have hok : outcome.result = .ok () := rfl
  exact ⟨built_pairOfDevices, hkey, hposition, hok,
    announced_device_position {} none built_pairOfDevices hkey hposition hok⟩

/-- Announced at the position right after its own, a device does not get there. -/
theorem Handler.announced_device_stays :
    let site : Site := { devices := pairOfDevices }
    let outcome := Handler.deviceIndex.process {} none "/devices/dev-a" ["1"] site
    site.devices.Built ∧ Value.lastSegment "/devices/dev-a" = .ok "dev-a" ∧
      Value.index "1" = .ok 1 ∧ outcome.result = .ok () ∧
      outcome.site.devices.devices.length = 2 ∧
      outcome.site.devices.positionOf "dev-a" ≠
        .ok (min 1 (outcome.site.devices.devices.length - 1)) := by
  refine ⟨built_pairOfDevices, ?_⟩
  decide +kernel

end RackTelemetry
