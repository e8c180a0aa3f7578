import RackTelemetry.Site.Basic

/-!
The list of environment devices. When devices change places, everything published for them moves
along: all old values are read first, then all old names are withdrawn, then the values are
published under their new names.
-/

namespace RackTelemetry

/-- The devices and how many contacts each has, in order. -/
def DeviceRegistry.layout (r : DeviceRegistry) : List (String × Nat) :=
  r.devices.map fun device => (device.key, device.contacts)

namespace Site

/-- The old and the new names of the devices of an earlier layout that stand elsewhere now. -/
def relocations (ks : KeySpace) (devices : DeviceRegistry) (before : List (String × Nat)) :
    List (String × String) :=
  before.zipIdx.flatMap fun ((key, contacts), old) =>
    match devices.position? key with
    | none => []
    | some new =>
      if new = old then []
      else (ks.deviceObjectKeys old contacts).zip (ks.deviceObjectKeys new contacts)

/-- Publishes everything under the names that fit the order of the devices, which was `before`. -/
def renumber (ks : KeySpace) (site : Site) (before : List (String × Nat)) : Outcome Unit :=
  let moves := relocations ks site.devices before
  if moves.isEmpty then site.done
  else
    let fresh := moves.filterMap fun (old, new) =>
      (site.store.get? old).map fun value => (new, value)
    let (store, result) := (site.store.delMany (moves.map Prod.fst)).1.setMany fresh
    let site := { site with store }
    match result with
    | .ok () => site.note [.renumbered fresh.length]
    | .error e => site.fail (.store e)

/-- Puts a device at its announced position: moves it if it is known, adds it if it is not. A
position beyond the list is the end of the list. -/
def settleDevice (ks : KeySpace) (site : Site) (key : String) (position : Nat) : Outcome Unit :=
  let before := site.devices.layout
  let len := site.devices.devices.length
  match site.devices.positionOf key with
  | .ok current =>
    if current = position then site.done
    else
      let target : Position := if len ≤ position then .last else .index position
      match site.devices.move current target with
      | .ok (devices, true) =>
        (renumber ks { site with devices } before).after [.deviceMoved key current target]
      | .ok (devices, false) => { site with devices }.done
      | .error e => site.fail e
  | .error e =>
    if e.isNotFound then
      let target : Position := if len < position then .last else .index position
      match site.devices.add target key with
      | .ok (devices, index) =>
        (renumber ks { site with devices } before).andThen fun _ site =>
          site.put (ks.device index "key") key (.deviceAdded key index)
      | .error e => site.fail e
    else site.fail e

/-- Drops the devices after the last announced one, with everything published for them. -/
def trimTail (ks : KeySpace) (site : Site) (last : Nat) : Outcome Unit :=
  match site.devices.trimAfter last with
  | none => site.note [.overflowed last]
  | some (devices, dropped) =>
    let site := dropped.foldl
      (fun site (position, device) => site.withdraw (ks.deviceObjectKeys position device.contacts))
      { site with devices }
    site.note (dropped.map fun (position, device) => .deviceDropped device.key position)

/-- A device is announced at a position. The last announcement of a list drops what is left of the
old list. At the largest index a program that checks its arithmetic ends here; one that does not
goes on as after any other index that is not the last. -/
def announceDevice (ks : KeySpace) (site : Site) (key : String) (position : Nat) : Outcome Unit :=
  (settleDevice ks site key position).andThen fun _ site =>
    match site.devices.completesDeclared position with
    | some true => trimTail ks site position
    | some false => site.done
    | none => site.note [.overflowed position]

/-- The number of devices is announced. Without devices, everything published for them goes. -/
def countDevices (ks : KeySpace) (site : Site) (count : Nat) : Outcome Unit :=
  let devices := site.devices.declare count
  if count = 0 then
    let (devices, removed) := devices.removeAll
    let stale := removed.zipIdx.flatMap fun (device, position) =>
      ks.deviceObjectKeys position device.contacts
    let (store, deleted) := site.store.delMany stale
    { site with devices, store }.note
      (if removed.isEmpty then [] else [.devicesCleared removed.length deleted])
  else { site with devices }.done

end Site

end RackTelemetry
