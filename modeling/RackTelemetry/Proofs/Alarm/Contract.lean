import RackTelemetry.Proofs.Alarm.Attempts
import RackTelemetry.Proofs.Alarm.Objects
import RackTelemetry.Proofs.Inventory.Refusal
import RackTelemetry.Proofs.Topic.Contract

/-!
What the card's alarm rules promise to a pass: no two of them apply to one alarm, none sets more
than one object, and the topic of each has the texts that its object is found with. So an object can
only fail because it is not there.
-/

namespace RackTelemetry

open AlarmPass

def AlarmAction.isObject : AlarmAction → Bool
  | .object .. => true
  | .alarm _ | .status _ => false

/-! ### Objects that are there -/

theorem SensorKind.channelName_inj {kind other : SensorKind}
    (h : kind.channelName = other.channelName) : kind = other := by
  have hfound := ofChannel_channelName kind
  rw [h, ofChannel_channelName] at hfound
  exact (Except.ok.inj hfound).symm

/-- The texts of a rule are those that an object is found with: the key of a device, and for a
sensor also the name of its channel and its own key. -/
inductive KeyTemplate.Takes : KeyTemplate → List String → Prop where
  | device (field key : String) : Takes (.device field) [key]
  | sensor (field : Option String) (key : String) (kind : SensorKind) (sensorKey : String) :
    Takes (.sensor field) [key, kind.channelName, sensorKey]

namespace DeviceRegistry

/-- The object that a rule names is there: a device with the key, and on such a device, for a
sensor, a slot of the kind with the other key. -/
def resolves (r : DeviceRegistry) : KeyTemplate → List String → Bool
  | .device _, [key] => r.keys.contains key
  | .sensor _, [key, channel, sensorKey] =>
    r.devices.any fun device =>
      device.key = key && SensorKind.all.any fun kind =>
        kind.channelName = channel && (device.group kind).any fun sensor =>
          sensor.key = some sensorKey
  | .device _, _ | .sensor _, _ => false
  | .fixed _, _ | .outlet _, _ => true

variable {r : DeviceRegistry} {key sensorKey : String} {kind : SensorKind}

theorem exists_positionOf_iff : (∃ p, r.positionOf key = .ok p) ↔ key ∈ r.keys := by
  simp only [positionOf_eq_ok, ← Option.isSome_iff_exists, Option.isSome_iff_ne_none, ne_eq,
    position?_eq_none_iff, not_not]

theorem isNotFound_of_resolve {e : Error} (h : r.resolve key kind sensorKey = .error e) :
    e.isNotFound = true := by
  rcases resolve_eq_error h with rfl | rfl | rfl <;> rfl

theorem indexOf?_isSome (group : SensorGroup) (key : String) :
    (group.indexOf? key).isSome = group.any fun sensor => sensor.key = some key :=
  List.findIdx?_isSome

/-- Where the keys of the devices are distinct, the sensor that is there is found. -/
theorem exists_resolve_iff (hnodup : r.keys.Nodup) (field : Option String) :
    (∃ found, r.resolve key kind sensorKey = .ok found) ↔
      r.resolves (.sensor field) [key, kind.channelName, sensorKey] = true := by
  simp only [resolves, List.any_eq_true, Bool.and_eq_true_iff, decide_eq_true_eq]
  constructor
  · rintro ⟨⟨p, index⟩, hfound⟩
    obtain ⟨hposition, device, hdevice, hindex⟩ := resolve_eq_ok.mp hfound
    obtain ⟨other, hother, rfl⟩ := device_of_position? hposition
    obtain rfl := Option.some.inj (hdevice.symm.trans hother)
    have hany := indexOf?_isSome (device.group kind) sensorKey
    rw [hindex, Option.isSome_some] at hany
    refine ⟨device, List.mem_of_getElem? hdevice, rfl, kind,
      (SensorKind.of_ofChannel kind.ofChannel_channelName).1, rfl, ?_⟩
    simpa using hany.symm
  · rintro ⟨device, hmem, rfl, other, -, hchannel, hany⟩
    obtain rfl := SensorKind.channelName_inj hchannel
    obtain ⟨p, hdevice, hposition⟩ := position?_of_mem hnodup hmem
    have hsome : ((device.group other).indexOf? sensorKey).isSome = true := by
      rw [indexOf?_isSome]
      simpa using hany
    obtain ⟨index, hindex⟩ := Option.isSome_iff_exists.mp hsome
    exact ⟨(p, index), resolve_eq_ok.mpr ⟨hposition, device, hdevice, hindex⟩⟩

end DeviceRegistry

/-! ### Attempts -/

namespace AlarmPass

variable {ks : KeySpace} {devices : DeviceRegistry} {state : AlarmState} {template : KeyTemplate}
  {params : List String}

theorem objectTarget_device_eq (field key : String) :
    objectTarget devices (.device field) [key] =
      (devices.positionOf key).map fun p => some (.device p) := by
  rw [objectTarget]
  cases devices.positionOf key <;> rfl

/-- What is found decides the target: the sensor, or none where it is disabled. -/
theorem objectTarget_sensor_eq (devices : DeviceRegistry) (field : Option String)
    (key sensorKey : String) (kind : SensorKind) :
    ∃ target? : Nat × Nat → Option KeyTarget,
      objectTarget devices (.sensor field) [key, kind.channelName, sensorKey] =
        (devices.resolve key kind sensorKey).map target? := by
  cases hfound : devices.resolve key kind sensorKey with
  | error e =>
    refine ⟨fun _ => none, ?_⟩
    simp only [objectTarget, SensorKind.ofChannel_channelName, hfound, bind, Except.bind,
      Except.map]
  | ok found =>
    obtain ⟨device, sensor, hslot⟩ := DeviceRegistry.slot_of_resolve hfound
    have hread := DeviceRegistry.stateOf_eq_ok.mpr ⟨device, sensor, hslot, rfl⟩
    refine ⟨fun found => if sensor.state = .disabled then none
      else some (.sensor found.1 kind found.2), ?_⟩
    simp only [objectTarget, SensorKind.ofChannel_channelName, hfound, hread, bind, Except.bind,
      pure, Except.pure, Except.map]

/-- A target that is found has a name to be published under. -/
theorem name_of_objectTarget (ks : KeySpace) (htakes : template.Takes params) {target : KeyTarget}
    (h : objectTarget devices template params = .ok (some target)) :
    ∃ name, template.render ks target = .ok name ∧ name ≠ "" := by
  cases htakes with
  | device field key =>
    obtain ⟨-, p, -, -, rfl⟩ := objectTarget_device h
    exact ⟨_, rfl, ks.device_ne_empty p field⟩
  | sensor field key kind sensorKey =>
    obtain ⟨-, -, -, found, p, index, -, -, -, -, -, -, -, rfl⟩ := objectTarget_sensor h
    exact ⟨_, rfl, ks.sensor_ne_empty p found index field⟩

/-- Where there is a target, the attempt does not fail. -/
theorem attempt_of_target (ks : KeySpace) (state : AlarmState) (htakes : template.Takes params)
    {target? : Option KeyTarget} (h : objectTarget devices template params = .ok target?)
    (raised cleared : String) :
    ∃ write, attempt ks devices state (.object template raised cleared, params) = .ok write := by
  rw [attempt]
  split
  · exact ⟨none, rfl⟩
  · cases target? with
    | none => exact ⟨none, by simp only [h, bind, Except.bind, pure, Except.pure]⟩
    | some target =>
      obtain ⟨name, hname, hne⟩ := name_of_objectTarget ks htakes h
      exact ⟨some (name, if state = .new then raised else cleared), by
        simp [h, hname, hne, bind, Except.bind, pure, Except.pure]⟩

theorem attempt_of_error {e : Error} (hstate : state ≠ .active)
    (h : objectTarget devices template params = .error e) (raised cleared : String) :
    attempt ks devices state (.object template raised cleared, params) = .error e := by
  simp only [attempt, if_neg hstate, h, bind, Except.bind]

theorem isNotFound_of_objectTarget (htakes : template.Takes params) {e : Error}
    (h : objectTarget devices template params = .error e) : e.isNotFound = true := by
  cases htakes with
  | device field key =>
    rw [objectTarget_device_eq] at h
    cases hposition : devices.positionOf key with
    | ok p =>
      rw [hposition] at h
      cases h
    | error found =>
      rw [hposition] at h
      obtain rfl := Except.error.inj h
      exact (DeviceRegistry.positionOf_eq_error hposition).2
  | sensor field key kind sensorKey =>
    obtain ⟨target?, htarget⟩ := objectTarget_sensor_eq devices field key sensorKey kind
    rw [htarget] at h
    cases hfound : devices.resolve key kind sensorKey with
    | ok found =>
      rw [hfound] at h
      cases h
    | error found =>
      rw [hfound] at h
      obtain rfl := Except.error.inj h
      exact DeviceRegistry.isNotFound_of_resolve hfound

/-- Where the keys of the devices are distinct, there is a target for the objects that are there. -/
theorem exists_objectTarget_iff (hnodup : devices.keys.Nodup) (htakes : template.Takes params) :
    (∃ target?, objectTarget devices template params = .ok target?) ↔
      devices.resolves template params = true := by
  cases htakes with
  | device field key =>
    rw [objectTarget_device_eq, DeviceRegistry.resolves, List.contains_iff_mem,
      ← DeviceRegistry.exists_positionOf_iff]
    cases devices.positionOf key <;> simp [Except.map]
  | sensor field key kind sensorKey =>
    obtain ⟨target?, htarget⟩ := objectTarget_sensor_eq devices field key sensorKey kind
    rw [htarget, ← DeviceRegistry.exists_resolve_iff hnodup]
    cases devices.resolve key kind sensorKey <;> simp [Except.map]

/-- An attempt that fails names an object that is not known. -/
theorem isNotFound_of_attempt (htakes : template.Takes params) {raised cleared : String}
    {e : Error}
    (h : attempt ks devices state (.object template raised cleared, params) = .error e) :
    e.isNotFound = true := by
  have hstate : state ≠ .active := by
    rintro rfl
    cases h
  cases htarget : objectTarget devices template params with
  | ok target? =>
    obtain ⟨write, hwrite⟩ := attempt_of_target ks state htakes htarget raised cleared
    rw [hwrite] at h
    cases h
  | error found =>
    rw [attempt_of_error hstate htarget] at h
    obtain rfl := Except.error.inj h
    exact isNotFound_of_objectTarget htakes htarget

/-- An object that cannot be published is one that is not known. -/
theorem isNotFound_of_publishObject (htakes : template.Takes params) {value : String}
    {store : Store} {e : Error}
    (h : publishObject ks devices template value params store = .error e) :
    e.isNotFound = true := by
  have hnew : AlarmState.new ≠ .active := nofun
  have hpublish := publishObject_eq ks devices hnew template value value params store
  rw [if_pos rfl, h] at hpublish
  cases hattempt : attempt ks devices .new (.object template value value, params) with
  | ok write =>
    rw [hattempt] at hpublish
    cases write <;> cases hpublish
  | error found =>
    rw [hattempt] at hpublish
    obtain rfl := Except.error.inj hpublish
    exact isNotFound_of_attempt htakes hattempt

/-- The attempt fails for an alarm that appears or goes and whose object is not there. -/
theorem isSome_failure?_attempt (hnodup : devices.keys.Nodup) (htakes : template.Takes params)
    (raised cleared : String) :
    (failure? (attempt ks devices state (.object template raised cleared, params))).isSome =
      (state ≠ .active && !devices.resolves template params) := by
  by_cases hstate : state = .active
  · subst hstate
    rfl
  cases htarget : objectTarget devices template params with
  | ok target? =>
    obtain ⟨write, hwrite⟩ := attempt_of_target ks state htakes htarget raised cleared
    rw [hwrite, (exists_objectTarget_iff hnodup htakes).mp ⟨target?, htarget⟩, Bool.not_true,
      Bool.and_false]
    rfl
  | error e =>
    have hnot : devices.resolves template params = false := by
      rw [Bool.eq_false_iff, ne_eq, ← exists_objectTarget_iff hnodup htakes, htarget]
      rintro ⟨target?, ⟨⟩⟩
    rw [attempt_of_error hstate htarget, hnot, decide_eq_true hstate]
    rfl

end AlarmPass

/-! ### The rules of the card -/

/-- The topic of a rule has the texts that its object is found with, and it has at most one object.
-/
def AlarmRule.keepsContract (rule : AlarmRule) : Bool :=
  match rule.topic.body? with
  | some body =>
    body.isPlain && rule.actions.countP AlarmAction.isObject ≤ 1 &&
      rule.actions.all fun
        | .object (.device _) _ _ => body.groups = 1
        | .object (.sensor _) _ _ => body.groups = 3 && TopicRule.listsChannels body
        | .object .. => false
        | .alarm _ | .status _ => true
  | none => false

/-- No code stands in the lists of both rules. -/
def AlarmRule.codesApart (rule other : AlarmRule) : Bool :=
  (rule.codes.toList.splitOn ',').all fun code => !(other.codes.toList.splitOn ',').contains code

namespace AlarmTable

theorem keepsContract_card : ∀ rule ∈ card, rule.keepsContract = true := by
  decide

theorem codesApart_card : card.Pairwise fun rule other => rule.codesApart other = true := by
  decide

variable {code topic : String}

theorem not_codeListed_of_codesApart {rule other : AlarmRule} (h : rule.codesApart other = true)
    (hcode : codeListed rule.codes code = true) : codeListed other.codes code = false := by
  obtain ⟨-, hmem⟩ := Bool.and_eq_true_iff.mp hcode
  have hnot := List.all_eq_true.mp h _ (List.contains_iff_mem.mp hmem)
  rw [Bool.not_eq_true'] at hnot
  rw [codeListed, hnot, Bool.and_false]

theorem isEmpty_matching (table : AlarmTable) (code topic : String) :
    (table.matching code topic).isEmpty = !table.any fun rule => rule.appliesTo code topic := by
  rw [← List.isEmpty_map, map_fst_matching, Bool.eq_iff_iff, List.isEmpty_iff,
    List.filter_eq_nil_iff, Bool.not_eq_true', List.any_eq_false]

/-- At most one rule of the card applies to an alarm. -/
theorem matching_card (code topic : String) : (card.matching code topic).length ≤ 1 := by
  have hnone : (card.matching code topic).Pairwise fun _ _ => False := by
    refine List.pairwise_filterMap.mpr (codesApart_card.imp ?_)
    intro rule other hapart found hfound second hsecond
    split at hfound
    · next hcode =>
      rw [not_codeListed_of_codesApart hapart hcode, if_neg Bool.false_ne_true] at hsecond
      cases hsecond
    · cases hfound
  match hmatching : card.matching code topic with
  | [] => exact Nat.zero_le 1
  | [_] => exact Nat.le_refl 1
  | first :: second :: rest =>
    rw [hmatching] at hnone
    exact ((List.pairwise_cons.mp hnone).1 second List.mem_cons_self).elim

theorem takes_of_captures? {rule : AlarmRule} (hrule : rule ∈ card) {template : KeyTemplate}
    {raised cleared : String} (hmem : AlarmAction.object template raised cleared ∈ rule.actions)
    {params : List String} (hparams : rule.topic.captures? topic = some params) :
    template.Takes params := by
  have hcontract := keepsContract_card rule hrule
  unfold AlarmRule.keepsContract at hcontract
  split at hcontract
  · next body hbody =>
    obtain ⟨hboth, hactions⟩ := Bool.and_eq_true_iff.mp hcontract
    obtain ⟨hplain, -⟩ := Bool.and_eq_true_iff.mp hboth
    rw [Pattern.eq_whole_of_body? hbody] at hparams
    obtain ⟨groups, hfits, hmap⟩ := Pattern.fits_of_captures? hplain hparams
    have hlength : params.length = body.groups := by
      rw [hmap, List.length_map, hfits.length_groups]
    have haction := List.all_eq_true.mp hactions _ hmem
    cases template with
    | device field =>
      have hgroups : body.groups = 1 := of_decide_eq_true haction
      rw [hgroups] at hlength
      obtain ⟨key, rfl⟩ := List.length_eq_one_iff.mp hlength
      exact .device field key
    | sensor field =>
      obtain ⟨hgroups, hlists⟩ := Bool.and_eq_true_iff.mp haction
      rw [of_decide_eq_true hgroups] at hlength
      obtain ⟨key, channel, sensorKey, rfl⟩ := List.length_eq_three.mp hlength
      obtain ⟨kind, rfl⟩ := TopicRule.kind_of_listsChannels hlists hfits hmap
      exact .sensor field key kind sensorKey
    | fixed name => cases haction
    | outlet field => cases haction
  · cases hcontract

theorem countP_isObject {rule : AlarmRule} (hrule : rule ∈ card) :
    rule.actions.countP AlarmAction.isObject ≤ 1 := by
  have hcontract := keepsContract_card rule hrule
  unfold AlarmRule.keepsContract at hcontract
  split at hcontract
  · obtain ⟨hboth, -⟩ := Bool.and_eq_true_iff.mp hcontract
    exact of_decide_eq_true (Bool.and_eq_true_iff.mp hboth).2
  · cases hcontract

end AlarmTable

end RackTelemetry
