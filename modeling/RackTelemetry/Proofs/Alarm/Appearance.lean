import RackTelemetry.Proofs.Alarm.Replay
import RackTelemetry.Proofs.Alarm.Status
import RackTelemetry.Proofs.Topic.Contract
import RackTelemetry.Proofs.Topic.DevicePath

/-!
The first list of alarms. No alarm is known before, so every alarm of the list appears, and
publishes what its rules raise for the objects that are found. An alarm on the topic of a
temperature or humidity sensor can only raise the status of such a sensor.
-/

namespace RackTelemetry

open KeySpace DeviceRegistry AlarmPass AlarmTable

/-! ### Alarms about readings -/

/-- The topic of the alarm is that of a temperature or humidity sensor. -/
def Alarm.OnReading (alarm : Alarm) : Prop :=
  ∃ kind : SensorKind, kind.isIndexed = false ∧ (sensorTopic kind).isMatch alarm.topic = true

/-- Presence is told on the topic of a device, and the status of a sensor on that of a temperature
or humidity sensor. -/
def AlarmRule.isPlaced (rule : AlarmRule) : Bool :=
  rule.actions.all fun
    | .object (.device _) _ _ => rule.topic = .whole deviceTopic
    | .object (.sensor _) _ _ =>
      rule.topic = sensorTopic .temperature || rule.topic = sensorTopic .humidity
    | _ => true

namespace AlarmTable

theorem isPlaced_card : ∀ rule ∈ card, rule.isPlaced = true := by
  decide

theorem plain_of_sensorTopic {topic : Pattern}
    (h : (decide (topic = sensorTopic .temperature) || decide (topic = sensorTopic .humidity)) =
      true) : ∃ kind : SensorKind, kind.isIndexed = false ∧ topic = sensorTopic kind := by
  rcases Bool.or_eq_true_iff.mp h with htemperature | hhumidity
  · exact ⟨.temperature, rfl, of_decide_eq_true htemperature⟩
  · exact ⟨.humidity, rfl, of_decide_eq_true hhumidity⟩

def sensorPattern (kind : SensorKind) : Pattern :=
  deviceTopic ++ .lit "/channels/" ++ .group (.lit kind.channelName) ++ .lit "/" ++ .step

theorem isPlain_sensorPattern (kind : SensorKind) : (sensorPattern kind).isPlain = true := by
  cases kind <;> rfl

/-- The second text of a sensor's topic is the channel of its kind. -/
theorem channel_of_captures? {kind : SensorKind} {topic device channel sensor : String}
    (h : (sensorTopic kind).captures? topic = some [device, channel, sensor]) :
    channel = kind.channelName := by
  obtain ⟨groups, hfits, hmap⟩ := Pattern.fits_of_captures? (isPlain_sensorPattern kind) h
  have hchosen := hfits.chosen
  have hchoices : (sensorPattern kind).choices = [none, some [kind.channelName.toList], none] := by
    cases kind <;> rfl
  rw [hchoices] at hchosen
  match groups, hchosen with
  | [first, second, third], .cons _ (.cons hsecond _) =>
    obtain ⟨text, htext, rfl⟩ := hsecond _ rfl
    obtain rfl := List.mem_singleton.mp htext
    simp only [List.map_cons, Option.getD_some, String.ofList_toList, List.cons.injEq] at hmap
    exact hmap.2.1

/-- The topic of a sensor is not that of a device: it has steps below the device. -/
theorem not_captures_deviceTopic {kind : SensorKind} {topic : String}
    (h : (sensorTopic kind).isMatch topic = true) (params : List String) :
    (Pattern.whole deviceTopic).captures? topic ≠ some params := by
  intro hdevice
  rw [← Pattern.isSome_captures?, Option.isSome_iff_exists] at h
  obtain ⟨others, hsensor⟩ := h
  obtain ⟨groups, hfits, -⟩ := Pattern.fits_of_captures? (p := deviceTopic) rfl hdevice
  obtain ⟨groups', hfits', -⟩ := Pattern.fits_of_captures? (isPlain_sensorPattern kind) hsensor
  obtain ⟨root, rest, hpath, hroot, hrest⟩ := TopicTable.below_topicRoot hfits.parts
  obtain ⟨root', rest', hpath', hroot', hrest'⟩ := TopicTable.below_topicRoot hfits'.parts
  obtain ⟨-, rfl⟩ := List.append_inj (hpath.symm.trans hpath') (hroot.trans hroot'.symm)
  obtain ⟨u, rfl, hstep⟩ := Pattern.fitsAll_literal.mp hrest
  obtain ⟨v, hv, hsteps⟩ := Pattern.fitsAll_literal.mp hrest'
  obtain rfl := List.append_cancel_left hv
  obtain ⟨key, _, _, _, rfl, -, ⟨_, -, hkey⟩, rfl, -⟩ := hstep
  obtain ⟨step, below, _, _, htext, -, -, hbelow⟩ := hsteps
  obtain ⟨w, rfl, -⟩ := Pattern.fitsAll_literal.mp hbelow
  have hslash : '/' ∈ key := by
    rw [List.append_nil] at htext
    rw [htext]
    exact List.mem_append_right _ (List.mem_append_left _ (by decide))
  have hnone := notSlash_of_fits_many hkey '/' hslash
  exact absurd hnone (by decide)

end AlarmTable

/-- A rule of the card raises the status of a temperature or humidity sensor for the alarm, and the
sensor is found on the device at `p`. -/
structure Alarm.Raises (devices : DeviceRegistry) (alarm : Alarm) (p : Nat) (kind : SensorKind)
    (raised : String) : Prop where
  plain : kind.isIndexed = false
  found : ∃ rule device sensor index,
    (rule, [device, kind.channelName, sensor]) ∈ AlarmTable.card.matching alarm.code alarm.topic ∧
      .object (.sensor (some "status")) raised "good" ∈ rule.actions ∧
      devices.resolve device kind sensor = .ok (p, index)

variable {ks : KeySpace} {devices : DeviceRegistry} {alarm : Alarm} {p : Nat} {kind : SensorKind}
  {raised : String}

/-- Where no sensor is disabled, the sensor of an alarm only has to be found. -/
theorem raises_iff
    (hinUse : ∀ {q other i device sensor}, devices.Slot q other i device sensor →
      sensor.state ≠ .disabled)
    (hplain : kind.isIndexed = false) :
    alarm.Raises devices p kind raised ↔
      ∃ i, raised ∈ AlarmTable.card.raisedOn devices (.sensor p kind i) alarm := by
  constructor
  · rintro ⟨-, rule, device, sensor, i, hrule, haction, hresolve⟩
    refine ⟨i, mem_raisedOn.mpr ⟨.sensor (some "status"), "good",
      [device, kind.channelName, sensor], mem_actionsFor.mpr ⟨rule, hrule, haction⟩, ?_⟩⟩
    obtain ⟨-, owner, howner, hindex⟩ := resolve_eq_ok.mp hresolve
    obtain ⟨slot, hslot, -⟩ := slot_of_indexOf? howner hindex
    have hstate : devices.stateOf p kind i = .ok slot.state :=
      stateOf_eq_ok.mpr ⟨owner, slot, hslot, rfl⟩
    simp only [objectTarget, kind.ofChannel_channelName, hresolve, hstate, bind, Except.bind, pure,
      Except.pure, if_neg (hinUse hslot)]
  · rintro ⟨i, hraised⟩
    obtain ⟨template, cleared, params, hmem, htarget⟩ := mem_raisedOn.mp hraised
    obtain ⟨rfl, -, rfl⟩ := sensorAction_eq hmem htarget rfl
    obtain ⟨rule, hrule, haction⟩ := mem_actionsFor.mp hmem
    obtain ⟨device, channel, sensor, other, q, j, -, -, rfl, hchannel, hresolve, -, -, heq⟩ :=
      objectTarget_sensor htarget
    cases heq
    obtain ⟨-, rfl⟩ := SensorKind.of_ofChannel hchannel
    exact ⟨hplain, rule, device, sensor, i, hrule, haction, hresolve⟩

namespace AlarmPass

/-- What the alarms of a list publish when they appear. -/
def appearingWrites (ks : KeySpace) (devices : DeviceRegistry) (received : List Alarm) :
    List (String × String) :=
  (distinctAlarms received).flatMap fun alarm => writesFor .card ks devices (alarm, .new)

/-- After the first pass the alarms of its list are known. -/
theorem reported_first (table : AlarmTable) (ks : KeySpace) (devices : DeviceRegistry)
    (store : Store) (received : List Alarm) :
    Reported (table.reconcile ks {} devices store received).known received := by
  have hnone : ({} : AlarmRegistry).ids.Nodup := .nil
  rw [known_reconcile]
  exact reported_reconcile hnone received

/-- Which alarms are known after the first pass depends on its list alone. -/
theorem known_first (table : AlarmTable) (ks : KeySpace) (devices devices' : DeviceRegistry)
    (store store' : Store) (received : List Alarm) :
    (table.reconcile ks {} devices store received).known =
      (table.reconcile ks {} devices' store' received).known := by
  rw [known_reconcile, known_reconcile]

theorem store_passed_first (ks : KeySpace) (devices : DeviceRegistry) (store : Store)
    (received : List Alarm) :
    (AlarmTable.card.passed ks {} devices store received).store =
      (appearingWrites ks devices received).foldl Store.offer store := by
  have hpresent : presentWrites ks devices {} received = appearingWrites ks devices received := by
    rw [presentWrites, appearingWrites, List.flatMap_map]
    rfl
  rw [store_passed, hpresent]
  rfl

/-- The first pass writes the channels, and publishes what the alarms of its list raise. -/
theorem get?_reconcile_first (halarm : ks.alarmKey ≠ "") (hstatus : ks.statusKey ≠ "")
    (devices : DeviceRegistry) (store : Store) (received : List Alarm) (name : String) :
    let pass := AlarmTable.card.reconcile ks {} devices store received
    let texts := AlarmTable.card.contributed AlarmAction.text? pass.known received
    let flags := AlarmTable.card.contributed AlarmAction.flag? pass.known received
    pass.store.get? name =
      if name = ks.statusKey then statusEntry texts flags
      else if name = ks.alarmKey then alarmEntry texts
      else ((appearingWrites ks devices received).foldl Store.offer store).get? name := by
  have hnone : ({} : AlarmRegistry).ids.Nodup := .nil
  rw [← store_passed_first]
  exact get?_reconcile AlarmTable.card halarm hstatus hnone devices store received name

/-- What the alarms of the first list raise as a status is published there, if anything is. -/
theorem mem_appearingWrites
    (hinUse : ∀ {q other i device sensor}, devices.Slot q other i device sensor →
      sensor.state ≠ .disabled)
    (hplain : kind.isIndexed = false) {received : List Alarm} {value : String} :
    (ks.sensor p kind 0 (some "status"), value) ∈ appearingWrites ks devices received ↔
      ∃ alarm ∈ distinctAlarms received, alarm.Raises devices p kind value := by
  simp only [appearingWrites, List.mem_flatMap, mem_writesFor_kind hplain, raises_iff hinUse hplain]
  constructor
  · rintro ⟨alarm, hmem, -, i, raised, hraised, rfl⟩
    exact ⟨alarm, hmem, i, hraised⟩
  · rintro ⟨alarm, hmem, i, hraised⟩
    exact ⟨alarm, hmem, nofun, i, value, hraised, rfl⟩

/-- An alarm about a reading publishes only the status of a temperature or humidity sensor. -/
theorem name_of_onReading (h : alarm.OnReading) {state : AlarmState} {name value : String}
    (hwrite : (name, value) ∈ writesFor .card ks devices (alarm, state)) :
    ∃ q other, SensorKind.isIndexed other = false ∧ name = ks.sensor q other 0 (some "status") := by
  obtain ⟨-, template, raised, cleared, params, target, hmem, htarget, hname, -⟩ :=
    mem_writesFor.mp hwrite
  obtain ⟨rule, hrule, haction⟩ := mem_actionsFor.mp hmem
  obtain ⟨hcard, -, hcaptures⟩ := rule_of_mem_matching hrule
  have hplaced := List.all_eq_true.mp (AlarmTable.isPlaced_card rule hcard) _ haction
  have hsound := AlarmTable.isSound_card rule hcard _ haction
  cases template with
  | device field =>
    obtain ⟨kind, -, hmatch⟩ := h
    rw [of_decide_eq_true hplaced] at hcaptures
    exact absurd hcaptures (not_captures_deviceTopic hmatch params)
  | sensor field =>
    obtain ⟨rfl, -⟩ : field = some "status" ∧ _ := of_decide_eq_true hsound
    obtain ⟨device, channel, sensor, other, q, i, -, -, rfl, hchannel, -, -, -, rfl⟩ :=
      objectTarget_sensor htarget
    obtain ⟨kind, hplain, htopic⟩ := plain_of_sensorTopic hplaced
    rw [htopic] at hcaptures
    obtain rfl := channel_of_captures? hcaptures
    rw [kind.ofChannel_channelName] at hchannel
    obtain rfl := Except.ok.inj hchannel
    refine ⟨q, kind, hplain, ?_⟩
    rw [sensor_status ks q 0 hplain, ← sensor_status ks q i hplain]
    exact (Except.ok.inj hname).symm
  | fixed name => cases hsound
  | outlet field => cases hsound

/-- A status that is raised is not the one of a sensor without alarms. -/
theorem raised_ne_good (h : alarm.Raises devices p kind raised) : raised ≠ "good" := by
  obtain ⟨-, rule, device, sensor, i, hrule, haction, -⟩ := h
  have hsound := AlarmTable.isSound_card rule (rule_of_mem_matching hrule).1 _ haction
  obtain ⟨-, hraised, -⟩ :
      some "status" = some "status" ∧ raised ≠ "good" ∧ "good" = "good" := of_decide_eq_true hsound
  exact hraised

end AlarmPass

end RackTelemetry
