import RackTelemetry.Proofs.Engine.DeviceList
import RackTelemetry.Proofs.Engine.Limits
import RackTelemetry.Proofs.Site.SensorList
import RackTelemetry.Proofs.Topic.SensorList

/-!
The document that lists the sensors of one kind of one device: how many there are, and a path for
each whose last step is the key of the sensor. Its path has the key of the device and the name of
the channel, which the rules read off again. Reading it announces the sensors in order, so the slots
become those of the document, whatever they were.
-/

namespace RackTelemetry

open KeySpace DeviceRegistry TopicTable

/-- Sensors are listed as devices are. -/
def sensorListDocument (paths : List String) : Json := deviceListDocument paths

namespace Site

variable {ks : KeySpace} {paths keys : List String} {name : String}

theorem visit_sensorCount (site : Site) (hname : Value.IsSegment name) (kind : SensorKind) {n : Nat}
    (hn : n ≤ Number.maxWord) :
    site.visit ks (.leaf (Json.step (sensorListTopic name kind) "members@count") (.integer n)) =
      (countSensors ks site name kind n).site := by
  have hhandler : sensorCountRule.handler = some .sensorCount := rfl
  rw [Json.step, visit_handled (scalarText?_natCast n) (find?_sensorCount hname.1 hname.2 kind)
    hhandler]
  simp only [Handler.process, kind.ofChannel_channelName, Value.count_toString hn]
  rfl

theorem visit_sensorMember (site : Site) (hname : Value.IsSegment name) (kind : SensorKind)
    {path key : String} {i : Nat} (hkey : Value.lastSegment path = .ok key)
    (hi : i ≤ Number.maxWord) :
    site.visit ks
        (.leaf (Json.step (Json.step (Json.step (sensorListTopic name kind) "members")
          (toString i)) "@id") (.text path)) =
      (announceSensor ks site name kind i key).site := by
  have htext : (Json.text path).scalarText? = some path := rfl
  have hhandler : sensorMemberRule.handler = some .sensorIndex := rfl
  rw [Json.step, Json.step, Json.step,
    visit_handled htext (find?_sensorMember hname.1 hname.2 kind i) hhandler]
  simp only [Handler.process, kind.ofChannel_channelName, Value.index_toString hi, hkey]
  rfl

/-- Reading the document counts the sensors, and announces each in its slot. -/
theorem read_sensorList (site : Site) (hname : Value.IsSegment name) (kind : SensorKind)
    (hpaths : List.Forall₂ Value.EndsIn paths keys) (hlength : paths.length ≤ Number.maxWord) :
    site.read ks (sensorListTopic name kind) (sensorListDocument paths) =
      announceSensors ks (countSensors ks site name kind keys.length).site name kind
        keys.zipIdx := by
  rw [← hpaths.length_eq]
  exact read_memberList Value.EndsIn
    (fun site key i => (announceSensor ks site name kind i key).site)
    (fun site _ _ _ hkey hi =>
      site.visit_sensorMember hname kind (Value.lastSegment_of_endsIn hkey) hi)
    (visit_sensorCount site hname kind hlength) hpaths hlength

end Site

namespace Engine

variable {settings : EngineSettings} {engine : Engine} {paths keys : List String} {p : Nat}
  {device : Device}

/-- The document is read, and nothing else happens: no alarm list is complete. -/
theorem processDocument_sensorList (hks : engine.keyspace = {})
    (hlimits : engine.site.WithinLimits settings) (hdraft : engine.site.draft.isComplete = false)
    (hp : engine.site.devices.devices[p]? = some device) (kind : SensorKind)
    (hpaths : List.Forall₂ Value.EndsIn paths keys) (hlength : paths.length ≤ settings.maxSensors)
    (hword : paths.length ≤ Number.maxWord) :
    ∃ site, Site.SensorsListed {} p kind device keys engine.site site ∧
      (engine.processDocument (sensorListTopic device.key kind)
        (sensorListDocument paths)).engine = { engine with site } := by
  have hname := hlimits.devices.named device (List.mem_of_getElem? hp)
  have hposition := position?_of_device hlimits.devices.distinct hp
  have hcount : keys.length ≤ engine.site.devices.maxSensors := by
    rw [hlimits.maxSensors, ← hpaths.length_eq]
    exact hlength
  have hne : ∀ key ∈ keys, key ≠ "" := by
    intro key hmem
    obtain ⟨i, hi, rfl⟩ := List.mem_iff_getElem.mp hmem
    exact (hpaths.get (hpaths.length_eq ▸ hi) hi).1.1
  have hlisted := Site.sensorsListed {} kind hposition hp hcount hne
  rw [← Site.read_sensorList engine.site hname kind hpaths hword] at hlisted
  refine ⟨_, hlisted, ?_⟩
  have htaken := takeComplete_of_incomplete (hlisted.draft ▸ hdraft)
  rw [engine_processDocument, completed?, readDocument, hks, htaken]

/-- Whatever the slots of a known device were after some calls, the document makes them those that
it lists, with nothing known of any sensor, and the rest stays: contacts that go take what they
published, and a missing status of temperature or humidity starts as good. The same document once
more changes nothing. The number of sensors is bounded as every number of a document is. -/
theorem sensor_list_arrives (settings : EngineSettings) (calls : List Call)
    (hp : ((start settings).run calls).site.devices.devices[p]? = some device) (kind : SensorKind)
    (hpaths : List.Forall₂ Value.EndsIn paths keys) (hlength : paths.length ≤ settings.maxSensors)
    (hword : paths.length ≤ Number.maxWord) :
    let topic := sensorListTopic device.key kind
    let before := (start settings).run calls
    let after := (before.processDocument topic (sensorListDocument paths)).engine
    let again := (after.processDocument topic (sensorListDocument paths)).engine
    Site.SensorsListed {} p kind device keys before.site after.site ∧
      after.known = before.known ∧
      again.site.devices = after.site.devices ∧ again.site.outlets = after.site.outlets ∧
      again.known = after.known ∧ again.site.draft = after.site.draft ∧
      ∀ name, again.site.store.get? name = after.site.store.get? name := by
  obtain ⟨hks, -⟩ := keyspace_and_mirrored_run settings calls
  have hlimits := site_withinLimits_run { settings with keyspace := {} } calls
  have hdraft := incomplete_run settings calls
  intro topic before after again
  have hlimits' : after.site.WithinLimits { settings with keyspace := {} } :=
    site_withinLimits_after hlimits (.document topic (sensorListDocument paths))
  obtain ⟨site, hlisted, hafter⟩ :=
    processDocument_sensorList hks hlimits hdraft hp kind hpaths hlength hword
  have hafter' : after = { before with site } := hafter
  have hks' : after.keyspace = {} := by
    rw [hafter']
    exact hks
  have hdraft' : after.site.draft.isComplete = false :=
    incomplete_after before (.document topic (sensorListDocument paths)) hdraft
  have hp' : after.site.devices.devices[p]? =
      some (device.withGroup kind (keys.map Sensor.named)) := by
    rw [hafter', hlisted.devices, stands_replace hp]
  obtain ⟨site', hlisted', hagain⟩ :=
    processDocument_sensorList hks' hlimits' hdraft' hp' kind hpaths hlength hword
  rw [Device.key_withGroup] at hagain
  have hagain' : again = { after with site := site' } := hagain
  rw [hafter'] at hagain' hlisted'
  rw [hagain', hafter']
  obtain ⟨hdevices, hpublished⟩ := hlisted.again hlisted'
  exact ⟨hlisted, rfl, hdevices, hlisted'.outlets, rfl, hlisted'.draft, hpublished⟩

def listDevice : Call := .document deviceListTopic (deviceListDocument ["/devices/dev-a"])

def listContacts : Call :=
  .document (sensorListTopic "dev-a" .digitalInput)
    (sensorListDocument ["/contacts/door", "/contacts/smoke"])

theorem device_of_listDevice :
    ((start {}).run [listDevice]).site.devices.devices[0]? = some { key := "dev-a" } := by
  have hks : (start {}).keyspace = {} := rfl
  have hkeys : ["/devices/dev-a"].map Value.lastSegment = ["dev-a"].map .ok := by decide
  obtain ⟨site, hrelisted, hafter⟩ :=
    processDocument_deviceList hks (mirrored_start {}) rfl hkeys (by decide) (by decide)
  have hrun : (start {}).run [listDevice] = { start {} with site } := by
    rw [run, List.foldl_cons, List.foldl_nil, listDevice, after_document]
    exact hafter
  obtain ⟨device, hdevices, hkey⟩ := List.map_eq_singleton_iff.mp hrelisted.listed
  have hfirst : site.devices.devices[0]? = some device := by
    rw [hdevices]
    rfl
  obtain ⟨-, hempty, -⟩ := hrelisted.carried.fresh hfirst List.not_mem_nil
  rw [hrun, hfirst, hempty, hkey]

/-- The device has the two contacts that were listed. -/
theorem device_of_listContacts :
    ((start {}).run [listDevice, listContacts]).site.devices.devices[0]? =
      some { key := "dev-a", digitalInputs := [Sensor.named "door", Sensor.named "smoke"] } := by
  obtain ⟨hks, -⟩ := keyspace_and_mirrored_run {} [listDevice]
  have hpaths :
      List.Forall₂ Value.EndsIn ["/contacts/door", "/contacts/smoke"] ["door", "smoke"] :=
    .cons ⟨⟨by decide, by decide⟩, "/contacts", by decide⟩
      (.cons ⟨⟨by decide, by decide⟩, "/contacts", by decide⟩ .nil)
  obtain ⟨site, hlisted, hafter⟩ := processDocument_sensorList hks
    (site_withinLimits_run {} [listDevice]) (incomplete_run {} [listDevice]) device_of_listDevice
    .digitalInput hpaths (by decide) (by decide)
  have hrun : (start {}).run ([listDevice] ++ [listContacts]) =
      { (start {}).run [listDevice] with site } := by
    rw [run_concat, listContacts, after_document]
    exact hafter
  have hcalls : [listDevice, listContacts] = [listDevice] ++ [listContacts] := rfl
  rw [hcalls, hrun, hlisted.devices, stands_replace device_of_listDevice]
  rfl

/-- One other contact takes the place of the two. -/
theorem sensor_list_arrives_fewer_contacts :
    let device : Device :=
      { key := "dev-a", digitalInputs := [Sensor.named "door", Sensor.named "smoke"] }
    let paths := ["/contacts/leak"]
    let topic := sensorListTopic device.key .digitalInput
    let before := (start {}).run [listDevice, listContacts]
    let after := (before.processDocument topic (sensorListDocument paths)).engine
    let again := (after.processDocument topic (sensorListDocument paths)).engine
    before.site.devices.devices[0]? = some device ∧
      List.Forall₂ Value.EndsIn paths ["leak"] ∧
      Site.SensorsListed {} 0 .digitalInput device ["leak"] before.site after.site ∧
      after.known = before.known ∧
      again.site.devices = after.site.devices ∧ again.site.outlets = after.site.outlets ∧
      again.known = after.known ∧ again.site.draft = after.site.draft ∧
      ∀ name, again.site.store.get? name = after.site.store.get? name :=
  have hpaths : List.Forall₂ Value.EndsIn ["/contacts/leak"] ["leak"] :=
    .cons ⟨⟨by decide, by decide⟩, "/contacts", by decide⟩ .nil
  ⟨device_of_listContacts, hpaths,
    sensor_list_arrives {} [listDevice, listContacts] device_of_listContacts .digitalInput hpaths
      (by decide) (by decide)⟩

end Engine

end RackTelemetry
