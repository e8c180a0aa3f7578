import RackTelemetry.Proofs.Engine.Mirror
import RackTelemetry.Proofs.Site.DeviceList
import RackTelemetry.Proofs.Topic.Members

/-!
The document that lists the devices: how many there are, and a path for each whose last step is the
key of the device. Reading it announces the devices in order, so the devices become those of the
document, whatever they were.
-/

namespace RackTelemetry

open KeySpace DeviceRegistry TopicTable

/-- The document that lists devices by their paths. -/
def deviceListDocument (paths : List String) : Json :=
  .object [("members@count", .integer paths.length),
    ("members", .list (paths.map fun path => .object [("@id", .text path)]))]

namespace Site

variable {ks : KeySpace} {paths keys : List String}

def memberCountRule : TopicRule :=
  .handled (.whole (topicRoot ++ .lit "sensors/devices/members@count")) none .deviceCount

theorem scalarText?_integer (i : Int) : (Json.integer i).scalarText? = some (toString i) := by
  simp only [Json.scalarText?, Scalar.ofJson?, Option.map_some]
  split <;> rfl

theorem scalarText?_natCast (n : Nat) : (Json.integer n).scalarText? = some (toString n) :=
  scalarText?_integer n

theorem visit_memberCount (site : Site) {n : Nat} (hn : n ≤ Number.maxWord) :
    site.visit ks (.leaf (Json.step deviceListTopic "members@count") (.integer n)) =
      (countDevices ks site n).site := by
  have hfind : TopicTable.card.find? (Json.step deviceListTopic "members@count") =
      some (memberCountRule, []) := by
    decide +kernel
  have hhandler : memberCountRule.handler = some .deviceCount := rfl
  rw [visit_handled (scalarText?_natCast n) hfind hhandler]
  simp only [Handler.process, Value.count_toString hn]
  rfl

theorem visit_member (site : Site) {path key : String} {i : Nat}
    (hkey : Value.lastSegment path = .ok key) (hi : i ≤ Number.maxWord) :
    site.visit ks
        (.leaf (Json.step (Json.step (Json.step deviceListTopic "members") (toString i)) "@id")
          (.text path)) =
      (announceDevice ks site key i).site := by
  have hpath : Json.step (Json.step (Json.step deviceListTopic "members") (toString i)) "@id" =
      memberBeginning ++ toString i ++ "/@id" := by
    apply String.toList_inj.mp
    simp [Json.step, deviceListTopic, memberBeginning]
  have htext : (Json.text path).scalarText? = some path := rfl
  have hhandler : memberRule.handler = some .deviceIndex := rfl
  rw [hpath, visit_handled htext (find?_member i) hhandler]
  simp only [Handler.process, hkey, Value.index_toString hi]
  rfl

/-- Where a field of a member of a list stands. -/
theorem step_member {topic list : String}
    (h : topic ++ "/" ++ "members" ++ "/" = "mbdetnrs/1.0/" ++ list) (index : Nat) (name : String) :
    Json.step (Json.step (Json.step topic "members") (toString index)) name =
      fieldPath list index ("/" ++ name) := by
  simp only [Json.step, fieldPath, ← String.append_assoc, h]

section Members

variable {topic : String} (Lists : String → String → Prop) (announce : Site → String → Nat → Site)
  (hvisit : ∀ site path key i, Lists path key → i ≤ Number.maxWord →
    site.visit ks
        (.leaf (Json.step (Json.step (Json.step topic "members") (toString i)) "@id")
          (.text path)) =
      announce site key i)
include hvisit

theorem foldl_visit_members (hkeys : List.Forall₂ Lists paths keys) (offset : Nat) (site : Site)
    (hlength : offset + paths.length ≤ Number.maxWord) :
    (((paths.map fun path => Json.object [("@id", .text path)]).zipIdx offset).flatMap
        fun (value, i) => value.visits (Json.maxDepth - 2)
          (Json.step (Json.step topic "members") (toString i))).foldl (visit ks) site =
      (keys.zipIdx offset).foldl (fun site entry => announce site entry.1 entry.2) site := by
  induction hkeys generalizing offset site with
  | nil => rfl
  | @cons path key paths keys hkey _ ih =>
    rw [List.length_cons] at hlength
    have hvisits : (Json.object [("@id", .text path)]).visits (Json.maxDepth - 2)
        (Json.step (Json.step topic "members") (toString offset)) =
        [.leaf (Json.step (Json.step (Json.step topic "members") (toString offset))
          "@id") (.text path)] := rfl
    simp only [List.map_cons, List.zipIdx_cons, List.flatMap_cons, List.foldl_append, hvisits,
      List.foldl_cons, List.foldl_nil, hvisit site path key offset hkey (by omega)]
    exact ih (offset + 1) _ (by omega)

/-- Reading a list of paths comes down to its number of members, and then each member in order. -/
theorem read_memberList {site counted : Site}
    (hcount : site.visit ks (.leaf (Json.step topic "members@count") (.integer paths.length)) =
      counted)
    (hkeys : List.Forall₂ Lists paths keys) (hlength : paths.length ≤ Number.maxWord) :
    site.read ks topic (deviceListDocument paths) =
      keys.zipIdx.foldl (fun site entry => announce site entry.1 entry.2) counted := by
  have hvisits : (deviceListDocument paths).visits Json.maxDepth topic =
      .leaf (Json.step topic "members@count") (.integer paths.length) ::
        ((paths.map fun path => Json.object [("@id", .text path)]).zipIdx.flatMap
          fun (value, i) => value.visits (Json.maxDepth - 2)
            (Json.step (Json.step topic "members") (toString i))) := by
    simp only [deviceListDocument, Json.maxDepth, Json.visits, List.flatMap_cons, List.flatMap_nil,
      List.append_nil, List.singleton_append]
  rw [Site.read, hvisits, List.foldl_cons, hcount]
  exact foldl_visit_members Lists announce hvisit hkeys 0 counted (by omega)

end Members

/-- Reading the document announces the number of devices, and then each device at its place. -/
theorem read_deviceList (site : Site) (hkeys : paths.map Value.lastSegment = keys.map .ok)
    (hlength : paths.length ≤ Number.maxWord) :
    site.read ks deviceListTopic (deviceListDocument paths) =
      announceAll ks (countDevices ks site keys.length).site keys.zipIdx := by
  have hlists : List.Forall₂ (fun path key => Value.lastSegment path = .ok key) paths keys := by
    rw [← List.forall₂_map_right_iff, ← List.forall₂_map_left_iff, List.forall₂_eq_eq_eq]
    exact hkeys
  rw [← hlists.length_eq]
  exact read_memberList _ (fun site key i => (announceDevice ks site key i).site)
    (fun site _ _ _ hkey hi => site.visit_member hkey hi) (visit_memberCount site hlength) hlists
    hlength

end Site

namespace Engine

variable {paths keys : List String}

/-- What the arrival of a list of devices leads to. -/
structure Arrived (keys : List String) (before after : Engine) : Prop where
  /-- The devices are those of the list, in its order. -/
  listed : after.site.devices.keys = keys
  /-- A device that was there before keeps its sensors, and each of its entries is found where it
  stands now. -/
  kept : ∀ q device, after.site.devices.devices[q]? = some device →
    ∀ p old, before.site.devices.devices[p]? = some old → old.key = device.key →
      device = old ∧ ∀ s, after.site.entry {} q s = before.site.entry {} p s
  /-- A device that was not there before has no sensors, and has published its key only. -/
  fresh : ∀ q device, after.site.devices.devices[q]? = some device →
    device.key ∉ before.site.devices.keys →
      device = { key := device.key } ∧
        ∀ s, after.site.entry {} q s = if s = "key" then some device.key else none
  /-- Everything below the root of the devices is an entry of a device of the list. -/
  owned : ∀ name value, "ambient.".toList <+: name.toList →
    after.site.store.get? name = some value →
      ∃ q device, after.site.devices.devices[q]? = some device ∧
        name ∈ ({} : KeySpace).deviceObjectKeys q device.contacts
  elsewhere : ∀ name, ¬ "ambient.".toList <+: name.toList →
    after.site.store.get? name = before.site.store.get? name
  outlets : after.site.outlets = before.site.outlets
  draft : after.site.draft = before.site.draft
  known : after.known = before.known

/-- The document is read, and nothing else happens: no alarm list is complete. -/
theorem processDocument_deviceList {engine : Engine} (hks : engine.keyspace = {})
    (hmirrored : Site.Mirrored {} engine.site) (hdraft : engine.site.draft.isComplete = false)
    (hkeys : paths.map Value.lastSegment = keys.map .ok) (hnodup : keys.Nodup)
    (hlength : paths.length ≤ Number.maxWord) :
    ∃ site, Site.Relisted {} keys engine.site site ∧
      (engine.processDocument deviceListTopic (deviceListDocument paths)).engine =
        { engine with site } := by
  have hsame : paths.length = keys.length := by
    simpa using congrArg List.length hkeys
  have hne : ∀ key ∈ keys, key ≠ "" := by
    intro key hmem
    have hok : Except.ok key ∈ paths.map Value.lastSegment := hkeys ▸ List.mem_map_of_mem hmem
    obtain ⟨path, -, hpath⟩ := List.mem_map.mp hok
    exact Site.lastSegment_ne_empty hpath
  have hrelisted := hmirrored.relist hnodup hne (hsame ▸ hlength)
  rw [← Site.read_deviceList engine.site hkeys hlength] at hrelisted
  refine ⟨_, hrelisted, ?_⟩
  have htaken := takeComplete_of_incomplete (hrelisted.elsewhere.draft ▸ hdraft)
  rw [engine_processDocument, completed?, readDocument, hks, htaken]

theorem arrived_of_relisted {engine : Engine} {site : Site}
    (hmirrored : Site.Mirrored {} engine.site) (h : Site.Relisted {} keys engine.site site) :
    Arrived keys engine { engine with site } := by
  refine ⟨h.listed, ?_, ?_, fun name value => h.mirrored.owned name value,
    fun name => h.elsewhere.published name, h.elsewhere.outlets, h.elsewhere.draft, rfl⟩
  · intro q device hq p old hp hkey
    exact h.carried.kept hmirrored.distinct hp hq hkey
  · intro q device hq hnew
    exact (h.carried.fresh hq hnew).2

/-- Whatever the devices were after some calls, the document makes them the devices that it lists;
devices that stay take everything along, and nothing is left of those that go. The same document
once more changes nothing. The number of devices is bounded as every number of a document is. -/
theorem device_list_arrives (settings : EngineSettings) (calls : List Call)
    (hkeys : paths.map Value.lastSegment = keys.map .ok) (hnodup : keys.Nodup)
    (hlength : paths.length ≤ Number.maxWord) :
    let before := (start settings).run calls
    let after := (before.processDocument deviceListTopic (deviceListDocument paths)).engine
    let again := (after.processDocument deviceListTopic (deviceListDocument paths)).engine
    Arrived keys before after ∧
      again.site.devices = after.site.devices ∧ again.site.outlets = after.site.outlets ∧
      again.known = after.known ∧ again.site.draft = after.site.draft ∧
      ∀ name, again.site.store.get? name = after.site.store.get? name := by
  obtain ⟨hks, hmirrored⟩ := keyspace_and_mirrored_run settings calls
  have hdraft := incomplete_run settings calls
  intro before after again
  obtain ⟨site, hrelisted, hafter⟩ := processDocument_deviceList hks hmirrored hdraft hkeys hnodup
    hlength
  have hdraft' : ({ before with site } : Engine).site.draft.isComplete = false :=
    hrelisted.elsewhere.draft ▸ hdraft
  have hks' : ({ before with site } : Engine).keyspace = {} := hks
  obtain ⟨site', hrelisted', hagain⟩ := processDocument_deviceList hks' hrelisted.mirrored hdraft'
    hkeys hnodup hlength
  have hafter' : after = { before with site } := hafter
  have hagain' : again = { before with site := site' } := by
    rw [← hagain, ← hafter']
  rw [hagain', hafter']
  exact ⟨arrived_of_relisted hmirrored hrelisted, hrelisted.devices_again hrelisted',
    hrelisted'.elsewhere.outlets, rfl, hrelisted'.elsewhere.draft,
    hrelisted.published_again hrelisted'⟩

/-- A device stays behind one that is new, and one goes. -/
theorem device_list_arrives_after_list :
    let paths := ["/devices/dev-c", "/devices/dev-b"]
    let keys := ["dev-c", "dev-b"]
    let calls := [Call.document deviceListTopic (deviceListDocument ["/dev-a", "/dev-b"])]
    let before := (start {}).run calls
    let after := (before.processDocument deviceListTopic (deviceListDocument paths)).engine
    let again := (after.processDocument deviceListTopic (deviceListDocument paths)).engine
    paths.map Value.lastSegment = keys.map .ok ∧ keys.Nodup ∧ paths.length ≤ Number.maxWord ∧
      Arrived keys before after ∧
      again.site.devices = after.site.devices ∧ again.site.outlets = after.site.outlets ∧
      again.known = after.known ∧ again.site.draft = after.site.draft ∧
      ∀ name, again.site.store.get? name = after.site.store.get? name :=
  ⟨by decide, by decide, by decide,
    device_list_arrives {} [.document deviceListTopic (deviceListDocument ["/dev-a", "/dev-b"])]
      (by decide) (by decide) (by decide)⟩

end Engine

end RackTelemetry
