import RackTelemetry.Proofs.Engine.DeviceList

/-!
The document that lists the active alarms: how many there are, and for each its id, level, code and
the path of the device it is about. Reading it fills the slots of a fresh alarm list, so by the end
of the document the list is reconciled as it was reported.
-/

namespace RackTelemetry

open TopicTable

/-- How a field of an alarm is reported. Any number of slashes may stand before the topic. -/
def alarmMember (alarm : Alarm) (slashes : Nat) : AlarmField → String × Json
  | .id => ("id", .text alarm.id)
  | .level => ("level", .integer alarm.level)
  | .code => ("code", .text alarm.code)
  | .topic =>
    ("device",
      .object [("@id", .text (String.ofList (List.replicate slashes '/') ++ alarm.topic))])

/-- A value reports an alarm by its four fields, in any order. -/
def ReportsAlarm (alarm : Alarm) (value : Json) : Prop :=
  ∃ slashes fields, List.Perm fields AlarmField.all ∧
    value = .object (fields.map (alarmMember alarm slashes))

/-- The document that lists alarms by the values that report them. -/
def alarmListDocument (values : List Json) : Json :=
  .object [("members@count", .integer values.length), ("members", .list values)]

/-- An alarm as it can be reported: its level is an integer of 64 bits, and its topic does not begin
with a slash. -/
structure Alarm.Reportable (alarm : Alarm) : Prop where
  level : alarm.HasLevel
  topic : alarm.topic.toList.head? ≠ some '/'

namespace Site

variable {ks : KeySpace} {alarm : Alarm}

/-! ### One field -/

theorem step_alarmMember (index : Nat) (name : String) :
    Json.step (Json.step (Json.step alarmListTopic "members") (toString index)) name =
      fieldPath alarmMembers index ("/" ++ name) :=
  step_member rfl index name

theorem step_alarmDevice (index : Nat) :
    Json.step (Json.step (Json.step (Json.step alarmListTopic "members") (toString index)) "device")
        "@id" =
      fieldPath alarmMembers index "/device/@id" := by
  rw [step_alarmMember]
  show "mbdetnrs/1.0/" ++ alarmMembers ++ toString index ++ ("/" ++ "device") ++ "/" ++ "@id" =
    "mbdetnrs/1.0/" ++ alarmMembers ++ toString index ++ "/device/@id"
  rw [String.append_assoc, String.append_assoc]
  rfl

/-- A field of an alarm is one leaf, and its text is what arrives as the field. -/
theorem visits_alarmMember (htopic : alarm.topic.toList.head? ≠ some '/') (slashes index : Nat)
    (field : AlarmField) :
    ∃ value text,
      (alarmMember alarm slashes field).2.visits (Json.maxDepth - 3)
          (Json.step (Json.step (Json.step alarmListTopic "members") (toString index))
            (alarmMember alarm slashes field).1) =
        [.leaf (fieldPath alarmMembers index field.path) value] ∧
      value.scalarText? = some text ∧
      (if field = .topic then Value.normalizeTopic text else text) = alarm.fieldText field := by
  cases field with
  | id =>
    refine ⟨.text alarm.id, alarm.id, ?_, rfl, rfl⟩
    exact congrArg (fun path => [Visit.leaf path (.text alarm.id)]) (step_alarmMember index "id")
  | level =>
    refine ⟨.integer alarm.level, toString alarm.level, ?_, scalarText?_integer _, rfl⟩
    exact congrArg (fun path => [Visit.leaf path (.integer alarm.level)])
      (step_alarmMember index "level")
  | code =>
    refine ⟨.text alarm.code, alarm.code, ?_, rfl, rfl⟩
    exact congrArg (fun path => [Visit.leaf path (.text alarm.code)])
      (step_alarmMember index "code")
  | topic =>
    let reported := String.ofList (List.replicate slashes '/') ++ alarm.topic
    refine ⟨.text reported, reported, ?_, rfl, ?_⟩
    · exact congrArg (fun path => [Visit.leaf path (.text reported)]) (step_alarmDevice index)
    · rw [if_pos rfl, Value.normalizeTopic_slashes htopic]
      rfl

/-- A field of an alarm goes to its slot. -/
theorem visit_alarmField (site : Site) (hlevel : alarm.HasLevel) {index : Nat}
    (hindex : index ≤ Number.maxWord) {field : AlarmField} {value : Json} {text : String}
    (htext : value.scalarText? = some text)
    (hfield : (if field = .topic then Value.normalizeTopic text else text) =
      alarm.fieldText field) :
    site.visit ks (.leaf (fieldPath alarmMembers index field.path) value) =
      { site with draft := site.draft.modify index fun slot => slot.fill alarm field } := by
  have hhandler : (alarmFieldRule field).handler = some (.alarmField field) := rfl
  rw [visit_handled htext (find?_alarmField field index) hhandler]
  simp only [Handler.process, Value.index_toString hindex, hfield, bind, Except.bind]
  rcases site.draft.setField_fieldText hlevel index field with hset | ⟨⟨e, hset⟩, hsame⟩
  · rw [hset]
    rfl
  · rw [hset, hsame]
    rfl

/-! ### One alarm, all alarms -/

theorem foldl_visit_fields (ks : KeySpace) (site : Site) (halarm : alarm.Reportable) {index : Nat}
    (hindex : index ≤ Number.maxWord) (slashes : Nat) (fields : List AlarmField) :
    ((fields.map (alarmMember alarm slashes)).flatMap fun member =>
        member.2.visits (Json.maxDepth - 3)
          (Json.step (Json.step (Json.step alarmListTopic "members") (toString index))
            member.1)).foldl (visit ks) site =
      { site with
        draft :=
          site.draft.modify index fun slot => fields.foldl (PartialAlarm.fill alarm) slot } := by
  induction fields generalizing site with
  | nil => exact congrArg (fun draft => { site with draft }) (site.draft.modify_self index).symm
  | cons field rest ih =>
    obtain ⟨value, text, hvisits, htext, hfield⟩ :=
      visits_alarmMember halarm.topic slashes index field
    rw [List.map_cons, List.flatMap_cons, hvisits, List.foldl_append, List.foldl_cons,
      List.foldl_nil, visit_alarmField site halarm.level hindex htext hfield, ih,
      AlarmDraft.modify_modify]
    rfl

/-- Once a value that reports an alarm is read, the slot of the alarm is complete. -/
theorem foldl_visit_alarm (site : Site) (halarm : alarm.Reportable) {index : Nat}
    (hindex : index ≤ Number.maxWord) {value : Json} (hreports : ReportsAlarm alarm value) :
    (value.visits (Json.maxDepth - 2)
        (Json.step (Json.step alarmListTopic "members") (toString index))).foldl (visit ks) site =
      { site with draft := site.draft.modify index fun _ => PartialAlarm.ofAlarm alarm } := by
  obtain ⟨slashes, fields, hfields, rfl⟩ := hreports
  have hread := foldl_visit_fields ks site halarm hindex slashes fields
  simp only [PartialAlarm.foldl_fill hfields] at hread
  exact hread

theorem foldl_visit_alarms {received : List Alarm} {values : List Json}
    (hreports : List.Forall₂ ReportsAlarm received values)
    (hreceived : ∀ alarm ∈ received, alarm.Reportable) (offset : Nat) (site : Site)
    (hlength : offset + received.length ≤ Number.maxWord) :
    ((values.zipIdx offset).flatMap fun (value, index) =>
        value.visits (Json.maxDepth - 2)
          (Json.step (Json.step alarmListTopic "members") (toString index))).foldl (visit ks) site =
      { site with
        draft := (received.zipIdx offset).foldl
          (fun d entry => d.modify entry.2 fun _ => PartialAlarm.ofAlarm entry.1) site.draft } := by
  induction hreports generalizing offset site with
  | nil => rfl
  | @cons alarm value rest values hfirst _ ih =>
    rw [List.length_cons] at hlength
    rw [List.zipIdx_cons, List.flatMap_cons, List.foldl_append,
      foldl_visit_alarm site (hreceived alarm List.mem_cons_self) (by omega) hfirst,
      ih (fun other hmem => hreceived other (List.mem_cons_of_mem _ hmem)) (offset + 1) _
        (by omega)]
    rfl

/-! ### The whole list -/

def alarmCountRule : TopicRule :=
  .handled (.whole (topicRoot ++ .lit "alarmService/activeAlarms/members@count")) none .alarmCount

theorem visit_alarmCount (site : Site) {n : Nat} (hn : n ≤ Number.maxWord) :
    site.visit ks (.leaf (Json.step alarmListTopic "members@count") (.integer n)) =
      { site with draft := (site.draft.begin n).1 } := by
  have hfind : TopicTable.card.find? (Json.step alarmListTopic "members@count") =
      some (alarmCountRule, []) := by
    decide +kernel
  have hhandler : alarmCountRule.handler = some .alarmCount := rfl
  rw [visit_handled (scalarText?_natCast n) hfind hhandler]
  simp only [Handler.process, Value.count_toString hn, bind, Except.bind]
  unfold AlarmDraft.begin
  split <;> rfl

/-- Reading the document opens a fresh list and fills it. -/
theorem read_alarmList {received : List Alarm} {values : List Json} (ks : KeySpace) (site : Site)
    (hreports : List.Forall₂ ReportsAlarm received values)
    (hreceived : ∀ alarm ∈ received, alarm.Reportable)
    (hword : received.length ≤ Number.maxWord) (hlimit : received.length ≤ site.draft.maxAlarms) :
    site.read ks alarmListTopic (alarmListDocument values) =
      { site with
        draft := { site.draft with slots := some (received.map PartialAlarm.ofAlarm) } } := by
  have hlength := hreports.length_eq
  have hvisits : (alarmListDocument values).visits Json.maxDepth alarmListTopic =
      .leaf (Json.step alarmListTopic "members@count") (.integer values.length) ::
        (values.zipIdx.flatMap fun (value, index) =>
          value.visits (Json.maxDepth - 2)
            (Json.step (Json.step alarmListTopic "members") (toString index))) := by
    simp only [alarmListDocument, Json.maxDepth, Json.visits, List.flatMap_cons, List.flatMap_nil,
      List.append_nil, List.singleton_append]
  have hbegin : (site.draft.begin values.length).1 =
      { site.draft with slots := some (List.replicate received.length {}) } := by
    rw [AlarmDraft.begin, if_neg (by omega), hlength]
  rw [Site.read, hvisits, List.foldl_cons, visit_alarmCount site (hlength ▸ hword),
    foldl_visit_alarms hreports hreceived 0 _ (by omega), hbegin]
  exact congrArg (fun draft => { site with draft })
    site.draft.foldl_modify_ofAlarm

end Site

namespace Engine

variable {received : List Alarm} {values : List Json}

theorem accepts_alarmList (engine : Engine) : engine.accepts alarmListTopic = true := by
  have hcard : TopicFilter.card.accepts alarmListTopic = true := by decide +kernel
  rw [accepts, hcard, Bool.or_true]

/-- Whatever happened before, a message that lists the active alarms leads to what the alarms
themselves lead to when they are reconciled, and no list is left open. The limit on the number of
alarms is a number of 64 bits. -/
theorem alarm_list_message (settings : EngineSettings) (calls : List Call)
    (hreports : List.Forall₂ ReportsAlarm received values)
    (hreceived : ∀ alarm ∈ received, alarm.Reportable)
    (hlimit : received.length ≤ settings.maxAlarms) (hword : settings.maxAlarms ≤ Number.maxWord)
    {payload : Payload} (hpayload : payload.document? = some (alarmListDocument values)) :
    let engine := (ofSettings settings).run calls
    let message := engine.processMessage alarmListTopic payload
    let direct := engine.reconcile received
    message.result.map (·.reconciliation) = direct.result.map some ∧
      message.engine.known = direct.engine.known ∧
      message.engine.site.store = direct.engine.site.store ∧
      message.engine.site.devices = direct.engine.site.devices ∧
      message.engine.site.outlets = direct.engine.site.outlets ∧
      message.engine.site.draft.isPending = false := by
  intro engine message direct
  have hlimit' : received.length ≤ engine.site.draft.maxAlarms := by
    rw [maxAlarms_run]
    exact hlimit
  have hread := Site.read_alarmList engine.keyspace engine.site hreports hreceived
    (Nat.le_trans hlimit hword) hlimit'
  have hmessage : message = engine.processDocument alarmListTopic (alarmListDocument values) := by
    show engine.processMessage alarmListTopic payload = _
    rw [processMessage, if_pos engine.accepts_alarmList, hpayload]
  have htaken := AlarmDraft.takeComplete_ofAlarm
    { engine.site.draft with slots := some (received.map PartialAlarm.ofAlarm) } rfl
  have hcompleted :
      engine.completed? alarmListTopic (alarmListDocument values) = some received := by
    rw [completed?, hread, htaken]
  have hbefore : engine.readDocument alarmListTopic (alarmListDocument values) =
      { engine with
        site := { engine.site with draft := { engine.site.draft with slots := none } } } := by
    rw [readDocument, hread, htaken]
  have hengine := engine_processDocument engine alarmListTopic (alarmListDocument values)
  have hresult := result_processDocument engine alarmListTopic (alarmListDocument values)
  rw [hcompleted, hbefore] at hengine hresult
  rw [hmessage, hresult, hengine]
  exact ⟨rfl, rfl, rfl, rfl, rfl, rfl⟩

def lostDevice : Alarm :=
  { id := "", level := -9223372036854775808, code := "1100"
    topic := "mbdetnrs/1.0/sensors/devices/a" }

def overload : Alarm :=
  { id := "o", level := 9223372036854775807, code := "2000"
    topic := "mbdetnrs/1.0/powerDistributions/1/inputs/1" }

def reportedPair : List Json :=
  [.object [("device", .object [("@id", .text "//mbdetnrs/1.0/sensors/devices/a")]),
      ("level", .integer (-9223372036854775808)), ("code", .text "1100"), ("id", .text "")],
    .object [("id", .text "o"), ("level", .integer 9223372036854775807), ("code", .text "2000"),
      ("device", .object [("@id", .text "mbdetnrs/1.0/powerDistributions/1/inputs/1")])]]

theorem reports_reportedPair : List.Forall₂ ReportsAlarm [lostDevice, overload] reportedPair :=
  .cons ⟨2, [.topic, .level, .code, .id], by decide, rfl⟩
    (.cons ⟨0, [.id, .level, .code, .topic], by decide, rfl⟩ .nil)

theorem reportable_pair : ∀ alarm ∈ [lostDevice, overload], alarm.Reportable := by
  simp only [List.forall_mem_cons]
  exact ⟨⟨⟨by decide, by decide⟩, by decide⟩, ⟨⟨by decide, by decide⟩, by decide⟩, nofun⟩

/-- A list was left open before, and the levels are at their limits. -/
theorem alarm_list_message_pair :
    let calls := [Call.document alarmListTopic (.object [("members@count", .integer 3)])]
    let engine := (ofSettings {}).run calls
    let payload := Payload.raw (alarmListDocument reportedPair).print.toUTF8
    let message := engine.processMessage alarmListTopic payload
    let direct := engine.reconcile [lostDevice, overload]
    List.Forall₂ ReportsAlarm [lostDevice, overload] reportedPair ∧
      (∀ alarm ∈ [lostDevice, overload], alarm.Reportable) ∧
      [lostDevice, overload].length ≤ ({} : EngineSettings).maxAlarms ∧
      ({} : EngineSettings).maxAlarms ≤ Number.maxWord ∧
      payload.document? = some (alarmListDocument reportedPair) ∧
      message.result.map (·.reconciliation) = direct.result.map some ∧
      message.engine.known = direct.engine.known ∧
      message.engine.site.store = direct.engine.site.store ∧
      message.engine.site.devices = direct.engine.site.devices ∧
      message.engine.site.outlets = direct.engine.site.outlets ∧
      message.engine.site.draft.isPending = false := by
  have hpayload : (Payload.raw (alarmListDocument reportedPair).print.toUTF8).document? =
      some (alarmListDocument reportedPair) := Payload.document?_print (by decide +kernel)
  exact ⟨reports_reportedPair, reportable_pair, by decide, by decide, hpayload,
    alarm_list_message {} [.document alarmListTopic (.object [("members@count", .integer 3)])]
      reports_reportedPair reportable_pair (by decide) (by decide) hpayload⟩

end Engine

end RackTelemetry
