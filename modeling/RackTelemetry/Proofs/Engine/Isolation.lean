import RackTelemetry.Proofs.Document.Leaf
import RackTelemetry.Proofs.Engine.Run
import RackTelemetry.Proofs.Site.Isolation

/-!
Messages below the topic of one device. The same message is followed on two engines that agree on
the device: it is answered in the same way on both, and nothing but the device changes. Messages
about two devices can therefore come in either order.
-/

namespace RackTelemetry

namespace Engine

variable {ks : KeySpace} {key other topic topic' : String} {before site site' : Site}
  {p q : Progress} {engine first second : Engine}

/-! ### The leaves of a document -/

/-- The same document is being applied to two sites: the accounts are alike, the sites agree on the
device, and of the first one only the device has changed. -/
structure Progress.Isolated (ks : KeySpace) (key : String) (before : Site) (p q : Progress) :
    Prop where
  report : p.report = q.report
  same : Site.SameDevice ks key p.site q.site
  only : Site.OnlyDevice ks key before p.site

theorem Progress.Isolated.value (h : Progress.Isolated ks key before p q)
    (htopic : DeviceTopic key topic) {path : String} (hpath : topic.toList <+: path.toList)
    (value : String) :
    Progress.Isolated ks key before (applyValue ks p path value) (applyValue ks q path value) := by
  obtain ⟨hresult, hsame, honly⟩ := h.same.dispatch htopic hpath value
  refine ⟨?_, hsame, h.only.trans honly⟩
  simp only [applyValue, ← hresult, h.report]

theorem Progress.Isolated.visit (h : Progress.Isolated ks key before p q)
    (htopic : DeviceTopic key topic) {met : Visit}
    (hmet : ∀ path value, met = .leaf path value → topic.toList <+: path.toList) :
    Progress.Isolated ks key before (applyVisit ks p met) (applyVisit ks q met) := by
  cases met with
  | truncated path => exact ⟨h.report, h.same, h.only⟩
  | leaf path value =>
    have hcounted : Progress.Isolated ks key before
        { p with report := { p.report with paths := p.report.paths + 1 } }
        { q with report := { q.report with paths := q.report.paths + 1 } } :=
      ⟨by rw [h.report], h.same, h.only⟩
    simp only [applyVisit]
    cases value.scalarText? with
    | none => exact ⟨by rw [h.report], h.same, h.only⟩
    | some text => exact hcounted.value htopic (hmet path value rfl) text

theorem Progress.Isolated.visits (htopic : DeviceTopic key topic) {visits : List Visit}
    (hvisits : ∀ path value, .leaf path value ∈ visits → topic.toList <+: path.toList)
    (h : Progress.Isolated ks key before p q) :
    Progress.Isolated ks key before (visits.foldl (applyVisit ks) p)
      (visits.foldl (applyVisit ks) q) := by
  induction visits generalizing p q with
  | nil => exact h
  | cons met rest ih =>
    refine ih (fun path value hmem => hvisits path value (List.mem_cons_of_mem _ hmem)) ?_
    refine h.visit htopic ?_
    rintro path value rfl
    exact hvisits path value List.mem_cons_self

/-- Whatever the names in the document are, all its leaves are below the device. -/
theorem isolated_applyDocument (h : Site.SameDevice ks key site site')
    (htopic : DeviceTopic key topic) (document : Json) :
    Progress.Isolated ks key site (applyDocument ks site topic document)
      (applyDocument ks site' topic document) :=
  .visits htopic (fun _ _ hmem => Json.path_of_mem_visits hmem) ⟨rfl, h, .refl ks key site⟩

/-! ### A message -/

/-- A message changes at most one device: nothing else of the site, and nothing else of the engine.
No alarm list is reconciled. -/
structure Confined (key : String) (before : Engine) (topic : String) (payload : Payload) :
    Prop where
  engine : (before.processMessage topic payload).engine =
    { before with site := (before.processMessage topic payload).engine.site }
  only : Site.OnlyDevice before.keyspace key before.site
    (before.processMessage topic payload).engine.site
  noPass : before.reconciled? (.message topic payload) = none
  unreported : ∀ report, (before.processMessage topic payload).result = .ok report →
    report.reconciliation = none

/-- Below a device a document does what its leaves do: it completes no alarm list. -/
theorem processDocument_of_deviceTopic (hdraft : engine.site.draft.isComplete = false)
    (htopic : DeviceTopic key topic) (document : Json) :
    let p := applyDocument engine.keyspace engine.site topic document
    (engine.processDocument topic document).engine = { engine with site := p.site } ∧
      (engine.processDocument topic document).result = .ok p.report ∧
      engine.completed? topic document = none := by
  intro p
  have honly : Site.OnlyDevice engine.keyspace key engine.site p.site :=
    (isolated_applyDocument (.refl engine.keyspace key engine.site) htopic document).only
  have htaken : p.site.draft.takeComplete = (p.site.draft, none) := by
    rw [honly.draft, takeComplete_of_incomplete hdraft]
  simp only [processDocument, completed?, ← site_applyDocument, p, htaken, true_and]

/-- Below a device a message is its document, or it is refused as a whole. -/
theorem processMessage_of_deviceTopic (htopic : DeviceTopic key topic) (engine : Engine)
    (payload : Payload) :
    engine.processMessage topic payload =
        (match payload.document? with
        | some document => engine.processDocument topic document
        | none => ⟨engine, [], .error (.malformedPayload topic "not a JSON document")⟩) ∧
      engine.reconciled? (.message topic payload) =
        payload.document?.bind (engine.completed? topic) := by
  have haccepts : engine.accepts topic = true := by
    rw [accepts, htopic.accepted, Bool.or_true]
  exact ⟨if_pos haccepts, if_pos haccepts⟩

theorem confined_of_deviceTopic (hdraft : engine.site.draft.isComplete = false)
    (htopic : DeviceTopic key topic) (payload : Payload) : Confined key engine topic payload := by
  obtain ⟨hmessage, hreconciled⟩ := processMessage_of_deviceTopic htopic engine payload
  cases hpayload : payload.document? with
  | none =>
    rw [hpayload] at hmessage hreconciled
    constructor
    case engine => rw [hmessage]
    case only => rw [hmessage]; exact .refl _ _ _
    case noPass => exact hreconciled
    case unreported => rw [hmessage]; exact nofun
  | some document =>
    rw [hpayload] at hmessage hreconciled
    obtain ⟨hengine, hresult, hcompleted⟩ := processDocument_of_deviceTopic hdraft htopic document
    have hisolated := isolated_applyDocument (.refl engine.keyspace key engine.site) htopic document
    constructor
    case engine => rw [hmessage, hengine]
    case only => rw [hmessage, hengine]; exact hisolated.only
    case noPass => rw [hreconciled]; exact hcompleted
    case unreported =>
      intro report hreport
      rw [hmessage, hresult] at hreport
      obtain rfl := Except.ok.inj hreport
      exact reconciliation_applyDocument _ _ _ _

/-- Engines that agree on the device answer a message about it in the same way. -/
theorem isolated_processMessage (hks : second.keyspace = first.keyspace)
    (hfirst : first.site.draft.isComplete = false) (hsecond : second.site.draft.isComplete = false)
    (h : Site.SameDevice first.keyspace key first.site second.site)
    (htopic : DeviceTopic key topic) (payload : Payload) :
    (first.processMessage topic payload).result = (second.processMessage topic payload).result ∧
      Site.SameDevice first.keyspace key (first.processMessage topic payload).engine.site
        (second.processMessage topic payload).engine.site := by
  rw [(processMessage_of_deviceTopic htopic first payload).1,
    (processMessage_of_deviceTopic htopic second payload).1]
  cases payload.document? with
  | none => exact ⟨rfl, h⟩
  | some document =>
    obtain ⟨hengine, hresult, -⟩ := processDocument_of_deviceTopic hfirst htopic document
    obtain ⟨hengine', hresult', -⟩ := processDocument_of_deviceTopic hsecond htopic document
    simp only
    rw [hks] at hengine' hresult'
    obtain ⟨hreport, hsame, -⟩ := isolated_applyDocument h htopic document
    rw [hengine, hengine', hresult, hresult', hreport]
    exact ⟨rfl, hsame⟩

/-- Two messages in either order: each is answered as if it had come first, and both orders lead to
the same. -/
structure OrderFree (first second both swapped : Response MessageReport) : Prop where
  second : both.result = second.result
  first : swapped.result = first.result
  known : both.engine.known = swapped.engine.known
  devices : both.engine.site.devices = swapped.engine.site.devices
  outlets : both.engine.site.outlets = swapped.engine.site.outlets
  draft : both.engine.site.draft = swapped.engine.site.draft
  entries : both.engine.site.store.entries = swapped.engine.site.store.entries

/-- Messages below different devices come to the same in either order. -/
theorem messages_commute (hdraft : engine.site.draft.isComplete = false) (hne : key ≠ other)
    (htopic : DeviceTopic key topic) (htopic' : DeviceTopic other topic')
    (payload payload' : Payload) :
    let first := engine.processMessage topic payload
    let second := engine.processMessage topic' payload'
    let both := first.engine.processMessage topic' payload'
    let swapped := second.engine.processMessage topic payload
    OrderFree first second both swapped := by
  intro first second both swapped
  have hfirst := confined_of_deviceTopic hdraft htopic payload
  have hsecond := confined_of_deviceTopic hdraft htopic' payload'
  have hdraftFirst : first.engine.site.draft.isComplete = false := by rw [hfirst.only.draft, hdraft]
  have hdraftSecond : second.engine.site.draft.isComplete = false := by
    rw [hsecond.only.draft, hdraft]
  have hboth := confined_of_deviceTopic hdraftFirst htopic' payload'
  have hswapped := confined_of_deviceTopic hdraftSecond htopic payload
  have hksFirst : first.engine.keyspace = engine.keyspace := by rw [hfirst.engine]
  have hksSecond : second.engine.keyspace = engine.keyspace := by rw [hsecond.engine]
  obtain ⟨hresult, hsame⟩ := isolated_processMessage hksFirst hdraft hdraftFirst
    (hfirst.only.sameDevice hne) htopic' payload'
  obtain ⟨hresult', hsame'⟩ := isolated_processMessage hksSecond hdraft hdraftSecond
    (hsecond.only.sameDevice hne.symm) htopic payload
  have honlyBoth := hboth.only
  have honlySwapped := hswapped.only
  rw [hksFirst] at honlyBoth
  rw [hksSecond] at honlySwapped
  obtain ⟨hdevices, houtlets, hdrafts, hentries⟩ :=
    Site.OnlyDevice.commute hne hfirst.only hsecond.only honlyBoth honlySwapped hsame' hsame
  refine ⟨hresult.symm, hresult'.symm, ?_, hdevices, houtlets, hdrafts, hentries⟩
  rw [hboth.engine, hfirst.engine, hswapped.engine, hsecond.engine]

/-- Whatever happened before, a message below a device concerns that device only, and messages below
two devices come to the same in either order. -/
theorem device_messages_isolated (settings : EngineSettings) (calls : List Call)
    (htopic : DeviceTopic key topic) (payload : Payload) :
    let before := (ofSettings settings).run calls
    Confined key before topic payload ∧
      ∀ other topic' payload', DeviceTopic other topic' → key ≠ other →
        let first := before.processMessage topic payload
        let second := before.processMessage topic' payload'
        let both := first.engine.processMessage topic' payload'
        let swapped := second.engine.processMessage topic payload
        OrderFree first second both swapped := by
  have hdraft := incomplete_ofSettings settings calls
  intro before
  refine ⟨confined_of_deviceTopic hdraft htopic payload, ?_⟩
  intro other topic' payload' htopic' hne
  exact messages_commute hdraft hne htopic htopic' payload payload'

def identificationTopic : String := "mbdetnrs/1.0/sensors/devices/dev-a/identification"

def temperaturesTopic : String := "mbdetnrs/1.0/sensors/devices/dev-b/channels/temperatures"

theorem deviceTopic_identification : DeviceTopic "dev-a" identificationTopic :=
  ⟨by decide +kernel, by decide, "identification", rfl⟩

theorem deviceTopic_temperatures : DeviceTopic "dev-b" temperaturesTopic :=
  ⟨by decide +kernel, by decide, "channels/temperatures", rfl⟩

/-- The names in the first message spell a path of the other device. -/
theorem device_messages_isolated_pair :
    let list := Json.object [("members@count", .integer 2),
      ("members", .list [.object [("@id", .text "/dev-a")], .object [("@id", .text "/dev-b")]])]
    let before := (ofSettings {}).run [.document "mbdetnrs/1.0/sensors/devices" list]
    let document := Json.object [("model", .text "EMP"),
      ("../dev-b/identification/model", .text "none")]
    let payload := Payload.raw document.print.toUTF8
    let payload' := Payload.raw (Json.object [("members@count", .integer 1)]).print.toUTF8
    let first := before.processMessage identificationTopic payload
    let second := before.processMessage temperaturesTopic payload'
    let both := first.engine.processMessage temperaturesTopic payload'
    let swapped := second.engine.processMessage identificationTopic payload
    DeviceTopic "dev-a" identificationTopic ∧ DeviceTopic "dev-b" temperaturesTopic ∧
      before.site.devices.keys = ["dev-a", "dev-b"] ∧
      Confined "dev-a" before identificationTopic payload ∧
      OrderFree first second both swapped := by
  intro list before
  have hkeys : before.site.devices.keys = ["dev-a", "dev-b"] := by decide +kernel
  have hne : "dev-a" ≠ "dev-b" := by decide
  have hisolated := device_messages_isolated {}
    [.document "mbdetnrs/1.0/sensors/devices" list] deviceTopic_identification
  exact ⟨deviceTopic_identification, deviceTopic_temperatures, hkeys, (hisolated _).1,
    (hisolated _).2 "dev-b" temperaturesTopic _ deviceTopic_temperatures hne⟩

end Engine

end RackTelemetry
