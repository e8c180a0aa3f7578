import RackTelemetry.Proofs.Engine.Channels
import RackTelemetry.Proofs.Site.Tidiness

/-!
When a run leaves something published that has no object. Value by value, a site is tidy afterwards
exactly if whatever was published before has its object after the value; alarm passes do not matter.
So a run in which nothing published loses its object keeps the engine tidy, and every value that
drops the object of something published leaves it behind.
-/

namespace RackTelemetry

open KeySpace AlarmPass

namespace Site

variable {site : Site}

/-- Only the devices, the outlets and what is published matter. -/
theorem Tidy.of_draft {ks : KeySpace} (h : Tidy ks site) (draft : AlarmDraft) :
    Tidy ks { site with draft } :=
  ⟨h.outlets, h.sensors⟩

/-- A pass publishes nothing for an outlet, and nothing for a sensor that is not there. -/
theorem Tidy.pass (h : Tidy {} site) (known : AlarmRegistry) (received : List Alarm) :
    Tidy {} { site with
      store := (AlarmTable.card.reconcile {} known site.devices site.store received).store } := by
  refine ⟨?_, ?_⟩
  · intro i field value hvalue
    obtain ⟨halarm, hstatus⟩ := Engine.outlet_ne_channel i field
    rw [published_pass_elsewhere (not_ambient_outlet i field) halarm hstatus] at hvalue
    exact h.outlets i field value hvalue
  · intro p device hp kind hkind hgone field
    have hchannels := (({} : KeySpace).ambient_device p (sensorField kind 0 field)).ne_channels
    refine Eq.trans (get?_reconcile_of_notMem hchannels.1 hchannels.2 ?_ known _ received)
      (h.sensors p device hp kind hkind hgone field)
    intro entry value hwrite
    rcases name_of_mem_writesFor hwrite with
      ⟨q, found, -, hname⟩ | ⟨q, other, i, found, sensor, hslot, -, hname⟩
    · exact DeviceObject.own_ne_sensorField (by decide) kind 0 field (device_inj.mp hname).2.symm
    · rw [sensor_eq_device] at hname
      obtain ⟨rfl, hstep⟩ := device_inj.mp hname
      obtain rfl := kind_of_sensorField hstep
      obtain rfl := Option.some.inj (hp.symm.trans hslot.stands)
      exact hslot.group_ne_nil hgone

/-- The sites before and after each thing that is met, in order. -/
def moments (ks : KeySpace) (site : Site) : List Visit → List (Site × Site)
  | [] => []
  | met :: rest => (site, site.visit ks met) :: moments ks (site.visit ks met) rest

theorem Mirrored.moments (h : Mirrored {} site) (visits : List Visit) :
    ∀ moment ∈ site.moments {} visits,
      Mirrored {} moment.1 ∧ Change {} moment.1 moment.2 := by
  induction visits generalizing site with
  | nil =>
    intro moment hmem
    cases hmem
  | cons met rest ih =>
    have hmet := change_visit {} site met
    intro moment hmem
    rcases List.mem_cons.mp hmem with rfl | hrest
    · exact ⟨h, hmet⟩
    · exact ih (h.change hmet) moment hrest

/-- As long as nothing is dropped, a tidy site stays tidy. -/
theorem Tidy.foldl_visit (h : Tidy {} site) (hmirrored : Mirrored {} site) (visits : List Visit)
    (hkept : ∀ moment ∈ site.moments {} visits, ¬ Drops {} moment.1 moment.2) :
    Tidy {} (visits.foldl (visit {}) site) := by
  induction visits generalizing site with
  | nil => exact h
  | cons met rest ih =>
    have hmet := change_visit {} site met
    have htidy : Tidy {} (site.visit {} met) :=
      (hmirrored.leaves hmet).tidy_iff.mpr (hkept _ List.mem_cons_self)
    apply ih htidy (hmirrored.change hmet)
    intro moment hmem
    exact hkept moment (List.mem_cons_of_mem _ hmem)

end Site

namespace Engine

/-- What is met in the document of a call. -/
def visits (engine : Engine) : Call → List Visit
  | .message topic payload =>
    if engine.accepts topic then
      match payload.document? with
      | some document => document.visits Json.maxDepth topic
      | none => []
    else []
  | .document topic document => document.visits Json.maxDepth topic
  | .reconcile _ => []

/-- The sites before and after each thing that is met during calls, in order. -/
def history (engine : Engine) : List Call → List (Site × Site)
  | [] => []
  | call :: rest =>
    engine.site.moments engine.keyspace (engine.visits call) ++ (engine.after call).history rest

variable {engine : Engine}

theorem tidy_reconcile (hks : engine.keyspace = {}) (h : Site.Tidy {} engine.site)
    (received : List Alarm) : Site.Tidy {} (engine.reconcile received).engine.site := by
  rw [engine_reconcile, hks]
  exact h.pass engine.known received

theorem tidy_processDocument (hks : engine.keyspace = {}) (hmirrored : Site.Mirrored {} engine.site)
    (h : Site.Tidy {} engine.site) (topic : String) (document : Json)
    (hkept : ∀ moment ∈ engine.site.moments {} (document.visits Json.maxDepth topic),
      ¬ Site.Drops {} moment.1 moment.2) :
    Site.Tidy {} (engine.processDocument topic document).engine.site := by
  have hread : Site.Tidy {} (engine.readDocument topic document).site := by
    rw [readDocument, hks]
    exact (h.foldl_visit hmirrored _ hkept).of_draft _
  rw [engine_processDocument]
  cases engine.completed? topic document with
  | none => exact hread
  | some received =>
    have hpass : (engine.readDocument topic document).keyspace = {} := hks
    exact tidy_reconcile hpass hread received

theorem tidy_after (hks : engine.keyspace = {}) (hmirrored : Site.Mirrored {} engine.site)
    (h : Site.Tidy {} engine.site) (call : Call)
    (hkept : ∀ moment ∈ engine.site.moments {} (engine.visits call),
      ¬ Site.Drops {} moment.1 moment.2) : Site.Tidy {} (engine.after call).site := by
  cases call with
  | message topic payload =>
    rw [after, engine_processMessage]
    rw [visits] at hkept
    split
    · next haccepts =>
      rw [if_pos haccepts] at hkept
      cases hdocument : payload.document? with
      | none => exact h
      | some document =>
        rw [hdocument] at hkept
        exact tidy_processDocument hks hmirrored h topic document hkept
    · exact h
  | document topic document => exact tidy_processDocument hks hmirrored h topic document hkept
  | reconcile received => exact tidy_reconcile hks h received

theorem mirrored_history (hks : engine.keyspace = {}) (h : Site.Mirrored {} engine.site)
    (calls : List Call) : ∀ moment ∈ engine.history calls,
      Site.Mirrored {} moment.1 ∧ Site.Change {} moment.1 moment.2 := by
  induction calls generalizing engine with
  | nil =>
    intro moment hmem
    cases hmem
  | cons call rest ih =>
    obtain ⟨hks', hafter⟩ := mirrored_after ⟨hks, h⟩ call
    intro moment hmem
    rw [history, hks] at hmem
    rcases List.mem_append.mp hmem with hcall | hrest
    · exact h.moments _ moment hcall
    · exact ih hks' hafter moment hrest

theorem tidy_run (hks : engine.keyspace = {}) (hmirrored : Site.Mirrored {} engine.site)
    (h : Site.Tidy {} engine.site) (calls : List Call)
    (hkept : ∀ moment ∈ engine.history calls, ¬ Site.Drops {} moment.1 moment.2) :
    Site.Tidy {} (engine.run calls).site := by
  induction calls generalizing engine with
  | nil => exact h
  | cons call rest ih =>
    obtain ⟨hks', hafter⟩ := mirrored_after ⟨hks, hmirrored⟩ call
    rw [history, hks] at hkept
    have htidy := tidy_after hks hmirrored h call
      fun moment hmem => hkept moment (List.mem_append_left _ hmem)
    exact ih hks' hafter htidy fun moment hmem => hkept moment (List.mem_append_right _ hmem)

theorem tidy_start (settings : EngineSettings) : Site.Tidy {} (start settings).site := by
  refine ⟨?_, ?_⟩
  · intro i field value hvalue
    simp [start, ofSettings, Store.get?] at hvalue
  · intro p device hp
    cases hp

/-- At every value of a run, something is published afterwards that has no object exactly if
something that was published before has no object after the value: an outlet that the list does not
have, or temperature or humidity sensors that a device does not have. The value may have dropped the
object, or the object was missing before. A run without such a value leaves nothing behind. -/
theorem stale_iff_dropped (settings : EngineSettings) (calls : List Call) :
    let history := (start settings).history calls
    (∀ moment ∈ history, Site.Tidy {} moment.2 ↔ ¬ Site.Drops {} moment.1 moment.2) ∧
    ((∀ moment ∈ history, ¬ Site.Drops {} moment.1 moment.2) →
      Site.Tidy {} ((start settings).run calls).site) := by
  have hmirrored := mirrored_start settings
  refine ⟨?_, tidy_run rfl hmirrored (tidy_start settings) calls⟩
  intro moment hmem
  obtain ⟨hbefore, hchange⟩ := mirrored_history rfl hmirrored calls moment hmem
  exact (hbefore.leaves hchange).tidy_iff

/-- One outlet is announced and named; then there are none. -/
def outletGone : List Call :=
  [.document "mbdetnrs/1.0/powerDistributions/1/outlets/members@count" (.integer 1),
    .document "mbdetnrs/1.0/powerDistributions/1/outlets/members/0/@id"
      (.text "mbdetnrs/1.0/powerDistributions/1/outlets/1"),
    .document "mbdetnrs/1.0/powerDistributions/1/outlets/1/identification/name" (.text "fan"),
    .document "mbdetnrs/1.0/powerDistributions/1/outlets/members@count" (.integer 0)]

/-- The only humidity sensor of a device is announced; then it has none. -/
def humidityGone : List Call :=
  [.document "mbdetnrs/1.0/sensors/devices/members/0/@id" (.text "/dev-a"),
    .document "mbdetnrs/1.0/sensors/devices/dev-a/channels/humidities/members@count" (.integer 1),
    .document "mbdetnrs/1.0/sensors/devices/dev-a/channels/humidities/members/0/@id" (.text "/H1"),
    .document "mbdetnrs/1.0/sensors/devices/dev-a/channels/humidities/members@count" (.integer 0)]

/-- The name of the outlet and the status of the sensor are still published. -/
theorem emptied_lists_leave_entries :
    (((start {}).run outletGone).site.outlets.outlets = [] ∧
      ((start {}).run outletGone).site.store.get? "outlet.1.name" = some "fan") ∧
    ((start {}).run humidityGone).site.devices.devices = [{ key := "dev-a" }] ∧
      ((start {}).run humidityGone).site.store.get? "ambient.1.humidity.status" = some "good" := by
  have houtlet : ((start {}).run outletGone).site.outlets.outlets = [] ∧
      ((start {}).run outletGone).site.store.get? "outlet.1.name" = some "fan" := by
    decide +kernel
  have hsensor : ((start {}).run humidityGone).site.devices.devices = [{ key := "dev-a" }] ∧
      ((start {}).run humidityGone).site.store.get? "ambient.1.humidity.status" = some "good" := by
    decide +kernel
  exact ⟨houtlet, hsensor⟩

end Engine

end RackTelemetry
