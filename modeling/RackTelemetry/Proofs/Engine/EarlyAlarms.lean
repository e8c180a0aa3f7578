import RackTelemetry.Proofs.Alarm.Appearance
import RackTelemetry.Proofs.Engine.Leaves
import RackTelemetry.Proofs.Engine.Tidiness
import RackTelemetry.Proofs.Site.Seeding

/-!
Alarms that are reported before their sensors are announced. The pass that meets such an alarm finds
no object, but knows the alarm from then on; the passes after it leave the objects of known alarms
alone. So the alarm is in the channels, and the status of its sensor stays what the announcement of
the sensor made it. The same alarms reported once the sensors are there raise their statuses, and
that is the only difference.
-/

namespace RackTelemetry

open KeySpace AlarmPass AlarmTable

/-- If what is met does anything, it announces devices or sensors. -/
def Visit.Announces : Visit → Prop
  | .truncated _ => True
  | .leaf path _ => TopicTable.card.announces path = true

namespace Site

variable {ks : KeySpace} {names : List String} {a b site : Site} {met : Visit} {visits : List Visit}

theorem Agree.visit (h : Agree names a b) (hfree : ∀ p s, ks.device p s ∉ names)
    (hmet : met.Announces) : Agree names (a.visit ks met) (b.visit ks met) := by
  cases met with
  | truncated path => exact h
  | leaf path value =>
    simp only [Site.visit]
    cases value.scalarText? with
    | none => exact h
    | some text => exact (h.dispatch hfree hmet text).sites

theorem Agree.foldl_visit (h : Agree names a b) (hfree : ∀ p s, ks.device p s ∉ names)
    (hvisits : ∀ met ∈ visits, met.Announces) :
    Agree names (visits.foldl (Site.visit ks) a) (visits.foldl (Site.visit ks) b) := by
  induction visits generalizing a b with
  | nil => exact h
  | cons met rest ih =>
    have hmet := h.visit hfree (hvisits met List.mem_cons_self)
    exact ih hmet fun other hmem => hvisits other (List.mem_cons_of_mem _ hmem)

theorem Seeded.visit (h : Seeded ks site) (hmet : met.Announces) :
    Seeded ks (site.visit ks met) := by
  cases met with
  | truncated path => exact h
  | leaf path value =>
    simp only [Site.visit]
    cases value.scalarText? with
    | none => exact h
    | some text => exact h.dispatch hmet text

theorem Seeded.foldl_visit (h : Seeded ks site) (hvisits : ∀ met ∈ visits, met.Announces) :
    Seeded ks (visits.foldl (Site.visit ks) site) :=
  List.foldlRecOn (motive := Seeded ks) visits _ h
    fun _ hbefore met hmem => hbefore.visit (hvisits met hmem)

/-- The sensor that an alarm finds has a key, so its status is there. -/
theorem Seeded.good_of_raises (h : Seeded ks site) {alarm : Alarm} {p : Nat} {kind : SensorKind}
    {raised : String} (hraises : alarm.Raises site.devices p kind raised) :
    site.store.get? (ks.sensor p kind 0 (some "status")) = some "good" := by
  obtain ⟨hplain, _, _, _, _, _, _, hresolve⟩ := hraises
  obtain ⟨-, device, hdevice, hindex⟩ := DeviceRegistry.resolve_eq_ok.mp hresolve
  obtain ⟨sensor, hslot, hkey⟩ := DeviceRegistry.slot_of_indexOf? hdevice hindex
  have hkeyed : sensor.key ≠ none := by
    rw [hkey]
    exact Option.some_ne_none _
  rw [sensor_status ks p 0 hplain]
  exact h.good hslot hplain hkeyed

theorem draft_foldl_visit (ks : KeySpace) (site : Site) (hvisits : ∀ met ∈ visits, met.Announces) :
    (visits.foldl (Site.visit ks) site).draft = site.draft := by
  refine List.foldlRecOn (motive := fun after : Site => after.draft = site.draft) visits _ rfl ?_
  intro before hbefore met hmem
  cases met with
  | truncated path => exact hbefore
  | leaf path value =>
    have hpath : TopicTable.card.announces path = true := hvisits _ hmem
    exact (Engine.draft_visit (TopicTable.not_feedsAlarmList hpath) ks before value).trans hbefore

end Site

namespace Engine

/-- All leaves of the document are announcements. -/
def Announces (topic : String) (document : Json) : Prop :=
  ∀ leaf ∈ document.leaves Json.maxDepth topic, TopicTable.card.announces leaf.1 = true

/-- The call only announces devices and sensors. -/
def Call.Announces : Call → Prop
  | .message topic payload =>
    ∀ contents, payload.document? = some contents → Engine.Announces topic contents
  | .document topic contents => Engine.Announces topic contents
  | .reconcile _ => False

variable {engine : Engine} {call : Call} {calls : List Call}

/-! ### Announcements -/

theorem Announces.visits {topic : String} {document : Json} (h : Announces topic document) :
    ∀ met ∈ document.visits Json.maxDepth topic, met.Announces := by
  intro met hmem
  cases met with
  | truncated path => trivial
  | leaf path value => exact h (path, value) (List.mem_filterMap.mpr ⟨_, hmem, rfl⟩)

theorem announces_visits (engine : Engine) (h : call.Announces) :
    ∀ met ∈ engine.visits call, met.Announces := by
  cases call with
  | message topic payload =>
    rw [visits]
    split
    · cases hdocument : payload.document? with
      | none =>
        intro met hmem
        cases hmem
      | some document => exact (h document hdocument).visits
    · intro met hmem
      cases hmem
  | document topic document => exact Announces.visits h
  | reconcile received => cases h

theorem announces_flatMap_visits (engine : Engine) (h : ∀ call ∈ calls, call.Announces) :
    ∀ met ∈ calls.flatMap engine.visits, met.Announces := by
  intro met hmem
  obtain ⟨call, hcall, hmet⟩ := List.mem_flatMap.mp hmem
  exact announces_visits engine (h call hcall) met hmet

/-- An announcement is read, and no alarm pass follows. -/
theorem after_announcement (h : call.Announces) (hdraft : engine.site.draft.isComplete = false) :
    engine.after call =
      { engine with
        site := (engine.visits call).foldl (Site.visit engine.keyspace) engine.site } := by
  have hread : ∀ topic document, Announces topic document →
      (engine.processDocument topic document).engine =
        { engine with site := engine.site.read engine.keyspace topic document } := by
    intro topic document hdocument
    apply (processDocument_of_incomplete _).1
    rw [Site.read, Site.draft_foldl_visit _ _ hdocument.visits]
    exact hdraft
  cases call with
  | message topic payload =>
    rw [after, engine_processMessage, visits]
    split
    · cases hdocument : payload.document? with
      | none => rfl
      | some document => exact hread topic document (h document hdocument)
    · rfl
  | document topic document => exact hread topic document h
  | reconcile received => cases h

theorem run_announcements (engine : Engine) (hcalls : ∀ call ∈ calls, call.Announces)
    (hdraft : engine.site.draft.isComplete = false) :
    engine.run calls =
      { engine with
        site := (calls.flatMap engine.visits).foldl (Site.visit engine.keyspace) engine.site } := by
  induction calls generalizing engine with
  | nil => rfl
  | cons call rest ih =>
    have hcall := hcalls call List.mem_cons_self
    have hafter := after_announcement hcall hdraft
    have hdraft' : (engine.after call).site.draft.isComplete = false := by
      rw [hafter]
      exact (congrArg AlarmDraft.isComplete
        (Site.draft_foldl_visit _ _ (announces_visits engine hcall))).trans hdraft
    have hcalls' : ∀ other ∈ rest, other.Announces := fun other hmem =>
      hcalls other (List.mem_cons_of_mem _ hmem)
    have hrest := ih (engine.after call) hcalls' hdraft'
    have hvisits : (engine.after call).visits = engine.visits := by
      funext other
      rw [hafter]
      cases other <;> rfl
    rw [hvisits, hafter] at hrest
    rw [List.flatMap_cons, List.foldl_append, ← hrest, ← hafter]
    rfl

/-! ### Both orders -/

/-- Nothing is written for objects while there are no devices. -/
theorem agree_first_pass (settings : EngineSettings) (received : List Alarm) :
    Site.Agree [({} : KeySpace).alarmKey, ({} : KeySpace).statusKey]
      ((start settings).reconcile received).engine.site (start settings).site := by
  refine ⟨rfl, rfl, rfl, ?_⟩
  intro name hname
  obtain ⟨halarm, hstatus⟩ := not_or.mp (List.mem_pair.not.mp hname)
  refine get?_reconcile_of_notMem halarm hstatus ?_ _ _ received
  intro entry value hwrite
  rcases name_of_mem_writesFor hwrite with
    ⟨p, device, hp, -⟩ | ⟨p, kind, i, device, sensor, hslot, -⟩
  · cases hp
  · cases hslot.stands

theorem not_channel_device (p : Nat) (s : String) :
    ({} : KeySpace).device p s ∉ [({} : KeySpace).alarmKey, ({} : KeySpace).statusKey] := by
  rw [List.mem_pair, not_or]
  exact (({} : KeySpace).ambient_device p s).ne_channels

/-- The same list reconciled before and after the announcements, and only after them. -/
structure BothOrders (received : List Alarm) (listed early late : Engine) : Prop where
  known : early.known = late.known
  devices : early.site.devices = late.site.devices
  outlets : early.site.outlets = late.site.outlets
  draft : early.site.draft = late.site.draft
  channels : ∀ name ∈ [({} : KeySpace).alarmKey, ({} : KeySpace).statusKey],
    early.site.store.get? name = late.site.store.get? name
  /-- Alarms that are known by then publish nothing. -/
  early : ∀ name, name ∉ [({} : KeySpace).alarmKey, ({} : KeySpace).statusKey] →
    early.site.store.get? name = listed.site.store.get? name
  /-- Alarms that appear publish what they raise. -/
  late : ∀ name, name ∉ [({} : KeySpace).alarmKey, ({} : KeySpace).statusKey] →
    late.site.store.get? name =
      ((appearingWrites {} listed.site.devices received).foldl Store.offer
        listed.site.store).get? name

/-- The announcements lead to the same after a first pass and without it: that pass only wrote the
channels. -/
theorem agree_announcements (settings : EngineSettings) (received : List Alarm)
    (hcalls : ∀ call ∈ calls, call.Announces) :
    let first := ((start settings).reconcile received).engine
    Site.Agree [({} : KeySpace).alarmKey, ({} : KeySpace).statusKey] (first.run calls).site
        ((start settings).run calls).site ∧
      first.run calls = { first with site := (first.run calls).site } ∧
      (start settings).run calls =
        { start settings with site := ((start settings).run calls).site } := by
  intro first
  have hlisted := run_announcements (start settings) hcalls rfl
  have hfirst := run_announcements first hcalls rfl
  refine ⟨?_, ?_, ?_⟩
  · rw [hlisted, hfirst]
    exact (agree_first_pass settings received).foldl_visit not_channel_device
      (announces_flatMap_visits first hcalls)
  · rw [hfirst]
  · rw [hlisted]

theorem both_orders (settings : EngineSettings) (received : List Alarm)
    (hcalls : ∀ call ∈ calls, call.Announces) :
    BothOrders received ((start settings).run calls)
      ((start settings).run (.reconcile received :: (calls ++ [.reconcile received])))
      ((start settings).run (calls ++ [.reconcile received])) := by
  let first := ((start settings).reconcile received).engine
  have hearly : (start settings).run (.reconcile received :: (calls ++ [.reconcile received])) =
      ((first.run calls).reconcile received).engine := by
    simp only [run, List.foldl_cons, List.foldl_append, List.foldl_nil]
    rfl
  have hlate : (start settings).run (calls ++ [.reconcile received]) =
      (((start settings).run calls).reconcile received).engine := by
    simp only [run, List.foldl_append, List.foldl_cons, List.foldl_nil]
    rfl
  obtain ⟨hagree, hfirst, hlisted⟩ := agree_announcements settings received hcalls
  have halarm : ({} : KeySpace).alarmKey ≠ "" := by decide
  have hstatus : ({} : KeySpace).statusKey ≠ "" := by decide
  have hreported : Reported first.known received := reported_first ..
  have hagain := hreported.get?_reconcile card halarm hstatus (first.run calls).site.devices
    (first.run calls).site.store
  have honce := get?_reconcile_first halarm hstatus ((start settings).run calls).site.devices
    ((start settings).run calls).site.store received
  -- the alarms of the list are known after the first pass over it, whenever that was
  have hknown : (card.reconcile {} {} ((start settings).run calls).site.devices
      ((start settings).run calls).site.store received).known = first.known := known_first ..
  simp only [hknown] at honce
  rw [hearly, hlate, engine_reconcile, engine_reconcile, hfirst, hlisted]
  constructor
  case known => exact (hreported.known_reconcile ..).trans hknown.symm
  case devices => exact hagree.devices
  case outlets => exact hagree.outlets
  case draft => exact hagree.draft
  case channels =>
    intro name hname
    refine (hagain name).trans (Eq.trans ?_ (honce name).symm)
    rcases List.mem_pair.mp hname with rfl | rfl
    · rfl
    · rfl
  case early =>
    intro name hname
    obtain ⟨hneAlarm, hneStatus⟩ := not_or.mp (List.mem_pair.not.mp hname)
    refine (hagain name).trans ?_
    rw [if_neg hneStatus, if_neg hneAlarm]
    exact hagree.published name hname
  case late =>
    intro name hname
    obtain ⟨hneAlarm, hneStatus⟩ := not_or.mp (List.mem_pair.not.mp hname)
    refine (honce name).trans ?_
    rw [if_neg hneStatus, if_neg hneAlarm]

theorem seeded_announcements (settings : EngineSettings)
    (hcalls : ∀ call ∈ calls, call.Announces) :
    Site.Seeded {} ((start settings).run calls).site := by
  have hstart : Site.Seeded {} (start settings).site := by
    refine ⟨mirrored_start settings, ?_, ?_, ?_⟩
    · intro p kind i device sensor hslot
      cases hslot.stands
    · intro p kind i device sensor hslot
      cases hslot.stands
    · intro p kind value _ hvalue
      simp [Site.entry, start, ofSettings, Store.get?] at hvalue
  rw [run_announcements _ hcalls rfl]
  exact hstart.foldl_visit (announces_flatMap_visits _ hcalls)

/-- Alarms about readings that are reconciled before their sensors are announced, and again
afterwards, are known as if they had been reconciled afterwards only, and everything published is
the same except the statuses that they raise: those stay good in the first order, and hold what one
of the alarms raises in the second. -/
theorem early_alarms_stay_silent (settings : EngineSettings) {received : List Alarm}
    {calls : List Call} (hreadings : ∀ alarm ∈ received, alarm.OnReading)
    (hcalls : ∀ call ∈ calls, call.Announces) :
    let listed := (start settings).run calls
    let early := (start settings).run (.reconcile received :: (calls ++ [.reconcile received]))
    let late := (start settings).run (calls ++ [.reconcile received])
    let status (p : Nat) (kind : SensorKind) := ({} : KeySpace).sensor p kind 0 (some "status")
    (early.known = late.known ∧ early.site.devices = late.site.devices ∧
      early.site.outlets = late.site.outlets ∧ early.site.draft = late.site.draft) ∧
    (∀ name, (∀ alarm ∈ distinctAlarms received, ∀ p kind raised,
        alarm.Raises listed.site.devices p kind raised → name ≠ status p kind) →
      early.site.store.get? name = late.site.store.get? name) ∧
    ∀ alarm ∈ distinctAlarms received, ∀ p kind raised,
      alarm.Raises listed.site.devices p kind raised →
        early.site.store.get? (status p kind) = some "good" ∧
        ∃ other ∈ distinctAlarms received, ∃ last,
          other.Raises listed.site.devices p kind last ∧ last ≠ "good" ∧
            late.site.store.get? (status p kind) = some last := by
  intro listed early late status
  have hseeded : Site.Seeded {} listed.site := seeded_announcements settings hcalls
  have horders : BothOrders received listed early late := both_orders settings received hcalls
  refine ⟨⟨horders.known, horders.devices, horders.outlets, horders.draft⟩, ?_, ?_⟩
  · intro name hname
    by_cases hchannel : name ∈ [({} : KeySpace).alarmKey, ({} : KeySpace).statusKey]
    · exact horders.channels name hchannel
    · rw [horders.early name hchannel, horders.late name hchannel,
        Store.get?_foldl_offer_of_notMem]
      rintro ⟨_, value⟩ hwrite rfl
      obtain ⟨alarm, hmem, hpublished⟩ := List.mem_flatMap.mp hwrite
      obtain ⟨p, kind, hplain, rfl⟩ :=
        name_of_onReading (hreadings alarm (mem_takenAfter hmem).1) hpublished
      obtain ⟨other, hother, hraises⟩ := (mem_appearingWrites hseeded.inUse hplain).mp hwrite
      exact hname other hother p kind value hraises rfl
  · intro alarm hmem p kind raised hraises
    have hchannel : status p kind ∉ [({} : KeySpace).alarmKey, ({} : KeySpace).statusKey] := by
      simp only [status, sensor_eq_device]
      exact not_channel_device p _
    refine ⟨(horders.early _ hchannel).trans (hseeded.good_of_raises hraises), ?_⟩
    obtain ⟨last, hlast, hget⟩ := Store.get?_foldl_offer_of_mem listed.site.store _
      (sensor_ne_empty {} p kind 0 (some "status"))
      ((mem_appearingWrites hseeded.inUse hraises.plain).mpr ⟨alarm, hmem, hraises⟩)
    obtain ⟨other, hother, hraises'⟩ := (mem_appearingWrites hseeded.inUse hraises.plain).mp hlast
    exact ⟨other, hother, last, hraises', raised_ne_good hraises',
      (horders.late _ hchannel).trans hget⟩

/-- One device with one temperature sensor. -/
def sensorAnnounced : List Call :=
  [.document "mbdetnrs/1.0/sensors/devices/members/0/@id" (.text "/dev-a"),
    .document "mbdetnrs/1.0/sensors/devices/dev-a/channels/temperatures/members@count" (.integer 1),
    .document "mbdetnrs/1.0/sensors/devices/dev-a/channels/temperatures/members/0/@id"
      (.text "/T1")]

def tooHot : Alarm := sensorAlarm "c" "1203"

theorem onReading_tooHot : ∀ alarm ∈ [tooHot], alarm.OnReading := by
  intro alarm hmem
  obtain rfl := List.mem_singleton.mp hmem
  exact ⟨.temperature, rfl, by decide +kernel⟩

theorem announces_sensorAnnounced : ∀ call ∈ sensorAnnounced, call.Announces := by
  simp only [sensorAnnounced, List.forall_mem_cons]
  refine ⟨?_, ?_, ?_, nofun⟩
  all_goals
    unfold Call.Announces Announces
    decide +kernel

theorem resolve_sensorAnnounced :
    ((start {}).run sensorAnnounced).site.devices.resolve "dev-a" .temperature "T1" =
      .ok (0, 0) := by
  decide +kernel

theorem raises_tooHot :
    tooHot.Raises ((start {}).run sensorAnnounced).site.devices 0 .temperature "critical-high" := by
  refine ⟨rfl, reading "1203" .temperature "critical-high" "Ambient temperature high critical",
    "dev-a", "T1", 0, ?_, List.mem_cons_self, resolve_sensorAnnounced⟩
  decide +kernel

theorem early_alarms_stay_silent_one :
    (∀ alarm ∈ [tooHot], alarm.OnReading) ∧ (∀ call ∈ sensorAnnounced, call.Announces) ∧
    tooHot.Raises ((start {}).run sensorAnnounced).site.devices 0 .temperature "critical-high" ∧
    ((start {}).run (.reconcile [tooHot] :: (sensorAnnounced ++ [.reconcile [tooHot]]))).known =
      ((start {}).run (sensorAnnounced ++ [.reconcile [tooHot]])).known ∧
    ((start {}).run
        (.reconcile [tooHot] :: (sensorAnnounced ++ [.reconcile [tooHot]]))).site.store.get?
      (({} : KeySpace).sensor 0 .temperature 0 (some "status")) = some "good" := by
  obtain ⟨⟨hknown, -⟩, -, hstatus⟩ :=
    early_alarms_stay_silent {} onReading_tooHot announces_sensorAnnounced
  have hcounts : tooHot ∈ distinctAlarms [tooHot] := by decide
  exact ⟨onReading_tooHot, announces_sensorAnnounced, raises_tooHot, hknown,
    (hstatus tooHot hcounts 0 .temperature "critical-high" raises_tooHot).1⟩

/-- The sensor is found by the second pass, and the order matters all the same. -/
theorem early_alarm_is_lost :
    ((start {}).run sensorAnnounced).site.devices.resolve "dev-a" .temperature "T1" =
      .ok (0, 0) ∧
    ((start {}).run
        (.reconcile [tooHot] :: (sensorAnnounced ++ [.reconcile [tooHot]]))).site.store.get?
      "ambient.1.temperature.status" = some "good" ∧
    ((start {}).run (sensorAnnounced ++ [.reconcile [tooHot]])).site.store.get?
      "ambient.1.temperature.status" = some "critical-high" := by
  decide +kernel

end Engine

end RackTelemetry
