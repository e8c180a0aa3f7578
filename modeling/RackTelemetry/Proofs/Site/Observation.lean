import RackTelemetry.Proofs.Site.Change

/-!
What a value leaves alone. Values for devices, sensors and published names touch neither the outlets
nor the alarm list that is being received; the list only changes at its own paths. That holds
whether a value is applied, ignored or refused.
-/

namespace RackTelemetry

/-- The handlers that fill the alarm list. -/
def Handler.isOfAlarmList : Handler → Bool
  | .alarmCount => true
  | .alarmField _ => true
  | _ => false

/-- The handlers that change the outlets. -/
def Handler.isOfOutlets : Handler → Bool
  | .outletCount => true
  | .outletIndex => true
  | .outletSwitchable => true
  | _ => false

/-- A path whose values go to the alarm list. -/
def TopicTable.feedsAlarmList (table : TopicTable) (path : String) : Bool :=
  match table.find? path with
  | some (rule, _) => rule.handler.any Handler.isOfAlarmList
  | none => false

namespace Site

variable {ks : KeySpace} {site : Site}

section Observation

variable {β : Type} {observe : Site → β}

theorem observe_bind {α : Type} {x : Except Error α} {next : α → Except Error (Outcome Unit)}
    (hnext : ∀ a, x = .ok a → observe (site.attempt (next a)).site = observe site) :
    observe (site.attempt (x >>= next)).site = observe site :=
  bind_cases (P := fun after => observe after = observe site) rfl hnext

/-- A value is observed by what the handler of its path does; other values are only published. -/
theorem observe_dispatch (hblind : IgnoresDevices observe) {path value : String}
    (hprocess : ∀ rule params handler, TopicTable.card.find? path = some (rule, params) →
      rule.handler = some handler →
        observe (handler.process ks rule.template value params site).site = observe site) :
    observe (TopicTable.card.dispatch ks path value site).site = observe site := by
  cases hfind : TopicTable.card.find? path with
  | none => rw [TopicTable.dispatch, hfind]
  | some found =>
    obtain ⟨rule, params⟩ := found
    cases hhandler : rule.handler with
    | none =>
      exact direct_cases (P := fun after => observe after = observe site) hfind hhandler rfl
        fun _ _ _ _ => hblind site site.devices _
    | some handler =>
      rw [site_dispatch hfind hhandler]
      exact hprocess rule params handler hfind hhandler

variable (hblind : IgnoresDevices observe)
include hblind

theorem observe_publish (ks : KeySpace) (site : Site) (template : Option KeyTemplate)
    (target : KeyTarget) (value : String) :
    observe (publish ks site template target value).site = observe site := by
  cases template with
  | none => rfl
  | some template =>
    exact publish_cases (P := fun after => observe after = observe site) rfl
      fun _ _ _ _ => hblind site site.devices _

theorem observe_publishMeaning (ks : KeySpace) (site : Site) (template : Option KeyTemplate)
    (target : KeyTarget) (table : List String) (code : Int) :
    observe (publishMeaning ks site template target table code).site = observe site :=
  publishMeaning_cases (P := fun after => observe after = observe site) rfl fun text =>
    observe_publish hblind ks site template target text

theorem observe_countSensors (device : String) (kind : SensorKind) (count : Nat) :
    observe (countSensors ks site device kind count).site = observe site :=
  countSensors_cases (P := fun after => observe after = observe site) rfl
    fun _ _ _ _ => hblind site _ _

theorem observe_announceSensor (device : String) (kind : SensorKind) (index : Nat) (key : String) :
    observe (announceSensor ks site device kind index key).site = observe site :=
  announceSensor_cases (P := fun after => observe after = observe site) rfl
    (fun _ _ _ _ _ _ _ => hblind site _ site.store)
    (fun _ _ _ _ _ _ _ _ _ _ => hblind site _ _)

theorem observe_enableSensor (device : String) (kind : SensorKind) (sensor : String)
    (state : SensorState) :
    observe (enableSensor ks site device kind sensor state).site = observe site := by
  refine observe_bind fun slot _ => observe_bind ?_
  rintro ⟨devices, previous⟩ -
  simp only
  split
  · exact hblind site _ _
  · exact hblind site _ site.store

/-- Only the handlers of the outlets change the outlets, and only those of the alarm list the list.
-/
theorem observe_process {handler : Handler}
    (houtlets : handler.isOfOutlets = false ∨
      ∀ (site : Site) outlets, observe { site with outlets } = observe site)
    (halarms : handler.isOfAlarmList = false ∨
      ∀ (site : Site) draft, observe { site with draft } = observe site)
    (template : Option KeyTemplate) (value : String) (params : List String) :
    observe (handler.process ks template value params site).site = observe site := by
  unfold Handler.process
  split
  · exact observe_bind fun count _ => observe_countDevices hblind ks site count
  · exact observe_bind fun key _ => observe_bind fun position _ =>
      observe_announceDevice hblind ks site key position
  · exact observe_bind fun p _ => observe_publish hblind ks site template _ value
  · exact observe_bind fun p _ => observe_bind fun code _ =>
      observe_publishMeaning hblind ks site template _ _ code
  · exact observe_bind fun kind _ => observe_bind fun count _ =>
      observe_countSensors hblind _ kind count
  · exact observe_bind fun kind _ => observe_bind fun index _ => observe_bind fun key _ =>
      observe_announceSensor hblind _ kind index key
  · refine observe_bind fun kind _ => observe_bind fun target _ => ?_
    cases target with
    | none => rfl
    | some target => exact observe_publish hblind ks site template target value
  · split
    · rfl
    · refine observe_bind fun target _ => ?_
      cases target with
      | none => rfl
      | some target => exact observe_publish hblind ks site template target _
  · exact observe_bind fun kind _ => observe_enableSensor hblind _ kind _ _
  · refine observe_bind ?_
    rintro ⟨p, index⟩ -
    simp only
    exact observe_bind fun code _ => observe_publishMeaning hblind ks site template _ _ code
  · refine observe_bind fun target _ => ?_
    cases target with
    | none =>
      simp only
      split
      · rfl
      · rfl
    | some target =>
      simp only
      exact observe_bind fun code _ => observe_publishMeaning hblind ks site template target _ code
  · have hother := houtlets.resolve_left nofun
    exact observe_bind fun count _ => observe_bind fun outlets _ => hother site outlets
  · have hother := houtlets.resolve_left nofun
    exact observe_bind fun index _ => observe_bind fun outlets _ => hother site outlets
  · exact observe_bind fun index _ => observe_publish hblind ks site template _ value
  · have hother := houtlets.resolve_left nofun
    exact observe_bind fun index _ => observe_bind fun switchable _ => observe_bind fun outlets _ =>
      (observe_publish hblind ks _ template _ _).trans (hother site outlets)
  · have hother := halarms.resolve_left nofun
    refine observe_bind fun count _ => ?_
    simp only
    split
    · exact hother site _
    · exact hother site _
  · have hother := halarms.resolve_left nofun
    exact observe_bind fun index _ => observe_bind fun draft _ => hother site draft
  · rfl

end Observation

/-! ### The alarm list -/

theorem draft_ignoresDevices : IgnoresDevices draft := fun _ _ _ => rfl

/-- A handler of anything but the alarm list leaves the list alone. -/
theorem draft_process {handler : Handler} (hhandler : handler.isOfAlarmList = false)
    (template : Option KeyTemplate) (value : String) (params : List String) :
    (handler.process ks template value params site).site.draft = site.draft := by
  exact observe_process draft_ignoresDevices (.inr fun _ _ => rfl) (.inl hhandler) template value
    params

/-- A value at a path that does not feed the alarm list leaves the list alone. -/
theorem draft_dispatch {path : String} (hpath : TopicTable.card.feedsAlarmList path = false)
    (ks : KeySpace) (site : Site) (value : String) :
    (TopicTable.card.dispatch ks path value site).site.draft = site.draft := by
  refine observe_dispatch draft_ignoresDevices fun rule params handler hfind hhandler => ?_
  simp only [TopicTable.feedsAlarmList, hfind, hhandler, Option.any_some] at hpath
  exact draft_process hpath rule.template value params

end Site

end RackTelemetry
