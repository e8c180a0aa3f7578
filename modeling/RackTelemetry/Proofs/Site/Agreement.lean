import RackTelemetry.Proofs.Site.Observation
import RackTelemetry.Proofs.Site.Isolation
import RackTelemetry.Proofs.Site.Truncation
import RackTelemetry.Proofs.Topic.Contract

/-!
Announcements only look at the devices and at what is published for devices. Two sites that are the
same up to what they publish under some names, none of which a device uses, are followed side by
side: an announcement ends in the same way on both, and they still agree.
-/

namespace RackTelemetry

open KeySpace DeviceRegistry

/-- The handlers of the list of devices and of the lists of sensors. -/
def Handler.announces : Handler → Bool
  | .deviceCount | .deviceIndex | .sensorCount | .sensorIndex => true
  | _ => false

/-- A path whose values announce devices or sensors, or that has no rule. -/
def TopicTable.announces (table : TopicTable) (path : String) : Bool :=
  match table.find? path with
  | some (rule, _) => rule.handler.any Handler.announces
  | none => true

theorem TopicTable.announces_cases {table : TopicTable} {path : String}
    (h : table.announces path = true) :
    table.find? path = none ∨ ∃ rule params handler, table.find? path = some (rule, params) ∧
      rule.handler = some handler ∧ handler.announces = true := by
  unfold announces at h
  split at h
  · next rule params hfind =>
    cases hhandler : rule.handler with
    | none =>
      rw [hhandler] at h
      cases h
    | some handler =>
      rw [hhandler] at h
      exact .inr ⟨rule, params, handler, hfind, hhandler, h⟩
  · next hfind => exact .inl hfind

/-- No announcement goes to the alarm list. -/
theorem TopicTable.not_feedsAlarmList {table : TopicTable} {path : String}
    (h : table.announces path = true) : table.feedsAlarmList path = false := by
  unfold feedsAlarmList
  rcases announces_cases h with hfind | ⟨rule, params, handler, hfind, hhandler, hannounces⟩
  · rw [hfind]
  · simp only [hfind, hhandler, Option.any_some]
    cases handler with
    | alarmCount => cases hannounces
    | alarmField field => cases hannounces
    | _ => rfl

theorem DeviceRegistry.eq_of_getElem? {r r' : DeviceRegistry}
    (hdevices : ∀ q : Nat, r.devices[q]? = r'.devices[q]?) (hdeclared : r.declared = r'.declared)
    (hlimit : r.maxSensors = r'.maxSensors) : r = r' := by
  cases r
  cases r'
  simp only [mk.injEq]
  exact ⟨List.ext_getElem? hdevices, hdeclared, hlimit⟩

namespace Site

/-- Two sites are the same up to what they publish under some names. -/
structure Agree (names : List String) (a b : Site) : Prop where
  devices : a.devices = b.devices
  outlets : a.outlets = b.outlets
  draft : a.draft = b.draft
  published : ∀ name, name ∉ names → a.store.get? name = b.store.get? name

/-- Two outcomes are alike, and the sites agree. -/
structure Parallel {α : Type} (names : List String) (x y : Outcome α) : Prop where
  result : x.result = y.result
  sites : Agree names x.site y.site

variable {ks : KeySpace} {names : List String} {a b : Site} {α β : Type}

theorem Parallel.andThen {x y : Outcome α} {f g : α → Site → Outcome β}
    (h : Parallel names x y)
    (hnext : ∀ v, Parallel names (f v x.site) (g v y.site)) :
    Parallel names (x.andThen f) (y.andThen g) := by
  simp only [Outcome.andThen, ← h.result]
  split
  · next v _ => exact ⟨(hnext v).result, (hnext v).sites⟩
  · exact ⟨rfl, h.sites⟩

namespace Agree

variable (h : Agree names a b)
include h

theorem leave (first second : List Event) (result : Except Error α) :
    Parallel names ⟨a, first, result⟩ ⟨b, second, result⟩ :=
  ⟨rfl, h⟩

/-- What is found out first is the same on both sites. -/
theorem chain {x y : Except Error β} {f g : β → Except Error (Outcome α)} (hxy : x = y)
    (hnext : ∀ v, Parallel names (a.attempt (f v)) (b.attempt (g v))) :
    Parallel names (a.attempt (x >>= f)) (b.attempt (y >>= g)) := by
  subst hxy
  cases x with
  | ok v => exact hnext v
  | error e => exact h.leave [] [] (.error e)

theorem declare (devices : DeviceRegistry) :
    Agree names { a with devices } { b with devices } :=
  ⟨rfl, h.outlets, h.draft, h.published⟩

theorem withdraw (keys : List String) : Agree names (a.withdraw keys) (b.withdraw keys) :=
  ⟨h.devices, h.outlets, h.draft,
    fun name hname => Store.get?_delMany_congr (h.published name hname) keys⟩

theorem put (key value : String) (event : Event) :
    Parallel names (a.put key value event) (b.put key value event) := by
  by_cases hkey : key = ""
  · subst hkey
    exact h.leave _ _ _
  · obtain ⟨first, hfirst⟩ := a.store.set_of_ne value hkey
    obtain ⟨second, hsecond⟩ := b.store.set_of_ne value hkey
    simp only [Site.put, hfirst, hsecond]
    refine ⟨rfl, h.devices, h.outlets, h.draft, ?_⟩
    intro name hname
    exact Store.get?_set_congr (h.published name hname) hfirst hsecond

/-! ### The list of devices -/

section

variable (hfree : ∀ p s, ks.device p s ∉ names)
include hfree

/-- The values that devices take along are the same on both sites. -/
theorem renumber (before : List (String × Nat)) :
    Parallel names (a.renumber ks before) (b.renumber ks before) := by
  obtain ⟨hok, hsite⟩ := renumber_eq ks a before
  obtain ⟨hok', hsite'⟩ := renumber_eq ks b before
  have hluggage : luggage ks a before = luggage ks b before := by
    simp only [luggage, h.devices]
    apply List.filterMap_congr
    rintro ⟨old, new⟩ hmem
    obtain ⟨p, q, contacts, key, -, s, -, rfl, -⟩ := mem_relocations.mp hmem
    simp only [h.published _ (hfree p s)]
  refine ⟨hok.trans hok'.symm, ?_⟩
  rw [hsite, hsite', hluggage, h.devices]
  refine ⟨rfl, h.outlets, h.draft, ?_⟩
  intro name hname
  have hcleared := Store.get?_delMany_congr (h.published name hname)
    ((relocations ks b.devices before).map Prod.fst)
  exact Store.get?_setMany_congr hcleared (luggage ks b before)

theorem settleDevice (key : String) (position : Nat) :
    Parallel names (a.settleDevice ks key position) (b.settleDevice ks key position) := by
  simp only [Site.settleDevice, h.devices]
  split
  · split
    · exact h.leave _ _ _
    · split
      · next devices _ =>
        obtain ⟨hresult, hsites⟩ := (h.declare devices).renumber hfree b.devices.layout
        exact ⟨hresult, hsites⟩
      · exact (h.declare _).leave _ _ _
      · exact h.leave _ _ _
  · split
    · split
      · next devices index _ =>
        have hmoved := (h.declare devices).renumber hfree b.devices.layout
        exact hmoved.andThen fun _ => hmoved.sites.put _ _ _
      · exact h.leave _ _ _
    · exact h.leave _ _ _

omit hfree in
theorem trimTail (last : Nat) : Parallel names (a.trimTail ks last) (b.trimTail ks last) := by
  simp only [Site.trimTail, h.devices, foldl_withdraw]
  split
  · exact h.leave _ _ _
  · exact ((h.declare _).withdraw _).leave _ _ _

theorem announceDevice (key : String) (position : Nat) :
    Parallel names (a.announceDevice ks key position) (b.announceDevice ks key position) := by
  have hsettled := h.settleDevice hfree key position
  refine hsettled.andThen fun _ => ?_
  rw [hsettled.sites.devices]
  split
  · exact hsettled.sites.trimTail position
  · exact hsettled.sites.leave _ _ _
  · exact hsettled.sites.leave _ _ _

omit hfree in
theorem countDevices (count : Nat) :
    Parallel names (a.countDevices ks count) (b.countDevices ks count) := by
  simp only [Site.countDevices, h.devices]
  split
  · exact ((h.declare _).withdraw _).leave _ _ _
  · exact (h.declare _).leave _ _ _

/-! ### The lists of sensors -/

theorem sameDevice (key : String) : SameDevice ks key a b := by
  refine ⟨congrArg keys h.devices, congrArg maxSensors h.devices, ?_, ?_⟩
  · intro p _
    rw [h.devices]
  · intro p _ s
    exact h.published _ (hfree p s)

omit hfree in
/-- What changes one device in the same way on both sites keeps all devices the same. -/
theorem of_isolated {key : String} {x y : Outcome α} (hisolated : Isolated ks key a b x y)
    (honly : OnlyDevice ks key b y.site) : Parallel names x y := by
  obtain ⟨hresult, hsame, hfirst⟩ := hisolated
  have hposition := position?_congr hfirst.keys key
  refine ⟨hresult, ?_, ?_, ?_, ?_⟩
  · apply DeviceRegistry.eq_of_getElem?
    · intro q
      by_cases hq : a.devices.position? key = some q
      · exact hsame.record q (hposition.trans hq)
      · rw [hfirst.records q hq, honly.records q (h.devices ▸ hq), h.devices]
    · rw [hfirst.declared, honly.declared, h.devices]
    · exact hsame.limit
  · rw [hfirst.outlets, honly.outlets, h.outlets]
  · rw [hfirst.draft, honly.draft, h.draft]
  · intro name hname
    by_cases howned : ∃ p contacts, a.devices.position? key = some p ∧
        name ∈ ks.deviceObjectKeys p contacts
    · obtain ⟨p, contacts, hp, hmem⟩ := howned
      obtain ⟨s, -, rfl⟩ := mem_deviceObjectKeys.mp hmem
      exact hsame.entries p (hposition.trans hp) s
    · have hother : ∀ p contacts, a.devices.position? key = some p →
          name ∉ ks.deviceObjectKeys p contacts :=
        fun p contacts hp hmem => howned ⟨p, contacts, hp, hmem⟩
      rw [hfirst.published name hother, honly.published name (h.devices ▸ hother)]
      exact h.published name hname

theorem countSensors (key : String) (kind : SensorKind) (count : Nat) :
    Parallel names (a.countSensors ks key kind count) (b.countSensors ks key kind count) :=
  h.of_isolated ((h.sameDevice hfree key).countSensors kind count)
    ((SameDevice.refl ks key b).countSensors kind count).only

theorem announceSensor (key : String) (kind : SensorKind) (index : Nat) (sensor : String) :
    Parallel names (a.announceSensor ks key kind index sensor)
      (b.announceSensor ks key kind index sensor) :=
  h.of_isolated ((h.sameDevice hfree key).announceSensor kind index sensor)
    ((SameDevice.refl ks key b).announceSensor kind index sensor).only

/-! ### Values -/

theorem process {handler : Handler} {params : List String}
    (hannounces : handler.announces = true) (hlength : params.length = handler.expectedParams)
    (template : Option KeyTemplate) (value : String) :
    Parallel names (handler.process ks template value params a)
      (handler.process ks template value params b) := by
  cases handler with
  | deviceCount =>
    obtain rfl := List.length_eq_zero_iff.mp hlength
    exact h.chain rfl fun count => h.countDevices count
  | deviceIndex =>
    obtain ⟨position, rfl⟩ := List.length_eq_one_iff.mp hlength
    exact h.chain rfl fun key => h.chain rfl fun position => h.announceDevice hfree key position
  | sensorCount =>
    obtain ⟨device, channel, rfl⟩ := List.length_eq_two.mp hlength
    exact h.chain rfl fun kind => h.chain rfl fun count => h.countSensors hfree device kind count
  | sensorIndex =>
    obtain ⟨device, channel, index, rfl⟩ := List.length_eq_three.mp hlength
    exact h.chain rfl fun kind => h.chain rfl fun index => h.chain rfl fun key =>
      h.announceSensor hfree device kind index key
  | _ => cases hannounces

/-- An announcement ends in the same way on both sites. -/
theorem dispatch {path : String} (hpath : TopicTable.card.announces path = true)
    (value : String) :
    Parallel names (TopicTable.card.dispatch ks path value a)
      (TopicTable.card.dispatch ks path value b) := by
  rcases TopicTable.announces_cases hpath with
    hfind | ⟨rule, params, handler, hfind, hhandler, hannounces⟩
  · simp only [TopicTable.dispatch, hfind]
    exact h.leave _ _ _
  · obtain ⟨hmem, hcaptures⟩ := TopicTable.rule_of_find? hfind
    have hlength := TopicRule.length_params (TopicTable.keepsContract_card rule hmem) hhandler
      hcaptures
    have hprocessed := h.process hfree hannounces hlength rule.template value
    simp only [TopicTable.dispatch, hfind, hhandler]
    exact hprocessed.andThen fun _ => hprocessed.sites.leave _ _ _

end

end Agree

end Site

end RackTelemetry
