import RackTelemetry.Proofs.Naming.Step
import RackTelemetry.Proofs.Topic.Card
import RackTelemetry.Settings.Basic

/-!
When published names collide. The settings may choose the two roots and the names of the two
channels freely, and what they are checked for rules out that both roots are the same. That keeps
the objects of the devices apart from the outlets, but for the contacts: below the contacts of a
position the numbering starts anew, and so it does below the root of the outlets.
-/

namespace RackTelemetry

open KeySpace

/-! ### What stands after the last point -/

/-- What stands after the last point of a text is determined by the text. -/
theorem last_point_inj {a b c d : String} (hb : '.' ∉ b.toList) (hd : '.' ∉ d.toList) :
    a ++ "." ++ b = c ++ "." ++ d ↔ a = c ∧ b = d := by
  have hpoint : (".".toList : List Char) = ['.'] := by decide
  constructor
  · intro h
    have hreversed := congrArg (fun text => text.toList.reverse) h
    simp only [String.toList_append, hpoint, List.reverse_append, List.reverse_singleton,
      List.singleton_append] at hreversed
    have hb' : '.' ∉ b.toList.reverse := by simpa using hb
    have hd' : '.' ∉ d.toList.reverse := by simpa using hd
    obtain ⟨hlast, hinit⟩ := (append_point_inj hb' hd').mp hreversed
    exact ⟨String.toList_inj.mp (List.reverse_injective hinit),
      String.toList_inj.mp (List.reverse_injective hlast)⟩
  · rintro ⟨rfl, rfl⟩
    rfl

/-- Of two ends of one text, each after a point, one is the end of the other. -/
theorem suffix_of_point {a b c d : String} (h : a ++ "." ++ b = c ++ "." ++ d) :
    '.' :: b.toList <:+ '.' :: d.toList ∨ '.' :: d.toList <:+ '.' :: b.toList := by
  have hpoint : (".".toList : List Char) = ['.'] := by decide
  have hleft : '.' :: b.toList <:+ (a ++ "." ++ b).toList := by
    refine ⟨a.toList, ?_⟩
    simp [hpoint]
  have hright : '.' :: d.toList <:+ (a ++ "." ++ b).toList := by
    rw [h]
    refine ⟨c.toList, ?_⟩
    simp [hpoint]
  exact List.suffix_or_suffix_of_suffix hleft hright

/-! ### Outlets and the objects of devices -/

namespace KeySpace

variable {ks : KeySpace} {p q i j : Nat} {f g s t : String}

theorem outlet_inj : ks.outlet i f = ks.outlet j g ↔ i = j ∧ f = g := numbered_inj

theorem point_notMem_of_mem_outletFields (h : f ∈ outletFields) : '.' ∉ f.toList := by
  have hall : ∀ f ∈ outletFields, '.' ∉ f.toList := by decide
  exact hall f h

theorem point_notMem_of_mem_contactFields (h : f ∈ contactFields) : '.' ∉ f.toList := by
  have hall : ∀ f ∈ contactFields, '.' ∉ f.toList := by decide
  exact hall f h

/-- Where the name of an outlet is that of a device or of its temperature or humidity, the roots are
the same. -/
theorem roots_eq_of_outlet_eq_device (hf : f ∈ outletFields) (hs : s ∈ fixedSteps)
    (h : ks.outlet i f = ks.device p s) : ks.outletRoot = ks.ambientRoot := by
  have hends : ∀ f ∈ outletFields, ∀ s ∈ fixedSteps,
      '.' :: f.toList <:+ '.' :: s.toList ∨ '.' :: s.toList <:+ '.' :: f.toList →
        f = "name" ∧ (s = "name" ∨ s = "temperature" ++ "." ++ "name" ∨
          s = "humidity" ++ "." ++ "name") := by
    decide
  have hname : '.' ∉ "name".toList := by decide
  obtain ⟨rfl, hs⟩ := hends f hf s hs (suffix_of_point h)
  -- below a sensor a point precedes the name, and what stands before it is not a number
  have hsensor : ∀ step : String, '.' ∉ step.toList → ¬ step.toList.all Char.isDigit →
      ks.outlet i "name" ≠ ks.device p (step ++ "." ++ "name") := by
    intro step hpoint hdigits heq
    have hassoc : ks.device p (step ++ "." ++ "name") =
        ks.ambientRoot ++ "." ++ toString (Number.ordinal p) ++ "." ++ step ++ "." ++ "name" := by
      simp only [KeySpace.device, String.append_assoc]
    rw [hassoc] at heq
    obtain ⟨hbefore, -⟩ := (last_point_inj hname hname).mp heq
    obtain ⟨-, hnumber⟩ := (last_point_inj (point_notMem_toString _) hpoint).mp hbefore
    apply hdigits
    rw [← hnumber, List.all_eq_true]
    exact fun c hc => Number.isDigit_of_mem_toString hc
  rcases hs with rfl | rfl | rfl
  · obtain ⟨hbefore, -⟩ := (last_point_inj hname hname).mp h
    exact ((last_point_inj (point_notMem_toString _) (point_notMem_toString _)).mp hbefore).1
  · exact absurd h (hsensor "temperature" (by decide) (by decide))
  · exact absurd h (hsensor "humidity" (by decide) (by decide))

/-- The name of an outlet is that of a contact exactly if the root of the outlets is that of the
contacts of the device, and number and field agree. -/
theorem outlet_eq_contact_iff (hf : f ∈ outletFields) (hg : g ∈ contactFields) :
    ks.outlet i f = ks.sensor p .digitalInput j (some g) ↔
      ks.outletRoot = ks.ambientRoot ++ "." ++ toString (Number.ordinal p) ++ ".contacts" ∧
        i = j ∧ f = g := by
  have hcontact : ks.sensor p .digitalInput j (some g) =
      ks.ambientRoot ++ "." ++ toString (Number.ordinal p) ++ ".contacts" ++ "." ++
        toString (Number.ordinal j) ++ "." ++ g := by
    apply String.toList_inj.mp
    simp [sensor, device, sensorStep, SensorKind.isIndexed, SensorKind.objectName]
  rw [hcontact, KeySpace.outlet, last_point_inj (point_notMem_of_mem_outletFields hf)
    (point_notMem_of_mem_contactFields hg),
    last_point_inj (point_notMem_toString _) (point_notMem_toString _), and_assoc,
    ← toString_ordinal_inj, String.toList_inj]

end KeySpace

/-! ### The objects of a device -/

/-- What is published for a device: a field of its own, of its temperature or humidity, or of one of
its contacts. -/
inductive DeviceObject where
  | own (field : { field // field ∈ deviceFields })
  | reading (kind : { kind : SensorKind // kind.isIndexed = false })
    (field : { field // field ∈ sensorFields })
  | contact (index : Nat) (field : { field // field ∈ contactFields })
  deriving DecidableEq

namespace DeviceObject

def name (ks : KeySpace) (position : Nat) : DeviceObject → String
  | own field => ks.device position field
  | reading kind field => ks.sensor position kind 0 field
  | contact index field => ks.sensor position .digitalInput index (some field)

def step : DeviceObject → String
  | own field => field
  | reading kind field => sensorField kind 0 field
  | contact index field => sensorField .digitalInput index (some field)

theorem name_eq (ks : KeySpace) (p : Nat) (object : DeviceObject) :
    object.name ks p = ks.device p object.step := by
  cases object with
  | own field => rfl
  | reading kind field => exact ks.sensor_eq_device p kind 0 field
  | contact index field => exact ks.sensor_eq_device p .digitalInput index (some field)

theorem reading_mem_fixedSteps {kind : SensorKind} (hkind : kind.isIndexed = false)
    {field : Option String} (hfield : field ∈ sensorFields) :
    sensorField kind 0 field ∈ fixedSteps := by
  have hmem : sensorField kind 0 field ∈ objectSteps 0 := sensorField_mem_objectSteps hkind hfield
  rcases mem_objectSteps.mp hmem with hfixed | ⟨i, hi, -⟩
  · exact hfixed
  · omega

/-- The fields of a device do not begin like the steps of its sensors. -/
theorem own_ne_sensorField {field : String} (hfield : field ∈ deviceFields) (kind : SensorKind)
    (i : Nat) (other : Option String) : field ≠ sensorField kind i other := by
  have hall : ∀ kind ∈ SensorKind.all, ∀ field ∈ deviceFields,
      ¬ kind.objectName.toList <+: field.toList := by
    decide
  have hkind : kind ∈ SensorKind.all := by
    cases kind <;> decide
  obtain ⟨rest, hrest⟩ := objectName_prefix_sensorField kind i other
  rintro rfl
  apply hall kind hkind _ hfield
  rw [hrest, String.toList_append]
  exact List.prefix_append _ _

theorem reading_inj {kind : SensorKind} (hkind : kind.isIndexed = false)
    {field other : Option String} (hfield : field ∈ sensorFields) (hother : other ∈ sensorFields)
    (h : sensorField kind 0 field = sensorField kind 0 other) : field = other := by
  have hnodup : (sensorFields.map (sensorField kind 0)).Nodup := by
    cases kind with
    | temperature => decide
    | humidity => decide
    | digitalInput => cases hkind
  exact List.inj_on_of_nodup_map hnodup hfield hother h

theorem reading_ne_contact {kind : SensorKind} (hkind : kind.isIndexed = false) (i : Nat)
    (field other : Option String) :
    sensorField kind 0 field ≠ sensorField .digitalInput i other := by
  intro h
  rw [kind_of_sensorField h] at hkind
  cases hkind

/-- No two objects of a device have one step. -/
theorem step_injective : Function.Injective step := by
  intro a b h
  cases a with
  | own field =>
    cases b with
    | own other =>
      obtain rfl := Subtype.ext h
      rfl
    | reading kind other => exact absurd h (own_ne_sensorField field.2 kind 0 other)
    | contact index other =>
      exact absurd h (own_ne_sensorField field.2 .digitalInput index (some other))
  | reading kind field =>
    cases b with
    | own other => exact absurd h.symm (own_ne_sensorField other.2 kind 0 field)
    | reading other field' =>
      obtain rfl := Subtype.ext (kind_of_sensorField h)
      obtain rfl := Subtype.ext (reading_inj kind.2 field.2 field'.2 h)
      rfl
    | contact index other => exact absurd h (reading_ne_contact kind.2 index field (some other))
  | contact index field =>
    cases b with
    | own other =>
      exact absurd h.symm (own_ne_sensorField other.2 .digitalInput index (some field))
    | reading kind other =>
      exact absurd h.symm (reading_ne_contact kind.2 index other (some field))
    | contact other field' =>
      obtain ⟨rfl, hfield⟩ := contactField_inj.mp h
      obtain rfl := Subtype.ext hfield
      rfl

end DeviceObject

/-! ### Everything that is published -/

/-- What is published under a name of its own: an object of the device at a position, a field of an
outlet, or one of the two channels. -/
inductive Subject where
  | ofDevice (position : Nat) (object : DeviceObject)
  | outlet (index : Nat) (field : { field // field ∈ outletFields })
  | alarms
  | statuses
  deriving DecidableEq

namespace Subject

def name (ks : KeySpace) : Subject → String
  | ofDevice position object => object.name ks position
  | outlet index field => ks.outlet index field
  | alarms => ks.alarmKey
  | statuses => ks.statusKey

/-- The two channels are no objects. -/
def isObject : Subject → Bool
  | ofDevice _ _ | outlet _ _ => true
  | alarms | statuses => false

end Subject

/-- No root stands in the other's way, and the names of the channels are free. -/
structure KeySpace.Apart (ks : KeySpace) : Prop where
  /-- The outlets are not numbered where the contacts of a device are. -/
  roots : ∀ p, ks.outletRoot ≠ ks.ambientRoot ++ "." ++ toString (Number.ordinal p) ++ ".contacts"
  channels : ks.alarmKey ≠ ks.statusKey
  objects : ∀ subject : Subject, subject.isObject = true →
    subject.name ks ≠ ks.alarmKey ∧ subject.name ks ≠ ks.statusKey

namespace Subject

variable {ks : KeySpace}

/-- Apart from the contacts, different roots keep the outlets apart from the devices. -/
theorem outlet_ne_ofDevice (hroots : ks.ambientRoot ≠ ks.outletRoot)
    (hcontacts : ∀ p,
      ks.outletRoot ≠ ks.ambientRoot ++ "." ++ toString (Number.ordinal p) ++ ".contacts")
    (i : Nat) (field : { field // field ∈ outletFields }) (p : Nat) (object : DeviceObject) :
    (outlet i field).name ks ≠ (ofDevice p object).name ks := by
  intro h
  have hstep := h.trans (object.name_eq ks p)
  cases object with
  | own other =>
    exact hroots (roots_eq_of_outlet_eq_device field.2
      (deviceField_mem_fixedSteps other.2) hstep).symm
  | reading kind other =>
    exact hroots (roots_eq_of_outlet_eq_device field.2
      (DeviceObject.reading_mem_fixedSteps kind.2 other.2) hstep).symm
  | contact j other => exact hcontacts p ((outlet_eq_contact_iff field.2 other.2).mp h).1

theorem name_injective (hroots : ks.ambientRoot ≠ ks.outletRoot) (h : ks.Apart) :
    Function.Injective (name ks) := by
  intro a b hab
  cases a with
  | ofDevice p object =>
    have hfree := h.objects (ofDevice p object) rfl
    cases b with
    | ofDevice q other =>
      have hstep : ks.device p object.step = ks.device q other.step := by
        rw [← object.name_eq, ← other.name_eq]
        exact hab
      obtain ⟨rfl, hobjects⟩ := device_inj.mp hstep
      rw [DeviceObject.step_injective hobjects]
    | outlet i field =>
      exact absurd hab.symm (outlet_ne_ofDevice hroots h.roots i field p object)
    | alarms => exact absurd hab hfree.1
    | statuses => exact absurd hab hfree.2
  | outlet i field =>
    have hfree := h.objects (outlet i field) rfl
    cases b with
    | ofDevice q other => exact absurd hab (outlet_ne_ofDevice hroots h.roots i field q other)
    | outlet j other =>
      obtain ⟨rfl, hfield⟩ := outlet_inj.mp hab
      rw [Subtype.ext hfield]
    | alarms => exact absurd hab hfree.1
    | statuses => exact absurd hab hfree.2
  | alarms =>
    cases b with
    | ofDevice q other => exact absurd hab.symm (h.objects (ofDevice q other) rfl).1
    | outlet j other => exact absurd hab.symm (h.objects (outlet j other) rfl).1
    | alarms => rfl
    | statuses => exact absurd hab h.channels
  | statuses =>
    cases b with
    | ofDevice q other => exact absurd hab.symm (h.objects (ofDevice q other) rfl).2
    | outlet j other => exact absurd hab.symm (h.objects (outlet j other) rfl).2
    | alarms => exact absurd hab.symm h.channels
    | statuses => rfl

theorem apart_of_injective (h : Function.Injective (name ks)) : ks.Apart := by
  have hname : "name" ∈ contactFields ∧ "name" ∈ outletFields := by decide
  refine ⟨?_, ?_, ?_⟩
  · intro p hroot
    have hcollide : ks.outlet 0 "name" = ks.sensor p .digitalInput 0 (some "name") :=
      (outlet_eq_contact_iff hname.2 hname.1).mpr ⟨hroot, rfl, rfl⟩
    have hsame := @h (outlet 0 ⟨"name", hname.2⟩) (ofDevice p (.contact 0 ⟨"name", hname.1⟩))
      hcollide
    cases hsame
  · intro hkeys
    have hsame := @h alarms statuses hkeys
    cases hsame
  · intro subject hobject
    refine ⟨?_, ?_⟩
    · intro hkey
      obtain rfl := @h subject alarms hkey
      cases hobject
    · intro hkey
      obtain rfl := @h subject statuses hkey
      cases hobject

end Subject

/-! ### The settings -/

namespace Settings

theorem roots_ne_of_validate {s : Settings} (h : s.validate = .ok ()) :
    s.engine.keyspace.ambientRoot ≠ s.engine.keyspace.outletRoot := by
  intro hroots
  have hfault : s.fault? ≠ none := by
    unfold fault?
    rw [if_pos hroots]
    split_ifs
    · simp
    · simp
    · simp
    · simp
    · split <;> simp
  unfold validate at h
  split at h
  · cases h
  · next hnone => exact hfault hnone

/-- Under settings that were found valid, everything has a name of its own exactly if the outlets
are not rooted at the contacts of a device, the channels have different names, and no object has the
name of a channel. -/
theorem names_distinct_iff (s : Settings) (h : s.validate = .ok ()) :
    Function.Injective (Subject.name s.engine.keyspace) ↔ s.engine.keyspace.Apart :=
  ⟨Subject.apart_of_injective, Subject.name_injective (roots_ne_of_validate h)⟩

/-- The usual settings keep all names apart. -/
theorem names_distinct_usual :
    ({} : Settings).validate = .ok () ∧ Function.Injective (Subject.name {}) := by
  have hvalid : ({} : Settings).validate = .ok () := by decide
  have hhead : ∀ {name channel : String}, name = channel →
      name.toList.head? = channel.toList.head? := by
    rintro name _ rfl
    rfl
  refine ⟨hvalid, (names_distinct_iff {} hvalid).mpr ⟨?_, by decide, ?_⟩⟩
  · intro p h
    have hroot := hhead h
    simp at hroot
  · intro subject hobject
    cases subject with
    | ofDevice p object =>
      simp only [Subject.name, object.name_eq]
      refine ⟨fun h => ?_, fun h => ?_⟩
      · simpa [KeySpace.device] using hhead h
      · simpa [KeySpace.device] using hhead h
    | outlet i field =>
      refine ⟨fun h => ?_, fun h => ?_⟩
      · simpa [Subject.name, KeySpace.outlet] using hhead h
      · simpa [Subject.name, KeySpace.outlet] using hhead h
    | alarms => cases hobject
    | statuses => cases hobject

/-- Settings whose outlets are rooted at the contacts of the first device. -/
def outletsAtContacts : Settings :=
  { engine := { keyspace := { outletRoot := "ambient.1.contacts" } } }

/-- Settings with one name for both channels. -/
def oneChannel : Settings := { engine := { keyspace := { alarmKey := "ups.status" } } }

/-- Settings with a channel that has the name of a device. -/
def channelAtDevice : Settings := { engine := { keyspace := { alarmKey := "ambient.1.name" } } }

/-- Settings under which two names agree are found valid. -/
theorem valid_names_collide :
    (outletsAtContacts.validate = .ok () ∧
      ¬ Function.Injective (Subject.name outletsAtContacts.engine.keyspace)) ∧
    (oneChannel.validate = .ok () ∧
      ¬ Function.Injective (Subject.name oneChannel.engine.keyspace)) ∧
    channelAtDevice.validate = .ok () ∧
      ¬ Function.Injective (Subject.name channelAtDevice.engine.keyspace) := by
  refine ⟨⟨by decide, ?_⟩, ⟨by decide, ?_⟩, by decide, ?_⟩
  · intro hinjective
    have hcollide : Subject.name outletsAtContacts.engine.keyspace (.outlet 0 ⟨"name", by decide⟩) =
        Subject.name outletsAtContacts.engine.keyspace
          (.ofDevice 0 (.contact 0 ⟨"name", by decide⟩)) := by
      decide
    cases hinjective hcollide
  · intro hinjective
    have hcollide : Subject.name oneChannel.engine.keyspace .alarms =
        Subject.name oneChannel.engine.keyspace .statuses := rfl
    cases hinjective hcollide
  · intro hinjective
    have hcollide : Subject.name channelAtDevice.engine.keyspace .alarms =
        Subject.name channelAtDevice.engine.keyspace (.ofDevice 0 (.own ⟨"name", by decide⟩)) := by
      decide
    cases hinjective hcollide

end Settings

end RackTelemetry
