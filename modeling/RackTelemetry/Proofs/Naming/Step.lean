import Mathlib.Data.List.Nodup
import RackTelemetry.Naming.Template
import RackTelemetry.Proofs.Number.Reading

/-!
Published names taken apart. Everything a device publishes stands under the numbered root of its
position, followed by a step that does not depend on the position. Two such names agree exactly when
their positions and their steps agree, since a number has no point in it.
-/

namespace RackTelemetry

theorem point_notMem_toString (n : Nat) : '.' ∉ (toString n).toList := by
  intro h
  exact absurd (Number.isDigit_of_mem_toString h) (by decide)

theorem toString_ordinal_inj {i j : Nat} :
    (toString (Number.ordinal i)).toList = (toString (Number.ordinal j)).toList ↔ i = j := by
  constructor
  · intro h
    have hread := congrArg (fun digits => Nat.ofDigitChars 10 digits 0) h
    simp only [Number.ofDigitChars_toString] at hread
    exact Number.ordinal_inj.mp hread
  · rintro rfl
    rfl

/-- What stands before the first point of a text is determined by the text. -/
theorem append_point_inj {a b c d : List Char} (ha : '.' ∉ a) (hc : '.' ∉ c) :
    a ++ '.' :: b = c ++ '.' :: d ↔ a = c ∧ b = d := by
  induction a generalizing c with
  | nil =>
    cases c with
    | nil => simp
    | cons x c =>
      have hx : '.' ≠ x := fun e => hc (by simp [← e])
      simp [hx]
  | cons x a ih =>
    have hx : x ≠ '.' := fun e => ha (by simp [e])
    cases c with
    | nil => simp [hx]
    | cons y c =>
      have ha' : '.' ∉ a := fun h => ha (by simp [h])
      have hc' : '.' ∉ c := fun h => hc (by simp [h])
      simp only [List.cons_append, List.cons.injEq, ih ha' hc', and_assoc]

/-- Numbered names under one root agree exactly when number and field agree. -/
theorem numbered_inj {root f g : String} {i j : Nat} :
    root ++ "." ++ toString (Number.ordinal i) ++ "." ++ f =
      root ++ "." ++ toString (Number.ordinal j) ++ "." ++ g ↔ i = j ∧ f = g := by
  have hpoint : (".".toList : List Char) = ['.'] := by decide
  constructor
  · intro h
    have hlist := congrArg String.toList h
    simp only [String.toList_append, hpoint, List.append_assoc] at hlist
    have htail := List.append_cancel_left (List.append_cancel_left hlist)
    obtain ⟨hnumber, hfield⟩ :=
      (append_point_inj (point_notMem_toString _) (point_notMem_toString _)).mp htail
    exact ⟨toString_ordinal_inj.mp hnumber, String.toList_inj.mp hfield⟩
  · rintro ⟨rfl, rfl⟩
    rfl

namespace KeySpace

@[simp] theorem device_inj {ks : KeySpace} {p q : Nat} {s t : String} :
    ks.device p s = ks.device q t ↔ p = q ∧ s = t := numbered_inj

theorem device_ne_empty (ks : KeySpace) (p : Nat) (s : String) : ks.device p s ≠ "" := by
  intro h
  have hlist := congrArg String.toList h
  simp [device] at hlist

theorem outlet_ne_empty (ks : KeySpace) (index : Nat) (field : String) :
    ks.outlet index field ≠ "" := by
  intro h
  have hlist := congrArg String.toList h
  simp [outlet] at hlist

/-- The step of a sensor's field below its device; without a field, of its reading. -/
def sensorField (kind : SensorKind) (index : Nat) (field : Option String) : String :=
  match field with
  | some field => sensorStep kind index ++ "." ++ field
  | none => sensorStep kind index

theorem sensor_eq_device (ks : KeySpace) (p : Nat) (kind : SensorKind) (i : Nat)
    (field : Option String) :
    ks.sensor p kind i field = ks.device p (sensorField kind i field) := by
  cases field with
  | none => rfl
  | some field => simp only [sensor, sensorField, device, String.append_assoc]

theorem sensor_ne_empty (ks : KeySpace) (p : Nat) (kind : SensorKind) (i : Nat)
    (field : Option String) : ks.sensor p kind i field ≠ "" := by
  rw [sensor_eq_device]
  exact ks.device_ne_empty p _

/-- Readings and statuses are published without the number of the sensor. -/
theorem sensorField_of_not_isIndexed {kind : SensorKind} (h : kind.isIndexed = false) (i : Nat)
    (field : Option String) : sensorField kind i field = sensorField kind 0 field := by
  cases kind with
  | temperature => rfl
  | humidity => rfl
  | digitalInput => simp [SensorKind.isIndexed] at h

/-- The step of the status that the temperature or humidity sensors of a device share. -/
def statusStep (kind : SensorKind) : String := sensorField kind 0 (some "status")

theorem sensor_status (ks : KeySpace) (p i : Nat) {kind : SensorKind}
    (h : kind.isIndexed = false) :
    ks.sensor p kind i (some "status") = ks.device p (statusStep kind) := by
  rw [sensor_eq_device, sensorField_of_not_isIndexed h, statusStep]

def contactSteps (index : Nat) : List String :=
  contactFields.map fun field => sensorField .digitalInput index (some field)

/-- The steps that every device has, whatever its contacts. -/
def fixedSteps : List String :=
  deviceFields ++ sensorFields.map (sensorField .temperature 0) ++
    sensorFields.map (sensorField .humidity 0)

/-- The steps of everything a device with so many contacts can publish. -/
def objectSteps (contacts : Nat) : List String :=
  fixedSteps ++ (List.range contacts).flatMap contactSteps

theorem contactKeys_eq_map (ks : KeySpace) (p i : Nat) :
    ks.contactKeys p i = (contactSteps i).map (ks.device p) := by
  simp only [contactKeys, contactSteps, List.map_map, Function.comp_def, sensor_eq_device]

theorem deviceObjectKeys_eq_map (ks : KeySpace) (p contacts : Nat) :
    ks.deviceObjectKeys p contacts = (objectSteps contacts).map (ks.device p) := by
  have hsensor (kind : SensorKind) :
      ks.sensor p kind 0 = fun field => ks.device p (sensorField kind 0 field) :=
    funext (ks.sensor_eq_device p kind 0)
  have hcontacts : ks.contactKeys p = fun i => (contactSteps i).map (ks.device p) :=
    funext (ks.contactKeys_eq_map p)
  simp only [deviceObjectKeys, objectSteps, fixedSteps, List.map_append, List.map_map,
    List.map_flatMap, hsensor, hcontacts, Function.comp_def]

/-- The lists of names for two positions agree entry by entry in what follows the position. -/
theorem getElem?_deviceObjectKeys {ks : KeySpace} {p contacts j : Nat} {name : String} :
    (ks.deviceObjectKeys p contacts)[j]? = some name ↔
      ∃ s, (objectSteps contacts)[j]? = some s ∧ ks.device p s = name := by
  rw [deviceObjectKeys_eq_map, List.getElem?_map, Option.map_eq_some_iff]

theorem mem_deviceObjectKeys {ks : KeySpace} {p contacts : Nat} {name : String} :
    name ∈ ks.deviceObjectKeys p contacts ↔ ∃ s ∈ objectSteps contacts, name = ks.device p s := by
  rw [deviceObjectKeys_eq_map, List.mem_map]
  constructor
  · rintro ⟨s, hs, rfl⟩
    exact ⟨s, hs, rfl⟩
  · rintro ⟨s, hs, rfl⟩
    exact ⟨s, hs, rfl⟩

@[simp] theorem device_mem_deviceObjectKeys {ks : KeySpace} {p q contacts : Nat} {s : String} :
    ks.device p s ∈ ks.deviceObjectKeys q contacts ↔ p = q ∧ s ∈ objectSteps contacts := by
  rw [mem_deviceObjectKeys]
  constructor
  · rintro ⟨t, ht, h⟩
    obtain ⟨rfl, rfl⟩ := device_inj.mp h
    exact ⟨rfl, ht⟩
  · rintro ⟨rfl, hs⟩
    exact ⟨s, hs, rfl⟩

theorem mem_objectSteps {contacts : Nat} {s : String} :
    s ∈ objectSteps contacts ↔ s ∈ fixedSteps ∨ ∃ i < contacts, s ∈ contactSteps i := by
  simp only [objectSteps, List.mem_append, List.mem_flatMap, List.mem_range]

theorem mem_contactSteps {i : Nat} {s : String} :
    s ∈ contactSteps i ↔ ∃ field ∈ contactFields, s = sensorField .digitalInput i (some field) := by
  rw [contactSteps, List.mem_map]
  constructor
  · rintro ⟨field, hfield, rfl⟩
    exact ⟨field, hfield, rfl⟩
  · rintro ⟨field, hfield, rfl⟩
    exact ⟨field, hfield, rfl⟩

/-- What a list of sensors that becomes shorter withdraws stands below contacts of its device. -/
theorem contact_of_mem_dropped {ks : KeySpace} {p : Nat} {kind : SensorKind} {indices : List Nat}
    {name : String}
    (h : name ∈ if kind = .digitalInput then indices.flatMap (ks.contactKeys p) else []) :
    ∃ i field, name = ks.device p (sensorField .digitalInput i (some field)) := by
  split at h
  · obtain ⟨i, -, hname⟩ := List.mem_flatMap.mp h
    rw [contactKeys_eq_map] at hname
    obtain ⟨s, hs, rfl⟩ := List.mem_map.mp hname
    obtain ⟨field, -, rfl⟩ := mem_contactSteps.mp hs
    exact ⟨i, field, rfl⟩
  · cases h

theorem contactField_eq (i : Nat) (field : String) :
    sensorField .digitalInput i (some field) =
      "contacts" ++ "." ++ toString (Number.ordinal i) ++ "." ++ field := rfl

theorem contactField_inj {i j : Nat} {f g : String} :
    sensorField .digitalInput i (some f) = sensorField .digitalInput j (some g) ↔ i = j ∧ f = g :=
  numbered_inj

theorem contact_eq_of_mem {i j : Nat} {s : String} (hi : s ∈ contactSteps i)
    (hj : s ∈ contactSteps j) : i = j := by
  obtain ⟨f, -, rfl⟩ := mem_contactSteps.mp hi
  obtain ⟨g, -, h⟩ := mem_contactSteps.mp hj
  exact (contactField_inj.mp h).1

theorem contactSteps_notMem_fixedSteps {i : Nat} {s : String} (h : s ∈ contactSteps i) :
    s ∉ fixedSteps := by
  have hfixed : ∀ t ∈ fixedSteps, ¬ "contacts.".toList <+: t.toList := by decide
  obtain ⟨field, -, rfl⟩ := mem_contactSteps.mp h
  intro hmem
  apply hfixed _ hmem
  refine ⟨(toString (Number.ordinal i) ++ "." ++ field).toList, ?_⟩
  rw [contactField_eq]
  simp only [String.toList_append, List.append_assoc]
  rfl

theorem nodup_contactSteps (i : Nat) : (contactSteps i).Nodup := by
  apply List.Nodup.map_on
  · intro f _ g _ h
    exact (contactField_inj.mp h).2
  · decide

theorem nodup_objectSteps (contacts : Nat) : (objectSteps contacts).Nodup := by
  apply List.Nodup.append
  · decide
  · rw [List.nodup_flatMap]
    refine ⟨fun i _ => nodup_contactSteps i, ?_⟩
    refine List.nodup_range.imp ?_
    intro i j hij s hi hj
    exact hij (contact_eq_of_mem hi hj)
  · intro s hfixed hcontact
    obtain ⟨i, -, hi⟩ := List.mem_flatMap.mp hcontact
    exact contactSteps_notMem_fixedSteps hi hfixed

theorem nodup_deviceObjectKeys (ks : KeySpace) (p contacts : Nat) :
    (ks.deviceObjectKeys p contacts).Nodup := by
  rw [deviceObjectKeys_eq_map]
  apply List.Nodup.map_on
  · intro s _ t _ h
    exact (device_inj.mp h).2
  · exact nodup_objectSteps contacts

theorem deviceField_mem_fixedSteps {field : String} (h : field ∈ deviceFields) :
    field ∈ fixedSteps :=
  List.mem_append_left _ (List.mem_append_left _ h)

theorem deviceField_mem_objectSteps {contacts : Nat} {field : String} (h : field ∈ deviceFields) :
    field ∈ objectSteps contacts :=
  mem_objectSteps.mpr (.inl (deviceField_mem_fixedSteps h))

theorem key_mem_objectSteps (contacts : Nat) : "key" ∈ objectSteps contacts :=
  deviceField_mem_objectSteps (by decide)

theorem objectName_prefix_sensorField (kind : SensorKind) (i : Nat) (field : Option String) :
    ∃ rest, sensorField kind i field = kind.objectName ++ rest := by
  have hstep : ∃ rest, sensorStep kind i = kind.objectName ++ rest := by
    unfold sensorStep
    split
    · exact ⟨_, String.append_assoc⟩
    · exact ⟨"", by simp⟩
  obtain ⟨rest, hrest⟩ := hstep
  cases field with
  | none => exact ⟨rest, hrest⟩
  | some field =>
    refine ⟨rest ++ "." ++ field, ?_⟩
    simp only [sensorField, hrest, String.append_assoc]

theorem kind_of_sensorField {kind other : SensorKind} {i j : Nat} {field field' : Option String}
    (h : sensorField kind i field = sensorField other j field') : kind = other := by
  obtain ⟨rest, hrest⟩ := objectName_prefix_sensorField kind i field
  obtain ⟨rest', hrest'⟩ := objectName_prefix_sensorField other j field'
  have hhead :
      (kind.objectName ++ rest).toList.head? = (other.objectName ++ rest').toList.head? := by
    rw [← hrest, ← hrest', h]
  simp only [String.toList_append] at hhead
  cases kind with
  | temperature =>
    cases other with
    | temperature => rfl
    | humidity => exact absurd hhead (by decide : some 't' ≠ some 'h')
    | digitalInput => exact absurd hhead (by decide : some 't' ≠ some 'c')
  | humidity =>
    cases other with
    | temperature => exact absurd hhead (by decide : some 'h' ≠ some 't')
    | humidity => rfl
    | digitalInput => exact absurd hhead (by decide : some 'h' ≠ some 'c')
  | digitalInput =>
    cases other with
    | temperature => exact absurd hhead (by decide : some 'c' ≠ some 't')
    | humidity => exact absurd hhead (by decide : some 'c' ≠ some 'h')
    | digitalInput => rfl

/-- No sensor is published under the step that holds the key of the device. -/
theorem sensorField_ne_key (kind : SensorKind) (i : Nat) (field : Option String) :
    sensorField kind i field ≠ "key" := by
  obtain ⟨rest, hrest⟩ := objectName_prefix_sensorField kind i field
  intro h
  have hprefix : kind.objectName.toList <+: "key".toList := by
    rw [← h, hrest, String.toList_append]
    exact List.prefix_append _ _
  cases kind with
  | temperature => exact absurd hprefix (by decide)
  | humidity => exact absurd hprefix (by decide)
  | digitalInput => exact absurd hprefix (by decide)

theorem sensorField_mem_objectSteps {kind : SensorKind} {i contacts : Nat} {field : Option String}
    (hkind : kind.isIndexed = false) (hfield : field ∈ sensorFields) :
    sensorField kind i field ∈ objectSteps contacts := by
  rw [sensorField_of_not_isIndexed hkind]
  apply mem_objectSteps.mpr
  left
  cases kind with
  | temperature =>
    simp only [fixedSteps, List.mem_append, List.mem_map_of_mem hfield, or_true, true_or]
  | humidity => simp only [fixedSteps, List.mem_append, List.mem_map_of_mem hfield, or_true]
  | digitalInput => simp [SensorKind.isIndexed] at hkind

theorem contactField_mem_objectSteps {i contacts : Nat} {field : String} (hi : i < contacts)
    (hfield : field ∈ contactFields) :
    sensorField .digitalInput i (some field) ∈ objectSteps contacts :=
  mem_objectSteps.mpr (.inr ⟨i, hi, mem_contactSteps.mpr ⟨field, hfield, rfl⟩⟩)

end KeySpace

end RackTelemetry
