import Mathlib.Data.List.Basic
import RackTelemetry.Alarm.Draft
import RackTelemetry.Proofs.Number.Reading

/-!
How an alarm list is put together. Each field of an alarm goes to the slot of the alarm, in any
order; once all fields of all alarms have arrived, the list is taken as it was reported.
-/

namespace RackTelemetry

/-- The entries after those at the beginning are changed one after another. -/
theorem foldl_modify_zipIdx {α β : Type} (change : α → β → β) (fresh : β) (items : List α)
    (before : List β) :
    (items.zipIdx before.length).foldl
        (fun slots entry => slots.modify entry.2 (change entry.1))
        (before ++ List.replicate items.length fresh) =
      before ++ items.map fun item => change item fresh := by
  induction items generalizing before with
  | nil => rfl
  | cons item rest ih =>
    have hfirst : (before ++ List.replicate (item :: rest).length fresh).modify before.length
        (change item) = before ++ [change item fresh] ++ List.replicate rest.length fresh := by
      rw [List.length_cons, List.replicate_succ, List.append_assoc]
      exact List.modifyTailIdx_add (List.modifyHead (change item)) 0 before _
    have hrest := ih (before ++ [change item fresh])
    rw [List.length_append, List.length_singleton] at hrest
    rw [List.zipIdx_cons, List.foldl_cons, hfirst, hrest, List.map_cons, List.append_assoc,
      List.singleton_append]

/-- What arrives as a field of an alarm. -/
def Alarm.fieldText (alarm : Alarm) : AlarmField → String
  | .id => alarm.id
  | .level => toString alarm.level
  | .code => alarm.code
  | .topic => alarm.topic

/-- The level of an alarm is an integer of 64 bits. -/
def Alarm.HasLevel (alarm : Alarm) : Prop :=
  -(Number.maxInt + 1 : Int) ≤ alarm.level ∧ alarm.level ≤ Number.maxInt

namespace AlarmField

def all : List AlarmField := [.id, .level, .code, .topic]

theorem mem_all (field : AlarmField) : field ∈ all := by
  cases field <;> decide

end AlarmField

namespace PartialAlarm

/-- A slot that a field of an alarm went to. -/
def fill (alarm : Alarm) (p : PartialAlarm) : AlarmField → PartialAlarm
  | .id => { p with id := some alarm.id }
  | .level => { p with level := some alarm.level }
  | .code => { p with code := some alarm.code }
  | .topic => { p with topic := some alarm.topic }

def ofAlarm (alarm : Alarm) : PartialAlarm :=
  { id := some alarm.id
    level := some alarm.level
    code := some alarm.code
    topic := some alarm.topic }

variable {alarm : Alarm}

theorem fill_comm (p : PartialAlarm) (field other : AlarmField) :
    (p.fill alarm field).fill alarm other = (p.fill alarm other).fill alarm field := by
  cases field <;> cases other <;> rfl

/-- The order in which the fields arrive does not matter. -/
theorem foldl_fill {fields : List AlarmField} (h : fields.Perm AlarmField.all) (p : PartialAlarm) :
    fields.foldl (fill alarm) p = ofAlarm alarm :=
  h.foldl_eq' (fun field _ other _ q => q.fill_comm field other) p

theorem withField_fieldText (hlevel : alarm.HasLevel) (p : PartialAlarm) (field : AlarmField) :
    p.withField field (alarm.fieldText field) = .ok (p.fill alarm field) := by
  cases field with
  | id => rfl
  | level => rw [withField, Alarm.fieldText, Number.readInt_toString hlevel.1 hlevel.2, fill]
  | code => rfl
  | topic => rfl

end PartialAlarm

namespace AlarmDraft

variable {alarm : Alarm} {received : List Alarm}

/-- The list after a change of the slot at an index, if there is one. -/
def modify (d : AlarmDraft) (index : Nat) (change : PartialAlarm → PartialAlarm) : AlarmDraft :=
  { d with slots := d.slots.map fun slots => slots.modify index change }

theorem modify_self (d : AlarmDraft) (index : Nat) : d.modify index (fun slot => slot) = d := by
  have hslots : (fun slots : List PartialAlarm => slots.modify index fun slot => slot) = id := by
    funext slots
    refine List.ext_getElem? fun j => ?_
    rw [List.getElem?_modify]
    simp
  rw [modify, hslots, Option.map_id, id]

theorem modify_modify (d : AlarmDraft) (index : Nat) (first second : PartialAlarm → PartialAlarm) :
    (d.modify index first).modify index second = d.modify index (second ∘ first) := by
  simp only [modify, Option.map_map, Function.comp_def, List.modify_modify_eq]

/-- A field of an alarm goes to its slot; where there is no slot, nothing changes. -/
theorem setField_fieldText (hlevel : alarm.HasLevel) (d : AlarmDraft) (index : Nat)
    (field : AlarmField) :
    d.setField index field (alarm.fieldText field) =
        .ok (d.modify index fun slot => slot.fill alarm field) ∨
      (∃ e, d.setField index field (alarm.fieldText field) = .error e) ∧
        d.modify index (fun slot => slot.fill alarm field) = d := by
  obtain ⟨slots, maxAlarms⟩ := d
  cases slots with
  | none => exact .inr ⟨⟨_, rfl⟩, rfl⟩
  | some slots =>
    cases hslot : slots[index]? with
    | none =>
      have hmodify : slots.modify index (fun slot => slot.fill alarm field) = slots := by
        rw [List.modify_eq_self (List.getElem?_eq_none_iff.mp hslot)]
      refine .inr ⟨⟨.outOfBounds index slots.length, ?_⟩, ?_⟩
      · simp only [setField, hslot]
      · simp only [modify, Option.map_some, hmodify]
    | some slot =>
      obtain ⟨hlt, rfl⟩ := List.getElem?_eq_some_iff.mp hslot
      have hmodify : slots.modify index (fun slot => slot.fill alarm field) =
          slots.set index (slots[index].fill alarm field) := List.modify_eq_set_get _ hlt
      left
      simp only [setField, hslot, PartialAlarm.withField_fieldText hlevel, bind, Except.bind, pure,
        Except.pure, modify, Option.map_some, hmodify]

/-- The slots of an open list are filled one after another. -/
theorem foldl_modify_ofAlarm (d : AlarmDraft) :
    received.zipIdx.foldl (fun d entry => d.modify entry.2 fun _ => PartialAlarm.ofAlarm entry.1)
        { d with slots := some (List.replicate received.length {}) } =
      { d with slots := some (received.map PartialAlarm.ofAlarm) } := by
  have hfilled := foldl_modify_zipIdx (fun alarm _ => PartialAlarm.ofAlarm alarm) {} received []
  have hopen : ∀ (slots : List PartialAlarm) (entry : Alarm × Nat),
      ({ d with slots := some slots } : AlarmDraft).modify entry.2
          (fun _ => PartialAlarm.ofAlarm entry.1) =
        { d with slots := some (slots.modify entry.2 fun _ => PartialAlarm.ofAlarm entry.1) } :=
    fun _ _ => rfl
  rw [List.nil_append, List.nil_append] at hfilled
  rw [← hfilled]
  exact List.foldl_hom (fun slots => ({ d with slots := some slots } : AlarmDraft)) hopen

/-- A list whose alarms have arrived as a whole is taken as it was reported. -/
theorem takeComplete_ofAlarm (d : AlarmDraft)
    (h : d.slots = some (received.map PartialAlarm.ofAlarm)) :
    d.takeComplete = ({ d with slots := none }, some received) := by
  have hcomplete : d.isComplete = true := by
    simp only [isComplete, h, List.all_map, List.all_eq_true]
    exact fun _ _ => rfl
  have halarms : (received.map PartialAlarm.ofAlarm).filterMap PartialAlarm.alarm? = received := by
    rw [List.filterMap_map]
    exact List.filterMap_some
  simp only [takeComplete, h, hcomplete, if_true, halarms]

end AlarmDraft

end RackTelemetry
