import Mathlib.Data.List.Basic
import Mathlib.Data.List.Induction
import RackTelemetry.Alarm.Draft

/-!
How an alarm list arrives. Fields come for any slots, in any order and repeatedly, and some of them
are refused. A slot holds the last text that was taken for each of its fields, so the alarms that
are handed out in the end depend on nothing else.
-/

namespace RackTelemetry

/-- A field of the alarm at an index, as it arrives. -/
structure Arrival where
  index : Nat
  field : AlarmField
  value : String
  deriving Repr, DecidableEq, Inhabited

/-! ### What is known of an alarm -/

/-- What was taken for each field of an alarm, if anything. -/
abbrev AlarmTexts := AlarmField → Option String

/-- An alarm cannot be handed out before its id, its code and its topic are known. -/
def AlarmTexts.Lacks (texts : AlarmTexts) : Prop :=
  texts .id = none ∨ texts .code = none ∨ texts .topic = none

/-- The alarm is the one that the texts tell of; its level is zero where they tell of none. -/
structure Alarm.Reads (alarm : Alarm) (texts : AlarmTexts) : Prop where
  id : texts .id = some alarm.id
  code : texts .code = some alarm.code
  topic : texts .topic = some alarm.topic
  level : (texts .level = none ∧ alarm.level = 0) ∨
    ∃ text, texts .level = some text ∧ Number.readInt text = .ok alarm.level

namespace PartialAlarm

variable {p filled : PartialAlarm} {texts : AlarmTexts} {field : AlarmField} {value : String}

/-- A slot holds what the texts say. -/
structure Holds (p : PartialAlarm) (texts : AlarmTexts) : Prop where
  id : p.id = texts .id
  code : p.code = texts .code
  topic : p.topic = texts .topic
  level : p.level.map Except.ok = (texts .level).map Number.readInt

/-- Every text is taken, but for a level that is no integer. -/
theorem exists_withField_iff :
    (∃ filled, p.withField field value = .ok filled) ↔
      (field = .level → ∃ level, Number.readInt value = .ok level) := by
  cases field with
  | level =>
    cases hlevel : Number.readInt value with
    | ok level => simp only [withField, hlevel, Except.ok.injEq, exists_eq', forall_const]
    | error fault => simp only [withField, hlevel, reduceCtorEq, exists_false, forall_const]
  | id => simp only [withField, Except.ok.injEq, exists_eq', reduceCtorEq, false_implies]
  | code => simp only [withField, Except.ok.injEq, exists_eq', reduceCtorEq, false_implies]
  | topic => simp only [withField, Except.ok.injEq, exists_eq', reduceCtorEq, false_implies]

theorem Holds.withField (h : p.Holds texts) (hset : p.withField field value = .ok filled) :
    filled.Holds fun other => if other = field then some value else texts other := by
  obtain ⟨hid, hcode, htopic, hlevel⟩ := h
  cases field with
  | id =>
    obtain rfl := Except.ok.inj hset
    exact ⟨rfl, hcode, htopic, hlevel⟩
  | code =>
    obtain rfl := Except.ok.inj hset
    exact ⟨hid, rfl, htopic, hlevel⟩
  | topic =>
    obtain rfl := Except.ok.inj hset
    exact ⟨hid, hcode, rfl, hlevel⟩
  | level =>
    unfold PartialAlarm.withField at hset
    dsimp only at hset
    split at hset
    · next level hread =>
      obtain rfl := Except.ok.inj hset
      exact ⟨hid, hcode, htopic, congrArg some hread.symm⟩
    · cases hset

/-- A slot is determined by the texts. -/
theorem Holds.unique (h : p.Holds texts) (hother : filled.Holds texts) : p = filled := by
  obtain ⟨pid, plevel, pcode, ptopic⟩ := p
  obtain ⟨fid, flevel, fcode, ftopic⟩ := filled
  obtain rfl : pid = fid := h.id.trans hother.id.symm
  obtain rfl : pcode = fcode := h.code.trans hother.code.symm
  obtain rfl : ptopic = ftopic := h.topic.trans hother.topic.symm
  have hlevels : plevel.map (Except.ok (ε := Number.IntegerFault)) = flevel.map Except.ok :=
    h.level.trans hother.level.symm
  obtain rfl : plevel = flevel := Option.map_injective (fun _ _ => Except.ok.inj) hlevels
  rfl

theorem Holds.isComplete_iff (h : p.Holds texts) : p.isComplete = true ↔ ¬ texts.Lacks := by
  simp only [isComplete, AlarmTexts.Lacks, h.id, h.code, h.topic, Bool.and_eq_true,
    Option.isSome_iff_ne_none, not_or, and_assoc]

/-- A complete slot is an alarm. -/
theorem Holds.exists_alarm (h : p.Holds texts) (hcomplete : p.isComplete = true) :
    ∃ alarm, p.alarm? = some alarm ∧ alarm.Reads texts := by
  simp only [isComplete, Bool.and_eq_true, Option.isSome_iff_exists] at hcomplete
  obtain ⟨⟨⟨id, hid⟩, code, hcode⟩, topic, htopic⟩ := hcomplete
  refine ⟨{ id, level := p.level.getD 0, code, topic }, ?_, ?_⟩
  · simp only [alarm?, hid, hcode, htopic, bind, Option.bind_some, pure]
  refine ⟨h.id.symm.trans hid, h.code.symm.trans hcode, h.topic.symm.trans htopic, ?_⟩
  have hlevel := h.level
  cases htext : texts .level with
  | none =>
    rw [htext, Option.map_none, Option.map_eq_none_iff] at hlevel
    exact .inl ⟨rfl, by rw [hlevel, Option.getD_none]⟩
  | some text =>
    rw [htext, Option.map_some, Option.map_eq_some_iff] at hlevel
    obtain ⟨level, hp, hread⟩ := hlevel
    exact .inr ⟨text, rfl, by rw [← hread, hp, Option.getD_some]⟩

end PartialAlarm

namespace AlarmDraft

variable {d after : AlarmDraft} {count index : Nat} {field : AlarmField} {value : String}
  {texts : Nat → AlarmTexts} {arrivals : List Arrival} {arrival : Arrival}

/-! ### Fields arrive -/

/-- The list after a field arrived; a field that is refused leaves it as it is. -/
def receive (d : AlarmDraft) (arrival : Arrival) : AlarmDraft :=
  match d.setField arrival.index arrival.field arrival.value with
  | .ok after => after
  | .error _ => d

def receiveAll (d : AlarmDraft) (arrivals : List Arrival) : AlarmDraft := arrivals.foldl receive d

/-- The arrivals that are not refused, in their order. -/
def taken (d : AlarmDraft) : List Arrival → List Arrival
  | [] => []
  | arrival :: rest =>
    match d.setField arrival.index arrival.field arrival.value with
    | .ok after => arrival :: after.taken rest
    | .error _ => d.taken rest

/-- The last text that is taken for each field of the alarm at an index. -/
def lastTaken (d : AlarmDraft) (arrivals : List Arrival) (index : Nat) : AlarmTexts := fun field =>
  ((d.taken arrivals).reverse.find? fun arrival =>
    arrival.index = index ∧ arrival.field = field).map Arrival.value

theorem receiveAll_concat (d : AlarmDraft) (arrivals : List Arrival) (arrival : Arrival) :
    d.receiveAll (arrivals ++ [arrival]) = (d.receiveAll arrivals).receive arrival := by
  rw [receiveAll, List.foldl_append]
  rfl

theorem taken_append (d : AlarmDraft) (arrivals later : List Arrival) :
    d.taken (arrivals ++ later) = d.taken arrivals ++ (d.receiveAll arrivals).taken later := by
  induction arrivals generalizing d with
  | nil => rfl
  | cons arrival rest ih =>
    cases hset : d.setField arrival.index arrival.field arrival.value with
    | ok after =>
      simp only [List.cons_append, taken, receiveAll, List.foldl_cons, receive, hset, ih]
    | error e =>
      simp only [List.cons_append, taken, receiveAll, List.foldl_cons, receive, hset, ih]

theorem lastTaken_concat_of_ok
    (h : (d.receiveAll arrivals).setField arrival.index arrival.field arrival.value = .ok after) :
    d.lastTaken (arrivals ++ [arrival]) = fun i other =>
      if i = arrival.index ∧ other = arrival.field then some arrival.value
      else d.lastTaken arrivals i other := by
  funext i other
  have htaken : d.taken (arrivals ++ [arrival]) = d.taken arrivals ++ [arrival] := by
    simp only [taken_append, taken, h]
  simp only [lastTaken, htaken, List.reverse_append, List.reverse_singleton, List.singleton_append,
    List.find?_cons, eq_comm (a := i), eq_comm (a := other)]
  split
  · next hsame => rw [if_pos (of_decide_eq_true hsame), Option.map_some]
  · next hother => rw [if_neg (of_decide_eq_false hother)]

theorem lastTaken_concat_of_error {e : Error}
    (h : (d.receiveAll arrivals).setField arrival.index arrival.field arrival.value = .error e) :
    d.lastTaken (arrivals ++ [arrival]) = d.lastTaken arrivals := by
  have htaken : d.taken (arrivals ++ [arrival]) = d.taken arrivals := by
    simp only [taken_append, taken, h, List.append_nil]
  funext i other
  rw [lastTaken, lastTaken, htaken]

/-! ### The slots hold what was taken -/

theorem setField_eq_ok_iff :
    d.setField index field value = .ok after ↔
      ∃ slots slot filled, d.slots = some slots ∧ slots[index]? = some slot ∧
        slot.withField field value = .ok filled ∧
        { d with slots := some (slots.set index filled) } = after := by
  obtain ⟨slots, maxAlarms⟩ := d
  cases slots with
  | none => simp only [setField, reduceCtorEq, false_and, exists_false]
  | some slots =>
    cases hslot : slots[index]? with
    | none => simp [setField, hslot]
    | some slot =>
      cases hfill : slot.withField field value with
      | error e =>
        simp only [setField, hslot, hfill, bind, Except.bind, Option.some.injEq, exists_eq_left',
          exists_and_left, reduceCtorEq, false_and, exists_false]
      | ok filled =>
        simp only [setField, hslot, hfill, bind, Except.bind, pure, Except.pure, Option.some.injEq,
          Except.ok.injEq, exists_eq_left', exists_and_left]

theorem maxAlarms_setField (h : d.setField index field value = .ok after) :
    after.maxAlarms = d.maxAlarms := by
  obtain ⟨slots, slot, filled, -, -, -, rfl⟩ := setField_eq_ok_iff.mp h
  rfl

theorem maxAlarms_receiveAll (d : AlarmDraft) (arrivals : List Arrival) :
    (d.receiveAll arrivals).maxAlarms = d.maxAlarms := by
  induction arrivals generalizing d with
  | nil => rfl
  | cons arrival rest ih =>
    rw [receiveAll, List.foldl_cons, ← receiveAll, ih, receive]
    split
    · next hset => exact maxAlarms_setField hset
    · rfl

/-- An open list of `count` slots, each of which holds its texts. -/
def Holds (d : AlarmDraft) (count : Nat) (texts : Nat → AlarmTexts) : Prop :=
  ∃ slots, d.slots = some slots ∧ slots.length = count ∧
    ∀ (index : Nat) (slot : PartialAlarm), slots[index]? = some slot → slot.Holds (texts index)

theorem Holds.setField (h : d.Holds count texts)
    (hset : d.setField index field value = .ok after) :
    after.Holds count fun i other =>
      if i = index ∧ other = field then some value else texts i other := by
  obtain ⟨slots, slot, filled, hslots, hslot, hfill, rfl⟩ := setField_eq_ok_iff.mp hset
  obtain ⟨slots', hslots', hlength, hholds⟩ := h
  obtain rfl := Option.some.inj (hslots.symm.trans hslots')
  refine ⟨slots.set index filled, rfl, by rw [List.length_set, hlength], ?_⟩
  intro i other hother
  by_cases hi : i = index
  · subst hi
    rw [List.getElem?_set_self (List.getElem?_eq_some_iff.mp hslot).1] at hother
    obtain rfl := Option.some.inj hother
    simpa only [true_and] using (hholds i slot hslot).withField hfill
  · rw [List.getElem?_set_ne (Ne.symm hi)] at hother
    simpa only [hi, false_and, if_false] using hholds i other hother

/-- A list opens with nothing known. -/
theorem holds_begin (hopen : (d.begin count).2 = .ok ()) :
    (d.begin count).1.Holds count ((d.begin count).1.lastTaken []) := by
  unfold begin at hopen ⊢
  split at hopen
  · cases hopen
  · next hle =>
    rw [if_neg hle]
    refine ⟨List.replicate count {}, rfl, List.length_replicate, ?_⟩
    intro index slot hslot
    obtain rfl := List.eq_of_mem_replicate (List.mem_of_getElem? hslot)
    exact ⟨rfl, rfl, rfl, rfl⟩

theorem holds_receiveAll (hopen : (d.begin count).2 = .ok ()) (arrivals : List Arrival) :
    ((d.begin count).1.receiveAll arrivals).Holds count
      ((d.begin count).1.lastTaken arrivals) := by
  induction arrivals using List.reverseRecOn with
  | nil => exact holds_begin hopen
  | append_singleton arrivals arrival ih =>
    rw [receiveAll_concat]
    cases hset : ((d.begin count).1.receiveAll arrivals).setField arrival.index arrival.field
        arrival.value with
    | ok after =>
      rw [lastTaken_concat_of_ok hset, receive, hset]
      exact ih.setField hset
    | error e =>
      rw [lastTaken_concat_of_error hset, receive, hset]
      exact ih

/-! ### The list is handed out -/

variable {slots : List PartialAlarm}

theorem takeComplete_of_slots (hslots : d.slots = some slots) :
    d.takeComplete =
      if ∀ slot ∈ slots, slot.isComplete = true then
        ({ d with slots := none }, some (slots.filterMap PartialAlarm.alarm?))
      else (d, none) := by
  simp only [takeComplete, isComplete, hslots, List.all_eq_true]

/-- Some slot lacks what its alarm needs exactly if not all slots are complete. -/
theorem Holds.lacks_iff (h : d.Holds count texts) (hslots : d.slots = some slots) :
    (∃ index < count, (texts index).Lacks) ↔ ¬ ∀ slot ∈ slots, slot.isComplete = true := by
  obtain ⟨_, hslots', rfl, hholds⟩ := h
  obtain rfl := Option.some.inj (hslots.symm.trans hslots')
  constructor
  · rintro ⟨index, hlt, hlacks⟩ hcomplete
    have hslot := hholds index slots[index] (List.getElem?_eq_getElem hlt)
    exact (hslot.isComplete_iff.mp (hcomplete _ (List.getElem_mem hlt))) hlacks
  · intro hincomplete
    by_contra hlacks
    refine hincomplete fun slot hslot => ?_
    obtain ⟨index, hget⟩ := List.mem_iff_getElem?.mp hslot
    have hlt := (List.getElem?_eq_some_iff.mp hget).1
    exact (hholds index slot hget).isComplete_iff.mpr fun h => hlacks ⟨index, hlt, h⟩

/-- Complete slots are handed out without a gap. -/
theorem filterMap_alarm? (hcomplete : ∀ slot ∈ slots, slot.isComplete = true)
    (hholds : ∀ (index : Nat) (slot : PartialAlarm),
      slots[index]? = some slot → slot.Holds (texts index)) :
    ∃ alarms, slots.filterMap PartialAlarm.alarm? = alarms ∧ alarms.length = slots.length ∧
      ∀ (index : Nat) (alarm : Alarm), alarms[index]? = some alarm → alarm.Reads (texts index) := by
  have halarm : ∀ (index : Nat) (slot : PartialAlarm), slots[index]? = some slot →
      slot.alarm? = some (slot.alarm?.getD default) ∧
        (slot.alarm?.getD default).Reads (texts index) := by
    intro index slot hslot
    obtain ⟨alarm, halarm, hreads⟩ := (hholds index slot hslot).exists_alarm
      (hcomplete slot (List.mem_of_getElem? hslot))
    rw [halarm, Option.getD_some]
    exact ⟨rfl, hreads⟩
  refine ⟨slots.map fun slot => slot.alarm?.getD default, ?_, List.length_map _, ?_⟩
  · refine List.filterMap_eq_map_iff_forall_eq_some.mpr fun slot hslot => ?_
    obtain ⟨index, hindex⟩ := List.mem_iff_getElem?.mp hslot
    exact (halarm index slot hindex).1
  · intro index alarm hget
    rw [List.getElem?_map] at hget
    obtain ⟨slot, hslot, rfl⟩ := Option.map_eq_some_iff.mp hget
    exact (halarm index slot hslot).2

/-- The list waits exactly as long as a slot lacks what its alarm needs. -/
theorem Holds.takeComplete_eq_none_iff (h : d.Holds count texts) :
    d.takeComplete = (d, none) ↔ ∃ index < count, (texts index).Lacks := by
  obtain ⟨slots, hslots, -, -⟩ := id h
  rw [h.lacks_iff hslots, takeComplete_of_slots hslots]
  split
  · next hcomplete =>
    exact ⟨fun htaken => absurd (Prod.mk.inj htaken).2 nofun, fun h => absurd hcomplete h⟩
  · next hincomplete => exact ⟨fun _ => hincomplete, fun _ => rfl⟩

theorem Holds.exists_takeComplete (h : d.Holds count texts)
    (hknown : ¬ ∃ index < count, (texts index).Lacks) :
    ∃ alarms, d.takeComplete = ({ d with slots := none }, some alarms) ∧ alarms.length = count ∧
      ∀ (index : Nat) (alarm : Alarm), alarms[index]? = some alarm → alarm.Reads (texts index) := by
  obtain ⟨slots, hslots, hlength, hholds⟩ := id h
  rw [h.lacks_iff hslots, not_not] at hknown
  obtain ⟨alarms, halarms, hcount, hreads⟩ := filterMap_alarm? hknown hholds
  refine ⟨alarms, ?_, hcount.trans hlength, hreads⟩
  rw [takeComplete_of_slots hslots, if_pos hknown, halarms]

theorem Holds.setField_iff (h : d.Holds count texts) :
    (∃ after, d.setField index field value = .ok after) ↔
      index < count ∧ (field = .level → ∃ level, Number.readInt value = .ok level) := by
  obtain ⟨slots, hslots, rfl, -⟩ := h
  constructor
  · rintro ⟨after, hset⟩
    obtain ⟨slots', slot, filled, hslots', hslot, hfill, -⟩ := setField_eq_ok_iff.mp hset
    obtain rfl := Option.some.inj (hslots.symm.trans hslots')
    exact ⟨(List.getElem?_eq_some_iff.mp hslot).1,
      PartialAlarm.exists_withField_iff.mp ⟨filled, hfill⟩⟩
  · rintro ⟨hlt, hvalue⟩
    obtain ⟨filled, hfill⟩ := (PartialAlarm.exists_withField_iff (p := slots[index])).mpr hvalue
    exact ⟨_, setField_eq_ok_iff.mpr
      ⟨slots, slots[index], filled, hslots, List.getElem?_eq_getElem hlt, hfill, rfl⟩⟩

/-- Open lists that hold the same texts are the same. -/
theorem Holds.unique {other : AlarmDraft} (h : d.Holds count texts)
    (hother : other.Holds count texts) (hmax : d.maxAlarms = other.maxAlarms) : d = other := by
  obtain ⟨dslots, maxAlarms⟩ := d
  obtain ⟨oslots, maxOther⟩ := other
  obtain ⟨slots, rfl, hlength, hholds⟩ := h
  obtain ⟨slots', rfl, hlength', hholds'⟩ := hother
  obtain rfl : maxAlarms = maxOther := hmax
  have hsame : slots = slots' :=
    List.ext_getElem (hlength.trans hlength'.symm) fun index hlt hlt' =>
      (hholds index _ (List.getElem?_eq_getElem hlt)).unique
        (hholds' index _ (List.getElem?_eq_getElem hlt'))
  rw [hsame]

/-- What the fields that arrived after a list of `count` alarms was opened lead to. -/
structure Assembled (opened : AlarmDraft) (count : Nat) (arrivals : List Arrival) : Prop where
  /-- Each slot holds the last text that was taken for each of its fields. -/
  holds : (opened.receiveAll arrivals).Holds count (opened.lastTaken arrivals)
  takes : ∀ index field value,
    (∃ after, (opened.receiveAll arrivals).setField index field value = .ok after) ↔
      index < count ∧ (field = .level → ∃ level, Number.readInt value = .ok level)
  refuses : ∀ arrival e, (opened.receiveAll arrivals).setField arrival.index arrival.field
      arrival.value = .error e →
    opened.receiveAll (arrivals ++ [arrival]) = opened.receiveAll arrivals
  waits : (opened.receiveAll arrivals).takeComplete = (opened.receiveAll arrivals, none) ↔
    ∃ index < count, (opened.lastTaken arrivals index).Lacks
  /-- Otherwise there is an alarm for each slot, and no list is open any more. -/
  completes : (¬ ∃ index < count, (opened.lastTaken arrivals index).Lacks) →
    ∃ alarms, (opened.receiveAll arrivals).takeComplete =
        ({ opened with slots := none }, some alarms) ∧
      alarms.length = count ∧
      ∀ (index : Nat) (alarm : Alarm), alarms[index]? = some alarm →
        alarm.Reads (opened.lastTaken arrivals index)
  /-- Only the last texts that were taken matter. -/
  determined : ∀ others, opened.lastTaken others = opened.lastTaken arrivals →
    (opened.receiveAll others).takeComplete = (opened.receiveAll arrivals).takeComplete

theorem assembled (hopen : (d.begin count).2 = .ok ()) (arrivals : List Arrival) :
    Assembled (d.begin count).1 count arrivals := by
  have hholds := holds_receiveAll hopen arrivals
  refine ⟨hholds, fun _ _ _ => hholds.setField_iff, ?_, hholds.takeComplete_eq_none_iff, ?_, ?_⟩
  · intro arrival e hrefused
    rw [receiveAll_concat, receive, hrefused]
  · intro hknown
    obtain ⟨alarms, htake, hcount, hreads⟩ := hholds.exists_takeComplete hknown
    refine ⟨alarms, htake.trans ?_, hcount, hreads⟩
    rw [maxAlarms_receiveAll]
  · intro others hsame
    have hothers := holds_receiveAll hopen others
    rw [hsame] at hothers
    rw [hothers.unique hholds ((maxAlarms_receiveAll _ _).trans (maxAlarms_receiveAll _ _).symm)]

/-- A list that is too long leaves none open. Whatever arrives after a list was opened, each slot
holds the last text that was taken for each of its fields, and the list is handed out, an alarm for
each slot, exactly if every alarm has its id, its code and its topic. -/
theorem begin_assembles (d : AlarmDraft) (count : Nat) :
    (d.maxAlarms < count → d.begin count =
      ({ d with slots := none }, .error (.capacityExceeded count d.maxAlarms))) ∧
    ((d.begin count).2 = .ok () → ∀ arrivals, Assembled (d.begin count).1 count arrivals) :=
  ⟨fun hlong => if_pos hlong, assembled⟩

/-- The fields of two alarms, one of them twice, one without a slot and one with a bad level. -/
theorem begin_assembles_two :
    let d : AlarmDraft := { slots := some [{}], maxAlarms := 2 }
    let arrivals : List Arrival :=
      [⟨1, .id, "b"⟩, ⟨0, .topic, "t0"⟩, ⟨2, .id, "c"⟩, ⟨0, .id, "a"⟩, ⟨1, .level, "3"⟩,
        ⟨1, .level, "high"⟩, ⟨0, .code, "1"⟩, ⟨1, .code, "2"⟩, ⟨1, .topic, "t1"⟩, ⟨0, .code, "12"⟩]
    (d.maxAlarms < 3 ∧ (d.begin 3).1.isPending = false) ∧
      (d.begin 2).2 = .ok () ∧ Assembled (d.begin 2).1 2 arrivals ∧
      (((d.begin 2).1.receiveAll arrivals).takeComplete).2 =
        some [⟨"a", 0, "12", "t0"⟩, ⟨"b", 3, "2", "t1"⟩] := by
  intro d arrivals
  have hlong : d.maxAlarms < 3 := by decide
  have hopen : (d.begin 2).2 = .ok () := rfl
  refine ⟨⟨hlong, ?_⟩, hopen, (begin_assembles d 2).2 hopen arrivals, by decide +kernel⟩
  rw [(begin_assembles d 3).1 hlong]
  rfl

end AlarmDraft

end RackTelemetry
