import RackTelemetry.Proofs.Alarm.Assembly
import RackTelemetry.Proofs.Pattern.Beginning
import RackTelemetry.Proofs.Topic.Card

/-!
The paths of lists, of devices and of alarms: the number of the members and the fields of each
member lead to the handlers that take them, with the index of the member read off its path.
-/

namespace RackTelemetry

namespace TopicTable

def deviceListTopic : String := "mbdetnrs/1.0/sensors/devices"

def memberBeginning : String := "mbdetnrs/1.0/sensors/devices/members/"

def memberPattern : Pattern :=
  topicRoot ++ .lit "sensors/devices/members/" ++ .number ++ .lit "/@id"

theorem find?_of_eq {table before rest : TopicTable} {rule : TopicRule} {path : String}
    {params : List String} (htable : table = before ++ rule :: rest)
    (hbefore : ∀ other ∈ before, other.pattern.captures? path = none)
    (hrule : rule.pattern.captures? path = some params) :
    table.find? path = some (rule, params) := by
  rw [TopicTable.find?, List.findSome?_eq_some_iff]
  refine ⟨before, rule, rest, htable, by rw [hrule]; rfl, ?_⟩
  intro other hmem
  rw [hbefore other hmem]
  rfl

/-! ### The fields of a member of a list -/

theorem has_digit_of_isDigit {c : Char} (h : c.isDigit = true) : CharSet.digit.has c = true := by
  simp only [Char.isDigit, Bool.and_eq_true, decide_eq_true_eq] at h
  have hlow : '0' ≤ c := h.1
  have hhigh : c ≤ '9' := h.2
  have hrange : (decide ('0' ≤ c) && decide (c ≤ '9')) = true :=
    Bool.and_eq_true_iff.mpr ⟨decide_eq_true hlow, decide_eq_true hhigh⟩
  show (((decide ('0' ≤ c) && decide (c ≤ '9')) || false) != false) = true
  rw [hrange]
  rfl

/-- The paths of a field of the members of a list. -/
def fieldPattern (list field : String) : Pattern :=
  topicRoot ++ .lit list ++ .number ++ .lit field

def fieldPath (list : String) (index : Nat) (field : String) : String :=
  "mbdetnrs/1.0/" ++ list ++ toString index ++ field

theorem toList_fieldPath (list : String) (index : Nat) (field : String) :
    (fieldPath list index field).toList =
      "mbdetnrs/1.0/".toList ++ list.toList ++ (toString index).toList ++ field.toList := by
  show ("mbdetnrs/1.0/" ++ list ++ toString index ++ field).toList = _
  simp only [String.toList_append]

theorem fits_topicRoot : topicRoot.Fits "mbdetnrs/1.0/".toList [] := by
  refine ⟨"mbdetnrs/1.".toList, "0/".toList, [], [], by decide, rfl, ?_, rfl, rfl⟩
  exact ⟨"mbdetnrs/1".toList, ['.'], [], [], by decide, rfl, ⟨rfl, rfl⟩, ⟨'.', rfl, by decide⟩, rfl⟩

variable {list field other : String}

theorem fits_toString (index : Nat) :
    Pattern.number.Fits (toString index).toList [some (toString index).toList] :=
  Pattern.fits_number.mpr ⟨rfl, Number.toString_ne_nil index,
    fun _ hc => has_digit_of_isDigit (Number.isDigit_of_mem_toString hc)⟩

theorem fits_fieldPattern (list field : String) (index : Nat) :
    (fieldPattern list field).Fits (fieldPath list index field).toList
      [some (toString index).toList] := by
  have hnumber := fits_toString index
  rw [toList_fieldPath]
  refine Pattern.fits_append.mpr ⟨_, _, [some _], [], rfl, rfl, ?_, rfl, rfl⟩
  refine Pattern.fits_append.mpr ⟨_, _, [], [some _], rfl, rfl, ?_, hnumber⟩
  exact Pattern.fits_append.mpr ⟨_, _, [], [], rfl, rfl, fits_topicRoot, rfl, rfl⟩

/-- The number ends where the field begins, so another field does not fit. -/
theorem number_of_fitsAll {index : Nat} {groups : List (Option (List Char))}
    (hfield : field.toList.head? = some '/') (hother : other.toList.head? = some '/')
    (h : Pattern.FitsAll [.number, .lit field] ((toString index).toList ++ other.toList) groups) :
    field = other ∧ groups = [some (toString index).toList] := by
  have hstop : ∀ text : String, text.toList.head? = some '/' →
      ∀ c ∈ text.toList.head?, CharSet.digit.has c = false := by
    intro text htext c hc
    rw [htext] at hc
    obtain rfl := Option.some.inj hc
    decide
  obtain ⟨digits, _, _, _, htext, rfl, hnumber, hrest⟩ := h
  obtain ⟨_, rfl, rfl, rfl⟩ := Pattern.fitsAll_literal.mp hrest
  obtain ⟨rfl, -, hdigits⟩ := Pattern.fits_number.mp hnumber
  rw [List.append_nil] at htext
  obtain ⟨rfl, hsame⟩ := Pattern.run_inj
    (fun c hc => has_digit_of_isDigit (Number.isDigit_of_mem_toString hc)) hdigits
    (hstop other hother) (hstop field hfield) htext
  exact ⟨String.toList_inj.mp hsame.symm, rfl⟩

theorem eq_of_fits_fieldPattern {index : Nat} {groups : List (Option (List Char))}
    (hfield : field.toList.head? = some '/') (hother : other.toList.head? = some '/')
    (h : (fieldPattern list field).Fits (fieldPath list index other).toList groups) :
    field = other ∧ groups = [some (toString index).toList] := by
  have hmeet : Pattern.meet (fieldPattern list field).parts
      ("mbdetnrs/1.0/".toList ++ list.toList) = some ([.number, .lit field], []) := by
    have hliteral : Pattern.meet [.lit list, .number, .lit field] (list.toList ++ []) =
        some ([.number, .lit field], []) := Pattern.meet_literal_append list.toList []
    rw [List.append_nil] at hliteral
    exact hliteral
  rw [toList_fieldPath, List.append_assoc] at h
  exact number_of_fitsAll hfield hother (h.fitsAll hmeet)

theorem captures?_fieldPattern (list : String) (hfield : field.toList.head? = some '/')
    (hother : other.toList.head? = some '/') (index : Nat) :
    (Pattern.whole (fieldPattern list field)).captures? (fieldPath list index other) =
      if field = other then some [toString index] else none := by
  split
  · next hsame =>
    subst hsame
    have hcaptures := Pattern.captures?_of_fits (p := fieldPattern list field) rfl
      (fits_fieldPattern list field index)
      (fun _ h => (eq_of_fits_fieldPattern hfield hfield h).2)
    simp only [List.map_cons, Option.getD_some, List.map_nil, String.ofList_toList] at hcaptures
    exact hcaptures
  · next hdifferent =>
    cases hcaptures : (Pattern.whole (fieldPattern list field)).captures?
        (fieldPath list index other) with
    | none => rfl
    | some params =>
      obtain ⟨groups, hfits, -⟩ := Pattern.fits_of_captures? (p := fieldPattern list field) rfl
        hcaptures
      exact absurd (eq_of_fits_fieldPattern hfield hother hfits).1 hdifferent

/-! ### The list of devices -/

def memberRule : TopicRule := .handled (.whole memberPattern) none .deviceIndex

theorem card_eq_append_memberRule : card = card.take 15 ++ memberRule :: card.drop 16 := rfl

/-- The path of a member leads to its announcement. -/
theorem find?_member (index : Nat) :
    card.find? (memberBeginning ++ toString index ++ "/@id") =
      some (memberRule, [toString index]) := by
  refine find?_of_eq card_eq_append_memberRule ?_ ?_
  · have hrejects : ∀ rule ∈ card.take 15, rule.pattern.rejects memberBeginning.toList = true := by
      decide
    intro rule hmem
    refine Pattern.captures?_eq_none_of_rejects (hrejects rule hmem) ?_
    rw [String.toList_append, String.toList_append, List.append_assoc]
    exact List.prefix_append _ _
  · have hslash : "/@id".toList.head? = some '/' := rfl
    exact captures?_fieldPattern "sensors/devices/members/" hslash hslash index

end TopicTable

/-! ### The list of alarms -/

namespace AlarmField

/-- Where a field stands below its alarm. -/
def path : AlarmField → String
  | .id => "/id"
  | .level => "/level"
  | .code => "/code"
  | .topic => "/device/@id"

theorem head?_path (field : AlarmField) : field.path.toList.head? = some '/' := by
  cases field <;> decide

theorem path_inj {field other : AlarmField} : field.path = other.path ↔ field = other := by
  cases field <;> cases other <;> decide

end AlarmField

namespace TopicTable

def alarmListTopic : String := "mbdetnrs/1.0/alarmService/activeAlarms"

def alarmMembers : String := "alarmService/activeAlarms/members/"

def alarmFieldRule (field : AlarmField) : TopicRule :=
  .handled (alarmPath field.path) none (.alarmField field)

theorem find?_alarmFieldRules {fields : List AlarmField} {field : AlarmField}
    (h : field ∈ fields) (index : Nat) :
    find? (fields.map alarmFieldRule) (fieldPath alarmMembers index field.path) =
      some (alarmFieldRule field, [toString index]) := by
  have hcaptures (other : AlarmField) : (alarmFieldRule other).pattern.captures?
      (fieldPath alarmMembers index field.path) =
        if other.path = field.path then some [toString index] else none :=
    captures?_fieldPattern alarmMembers other.head?_path field.head?_path index
  induction fields with
  | nil => cases h
  | cons other rest ih =>
    rw [find?, List.map_cons, List.findSome?_cons, hcaptures]
    by_cases hsame : other = field
    · subst hsame
      rw [if_pos rfl]
      rfl
    · rw [if_neg (mt AlarmField.path_inj.mp hsame)]
      exact ih ((List.mem_cons.mp h).resolve_left (Ne.symm hsame))

theorem card_eq_append_alarmFieldRules :
    card = card.take 42 ++ AlarmField.all.map alarmFieldRule := rfl

/-- The path of a field of an alarm leads to the field. -/
theorem find?_alarmField (field : AlarmField) (index : Nat) :
    card.find? (fieldPath alarmMembers index field.path) =
      some (alarmFieldRule field, [toString index]) := by
  have hrejects : ∀ rule ∈ card.take 42,
      rule.pattern.rejects ("mbdetnrs/1.0/".toList ++ alarmMembers.toList) = true := by
    decide
  have hnone : find? (card.take 42) (fieldPath alarmMembers index field.path) = none := by
    rw [find?, List.findSome?_eq_none_iff]
    intro rule hmem
    rw [Pattern.captures?_eq_none_of_rejects (hrejects rule hmem)]
    · rfl
    · rw [toList_fieldPath, List.append_assoc]
      exact List.prefix_append _ _
  have hfields := find?_alarmFieldRules field.mem_all index
  rw [find?] at hnone hfields ⊢
  rw [card_eq_append_alarmFieldRules, List.findSome?_append, hnone, Option.none_or, hfields]

end TopicTable

end RackTelemetry
