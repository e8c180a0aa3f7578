import RackTelemetry.Proofs.Topic.Lookup
import RackTelemetry.Proofs.Topic.Members

/-!
The paths of the outlets. The list of outlets names each outlet by its whole topic; what is reported
of an outlet later stands below a step of its path, which is the last step of that topic.
-/

namespace RackTelemetry

namespace TopicTable

def outletListTopic : String := "mbdetnrs/1.0/powerDistributions/1/outlets"

def outletMembers : String := "powerDistributions/1/outlets/members/"

def outletCountRule : TopicRule :=
  .handled (powerPath "outlets/members@count") none .outletCount

def outletMemberRule : TopicRule :=
  .handled (.whole (fieldPattern outletMembers "/@id")) none .outletIndex

/-- A path whose values are about the list of outlets. -/
def listsOutlets (table : TopicTable) (path : String) : Bool :=
  table.any fun rule =>
    (rule.handler = some .outletCount || rule.handler = some .outletIndex) &&
      rule.pattern.isMatch path

theorem find?_outletCount :
    card.find? (outletListTopic ++ "/" ++ "members@count") = some (outletCountRule, []) := by
  have hmem : outletCountRule ∈ card := List.mem_of_getElem? (i := 36) rfl
  exact find?_card_eq_some_iff.mpr ⟨hmem, by decide +kernel⟩

theorem find?_outletMember (index : Nat) :
    card.find? (fieldPath outletMembers index "/@id") =
      some (outletMemberRule, [toString index]) := by
  have hmem : outletMemberRule ∈ card := List.mem_of_getElem? (i := 37) rfl
  have hslash : "/@id".toList.head? = some '/' := rfl
  exact find?_card_eq_some_iff.mpr
    ⟨hmem, (captures?_fieldPattern outletMembers hslash hslash index).trans (if_pos rfl)⟩

/-- At other paths no value is about the list of outlets. -/
theorem handler_of_not_listsOutlets {table : TopicTable} {path : String} {rule : TopicRule}
    {params : List String} {handler : Handler} (hpath : table.listsOutlets path = false)
    (hfind : table.find? path = some (rule, params)) (hhandler : rule.handler = some handler) :
    handler ≠ .outletCount ∧ handler ≠ .outletIndex := by
  obtain ⟨hmem, hcaptures⟩ := rule_of_find? hfind
  have hnone := List.any_eq_false.mp hpath rule hmem
  simp only [hhandler, isMatch_of_captures? hcaptures, Option.some.injEq, Bool.and_true,
    Bool.or_eq_true, decide_eq_true_eq, not_or] at hnone
  exact hnone

end TopicTable

/-- What is reported of an outlet and published. -/
inductive OutletField where
  | name
  | physicalName
  | switchable
  deriving Repr, DecidableEq, Inhabited

namespace OutletField

/-- Where a field stands below its outlet. -/
def path : OutletField → String
  | .name => "/identification/name"
  | .physicalName => "/identification/physicalName"
  | .switchable => "/configuration/switchable"

/-- The last step of the name that a field is published under. -/
def step : OutletField → String
  | .name => "name"
  | .physicalName => "id"
  | .switchable => "switchable"

def handler : OutletField → Handler
  | .name => .outletData
  | .physicalName => .outletData
  | .switchable => .outletSwitchable

def rule (field : OutletField) : TopicRule :=
  .handled (TopicTable.outletPath field.path) (some (.outlet field.step)) field.handler

theorem rule_mem_card (field : OutletField) : field.rule ∈ TopicTable.card := by
  cases field with
  | name => exact List.mem_of_getElem? (i := 38) rfl
  | physicalName => exact List.mem_of_getElem? (i := 39) rfl
  | switchable => exact List.mem_of_getElem? (i := 40) rfl

theorem find?_of_captures (field : OutletField) {path : String} {params : List String}
    (h : field.rule.pattern.captures? path = some params) :
    TopicTable.card.find? path = some (field.rule, params) :=
  TopicTable.find?_card_eq_some_iff.mpr ⟨field.rule_mem_card, h⟩

end OutletField

end RackTelemetry
