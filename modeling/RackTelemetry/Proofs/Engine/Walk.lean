import RackTelemetry.Proofs.Document.Address
import RackTelemetry.Proofs.Engine.Leaves

/-!
What a message counts. The report on a document accounts for each leaf that the walk meets: it was
skipped, or no rule matched its path, or a rule matched and the value was written, handled,
tolerated or failed.
-/

namespace RackTelemetry

def Json.isNull : Json → Bool
  | .null => true
  | _ => false

/-- Null is the leaf that has no text. -/
theorem Json.scalarText?_eq_none_iff {value : Json} (hleaf : value.isLeaf = true) :
    value.scalarText? = none ↔ value.isNull = true := by
  cases value with
  | list items => cases hleaf
  | object members => cases hleaf
  | null => exact iff_of_true rfl rfl
  | _ => exact iff_of_false nofun nofun

/-- Work that never goes on with a result does not end with it. -/
theorem Outcome.result_andThen_ne {α β : Type} {first : Outcome α} {next : α → Site → Outcome β}
    {b : β} (h : ∀ a site, (next a site).result ≠ .ok b) : (first.andThen next).result ≠ .ok b := by
  unfold andThen
  split
  · next a _ => exact h a first.site
  · nofun

namespace TopicTable

/-- Some rule matches the path. -/
def hasRule (table : TopicTable) (path : String) : Bool :=
  table.any fun rule => rule.pattern.isMatch path

variable (table : TopicTable) (path : String)

theorem isSome_find? :
    (table.find? path).isSome = table.hasRule path := by
  rw [find?, List.isSome_findSome?, hasRule]
  refine congrArg table.any (funext fun rule => ?_)
  rw [Option.isSome_map, Pattern.isSome_captures?]

/-- A value has no rule exactly if no rule matches its path. -/
theorem dispatch_eq_unmatched_iff (ks : KeySpace) (value : String) (site : Site) :
    (table.dispatch ks path value site).result = .ok .unmatched ↔ table.hasRule path = false := by
  rw [← isSome_find?]
  cases hfind : table.find? path with
  | none => simp only [dispatch, hfind, Option.isSome_none]
  | some found =>
    obtain ⟨rule, params⟩ := found
    simp only [dispatch, hfind, Option.isSome_some, Bool.true_eq_false, iff_false]
    split
    · exact Outcome.result_andThen_ne fun _ _ => by simp
    · unfold Site.attempt
      split
      · next outcome hwork =>
        split at hwork
        · cases hwork
        · obtain ⟨key, -, hput⟩ := exists_of_bind_eq_ok hwork
          obtain rfl := Except.ok.inj hput
          exact Outcome.result_andThen_ne fun _ _ => by simp
      · intro h
        cases h

end TopicTable

/-- Each value that has a rule counts as one of four outcomes. -/
def MessageReport.Balanced (report : MessageReport) : Prop :=
  report.matched = report.written + report.handled + report.tolerated + report.failed

/-- A report that says what became of each leaf. -/
structure MessageReport.Accounts (report : MessageReport) (leaves : List (String × Json)) :
    Prop where
  paths : report.paths = leaves.length
  skipped : report.skipped = leaves.countP fun leaf => leaf.2.isNull
  matched : report.matched =
    leaves.countP fun leaf => !leaf.2.isNull && TopicTable.card.hasRule leaf.1
  balanced : report.Balanced

namespace Engine

variable {p : Progress} {path : String} {value : Json} {leaves : List (String × Json)}

/-- A value with a rule counts as matched, and as one of four outcomes. -/
theorem report_applyValue (ks : KeySpace) (p : Progress) (path text : String) :
    let report := (applyValue ks p path text).report
    report.paths = p.report.paths ∧ report.skipped = p.report.skipped ∧
      report.matched = p.report.matched + (if TopicTable.card.hasRule path then 1 else 0) ∧
      (p.report.Balanced → report.Balanced) := by
  have hunmatched := TopicTable.card.dispatch_eq_unmatched_iff path ks text p.site
  have hmatched {result : Except Error Verdict}
      (hresult : (TopicTable.card.dispatch ks path text p.site).result = result)
      (hne : result ≠ .ok .unmatched) : (if TopicTable.card.hasRule path then 1 else 0) = 1 :=
    if_pos (Bool.of_not_eq_false fun h => hne (hresult.symm.trans (hunmatched.mpr h)))
  intro report
  simp only [report, applyValue]
  split
  · next h =>
    rw [if_neg (by rw [hunmatched.mp h]; decide)]
    exact ⟨rfl, rfl, rfl, id⟩
  · next h =>
    rw [hmatched h (by simp)]
    exact ⟨rfl, rfl, rfl, by simp only [MessageReport.Balanced]; omega⟩
  · next h =>
    rw [hmatched h (by simp)]
    exact ⟨rfl, rfl, rfl, by simp only [MessageReport.Balanced]; omega⟩
  · next h =>
    rw [hmatched h (by simp)]
    split
    · exact ⟨rfl, rfl, rfl, by simp only [MessageReport.Balanced]; omega⟩
    · exact ⟨rfl, rfl, rfl, by simp only [MessageReport.Balanced]; omega⟩

/-- One more leaf is accounted for. -/
theorem accounts_applyVisit (ks : KeySpace) (h : p.report.Accounts leaves)
    (hleaf : value.isLeaf = true) :
    (applyVisit ks p (.leaf path value)).report.Accounts (leaves ++ [(path, value)]) := by
  obtain ⟨hpaths, hskipped, hmatched, hbalanced⟩ := h
  simp only [applyVisit]
  split
  · next htext =>
    have hnull := (Json.scalarText?_eq_none_iff hleaf).mp htext
    refine ⟨?_, ?_, ?_, hbalanced⟩
    · rw [List.length_append, ← hpaths]; rfl
    · rw [List.countP_append, ← hskipped, List.countP_singleton, if_pos hnull]
    · rw [List.countP_append, ← hmatched, List.countP_singleton, hnull]; rfl
  · next text htext =>
    have hnull : value.isNull = false := by
      rw [← Bool.not_eq_true, ← Json.scalarText?_eq_none_iff hleaf, htext]
      exact Option.some_ne_none text
    obtain ⟨hp, hs, hm, ho⟩ := report_applyValue ks
      { p with report := { p.report with paths := p.report.paths + 1 } } path text
    refine ⟨?_, ?_, ?_, ho hbalanced⟩
    · rw [hp, List.length_append, ← hpaths]; rfl
    · rw [hs, List.countP_append, ← hskipped, List.countP_singleton, hnull]; rfl
    · rw [hm, List.countP_append, ← hmatched, List.countP_singleton, hnull]; rfl

/-- The walk is accounted for, leaf by leaf. -/
theorem accounts_foldl_applyVisit (ks : KeySpace) (site : Site) (visits : List Visit)
    (hleaf : ∀ path value, .leaf path value ∈ visits → value.isLeaf = true) :
    (visits.foldl (applyVisit ks) (.start site)).report.Accounts
      (visits.filterMap Visit.leaf?) := by
  induction visits using List.reverseRecOn with
  | nil => exact ⟨rfl, rfl, rfl, rfl⟩
  | append_singleton visits met ih =>
    have hbefore := ih fun path value hmem => hleaf path value (List.mem_append_left _ hmem)
    rw [List.foldl_append, List.filterMap_append]
    cases met with
    | truncated path => rwa [List.filterMap_cons_none rfl, List.filterMap_nil, List.append_nil]
    | leaf path value =>
      exact accounts_applyVisit ks hbefore
        (hleaf path value (List.mem_append_right _ List.mem_cons_self))

/-- The alarm pass that may follow a document changes nothing about what was counted. -/
theorem report_of_processDocument {engine : Engine} {topic : String} {document : Json}
    {report : MessageReport} (h : (engine.processDocument topic document).result = .ok report) :
    ∃ reconciliation, report =
      { (applyDocument engine.keyspace engine.site topic document).report with
        reconciliation } := by
  simp only [processDocument] at h
  split at h
  · exact ⟨_, (Except.ok.inj h).symm⟩
  · split at h
    · exact ⟨_, (Except.ok.inj h).symm⟩
    · cases h

/-- The walk meets the leaves that do not lie too deep, each of them once, in order and on its path,
and every report accounts for the leaves of its document. -/
theorem report_accounts_walk :
    (∀ depth root (document : Json),
      document.IsWalk depth root (document.leaves depth root)) ∧
    ∀ (engine : Engine) topic document report,
      (engine.processDocument topic document).result = .ok report →
        report.Accounts (document.leaves Json.maxDepth topic) := by
  refine ⟨Json.isWalk_leaves, ?_⟩
  intro engine topic document report hreport
  obtain ⟨reconciliation, rfl⟩ := report_of_processDocument hreport
  obtain ⟨hpaths, hskipped, hmatched, hbalanced⟩ := accounts_foldl_applyVisit engine.keyspace
    engine.site (document.visits Json.maxDepth topic) fun _ _ => Json.isLeaf_of_mem_visits
  exact ⟨hpaths, hskipped, hmatched, hbalanced⟩

/-- A number of devices is announced, and their only id is null. -/
theorem report_accounts_walk_null :
    let topic := "mbdetnrs/1.0/sensors/devices"
    let document : Json := .object
      [("members@count", .integer 1), ("members", .list [.object [("@id", .null)], .list []])]
    let leaves := document.leaves Json.maxDepth topic
    document.IsWalk Json.maxDepth topic leaves ∧
      ∃ report : MessageReport,
        ((ofSettings {}).processDocument topic document).result = .ok report ∧
        report.Accounts leaves ∧ report.paths = 2 ∧ report.skipped = 1 ∧ report.matched = 1 := by
  intro topic document leaves
  let engine := ofSettings {}
  have hincomplete :
      (engine.site.read engine.keyspace topic document).draft.isComplete = false := by
    decide +kernel
  have hresult := (processDocument_of_incomplete hincomplete).2
  obtain ⟨hwalk, haccounts⟩ := report_accounts_walk
  have h := haccounts engine topic document _ hresult
  exact ⟨hwalk Json.maxDepth topic document, _, hresult, h, h.paths.trans (by decide +kernel),
    h.skipped.trans (by decide +kernel), h.matched.trans (by decide +kernel)⟩

end Engine

end RackTelemetry
