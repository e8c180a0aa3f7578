import Mathlib.Algebra.GroupWithZero.Nat
import RackTelemetry.Proofs.Document.Leaf
import RackTelemetry.Proofs.Engine.Run
import RackTelemetry.Proofs.Site.Observation

/-!
A document equals its leaves. While no leaf feeds the alarm list, a document leaves the engine as
its leaves do in messages of their own, each on the path of the leaf, and it reports as many leaves
of every kind as they do. It takes that no complete alarm list waits between messages, or the first
leaf alone would start a pass.
-/

namespace RackTelemetry

/-- The counts of a message. -/
def MessageReport.counts : List (MessageReport → Nat) :=
  [paths, matched, written, handled, skipped, tolerated, failed]

namespace Engine

/-! ### What a document counts -/

/-- The account of a message before anything is met in its document. -/
def Progress.start (site : Site) : Progress :=
  { site, report := { accepted := true }, events := [] }

/-- Whatever is met counts the same, whatever was counted before. -/
theorem count_applyVisit {count : MessageReport → Nat} (hcount : count ∈ MessageReport.counts)
    (ks : KeySpace) (p : Progress) (met : Visit) :
    count (applyVisit ks p met).report =
      count p.report + count (applyVisit ks (.start p.site) met).report := by
  revert count
  rw [← List.forall_iff_forall_mem]
  cases met with
  | truncated path => simp [MessageReport.counts, applyVisit, Progress.start]
  | leaf path value =>
    simp only [applyVisit]
    cases value.scalarText? with
    | none => simp [MessageReport.counts, Progress.start]
    | some text =>
      simp only [applyValue, Progress.start]
      split
      · simp [MessageReport.counts]
      · simp [MessageReport.counts]
      · simp [MessageReport.counts]
      · split
        · simp [MessageReport.counts]
        · simp [MessageReport.counts]

theorem count_start {count : MessageReport → Nat} (hcount : count ∈ MessageReport.counts)
    (site : Site) : count (Progress.start site).report = 0 := by
  revert count
  rw [← List.forall_iff_forall_mem]
  simp [MessageReport.counts, Progress.start]

/-! ### Leaf by leaf -/

/-- A message of a leaf alone, on the path of the leaf. -/
def Call.ofLeaf (leaf : String × Json) : Call := .document leaf.1 leaf.2

/-- What the leaves lead to in messages of their own, one after the other. -/
def leafResults (engine : Engine) : List (String × Json) → List (Except Error MessageReport)
  | [] => []
  | (path, leaf) :: rest =>
    let response := engine.processDocument path leaf
    response.result :: leafResults response.engine rest

variable {engine : Engine}

/-- Without a complete alarm list at its end, a document is all that a message is about. -/
theorem processDocument_of_incomplete {topic : String} {document : Json}
    (h : (engine.site.read engine.keyspace topic document).draft.isComplete = false) :
    (engine.processDocument topic document).engine =
        { engine with site := engine.site.read engine.keyspace topic document } ∧
      (engine.processDocument topic document).result =
        .ok (applyDocument engine.keyspace engine.site topic document).report := by
  simp only [processDocument, site_applyDocument, takeComplete_of_incomplete h, and_self]

theorem draft_visit {path : String} (hpath : TopicTable.card.feedsAlarmList path = false)
    (ks : KeySpace) (site : Site) (value : Json) :
    (site.visit ks (.leaf path value)).draft = site.draft := by
  simp only [Site.visit]
  cases value.scalarText? with
  | none => rfl
  | some text => exact Site.draft_dispatch hpath ks site text

/-- A leaf leads to the same in a message of its own as within a document. -/
theorem processDocument_leaf {path : String} {value : Json}
    (hleaf : value.visits Json.maxDepth path = [.leaf path value])
    (hpath : TopicTable.card.feedsAlarmList path = false)
    (hdraft : engine.site.draft.isComplete = false) :
    let progress := applyVisit engine.keyspace (.start engine.site) (.leaf path value)
    (engine.processDocument path value).engine = { engine with site := progress.site } ∧
      (engine.processDocument path value).result = .ok progress.report := by
  have hread : engine.site.read engine.keyspace path value =
      engine.site.visit engine.keyspace (.leaf path value) := by
    rw [Site.read, hleaf, List.foldl_cons, List.foldl_nil]
  have hincomplete : (engine.site.read engine.keyspace path value).draft.isComplete = false := by
    rw [hread, draft_visit hpath, hdraft]
  have happlied : applyDocument engine.keyspace engine.site path value =
      applyVisit engine.keyspace (.start engine.site) (.leaf path value) := by
    rw [applyDocument, hleaf, List.foldl_cons, List.foldl_nil]
    rfl
  obtain ⟨hengine, hresult⟩ := processDocument_of_incomplete hincomplete
  intro progress
  rw [hengine, hresult, happlied, hread, site_applyVisit]
  exact ⟨rfl, rfl⟩

/-- What is met in a document, followed leaf by leaf: the leaves in messages of their own lead to
the same site, and each of them adds its report to the account. -/
theorem foldl_applyVisit_eq_run (visits : List Visit) (p : Progress)
    (hleaf : ∀ path value, .leaf path value ∈ visits →
      value.visits Json.maxDepth path = [.leaf path value] ∧
        TopicTable.card.feedsAlarmList path = false)
    (hsite : p.site = engine.site) (hdraft : engine.site.draft.isComplete = false) :
    let leaves := visits.filterMap Visit.leaf?
    let after := visits.foldl (applyVisit engine.keyspace) p
    { engine with site := after.site } = engine.run (leaves.map Call.ofLeaf) ∧
      after.site.draft = engine.site.draft ∧
      ∃ reports : List MessageReport, engine.leafResults leaves = reports.map .ok ∧
        ∀ count ∈ MessageReport.counts,
          count after.report = count p.report + (reports.map count).sum := by
  induction visits generalizing engine p with
  | nil =>
    refine ⟨?_, ?_, [], rfl, ?_⟩
    · rw [List.foldl_nil, hsite]
      rfl
    · rw [List.foldl_nil, hsite]
    · intro count _
      rfl
  | cons met rest ih =>
    have hrest : ∀ path value, .leaf path value ∈ rest → _ := fun path value hmem =>
      hleaf path value (List.mem_cons_of_mem _ hmem)
    cases met with
    | truncated path =>
      exact ih (applyVisit engine.keyspace p (.truncated path)) hrest hsite hdraft
    | leaf path value =>
      obtain ⟨hvisits, hpath⟩ := hleaf path value List.mem_cons_self
      obtain ⟨hengine, hresult⟩ := processDocument_leaf hvisits hpath hdraft
      let next : Engine :=
        { engine with
          site := (applyVisit engine.keyspace (.start engine.site) (.leaf path value)).site }
      have hnext : (engine.processDocument path value).engine = next := hengine
      have hmet : (applyVisit engine.keyspace p (.leaf path value)).site = next.site := by
        simp only [next, site_applyVisit, hsite]
        rfl
      have hsame : next.site.draft = engine.site.draft := by
        rw [← hmet, site_applyVisit, draft_visit hpath, hsite]
      obtain ⟨hrun, hafter, reports, hreports, hcounts⟩ :=
        ih (applyVisit engine.keyspace p (.leaf path value)) hrest hmet (hsame ▸ hdraft)
      refine ⟨?_, hafter.trans hsame,
        (applyVisit engine.keyspace (.start engine.site) (.leaf path value)).report :: reports,
        ?_, ?_⟩
      · -- the rest runs from the engine that the message of the leaf leaves
        have hcons : engine.run (.document path value :: (rest.filterMap Visit.leaf?).map .ofLeaf) =
            next.run ((rest.filterMap Visit.leaf?).map .ofLeaf) := by
          rw [← hnext]
          rfl
        exact hrun.trans hcons.symm
      · have hcons : engine.leafResults ((path, value) :: rest.filterMap Visit.leaf?) =
            (engine.processDocument path value).result ::
              (engine.processDocument path value).engine.leafResults
                (rest.filterMap Visit.leaf?) := rfl
        rw [hresult, hnext, hreports] at hcons
        exact hcons
      · intro count hcount
        have hfirst := count_applyVisit hcount engine.keyspace p (.leaf path value)
        have hothers := hcounts count hcount
        rw [hfirst, hsite, Nat.add_assoc] at hothers
        rw [List.map_cons, List.sum_cons]
        exact hothers

/-- A document none of whose leaves goes to the alarm list. -/
def SparesAlarmList (topic : String) (document : Json) : Prop :=
  ∀ leaf ∈ document.leaves Json.maxDepth topic, TopicTable.card.feedsAlarmList leaf.1 = false

/-- After any calls, a document that spares the alarm list leads to the engine that its leaves lead
to in messages of their own. All of them are taken, and every count of its report is the sum of
their counts. -/
theorem document_equals_leaves (settings : EngineSettings) (calls : List Call) (topic : String)
    (document : Json) (hspares : SparesAlarmList topic document) :
    let engine := (ofSettings settings).run calls
    let leaves := document.leaves Json.maxDepth topic
    let message := engine.processDocument topic document
    message.engine = engine.run (leaves.map .ofLeaf) ∧
      ∃ (report : MessageReport) (reports : List MessageReport), message.result = .ok report ∧
        engine.leafResults leaves = reports.map .ok ∧
        ∀ count ∈ MessageReport.counts, count report = (reports.map count).sum := by
  intro engine leaves message
  have hleaf : ∀ path value, .leaf path value ∈ document.visits Json.maxDepth topic →
      value.visits Json.maxDepth path = [.leaf path value] ∧
        TopicTable.card.feedsAlarmList path = false := by
    intro path value hmem
    refine ⟨Json.visits_of_mem_visits hmem Json.maxDepth path, hspares (path, value) ?_⟩
    exact List.mem_filterMap.mpr ⟨_, hmem, rfl⟩
  have hdraft : engine.site.draft.isComplete = false := incomplete_ofSettings settings calls
  obtain ⟨hrun, hafter, reports, hreports, hcounts⟩ :=
    foldl_applyVisit_eq_run (document.visits Json.maxDepth topic) (.start engine.site) hleaf rfl
      hdraft
  have happlied : (document.visits Json.maxDepth topic).foldl (applyVisit engine.keyspace)
      (.start engine.site) = applyDocument engine.keyspace engine.site topic document := rfl
  rw [happlied, site_applyDocument] at hrun hafter
  obtain ⟨hengine, hresult⟩ :=
    processDocument_of_incomplete (hafter ▸ hdraft : AlarmDraft.isComplete _ = false)
  refine ⟨hengine.trans hrun, _, reports, hresult, hreports, ?_⟩
  intro count hcount
  rw [← happlied, hcounts count hcount, count_start hcount, Nat.zero_add]

def devicesDocument : Json :=
  .object [("members@count", .integer 1), ("members", .list [.object [("@id", .text "/dev-a")]]),
    ("dev-a", .object [("identification", .object [("model", .text "EMP"), ("serial", .null)])])]

/-- An alarm list has been opened before, and one of the leaves is not converted. -/
theorem document_equals_leaves_nested :
    let topic := "mbdetnrs/1.0/sensors/devices"
    let calls := [Call.document "mbdetnrs/1.0/alarmService/activeAlarms/members@count" (.integer 1)]
    let engine := (ofSettings {}).run calls
    let leaves := devicesDocument.leaves Json.maxDepth topic
    let message := engine.processDocument topic devicesDocument
    engine.site.draft.isPending = true ∧ leaves.length = 4 ∧
      SparesAlarmList topic devicesDocument ∧
      message.engine = engine.run (leaves.map .ofLeaf) ∧
      ∃ (report : MessageReport) (reports : List MessageReport), message.result = .ok report ∧
        engine.leafResults leaves = reports.map .ok ∧
        ∀ count ∈ MessageReport.counts, count report = (reports.map count).sum := by
  intro topic calls
  have hspares : SparesAlarmList topic devicesDocument := by
    unfold SparesAlarmList
    decide +kernel
  exact ⟨by decide +kernel, by decide, hspares,
    document_equals_leaves {} calls topic devicesDocument hspares⟩

end Engine

end RackTelemetry
