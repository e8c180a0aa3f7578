import RackTelemetry.Engine
import RackTelemetry.Proofs.Alarm.Objects
import RackTelemetry.Proofs.Json.Printed

/-!
Runs of the engine: any calls with any arguments in any order. Between two alarm passes the site
only goes through changes, so what every change and every pass keeps holds after every call. A run
also remembers the alarm list that was reconciled last.
-/

namespace RackTelemetry

namespace Site

variable {ks : KeySpace} {site : Site}

/-- The site after one thing that is met in a document. -/
def visit (ks : KeySpace) (site : Site) : Visit → Site
  | .truncated _ => site
  | .leaf path value =>
    match value.scalarText? with
    | none => site
    | some text => (TopicTable.card.dispatch ks path text site).site

theorem visit_leaf {value : Json} {text : String} (htext : value.scalarText? = some text)
    (path : String) :
    site.visit ks (.leaf path value) = (TopicTable.card.dispatch ks path text site).site := by
  simp only [visit, htext]

theorem visit_handled {path text : String} {value : Json} {rule : TopicRule}
    {params : List String} {handler : Handler} (htext : value.scalarText? = some text)
    (hfind : TopicTable.card.find? path = some (rule, params))
    (hhandler : rule.handler = some handler) :
    site.visit ks (.leaf path value) =
      (handler.process ks rule.template text params site).site := by
  rw [visit_leaf htext, site_dispatch hfind hhandler]

/-- The site after a document on a topic. -/
def read (ks : KeySpace) (site : Site) (topic : String) (document : Json) : Site :=
  (document.visits Json.maxDepth topic).foldl (visit ks) site

/-- Whatever is met makes one of the changes. -/
theorem change_visit (ks : KeySpace) (site : Site) (met : Visit) :
    Change ks site (site.visit ks met) := by
  unfold visit
  split
  · exact .unchanged
  · split
    · exact .unchanged
    · exact change_dispatch ks site _ _

theorem changes_foldl_visit (site : Site) (visits : List Visit) :
    Changes ks site (visits.foldl (visit ks) site) := by
  induction visits generalizing site with
  | nil => exact .refl
  | cons met rest ih => exact .head (change_visit ks site met) (ih (visit ks site met))

/-- What every change keeps is kept by a run of changes. -/
theorem Changes.keep {P : Site → Prop} {before after : Site}
    (hkeep : ∀ {site after}, P site → Change ks site after → P after)
    (hchanges : Changes ks before after) (h : P before) : P after := by
  induction hchanges with
  | refl => exact h
  | tail _ hchange ih => exact hkeep ih hchange

theorem changes_read (ks : KeySpace) (site : Site) (topic : String) (document : Json) :
    Changes ks site (site.read ks topic document) := changes_foldl_visit site _

end Site

namespace Engine

theorem site_applyVisit (ks : KeySpace) (p : Progress) (met : Visit) :
    (applyVisit ks p met).site = p.site.visit ks met := by
  cases met with
  | truncated path => rfl
  | leaf path value =>
    simp only [applyVisit, Site.visit]
    cases value.scalarText? with
    | none => rfl
    | some text => rfl

theorem site_applyDocument (ks : KeySpace) (site : Site) (topic : String) (document : Json) :
    (applyDocument ks site topic document).site = site.read ks topic document :=
  (List.foldl_hom Progress.site fun p met => (site_applyVisit ks p met).symm).symm

/-- The engine after the leaves of a document, with the alarm list taken if it is complete. -/
def readDocument (engine : Engine) (topic : String) (document : Json) : Engine :=
  let site := engine.site.read engine.keyspace topic document
  { engine with site := { site with draft := site.draft.takeComplete.1 } }

def completed? (engine : Engine) (topic : String) (document : Json) : Option (List Alarm) :=
  (engine.site.read engine.keyspace topic document).draft.takeComplete.2

/-- A document is read, and the alarm list that it completes is reconciled. -/
theorem engine_processDocument (engine : Engine) (topic : String) (document : Json) :
    (engine.processDocument topic document).engine =
      match engine.completed? topic document with
      | none => engine.readDocument topic document
      | some received => ((engine.readDocument topic document).reconcile received).engine := by
  simp only [processDocument, site_applyDocument, completed?, readDocument]
  cases (engine.site.read engine.keyspace topic document).draft.takeComplete.2 with
  | none => rfl
  | some received =>
    simp only
    split
    · rfl
    · rfl

theorem reconciliation_applyVisit (ks : KeySpace) (p : Progress) (met : Visit) :
    (applyVisit ks p met).report.reconciliation = p.report.reconciliation := by
  cases met with
  | truncated path => rfl
  | leaf path value =>
    simp only [applyVisit]
    split
    · rfl
    · simp only [applyValue]
      split
      · rfl
      · rfl
      · rfl
      · split
        · rfl
        · rfl

theorem reconciliation_applyDocument (ks : KeySpace) (site : Site) (topic : String)
    (document : Json) : (applyDocument ks site topic document).report.reconciliation = none := by
  refine List.foldlRecOn (motive := fun p : Progress => p.report.reconciliation = none) _ _ rfl ?_
  intro p hp met _
  rw [reconciliation_applyVisit, hp]

/-- A document reports the alarm pass over the list that it completes, if there is one. -/
theorem result_processDocument (engine : Engine) (topic : String) (document : Json) :
    (engine.processDocument topic document).result.map MessageReport.reconciliation =
      match engine.completed? topic document with
      | none => .ok none
      | some received =>
        ((engine.readDocument topic document).reconcile received).result.map some := by
  have hnone := reconciliation_applyDocument engine.keyspace engine.site topic document
  simp only [processDocument, site_applyDocument, completed?, readDocument]
  cases (engine.site.read engine.keyspace topic document).draft.takeComplete.2 with
  | none => exact congrArg Except.ok hnone
  | some received =>
    simp only
    split
    · next hok => rw [hok]; rfl
    · next herror => rw [herror]; rfl

/-- The bytes of a text are the document that the text says. -/
theorem Payload.document?_toUTF8 (text : String) :
    (Payload.raw text.toUTF8).document? = Json.ofString? text := by
  rw [document?, Json.ofBytes?_toUTF8]

/-- A document without double-precision numbers arrives as it is. -/
theorem Payload.document?_print {document : Json}
    (h : document.isPlain Json.depthLimit = true) :
    (Payload.raw document.print.toUTF8).document? = some document := by
  rw [document?_toUTF8, Json.ofString?_print h]

theorem engine_processMessage (engine : Engine) (topic : String) (payload : Payload) :
    (engine.processMessage topic payload).engine =
      if engine.accepts topic then
        match payload.document? with
        | some document => (engine.processDocument topic document).engine
        | none => engine
      else engine := by
  unfold processMessage
  split
  · cases payload.document? with
    | none => rfl
    | some document => rfl
  · rfl

theorem engine_reconcile (engine : Engine) (received : List Alarm) :
    (engine.reconcile received).engine =
      let pass := AlarmTable.card.reconcile engine.keyspace engine.known engine.site.devices
        engine.site.store received
      { engine with known := pass.known, site := { engine.site with store := pass.store } } := rfl

/-- A call of the engine. -/
inductive Call where
  | message (topic : String) (payload : Payload)
  | document (topic : String) (document : Json)
  | reconcile (received : List Alarm)

def after (engine : Engine) : Call → Engine
  | .message topic payload => (engine.processMessage topic payload).engine
  | .document topic document => (engine.processDocument topic document).engine
  | .reconcile received => (engine.reconcile received).engine

theorem after_document (engine : Engine) (topic : String) (document : Json) :
    engine.after (.document topic document) = (engine.processDocument topic document).engine := rfl

/-- A call reads a document, reconciles a list or leaves the engine as it is. -/
theorem after_cases (engine : Engine) (call : Call) {P : Engine → Prop} (hsame : P engine)
    (hdocument : ∀ topic document, P (engine.processDocument topic document).engine)
    (hreconcile : ∀ received, call = .reconcile received → P (engine.reconcile received).engine) :
    P (engine.after call) := by
  cases call with
  | message topic payload =>
    rw [after, engine_processMessage]
    split
    · cases payload.document? with
      | none => exact hsame
      | some document => exact hdocument topic document
    · exact hsame
  | document topic document => exact hdocument topic document
  | reconcile received => exact hreconcile received rfl

/-- The alarm list that a call reconciles. -/
def reconciled? (engine : Engine) : Call → Option (List Alarm)
  | .message topic payload =>
    if engine.accepts topic then payload.document?.bind (engine.completed? topic) else none
  | .document topic document => engine.completed? topic document
  | .reconcile received => some received

def run (engine : Engine) (calls : List Call) : Engine := calls.foldl after engine

theorem run_concat (engine : Engine) (calls : List Call) (call : Call) :
    engine.run (calls ++ [call]) = (engine.run calls).after call := by
  rw [run, List.foldl_append, List.foldl_cons, List.foldl_nil]
  rfl

/-- The engine after a call, and the alarm list that was reconciled last. -/
def step (state : Engine × List Alarm) (call : Call) : Engine × List Alarm :=
  (state.1.after call, (state.1.reconciled? call).getD state.2)

/-- The alarm list that was reconciled last; before the first pass there are no alarms. -/
def lastReconciled (engine : Engine) (calls : List Call) : List Alarm :=
  (calls.foldl step (engine, [])).2

theorem foldl_step_fst (engine : Engine) (calls : List Call) (last : List Alarm) :
    (calls.foldl step (engine, last)).1 = engine.run calls :=
  (List.foldl_hom Prod.fst fun _ _ => rfl).symm

/-- A fresh engine that publishes under the usual roots. -/
def start (settings : EngineSettings) : Engine := .ofSettings { settings with keyspace := {} }

/-! ### What holds after every call -/

theorem maxAlarms_takeComplete (draft : AlarmDraft) :
    draft.takeComplete.1.maxAlarms = draft.maxAlarms := by
  unfold AlarmDraft.takeComplete
  split
  · split
    · rfl
    · rfl
  · rfl

section

variable {P : KeySpace → Site → AlarmRegistry → List Alarm → Prop}
  (hchange : ∀ {ks site after known last}, P ks site known last → Site.Change ks site after →
    P ks after known last)
  (hpass : ∀ {ks site known last} (received : List Alarm), P ks site known last →
    P ks { site with
        store := (AlarmTable.card.reconcile ks known site.devices site.store received).store }
      (AlarmTable.card.reconcile ks known site.devices site.store received).known received)
include hchange hpass

omit hchange in
theorem holds_after_pass (engine : Engine) {last : List Alarm} (received : List Alarm)
    (h : P engine.keyspace engine.site engine.known last) :
    let after := (engine.reconcile received).engine
    P after.keyspace after.site after.known received := by
  rw [engine_reconcile]
  exact hpass received h

theorem holds_after_document (engine : Engine) {last : List Alarm} (topic : String)
    (document : Json) (h : P engine.keyspace engine.site engine.known last) :
    let after := (engine.processDocument topic document).engine
    P after.keyspace after.site after.known
      ((engine.completed? topic document).getD last) := by
  have hread : P engine.keyspace (engine.readDocument topic document).site engine.known last :=
    hchange ((Site.changes_read engine.keyspace engine.site topic document).keep
      (P := fun site => P engine.keyspace site engine.known last) hchange h)
      (.draftChanged (maxAlarms_takeComplete _))
  rw [engine_processDocument]
  cases engine.completed? topic document with
  | none => exact hread
  | some received =>
    exact holds_after_pass (P := P) hpass (engine.readDocument topic document) received hread

/-- What every change and every pass keeps holds after a call. -/
theorem holds_after_call (engine : Engine) (last : List Alarm) (call : Call)
    (h : P engine.keyspace engine.site engine.known last) :
    P (engine.after call).keyspace (engine.after call).site (engine.after call).known
      ((engine.reconciled? call).getD last) := by
  cases call with
  | message topic payload =>
    rw [after, engine_processMessage, reconciled?]
    split
    · cases payload.document? with
      | none => exact h
      | some document => exact holds_after_document (P := P) hchange hpass engine topic document h
    · exact h
  | document topic document =>
    exact holds_after_document (P := P) hchange hpass engine topic document h
  | reconcile received => exact holds_after_pass (P := P) hpass engine received h

/-- What every change and every pass keeps holds after all calls. -/
theorem holds_after_run (engine : Engine) (calls : List Call)
    (h : P engine.keyspace engine.site engine.known []) :
    P (engine.run calls).keyspace (engine.run calls).site (engine.run calls).known
      (engine.lastReconciled calls) := by
  rw [lastReconciled]
  simp only [← foldl_step_fst engine calls []]
  induction calls using List.reverseRecOn with
  | nil => exact h
  | append_singleton calls call ih =>
    rw [List.foldl_append, List.foldl_cons, List.foldl_nil]
    exact holds_after_call (P := P) hchange hpass _ _ call ih

end

/-! ### The alarm list that is being received -/

theorem isComplete_takeComplete (draft : AlarmDraft) : draft.takeComplete.1.isComplete = false := by
  unfold AlarmDraft.takeComplete
  split
  · split
    · rfl
    · next hincomplete => exact Bool.eq_false_iff.mpr hincomplete
  · next hnone => simp only [AlarmDraft.isComplete, hnone]

theorem takeComplete_of_incomplete {draft : AlarmDraft} (h : draft.isComplete = false) :
    draft.takeComplete = (draft, none) := by
  unfold AlarmDraft.takeComplete
  split
  · rw [if_neg (by rw [h]; exact Bool.false_ne_true)]
  · rfl

/-- No complete alarm list is left waiting by a call. -/
theorem incomplete_after (engine : Engine) (call : Call)
    (h : engine.site.draft.isComplete = false) :
    (engine.after call).site.draft.isComplete = false := by
  refine after_cases (P := fun after => after.site.draft.isComplete = false) engine call h ?_
    fun _ _ => h
  intro topic document
  rw [engine_processDocument]
  split
  · exact isComplete_takeComplete _
  · exact isComplete_takeComplete _

theorem incomplete_ofSettings (settings : EngineSettings) (calls : List Call) :
    ((ofSettings settings).run calls).site.draft.isComplete = false := by
  rw [run]
  induction calls using List.reverseRecOn with
  | nil => rfl
  | append_singleton calls call ih =>
    rw [List.foldl_append, List.foldl_cons, List.foldl_nil]
    exact incomplete_after _ call ih

theorem incomplete_run (settings : EngineSettings) (calls : List Call) :
    ((start settings).run calls).site.draft.isComplete = false :=
  incomplete_ofSettings { settings with keyspace := {} } calls

/-- How many alarms a list may have stays as it was set. -/
theorem maxAlarms_run (settings : EngineSettings) (calls : List Call) :
    ((ofSettings settings).run calls).site.draft.maxAlarms = settings.maxAlarms :=
  holds_after_run (P := fun _ site _ _ => site.draft.maxAlarms = settings.maxAlarms)
    (fun h hchange => hchange.maxAlarms.trans h) (fun _ h => h) (ofSettings settings) calls rfl

end Engine

end RackTelemetry
