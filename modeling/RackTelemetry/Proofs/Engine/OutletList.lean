import RackTelemetry.Proofs.Engine.DeviceList
import RackTelemetry.Proofs.Engine.Limits
import RackTelemetry.Proofs.Engine.Tidiness
import RackTelemetry.Proofs.Site.OutletList

/-!
The document that lists the outlets: how many there are, and the topic of each, with any number of
slashes before it. Once it is read, what is reported of an outlet is published under the place of
its key in the list, whatever else arrives in the meantime; only another list changes that.
-/

namespace RackTelemetry

open TopicTable

/-- Outlets are listed as devices are, by their topics. -/
def outletListDocument (ids : List String) : Json := deviceListDocument ids

/-- A text names an outlet: slashes, and then its topic. -/
def NamesOutlet (id key : String) : Prop :=
  ∃ slashes, id = String.ofList (List.replicate slashes '/') ++ Site.outletTopic key

/-- If what is met is a value, it is not about the list of outlets. -/
def Visit.SparesOutletList : Visit → Prop
  | .truncated _ => True
  | .leaf path _ => card.listsOutlets path = false

namespace Site

variable {ks : KeySpace} {site : Site} {ids keys : List String}

/-! ### The list is read -/

theorem visit_outletCount (site : Site) {n : Nat} (hmax : n ≤ site.outlets.maxOutlets)
    (hn : n ≤ Number.maxWord) :
    site.visit ks (.leaf (Json.step outletListTopic "members@count") (.integer n)) =
      { site with outlets := { site.outlets with outlets := List.replicate n {} } } := by
  have hhandler : outletCountRule.handler = some .outletCount := rfl
  rw [Json.step, visit_handled (scalarText?_natCast n) find?_outletCount hhandler]
  have hreset : site.outlets.reset n =
      .ok { site.outlets with outlets := List.replicate n {} } := if_neg (Nat.not_lt.mpr hmax)
  simp only [Handler.process, Value.count_toString hn, bind, Except.bind, hreset]
  rfl

theorem outletTopic_ne_empty (key : String) : outletTopic key ≠ "" := by
  intro h
  unfold outletTopic at h
  exact absurd (String.append_eq_empty_iff.mp h).1 (by decide)

theorem visit_outletMember (site : Site) {id key : String} (hid : NamesOutlet id key) {i : Nat}
    (hi : i ≤ Number.maxWord) :
    site.visit ks
        (.leaf (Json.step (Json.step (Json.step outletListTopic "members") (toString i)) "@id")
          (.text id)) =
      site.nameOutlet (outletTopic key) i := by
  have hpath : Json.step (Json.step (Json.step outletListTopic "members") (toString i)) "@id" =
      fieldPath outletMembers i "/@id" := step_member rfl i "@id"
  have hnormal : Value.normalizeTopic id = outletTopic key := by
    obtain ⟨slashes, rfl⟩ := hid
    refine Value.normalizeTopic_slashes ?_ slashes
    unfold outletTopic
    rw [String.toList_append, List.head?_append_of_ne_nil _ (by decide)]
    decide
  have htext : (Json.text id).scalarText? = some id := rfl
  have hhandler : outletMemberRule.handler = some .outletIndex := rfl
  rw [hpath, visit_handled htext (find?_outletMember i) hhandler]
  exact site.process_outletIndex (outletTopic_ne_empty key) hnormal hi _

/-- Reading the document gives the site the outlets of the list. -/
theorem read_outletList (site : Site) (hids : List.Forall₂ NamesOutlet ids keys)
    (hmax : ids.length ≤ site.outlets.maxOutlets) (hword : ids.length ≤ Number.maxWord) :
    site.read ks outletListTopic (outletListDocument ids) = site.withOutlets keys := by
  rw [← foldl_nameOutlet, ← hids.length_eq]
  exact read_memberList NamesOutlet (fun site key i => site.nameOutlet (outletTopic key) i)
    (fun site _ _ _ hid hi => site.visit_outletMember hid hi) (site.visit_outletCount hmax hword)
    hids hword

/-! ### Everything else -/

theorem outletTopics_visit {met : Visit} (hmet : met.SparesOutletList) (ks : KeySpace)
    (site : Site) : (site.visit ks met).outletTopics = site.outletTopics := by
  cases met with
  | truncated path => rfl
  | leaf path value =>
    simp only [visit]
    cases value.scalarText? with
    | none => rfl
    | some text => exact outletTopics_dispatch hmet ks site text

theorem outletTopics_foldl_visit {visits : List Visit}
    (hvisits : ∀ met ∈ visits, met.SparesOutletList) (ks : KeySpace) (site : Site) :
    (visits.foldl (visit ks) site).outletTopics = site.outletTopics := by
  refine List.foldlRecOn (motive := fun after : Site => after.outletTopics = site.outletTopics)
    visits _ rfl ?_
  intro before hbefore met hmem
  exact (outletTopics_visit (hvisits met hmem) ks before).trans hbefore

end Site

namespace Engine

variable {engine : Engine} {call : Call} {calls : List Call} {ids keys : List String}

/-- The leaves of the document of a call. -/
def Call.leaves : Call → List (String × Json)
  | .message topic payload =>
    match payload.document? with
    | some contents => contents.leaves Json.maxDepth topic
    | none => []
  | .document topic contents => contents.leaves Json.maxDepth topic
  | .reconcile _ => []

theorem mem_leaves_of_mem_visits {path : String} {value : Json}
    (h : Visit.leaf path value ∈ engine.visits call) : (path, value) ∈ call.leaves := by
  have hleaf : ∀ topic (document : Json),
      Visit.leaf path value ∈ document.visits Json.maxDepth topic →
        (path, value) ∈ document.leaves Json.maxDepth topic := fun _ _ hmem =>
    List.mem_filterMap.mpr ⟨_, hmem, rfl⟩
  cases call with
  | message topic payload =>
    rw [visits] at h
    rw [Call.leaves]
    split at h
    · cases hdocument : payload.document? with
      | none =>
        rw [hdocument] at h
        cases h
      | some document =>
        rw [hdocument] at h
        exact hleaf topic document h
    · cases h
  | document topic document => exact hleaf topic document h
  | reconcile received => cases h

/-- Alarm passes do not touch the outlets. -/
theorem outlets_processDocument (engine : Engine) (topic : String) (document : Json) :
    (engine.processDocument topic document).engine.site.outlets =
      (engine.site.read engine.keyspace topic document).outlets := by
  rw [engine_processDocument]
  cases engine.completed? topic document with
  | none => rfl
  | some received => rfl

/-- The outlets after a call are those after what was met in its document. -/
theorem outlets_after (engine : Engine) (call : Call) :
    (engine.after call).site.outlets =
      ((engine.visits call).foldl (Site.visit engine.keyspace) engine.site).outlets := by
  cases call with
  | message topic payload =>
    rw [after, engine_processMessage, visits]
    by_cases haccepts : engine.accepts topic = true
    · rw [if_pos haccepts, if_pos haccepts]
      cases payload.document? with
      | none => rfl
      | some document => exact outlets_processDocument engine topic document
    · rw [if_neg haccepts, if_neg haccepts]
      rfl
  | document topic document => exact outlets_processDocument engine topic document
  | reconcile received => rfl

theorem outletTopics_run (engine : Engine)
    (hcalls : ∀ call ∈ calls, ∀ leaf ∈ call.leaves, card.listsOutlets leaf.1 = false) :
    (engine.run calls).site.outletTopics = engine.site.outletTopics := by
  refine List.foldlRecOn
    (motive := fun after : Engine => after.site.outletTopics = engine.site.outletTopics)
    calls _ rfl ?_
  intro before hbefore call hmem
  have hvisits : ∀ met ∈ before.visits call, met.SparesOutletList := by
    intro met hmet
    cases met with
    | truncated path => trivial
    | leaf path value =>
      have hpath := hcalls call hmem (path, value) (mem_leaves_of_mem_visits hmet)
      exact hpath
  have hafter : (before.after call).site.outletTopics = before.site.outletTopics := by
    rw [Site.outletTopics, outlets_after]
    exact Site.outletTopics_foldl_visit hvisits before.keyspace before.site
  exact hafter.trans hbefore

/-! ### What is reported of an outlet -/

/-- Outlets are found by the keys of a list: what is reported of one is published under its place in
the list, and nothing happens for a key that is not in the list. -/
structure ResolvesOutlets (keys : List String) (site : Site) : Prop where
  listed : site.outlets.outlets.map Outlet.topic =
    keys.map fun key => some ("mbdetnrs/1.0/powerDistributions/1/outlets/" ++ key)
  known : ∀ (p : Progress), p.site = site → ∀ (field : OutletField) path key j value text shown,
    field.rule.pattern.captures? path = some [key] → keys[j]? = some key →
      value.scalarText? = some text → field.shown? text = some shown →
        let after := applyVisit {} p (.leaf path value)
        after.report = { p.report with
          paths := p.report.paths + 1
          matched := p.report.matched + 1
          handled := p.report.handled + 1 } ∧
        ∀ name, after.site.store.get? name =
          if name = "outlet." ++ toString (j + 1) ++ "." ++ field.step then some shown
          else site.store.get? name
  unknown : ∀ (p : Progress), p.site = site → ∀ (field : OutletField) path key value text,
    field.rule.pattern.captures? path = some [key] → key ∉ keys →
      value.scalarText? = some text →
        (card.dispatch {} path text site).result =
          .error (.outletNotFound (Site.outletTopic key)) ∧
        let after := applyVisit {} p (.leaf path value)
        after.site = site ∧
        after.report = { p.report with
          paths := p.report.paths + 1
          matched := p.report.matched + 1
          tolerated := p.report.tolerated + 1 }

theorem site_applyVisit_leaf {ks : KeySpace} {p : Progress} {path text : String} {value : Json}
    (htext : value.scalarText? = some text) :
    (applyVisit ks p (.leaf path value)).site = (card.dispatch ks path text p.site).site := by
  rw [site_applyVisit, Site.visit_leaf htext]

theorem resolvesOutlets {site : Site} (hnodup : keys.Nodup) (hword : keys.length ≤ Number.maxWord)
    (h : Site.ListsOutlets keys site) : ResolvesOutlets keys site := by
  refine ⟨h, ?_, ?_⟩
  · rintro p rfl field path key j value text shown hcaptures hj htext hshown after
    obtain ⟨outlets, store, hset, hsite, hresult⟩ := h.dispatch {} hnodup hj hcaptures hshown
    have hlt : j < keys.length := (List.getElem?_eq_some_iff.mp hj).1
    have hname : ({} : KeySpace).outlet j field.step =
        "outlet." ++ toString (j + 1) ++ "." ++ field.step := by
      rw [KeySpace.outlet, Number.ordinal_of_lt (by omega)]
      rfl
    constructor
    · simp only [after, applyVisit, htext, applyValue, hresult]
    · intro name
      have hafter : after.site = { p.site with outlets, store } :=
        (site_applyVisit_leaf htext).trans hsite
      rw [hafter, ← hname]
      simp only [Store.get?_of_set hset, eq_comm]
  · rintro p rfl field path key value text hcaptures hkey htext
    obtain ⟨hsite, hresult⟩ := h.dispatch_of_notMem {} hkey hcaptures text
    refine ⟨hresult, (site_applyVisit_leaf htext).trans hsite, ?_⟩
    simp only [applyVisit, htext, applyValue, hresult]
    rfl

/-- After any calls, a list of outlets makes the outlets those that it lists. Whatever else arrives
then, in other calls and at last in the same message, what is reported of an outlet is published
under its place in the list, and what is reported of any other outlet is tolerated. The number of
outlets is bounded as every number of a document is. -/
theorem outlet_list_resolves (settings : EngineSettings) (calls others : List Call)
    (hids : List.Forall₂ NamesOutlet ids keys) (hnodup : keys.Nodup)
    (hlength : ids.length ≤ settings.maxOutlets) (hword : ids.length ≤ Number.maxWord)
    (hothers : ∀ call ∈ others, ∀ leaf ∈ call.leaves, card.listsOutlets leaf.1 = false) :
    let list := Call.document outletListTopic (outletListDocument ids)
    let engine := (start settings).run (calls ++ list :: others)
    engine.keyspace = {} ∧
      ∀ visits : List Visit, (∀ met ∈ visits, met.SparesOutletList) →
        ResolvesOutlets keys (visits.foldl (Site.visit {}) engine.site) := by
  intro list engine
  obtain ⟨hkeyspace, -⟩ := keyspace_and_mirrored_run settings (calls ++ list :: others)
  refine ⟨hkeyspace, fun visits hvisits => ?_⟩
  let before := (start settings).run calls
  have hrun : engine = (before.after list).run others := by
    simp only [engine, before, run, List.foldl_append, List.foldl_cons]
  have hmax : ids.length ≤ before.site.outlets.maxOutlets :=
    hlength.trans (site_withinLimits_run { settings with keyspace := {} } calls).maxOutlets.ge
  have hlisted : (before.after list).site.outletTopics =
      keys.map fun key => some (Site.outletTopic key) := by
    rw [Site.outletTopics, after_document, outlets_processDocument,
      before.site.read_outletList hids hmax hword]
    exact before.site.listsOutlets_withOutlets keys
  refine resolvesOutlets hnodup (hids.length_eq ▸ hword) ?_
  rw [Site.ListsOutlets, Site.outletTopics_foldl_visit hvisits, hrun,
    outletTopics_run (before.after list) hothers, hlisted]

/-- Two outlets replace a list of one, and the first gets its name. -/
theorem outlet_list_resolves_two :
    let ids := ["/mbdetnrs/1.0/powerDistributions/1/outlets/a",
      "//mbdetnrs/1.0/powerDistributions/1/outlets/b"]
    let calls := [Call.document outletListTopic
      (outletListDocument ["mbdetnrs/1.0/powerDistributions/1/outlets/b"])]
    let others := [Call.document "mbdetnrs/1.0/powerDistributions/1/outlets/a"
      (.object [("identification", .object [("name", .text "fan")])])]
    let list := Call.document outletListTopic (outletListDocument ids)
    List.Forall₂ NamesOutlet ids ["a", "b"] ∧
      ((start {}).run (calls ++ list :: others)).keyspace = {} ∧
      ResolvesOutlets ["a", "b"] ((start {}).run (calls ++ list :: others)).site := by
  intro ids calls others list
  have hids : List.Forall₂ NamesOutlet ids ["a", "b"] :=
    .cons ⟨1, by decide⟩ (.cons ⟨2, by decide⟩ .nil)
  have hothers : ∀ call ∈ others, ∀ leaf ∈ call.leaves, card.listsOutlets leaf.1 = false := by
    decide +kernel
  obtain ⟨hks, hresolves⟩ :=
    outlet_list_resolves {} calls others hids (by decide) (by decide) (by decide) hothers
  have hsite := hresolves [] (List.forall_mem_nil _)
  rw [List.foldl_nil] at hsite
  exact ⟨hids, hks, hsite⟩

end Engine

end RackTelemetry
