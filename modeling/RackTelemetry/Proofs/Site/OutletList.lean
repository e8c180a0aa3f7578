import RackTelemetry.Proofs.Inventory.Refusal
import RackTelemetry.Proofs.Site.Observation
import RackTelemetry.Proofs.Topic.OutletList

/-!
How outlets are found. The list of outlets gives each outlet its topic, in order, and nothing else
changes the topics. So what is reported of an outlet later goes to the place that its key has in the
list, and nothing happens for a key that is not in the list.
-/

namespace RackTelemetry

open KeySpace

/-- The text that a value of an outlet is published as, if the value is acceptable. -/
def OutletField.shown? : OutletField → String → Option String
  | .name, text => some text
  | .physicalName, text => some text
  | .switchable, text =>
    match Value.flag text with
    | .ok on => some (if on then "yes" else "no")
    | .error _ => none

/-! ### The outlets and their topics -/

namespace Site

variable {ks : KeySpace} {site : Site} {keys : List String} {key : String} {j : Nat}

theorem outletTopic_inj {other : String} : outletTopic key = outletTopic other ↔ key = other :=
  String.append_right_inj _

/-- The topics of the outlets, in order. -/
def outletTopics (site : Site) : List (Option String) := site.outlets.outlets.map Outlet.topic

/-- The outlets are those of a list of keys. -/
def ListsOutlets (keys : List String) (site : Site) : Prop :=
  site.outletTopics = keys.map fun key => some (outletTopic key)

/-- An outlet is found by its topic where its key stands in the list. -/
theorem ListsOutlets.findIdx? (h : ListsOutlets keys site) (key : String) :
    site.outlets.outlets.findIdx? (fun outlet => outlet.topic = some (outletTopic key)) =
      keys.findIdx? (fun other => other = key) := by
  have htopics :
      site.outlets.outlets.findIdx? (fun outlet => outlet.topic = some (outletTopic key)) =
        site.outletTopics.findIdx? (fun topic => topic = some (outletTopic key)) := by
    rw [outletTopics, List.findIdx?_map]
    rfl
  rw [htopics, h, List.findIdx?_map]
  congr 1
  funext other
  simp only [Function.comp_apply, Option.some.injEq, outletTopic_inj]

theorem ListsOutlets.indexOf (h : ListsOutlets keys site) (hnodup : keys.Nodup)
    (hj : keys[j]? = some key) : site.outlets.indexOf (outletTopic key) = .ok j := by
  obtain ⟨hlt, hkey⟩ := List.getElem?_eq_some_iff.mp hj
  have hfound : keys.findIdx? (fun other => other = key) = some j := by
    refine List.findIdx?_eq_some_iff_getElem.mpr ⟨hlt, decide_eq_true hkey, ?_⟩
    intro i hi hsame
    have hi' := of_decide_eq_true hsame
    exact absurd ((List.Nodup.getElem_inj_iff hnodup).mp (hi'.trans hkey.symm)) (Nat.ne_of_lt hi)
  rw [OutletRegistry.indexOf, h.findIdx?, hfound]

theorem ListsOutlets.indexOf_of_notMem (h : ListsOutlets keys site) (hkey : key ∉ keys) :
    site.outlets.indexOf (outletTopic key) = .error (.outletNotFound (outletTopic key)) := by
  have hnone : keys.findIdx? (fun other => other = key) = none := by
    rw [List.findIdx?_eq_none_iff]
    rintro other hmem
    exact decide_eq_false fun h => hkey (h ▸ hmem)
  rw [OutletRegistry.indexOf, h.findIdx?, hnone]

/-! ### The topics stay -/

theorem outletTopics_ignoresDevices : IgnoresDevices outletTopics := fun _ _ _ => rfl

/-- Only the handlers of the list change the topics. -/
theorem outletTopics_process {handler : Handler} (hcount : handler ≠ .outletCount)
    (hindex : handler ≠ .outletIndex) (template : Option KeyTemplate) (value : String)
    (params : List String) :
    (handler.process ks template value params site).site.outletTopics = site.outletTopics := by
  cases handler with
  | outletCount => exact absurd rfl hcount
  | outletIndex => exact absurd rfl hindex
  | outletSwitchable =>
    match params with
    | [] => rfl
    | [outlet] =>
      exact observe_bind fun index _ => observe_bind fun switchable _ =>
        observe_bind fun outlets hset =>
          (observe_publish outletTopics_ignoresDevices ks _ template _ _).trans
            (OutletRegistry.map_update hset fun _ => rfl)
    | _ :: _ :: _ => rfl
  | _ =>
    exact observe_process outletTopics_ignoresDevices (.inl rfl) (.inr fun _ _ => rfl) template
      value params

theorem outletTopics_dispatch {path : String} (hpath : TopicTable.card.listsOutlets path = false)
    (ks : KeySpace) (site : Site) (value : String) :
    (TopicTable.card.dispatch ks path value site).site.outletTopics = site.outletTopics := by
  refine observe_dispatch outletTopics_ignoresDevices fun rule params handler hfind hhandler => ?_
  obtain ⟨hcount, hindex⟩ := TopicTable.handler_of_not_listsOutlets hpath hfind hhandler
  exact outletTopics_process hcount hindex rule.template value params

/-! ### The list is read -/

/-- An outlet with its topic; where there is no outlet, nothing changes. -/
def nameOutlet (site : Site) (topic : String) (index : Nat) : Site :=
  { site with
    outlets := { site.outlets with
      outlets := site.outlets.outlets.modify index fun outlet =>
        { outlet with topic := some topic } } }

theorem site_setTopic (site : Site) {topic : String} (htopic : topic ≠ "") (index : Nat) :
    (site.attempt (do
      let outlets ← site.outlets.setTopic index topic
      return { site with outlets }.done)).site = site.nameOutlet topic index := by
  rw [OutletRegistry.setTopic, if_neg (by simpa using htopic), OutletRegistry.update_eq]
  split
  · rfl
  · next hbeyond => rw [nameOutlet, List.modify_eq_self (Nat.le_of_not_lt hbeyond)]; rfl

theorem process_outletIndex (site : Site) {topic value : String} (htopic : topic ≠ "")
    (hvalue : Value.normalizeTopic value = topic) {i : Nat} (hi : i ≤ Number.maxWord)
    (template : Option KeyTemplate) :
    (Handler.process .outletIndex ks template value [toString i] site).site =
      site.nameOutlet topic i := by
  simp only [Handler.process, Value.index_toString hi, hvalue]
  exact site.site_setTopic htopic i

/-- The outlets of a list, none of them switchable so far. -/
def withOutlets (site : Site) (keys : List String) : Site :=
  { site with
    outlets := { site.outlets with
      outlets := keys.map fun key => { topic := some (outletTopic key) } } }

theorem listsOutlets_withOutlets (site : Site) (keys : List String) :
    ListsOutlets keys (site.withOutlets keys) :=
  List.map_map

/-- The outlets get their topics one after another. -/
theorem foldl_nameOutlet (site : Site) (keys : List String) :
    keys.zipIdx.foldl (fun site entry => site.nameOutlet (outletTopic entry.1) entry.2)
        { site with
          outlets := { site.outlets with outlets := List.replicate keys.length {} } } =
      site.withOutlets keys := by
  have hnamed := foldl_modify_zipIdx
    (fun key (outlet : Outlet) => { outlet with topic := some (outletTopic key) }) {} keys []
  rw [List.nil_append, List.nil_append] at hnamed
  rw [withOutlets, ← hnamed]
  exact List.foldl_hom
    (fun outlets => ({ site with outlets := { site.outlets with outlets } } : Site))
    fun _ _ => rfl

/-! ### What is reported of an outlet -/

theorem publish_outlet (ks : KeySpace) (site : Site) (index : Nat) (field value : String) :
    ∃ store, site.store.set (ks.outlet index field) value = .ok store ∧
      publish ks site (some (.outlet field)) (.outlet index) value =
        { site with store }.note [.published (ks.outlet index field) value] := by
  obtain ⟨store, hset⟩ := site.store.set_of_ne value (ks.outlet_ne_empty index field)
  refine ⟨store, hset, ?_⟩
  simp only [publish, KeyTemplate.render, bind, Except.bind, pure, Except.pure, attempt, put, hset]

variable {text shown : String}

/-- A value of an outlet that is found is published under the number of the outlet. -/
theorem process_outletField (ks : KeySpace) (field : OutletField)
    (hindex : site.outlets.indexOf (outletTopic key) = .ok j)
    (hshown : field.shown? text = some shown) :
    ∃ outlets store, site.store.set (ks.outlet j field.step) shown = .ok store ∧
      field.handler.process ks field.rule.template text [key] site =
        { site with outlets, store }.note [.published (ks.outlet j field.step) shown] := by
  cases field with
  | name =>
    obtain rfl := Option.some.inj hshown
    obtain ⟨store, hset, hpublish⟩ := publish_outlet ks site j "name" text
    refine ⟨site.outlets, store, hset, ?_⟩
    simp only [OutletField.handler, Handler.process, hindex]
    exact hpublish
  | physicalName =>
    obtain rfl := Option.some.inj hshown
    obtain ⟨store, hset, hpublish⟩ := publish_outlet ks site j "id" text
    refine ⟨site.outlets, store, hset, ?_⟩
    simp only [OutletField.handler, Handler.process, hindex]
    exact hpublish
  | switchable =>
    obtain ⟨switchable, hflag, rfl⟩ : ∃ switchable, Value.flag text = .ok switchable ∧
        (if switchable then "yes" else "no") = shown := by
      simp only [OutletField.shown?] at hshown
      split at hshown
      · next switchable hflag => exact ⟨switchable, hflag, Option.some.inj hshown⟩
      · cases hshown
    obtain ⟨outlets, hset⟩ := OutletRegistry.setSwitchable_of_indexOf hindex switchable
    obtain ⟨store, hstore, hpublish⟩ := publish_outlet ks { site with outlets } j "switchable"
      (if switchable then "yes" else "no")
    refine ⟨outlets, store, hstore, ?_⟩
    simp only [OutletField.handler, Handler.process, hindex, hflag, hset, bind, Except.bind]
    exact hpublish

/-- A value of an outlet that is not found is refused. -/
theorem process_outletField_error (ks : KeySpace) (field : OutletField) {e : Error}
    (hindex : site.outlets.indexOf (outletTopic key) = .error e) (template : Option KeyTemplate)
    (text : String) : field.handler.process ks template text [key] site = site.fail e := by
  cases field with
  | name => simp only [OutletField.handler, Handler.process, hindex]; rfl
  | physicalName => simp only [OutletField.handler, Handler.process, hindex]; rfl
  | switchable => simp only [OutletField.handler, Handler.process, hindex]; rfl

variable {path : String}

/-- A value of an outlet of the list is published, and nothing else is. -/
theorem ListsOutlets.dispatch (h : ListsOutlets keys site) (ks : KeySpace) (hnodup : keys.Nodup)
    (hj : keys[j]? = some key) {field : OutletField}
    (hcaptures : field.rule.pattern.captures? path = some [key])
    (hshown : field.shown? text = some shown) :
    ∃ outlets store, site.store.set (ks.outlet j field.step) shown = .ok store ∧
      (TopicTable.card.dispatch ks path text site).site = { site with outlets, store } ∧
      (TopicTable.card.dispatch ks path text site).result = .ok (.handled field.handler) := by
  have hfind := field.find?_of_captures hcaptures
  have hhandler : field.rule.handler = some field.handler := rfl
  obtain ⟨outlets, store, hset, hprocess⟩ :=
    process_outletField ks field (h.indexOf hnodup hj) hshown
  refine ⟨outlets, store, hset, ?_, ?_⟩
  · rw [site_dispatch hfind hhandler, hprocess]
    rfl
  · rw [dispatch_handled hfind hhandler, hprocess]
    rfl

/-- A value of an outlet that is not in the list is refused, and changes nothing. -/
theorem ListsOutlets.dispatch_of_notMem (h : ListsOutlets keys site) (ks : KeySpace)
    (hkey : key ∉ keys) {field : OutletField}
    (hcaptures : field.rule.pattern.captures? path = some [key]) (text : String) :
    (TopicTable.card.dispatch ks path text site).site = site ∧
      (TopicTable.card.dispatch ks path text site).result =
        .error (.outletNotFound (outletTopic key)) := by
  have hfind := field.find?_of_captures hcaptures
  have hhandler : field.rule.handler = some field.handler := rfl
  have hprocess := process_outletField_error ks field (h.indexOf_of_notMem hkey)
    field.rule.template text
  constructor
  · rw [site_dispatch hfind hhandler, hprocess]
    rfl
  · rw [dispatch_handled hfind hhandler, hprocess]
    rfl

end Site

end RackTelemetry
