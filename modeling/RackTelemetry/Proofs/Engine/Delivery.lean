import RackTelemetry.Proofs.Engine.Capture
import RackTelemetry.Proofs.Engine.Walk
import RackTelemetry.Proofs.Topic.Lookup

/-!
Every path that a rule of the card matches can be delivered. The filter takes a topic that is a
beginning of the path, and a message on that topic with one member, named for what is left of the
path, is walked to the path and to nothing else. The member may have any text. The engine reports
that the message was accepted and that its one path had a rule.
-/

namespace RackTelemetry

namespace Pattern

/-- Where the steps of a text are two lists one after another, there is a slash between them. -/
theorem split_of_splitOn_eq_append {text : List Char} {first second : List (List Char)}
    (hfirst : first ≠ []) (hsecond : second ≠ []) (h : text.splitOn '/' = first ++ second) :
    ∃ t u, text = t ++ '/' :: u ∧ t.splitOn '/' = first ∧ u.splitOn '/' = second := by
  induction text generalizing first with
  | nil =>
    obtain ⟨a, first, rfl⟩ := List.exists_cons_of_ne_nil hfirst
    obtain ⟨-, hnil⟩ := List.cons.inj h
    exact absurd (List.append_eq_nil_iff.mp hnil.symm).2 hsecond
  | cons c text ih =>
    obtain ⟨a, first, rfl⟩ := List.exists_cons_of_ne_nil hfirst
    rw [List.splitOn_cons_eq_if_modifyHead] at h
    split at h
    · next hc =>
      obtain rfl := eq_of_beq hc
      obtain ⟨rfl, hrest⟩ := List.cons.inj h
      rcases eq_or_ne first [] with rfl | hne
      · exact ⟨[], text, rfl, rfl, hrest⟩
      · obtain ⟨t, u, rfl, ht, hu⟩ := ih hne hrest
        exact ⟨'/' :: t, u, rfl, by rw [List.splitOn_cons_eq_if_modifyHead, if_pos hc, ht], hu⟩
    · next hc =>
      obtain ⟨b, rest, hsplit⟩ := exists_splitOn '/' text
      rw [hsplit, List.modifyHead_cons, List.cons_append] at h
      obtain ⟨rfl, rfl⟩ := List.cons.inj h
      obtain ⟨t, u, rfl, ht, hu⟩ := ih (List.cons_ne_nil b first) hsplit
      refine ⟨c :: t, u, rfl, ?_, hu⟩
      rw [List.splitOn_cons_eq_if_modifyHead, if_neg hc, ht]
      rfl

end Pattern

namespace TopicTable

/-- The filter takes a beginning of every path that a reached rule matches. -/
theorem accepts_of_isReached {filter : TopicFilter} {rule : TopicRule} {path : String}
    (hrule : isReached filter rule = true) (hmatch : rule.pattern.isMatch path = true) :
    ∃ topic below, path = topic ++ "/" ++ below ∧ filter.accepts topic = true := by
  unfold isReached at hrule
  split at hrule
  · next steps hsteps =>
    obtain ⟨pattern, hmem, hcovers⟩ := List.any_eq_true.mp (Bool.and_eq_true_iff.mp hrule).2
    split at hcovers
    · next others hothers =>
      rw [Bool.and_eq_true_iff, decide_eq_true_eq, ← List.length_pos_iff] at hcovers
      obtain ⟨hpositive, hcovers⟩ := hcovers
      obtain ⟨point, rest, hpoint, htext, hallows⟩ := (Pattern.isMatch_iff_allows hsteps).mp hmatch
      obtain ⟨hlt, htaken⟩ := hallows.beginning hcovers
      obtain ⟨t, u, rfl, ht, -⟩ := Pattern.split_of_splitOn_eq_append
        (List.ne_nil_of_length_pos (List.length_take ▸ Nat.lt_min.mpr ⟨hpositive, by omega⟩))
        (List.ne_nil_of_length_pos (List.length_drop ▸ Nat.sub_pos_of_lt hlt))
        (List.take_append_drop others.length _).symm
      refine ⟨String.ofList (Pattern.rootText point ++ t), String.ofList u, ?_, ?_⟩
      · rw [← String.toList_inj, htext]
        simp [String.toList_append]
      · refine List.any_eq_true.mpr ⟨pattern, hmem, (Pattern.isMatch_iff_allows hothers).mpr ?_⟩
        exact ⟨point, t, hpoint, String.toList_ofList, ht ▸ htaken⟩
    · cases hcovers
  · cases hrule

end TopicTable

namespace Engine

/-- A document that is walked to one text, at a path with a rule, is reported as one path that was
matched. -/
theorem report_of_one_leaf {engine : Engine} {topic path value : String} {document : Json}
    {report : MessageReport}
    (hvisits : document.visits Json.maxDepth topic = [.leaf path (.text value)])
    (hrule : TopicTable.card.hasRule path = true)
    (hreport : (engine.processDocument topic document).result = .ok report) :
    report.paths = 1 ∧ report.matched = 1 := by
  obtain ⟨reconciliation, rfl⟩ := report_of_processDocument hreport
  have haccounts := accounts_foldl_applyVisit engine.keyspace engine.site
    (document.visits Json.maxDepth topic) fun _ _ => Json.isLeaf_of_mem_visits
  rw [hvisits] at haccounts
  refine ⟨?_, ?_⟩
  · rw [applyDocument, hvisits]
    exact haccounts.paths
  · have hcount : ([(path, .text value)] : List (String × Json)).countP
        (fun leaf => !leaf.2.isNull && TopicTable.card.hasRule leaf.1) = 1 := by
      rw [List.countP_singleton, hrule]
      rfl
    rw [applyDocument, hvisits]
    exact haccounts.matched.trans hcount

/-- A path that a rule of the card matches is a topic that is taken, a slash and a name. A message
on the topic that gives the name a text is applied by every engine, also by one that does not take
all topics. Its one leaf is the text at the path, and an engine whose channels have names reports
that the message was accepted, with one path, and that one matched. -/
theorem matched_path_delivered {rule : TopicRule} {path : String} (hrule : rule ∈ TopicTable.card)
    (hmatch : rule.pattern.isMatch path = true) :
    ∃ topic below, path = topic ++ "/" ++ below ∧ TopicFilter.card.accepts topic = true ∧
      ∀ value, ∃ document,
        (∀ engine : Engine,
          let response := engine.processMessage topic (.raw (Json.memberText below value).toUTF8)
          response = engine.processDocument topic document ∧
          (engine.keyspace.alarmKey ≠ "" → engine.keyspace.statusKey ≠ "" →
            ∃ report, response.result = .ok report ∧ report.accepted = true ∧ report.paths = 1 ∧
              report.matched = 1)) ∧
        document.visits Json.maxDepth topic = [.leaf path (.text value)] := by
  obtain ⟨topic, below, rfl, haccepts⟩ :=
    TopicTable.accepts_of_isReached (TopicTable.isReached_card rule hrule) hmatch
  refine ⟨topic, below, rfl, haccepts, fun value => ⟨.object [(below, .text value)], ?_, rfl⟩⟩
  intro engine response
  have hdocument : (Payload.raw (Json.memberText below value).toUTF8).document? =
      some (.object [(below, .text value)]) := by
    rw [Payload.document?_toUTF8, Json.ofString?_memberText]
  have htaken : engine.accepts topic = true := by rw [accepts, haccepts, Bool.or_true]
  have hresponse : response = engine.processDocument topic (.object [(below, .text value)]) :=
    processMessage_document htaken hdocument
  refine ⟨hresponse, fun halarm hstatus => ?_⟩
  obtain ⟨report, hreport, haccepted⟩ :=
    processDocument_ok halarm hstatus topic (.object [(below, .text value)])
  have hmatched : TopicTable.card.hasRule (topic ++ "/" ++ below) = true :=
    List.any_eq_true.mpr ⟨rule, hrule, hmatch⟩
  exact ⟨report, hresponse ▸ hreport, haccepted, report_of_one_leaf rfl hmatched hreport⟩

/-- The path that announces a device is delivered to a fresh engine. -/
theorem matched_path_delivered_member :
    ∃ topic below, "mbdetnrs/1.0/sensors/devices/members/7/@id" = topic ++ "/" ++ below ∧
      TopicFilter.card.accepts topic = true ∧ ∀ value, ∃ report,
        ((ofSettings {}).processMessage topic
          (.raw (Json.memberText below value).toUTF8)).result = .ok report ∧
        report.accepted = true ∧ report.paths = 1 ∧ report.matched = 1 := by
  have hrule : TopicTable.card[15] ∈ TopicTable.card := List.getElem_mem _
  have hmatch : TopicTable.card[15].pattern.isMatch
      "mbdetnrs/1.0/sensors/devices/members/7/@id" = true := by decide +kernel
  obtain ⟨topic, below, hpath, haccepts, hdelivered⟩ := matched_path_delivered hrule hmatch
  refine ⟨topic, below, hpath, haccepts, fun value => ?_⟩
  obtain ⟨document, hengine, -⟩ := hdelivered value
  exact (hengine (ofSettings {})).2 (by decide) (by decide)

end Engine

end RackTelemetry
