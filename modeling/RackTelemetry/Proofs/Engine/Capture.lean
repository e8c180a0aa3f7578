import RackTelemetry.Capture
import RackTelemetry.Proofs.Alarm.Account
import RackTelemetry.Proofs.Engine.Run

/-!
Replaying a capture under settings that were found valid. A line that is no record, whose topic is
not taken or whose payload is no document leaves the engine as it is, so the end of a replay is that
of the other lines alone; and the account tells every kind of line apart. The channels have names,
so no message fails once its payload is read.
-/

namespace RackTelemetry

/-- Settings that were found valid name both channels. -/
theorem Settings.channels_ne_of_validate {s : Settings} (h : s.validate = .ok ()) :
    s.engine.keyspace.alarmKey ≠ "" ∧ s.engine.keyspace.statusKey ≠ "" := by
  have hnone : s.fault? = none := by
    unfold validate at h
    split at h
    · cases h
    · next hnone => exact hnone
  have hnamed : (keyspaceEntries s.engine.keyspace).find? (fun entry => entry.2.isEmpty) =
      none := by
    unfold fault? at hnone
    split_ifs at hnone
    · split at hnone <;> cases hnone
    · split at hnone
      · cases hnone
      · next hnamed => exact hnamed
  rw [List.find?_eq_none] at hnamed
  have halarm := hnamed ("alarm_key", s.engine.keyspace.alarmKey) (by simp [keyspaceEntries])
  have hstatus := hnamed ("status_key", s.engine.keyspace.statusKey) (by simp [keyspaceEntries])
  simpa using And.intro halarm hstatus

/-- The topics whose messages are taken under these settings. -/
def EngineSettings.accepts (settings : EngineSettings) (topic : String) : Bool :=
  settings.acceptAllTopics || TopicFilter.card.accepts topic

/-! ### Messages that are taken -/

namespace Engine

theorem accepted_applyVisit (ks : KeySpace) (p : Progress) (met : Visit) :
    (applyVisit ks p met).report.accepted = p.report.accepted := by
  cases met with
  | truncated path => rfl
  | leaf path value =>
    simp only [applyVisit]
    split
    · rfl
    · simp only [applyValue]
      split
      · rfl
      · rfl
      · rfl
      · split
        · rfl
        · rfl

theorem accepted_applyDocument (ks : KeySpace) (site : Site) (topic : String) (document : Json) :
    (applyDocument ks site topic document).report.accepted = true := by
  refine List.foldlRecOn (motive := fun p : Progress => p.report.accepted = true) _ _ rfl ?_
  intro p hp met _
  rw [accepted_applyVisit, hp]

/-- An engine still has what it was set up with: where it publishes, and which topics it takes. -/
structure SetUp (settings : EngineSettings) (engine : Engine) : Prop where
  keyspace : engine.keyspace = settings.keyspace
  acceptAll : engine.acceptAllTopics = settings.acceptAllTopics

variable {settings : EngineSettings} {engine : Engine}

theorem SetUp.accepts (h : engine.SetUp settings) (topic : String) :
    engine.accepts topic = settings.accepts topic := by
  rw [Engine.accepts, EngineSettings.accepts, h.acceptAll]

theorem SetUp.processDocument (h : engine.SetUp settings) (topic : String) (document : Json) :
    (engine.processDocument topic document).engine.SetUp settings := by
  rw [engine_processDocument]
  split
  · exact ⟨h.keyspace, h.acceptAll⟩
  · exact ⟨h.keyspace, h.acceptAll⟩

theorem SetUp.processMessage (h : engine.SetUp settings) (topic : String) (payload : Payload) :
    (engine.processMessage topic payload).engine.SetUp settings := by
  rw [engine_processMessage]
  split
  · split
    · exact h.processDocument topic _
    · exact h
  · exact h

theorem processMessage_ignored {topic : String} (h : engine.accepts topic = false)
    (payload : Payload) :
    engine.processMessage topic payload = ⟨engine, [.topicIgnored topic], .ok {}⟩ := by
  simp only [Engine.processMessage, h]
  rfl

theorem processMessage_malformed {topic : String} {payload : Payload}
    (h : engine.accepts topic = true) (hnone : payload.document? = none) :
    engine.processMessage topic payload =
      ⟨engine, [], .error (.malformedPayload topic "not a JSON document")⟩ := by
  simp only [Engine.processMessage, h, if_true, hnone]

theorem processMessage_document {topic : String} {payload : Payload} {document : Json}
    (h : engine.accepts topic = true) (hsome : payload.document? = some document) :
    engine.processMessage topic payload = engine.processDocument topic document := by
  simp only [Engine.processMessage, h, if_true, hsome]

/-- A document is accepted where the channels have names. -/
theorem processDocument_ok (halarm : engine.keyspace.alarmKey ≠ "")
    (hstatus : engine.keyspace.statusKey ≠ "") (topic : String) (document : Json) :
    ∃ report, (engine.processDocument topic document).result = .ok report ∧
      report.accepted = true := by
  have haccepted := accepted_applyDocument engine.keyspace engine.site topic document
  simp only [Engine.processDocument]
  cases (applyDocument engine.keyspace engine.site topic document).site.draft.takeComplete.2 with
  | none => exact ⟨_, rfl, haccepted⟩
  | some received =>
    have hpass := AlarmPass.reconcile_ok .card halarm hstatus engine.known
      (applyDocument engine.keyspace engine.site topic document).site.devices
      (applyDocument engine.keyspace engine.site topic document).site.store received
    simp only [reconcile, hpass.2]
    exact ⟨_, rfl, haccepted⟩

end Engine

/-! ### One line -/

/-- A document that is recorded as such reaches the engine as it is, if it has no double-precision
numbers. -/
theorem CaptureRecord.document?_payloadOf {document : Json}
    (hplain : document.isPlain Json.depthLimit = true) (htext : ∀ s, document ≠ .text s) :
    (payloadOf document).document? = some document := by
  have hprint : payloadOf document = .raw document.print.toUTF8 := by
    unfold payloadOf
    split
    · next s => exact absurd rfl (htext s)
    · rfl
  rw [hprint, Engine.Payload.document?_print hplain]

namespace Replay

/-- The record on a line, without the white space around it. -/
def record? (text : String) : Option CaptureRecord := CaptureRecord.ofLine? (Text.trim text)

/-- Blank lines and comments are no records. -/
theorem record?_of_isIdle {text : String} (h : isIdle text = true) : record? text = none := by
  have htrim : (Text.trim text).toList = Text.trimChars text.toList := by simp [Text.trim]
  unfold isIdle at h
  unfold record? CaptureRecord.ofLine?
  rw [htrim]
  split at h
  · next hblank =>
    rw [hblank]
    rfl
  · next c cs hcomment =>
    obtain rfl : c = '#' := by simpa using h
    have hskip : Json.skipSpace ('#' :: cs) = '#' :: cs := by simp [Json.skipSpace]
    have hnone : Json.ofChars? ('#' :: cs) = none := by
      simp [Json.ofChars?, Json.stepsFor, Json.readValue, hskip, Json.readNumber]
    rw [hcomment, hskip]
    split
    · next hbrace => simp at hbrace
    · rw [hnone]

/-- The line is a record of a topic that is taken. -/
def isAccepted (settings : EngineSettings) (text : String) : Bool :=
  (record? text).any fun record => settings.accepts record.topic

/-- The line is a record of a topic that is taken, and its payload is no document. -/
def isRejected (settings : EngineSettings) (text : String) : Bool :=
  (record? text).any fun record =>
    settings.accepts record.topic && record.payload.document?.isNone

/-- The line is a record of a topic that is taken, and its payload is a document. -/
def isApplied (settings : EngineSettings) (text : String) : Bool :=
  (record? text).any fun record =>
    settings.accepts record.topic && record.payload.document?.isSome

/-- What a line adds to the account. -/
structure Adds (settings : EngineSettings) (text : String) (before after : ReplayStats) :
    Prop where
  lines : after.lines = before.lines + if !isIdle text then 1 else 0
  invalid : after.invalid = before.invalid +
    if !isIdle text && (record? text).isNone then 1 else 0
  accepted : after.accepted = before.accepted + if isAccepted settings text then 1 else 0
  rejected : after.rejected = before.rejected + if isRejected settings text then 1 else 0
  reconciliations :
    after.reconciliations ≤ before.reconciliations + if isApplied settings text then 1 else 0

variable {settings : EngineSettings} {engine : Engine}

/-- A line adds to the account what it is, and leaves the engine as it is unless it is applied. -/
theorem adds_line (h : engine.SetUp settings) (halarm : settings.keyspace.alarmKey ≠ "")
    (hstatus : settings.keyspace.statusKey ≠ "") (stats : ReplayStats) (text : String) :
    Adds settings text stats (line engine stats text).stats ∧
      (line engine stats text).engine.SetUp settings ∧
      (isApplied settings text = false → (line engine stats text).engine = engine) := by
  unfold line
  split
  · next hidle =>
    have hrecord := record?_of_isIdle hidle
    refine ⟨⟨?_, ?_, ?_, ?_, ?_⟩, h, fun _ => rfl⟩ <;>
      simp [hidle, hrecord, isAccepted, isRejected, isApplied]
  next hidle =>
  simp only
  split
  · next hrecord =>
    have hrecord' : record? text = none := hrecord
    refine ⟨⟨?_, ?_, ?_, ?_, ?_⟩, h, fun _ => rfl⟩ <;>
      simp [hidle, hrecord', isAccepted, isRejected, isApplied]
  next record hrecord =>
  have hrecord' : record? text = some record := hrecord
  have hsetUp := h.processMessage record.topic record.payload
  by_cases htopic : settings.accepts record.topic = true
  · have haccepts := (h.accepts record.topic).trans htopic
    cases hpayload : record.payload.document? with
    | none =>
      rw [Engine.processMessage_malformed haccepts hpayload]
      refine ⟨⟨?_, ?_, ?_, ?_, ?_⟩, h, fun _ => rfl⟩ <;>
        simp [hidle, hrecord', htopic, hpayload, isAccepted, isRejected, isApplied]
    | some document =>
      obtain ⟨report, hok, haccepted⟩ := Engine.processDocument_ok (h.keyspace ▸ halarm)
        (h.keyspace ▸ hstatus) record.topic document
      have happlied : isApplied settings text = true := by
        simp [hrecord', htopic, hpayload, isApplied]
      rw [Engine.processMessage_document haccepts hpayload] at hsetUp ⊢
      rw [hok]
      refine ⟨⟨?_, ?_, ?_, ?_, ?_⟩, hsetUp, fun hnot => ?_⟩
      · simp [hidle]
      · simp [hrecord']
      · simp [hrecord', htopic, haccepted, isAccepted]
      · simp [hrecord', hpayload, isRejected]
      · simp only [happlied, if_true]
        split <;> omega
      · rw [happlied] at hnot
        cases hnot
  · have haccepts : engine.accepts record.topic = false := by
      rw [h.accepts]
      exact Bool.eq_false_iff.mpr htopic
    rw [Engine.processMessage_ignored haccepts]
    refine ⟨⟨?_, ?_, ?_, ?_, ?_⟩, h, fun _ => rfl⟩ <;>
      simp [hidle, hrecord', htopic, isAccepted, isRejected, isApplied]

/-! ### A whole capture -/

/-- The engine and the account after a line. -/
def feed (state : Engine × ReplayStats) (text : String) : Engine × ReplayStats :=
  let step := line state.1 state.2 text
  (step.engine, step.stats)

/-- The engine and the account after lines that a fresh engine is fed with. -/
def replayed (settings : EngineSettings) (texts : List String) : Engine × ReplayStats :=
  texts.foldl feed (.ofSettings settings, {})

/-- The account of lines: how many are not idle, how many of those are no records, how many are
records of a topic that is taken, and for how many of those the payload is no document. No line but
one that is applied ends in a reconciliation. -/
structure Counted (settings : EngineSettings) (texts : List String) (stats : ReplayStats) :
    Prop where
  lines : stats.lines = texts.countP fun text => !isIdle text
  invalid : stats.invalid = texts.countP fun text => !isIdle text && (record? text).isNone
  accepted : stats.accepted = texts.countP (isAccepted settings)
  rejected : stats.rejected = texts.countP (isRejected settings)
  reconciliations : stats.reconciliations ≤ texts.countP (isApplied settings)

theorem Counted.concat {texts : List String} {text : String} {before after : ReplayStats}
    (h : Counted settings texts before) (hadds : Adds settings text before after) :
    Counted settings (texts ++ [text]) after := by
  refine ⟨?_, ?_, ?_, ?_, ?_⟩
  · rw [hadds.lines, h.lines, List.countP_append, List.countP_singleton]
  · rw [hadds.invalid, h.invalid, List.countP_append, List.countP_singleton]
  · rw [hadds.accepted, h.accepted, List.countP_append, List.countP_singleton]
  · rw [hadds.rejected, h.rejected, List.countP_append, List.countP_singleton]
  · rw [List.countP_append, List.countP_singleton]
    exact Nat.le_trans hadds.reconciliations (Nat.add_le_add_right h.reconciliations _)

/-- What has one of two properties that exclude each other, each of which implies a third. -/
theorem countP_add_le {α : Type} {p q r : α → Bool} (hp : ∀ a, p a = true → r a = true)
    (hq : ∀ a, q a = true → r a = true) (hpq : ∀ a, p a = true → q a = false) (l : List α) :
    l.countP p + l.countP q ≤ l.countP r := by
  induction l with
  | nil => exact Nat.le_refl 0
  | cons a rest ih =>
    simp only [List.countP_cons]
    cases hpa : p a with
    | true =>
      rw [hp a hpa, hpq a hpa]
      simp only [if_true, Bool.false_eq_true, if_false]
      omega
    | false =>
      cases hqa : q a with
      | true =>
        rw [hq a hqa]
        simp only [if_true, Bool.false_eq_true, if_false]
        omega
      | false =>
        simp only [Bool.false_eq_true, if_false]
        split <;> omega

/-- Records of topics that are taken are lines, and lines that are no records are others. -/
theorem Counted.invalid_add_accepted_le {texts : List String} {stats : ReplayStats}
    (h : Counted settings texts stats) : stats.invalid + stats.accepted ≤ stats.lines := by
  rw [h.invalid, h.accepted, h.lines]
  refine countP_add_le ?_ ?_ ?_ texts
  · intro text hinvalid
    exact (Bool.and_eq_true_iff.mp hinvalid).1
  · intro text haccepted
    cases hidle : isIdle text with
    | false => rfl
    | true =>
      rw [isAccepted, record?_of_isIdle hidle] at haccepted
      cases haccepted
  · intro text hinvalid
    have hnone := (Bool.and_eq_true_iff.mp hinvalid).2
    rw [isAccepted, Option.isNone_iff_eq_none.mp hnone]
    rfl

/-- A message that is taken is rejected or applied. -/
theorem Counted.reconciliations_le {texts : List String} {stats : ReplayStats}
    (h : Counted settings texts stats) :
    stats.rejected ≤ stats.accepted ∧ stats.reconciliations ≤ stats.accepted - stats.rejected := by
  have hle : texts.countP (isApplied settings) + texts.countP (isRejected settings) ≤
      texts.countP (isAccepted settings) := by
    refine countP_add_le ?_ ?_ ?_ texts <;> intro text <;>
      cases hrecord : record? text <;>
        simp +contextual [isApplied, isRejected, isAccepted, hrecord]
  have hreconciliations := h.reconciliations
  rw [h.rejected, h.accepted]
  omega

section Run

variable (halarm : settings.keyspace.alarmKey ≠ "") (hstatus : settings.keyspace.statusKey ≠ "")
include halarm hstatus

theorem counted_replayed (texts : List String) :
    (replayed settings texts).1.SetUp settings ∧
      Counted settings texts (replayed settings texts).2 := by
  induction texts using List.reverseRecOn with
  | nil => exact ⟨⟨rfl, rfl⟩, ⟨rfl, rfl, rfl, rfl, Nat.le_refl 0⟩⟩
  | append_singleton texts text ih =>
    obtain ⟨hsetUp, hcounted⟩ := ih
    obtain ⟨hadds, hsetUp', -⟩ := adds_line hsetUp halarm hstatus (replayed settings texts).2 text
    have hstep : replayed settings (texts ++ [text]) = feed (replayed settings texts) text := by
      rw [replayed, List.foldl_append]
      rfl
    rw [hstep]
    exact ⟨hsetUp', hcounted.concat hadds⟩

omit halarm hstatus in
theorem engine_line (engine : Engine) (stats other : ReplayStats) (text : String) :
    (line engine stats text).engine = (line engine other text).engine := by
  unfold line
  split
  · rfl
  · simp only
    split
    · rfl
    · split <;> rfl

/-- The engine is the same after the lines that are applied. -/
theorem engine_foldl_filter (texts : List String) {engine : Engine} (h : engine.SetUp settings)
    (stats other : ReplayStats) :
    (texts.foldl feed (engine, stats)).1 =
      ((texts.filter (isApplied settings)).foldl feed (engine, other)).1 := by
  induction texts generalizing engine stats other with
  | nil => rfl
  | cons text rest ih =>
    obtain ⟨-, hsetUp, hbad⟩ := adds_line h halarm hstatus stats text
    rw [List.foldl_cons, List.filter_cons]
    split
    · rw [List.foldl_cons, feed, feed, engine_line engine stats other text]
      exact ih (engine_line engine stats other text ▸ hsetUp) _ _
    · next hnot =>
      rw [feed, hbad (Bool.eq_false_iff.mpr hnot)]
      exact ih h _ _

/-- A message fails only where it is taken and its payload is no document. -/
theorem malformed_of_error (h : engine.SetUp settings) {topic : String} {payload : Engine.Payload}
    {e : Error} (herror : (engine.processMessage topic payload).result = .error e) :
    settings.accepts topic = true ∧ payload.document? = none ∧
      e = .malformedPayload topic "not a JSON document" := by
  cases haccepts : engine.accepts topic with
  | false =>
    rw [Engine.processMessage_ignored haccepts] at herror
    cases herror
  | true =>
    cases hpayload : payload.document? with
    | none =>
      rw [Engine.processMessage_malformed haccepts hpayload] at herror
      exact ⟨h.accepts topic ▸ haccepts, rfl, (Except.error.inj herror).symm⟩
    | some document =>
      obtain ⟨report, hok, -⟩ := Engine.processDocument_ok (h.keyspace ▸ halarm)
        (h.keyspace ▸ hstatus) topic document
      rw [Engine.processMessage_document haccepts hpayload, hok] at herror
      cases herror

end Run

/-- Under settings that were found valid, a capture leads to the engine that the lines lead to which
are records of topics that are taken and whose payloads are documents; every other line leaves it as
it is. The lines are counted for what they are. No message fails but for its payload, so there are
no more reconciliations than messages that were taken and not rejected. -/
theorem bad_lines_change_nothing (s : Settings) (hvalid : s.validate = .ok ())
    (texts : List String) :
    let engine := (replayed s.engine texts).1
    let stats := (replayed s.engine texts).2
    engine = (replayed s.engine (texts.filter (isApplied s.engine))).1 ∧
      Counted s.engine texts stats ∧
      (∀ topic payload e, (engine.processMessage topic payload).result = .error e →
        s.engine.accepts topic = true ∧ payload.document? = none ∧
          e = .malformedPayload topic "not a JSON document") ∧
      stats.invalid + stats.accepted ≤ stats.lines ∧ stats.rejected ≤ stats.accepted ∧
      stats.reconciliations ≤ stats.accepted - stats.rejected := by
  obtain ⟨halarm, hstatus⟩ := Settings.channels_ne_of_validate hvalid
  obtain ⟨hsetUp, hcounted⟩ := counted_replayed halarm hstatus texts
  intro engine stats
  obtain ⟨hrejected, hreconciliations⟩ := hcounted.reconciliations_le
  exact ⟨engine_foldl_filter halarm hstatus texts ⟨rfl, rfl⟩ {} {}, hcounted,
    fun _ _ _ herror => malformed_of_error halarm hstatus hsetUp herror,
    hcounted.invalid_add_accepted_le, hrejected, hreconciliations⟩

/-- A line of each kind: a comment, no record, a topic that is not taken, a payload that is no
document, and a message that is applied. -/
def mixedLines : List String :=
  ["# capture", "no record", "[\"elsewhere\", 1]", "[\"mbdetnrs/1.0/sensors/devices\", \"[\"]",
    " [\"mbdetnrs/1.0/sensors/devices\", 1]"]

theorem bad_lines_change_nothing_mixed :
    ({} : Settings).validate = .ok () ∧
      mixedLines.countP (fun text => !isIdle text) = 4 ∧
      mixedLines.countP (isAccepted {}) = 2 ∧ mixedLines.countP (isRejected {}) = 1 ∧
      (replayed ({} : Settings).engine mixedLines).1 =
        (replayed ({} : Settings).engine
          (mixedLines.filter (isApplied ({} : Settings).engine))).1 ∧
      Counted ({} : Settings).engine mixedLines
        (replayed ({} : Settings).engine mixedLines).2 := by
  have hvalid : ({} : Settings).validate = .ok () := by decide
  obtain ⟨hengine, hcounted, -⟩ := bad_lines_change_nothing {} hvalid mixedLines
  exact ⟨hvalid, by decide +kernel, by decide +kernel, by decide +kernel, hengine, hcounted⟩

end Replay

end RackTelemetry
