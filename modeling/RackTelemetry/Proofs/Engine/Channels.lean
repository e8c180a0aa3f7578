import RackTelemetry.Proofs.Engine.Mirror

/-!
After any calls of an engine that publishes under the usual roots, the two channels hold what the
known alarms contribute: a pass writes them anew, and no other message goes to their names.
-/

namespace RackTelemetry

open AlarmPass

namespace Engine

/-- The known alarms are those of the list that was reconciled last, and the channels hold what they
contribute. -/
structure ChannelsHold (site : Site) (known : AlarmRegistry) (last : List Alarm) : Prop where
  mirrored : Site.Mirrored {} site
  reported : Reported known last
  alarms : site.store.get? "ups.alarm" =
    alarmEntry (AlarmTable.card.contributed AlarmAction.text? known last)
  status : site.store.get? "ups.status" =
    statusEntry (AlarmTable.card.contributed AlarmAction.text? known last)
      (AlarmTable.card.contributed AlarmAction.flag? known last)

variable {site after : Site} {known : AlarmRegistry} {last : List Alarm}

theorem outlet_ne_channel (i : Nat) (field : String) :
    ({} : KeySpace).outlet i field ≠ "ups.alarm" ∧
      ({} : KeySpace).outlet i field ≠ "ups.status" := by
  constructor
  · intro h
    have hhead := congrArg (fun name => name.toList.head?) h
    simp [KeySpace.outlet] at hhead
  · intro h
    have hhead := congrArg (fun name => name.toList.head?) h
    simp [KeySpace.outlet] at hhead

/-- No value goes to a channel. -/
theorem ChannelsHold.change (h : ChannelsHold site known last)
    (hchange : Site.Change {} site after) : ChannelsHold after known last := by
  have hchannels : ∀ name ∈ ["ups.alarm", "ups.status"],
      ¬ ({} : KeySpace).Ambient name ∧ name ∉ TopicTable.globalNames := by
    unfold KeySpace.Ambient
    decide
  have halarm := hchannels "ups.alarm" (by simp)
  have hstatus := hchannels "ups.status" (by simp)
  refine ⟨h.mirrored.change hchange, h.reported, ?_, ?_⟩
  · rw [h.mirrored.published_elsewhere hchange halarm.1
      (fun i field => (outlet_ne_channel i field).1.symm) halarm.2]
    exact h.alarms
  · rw [h.mirrored.published_elsewhere hchange hstatus.1
      (fun i field => (outlet_ne_channel i field).2.symm) hstatus.2]
    exact h.status

/-- A pass makes the alarms of its list the known ones, and writes what they contribute. -/
theorem ChannelsHold.pass (h : ChannelsHold site known last) (received : List Alarm) :
    ChannelsHold
      { site with
        store := (AlarmTable.card.reconcile {} known site.devices site.store received).store }
      (AlarmTable.card.reconcile {} known site.devices site.store received).known received := by
  have halarm : ({} : KeySpace).alarmKey ≠ "" := by decide
  have hstatus : ({} : KeySpace).statusKey ≠ "" := by decide
  have hchannels := channels_reconcile AlarmTable.card halarm hstatus (by decide)
    h.reported.distinct site.devices site.store received
  refine ⟨h.mirrored.pass known received, ?_, hchannels.1, hchannels.2⟩
  rw [AlarmTable.known_reconcile]
  exact reported_reconcile h.reported.distinct received

variable (settings : EngineSettings) (calls : List Call)

theorem channelsHold_run :
    ((start settings).run calls).keyspace = {} ∧
      ChannelsHold ((start settings).run calls).site ((start settings).run calls).known
        ((start settings).lastReconciled calls) := by
  refine holds_after_run (P := fun ks site known last => ks = {} ∧ ChannelsHold site known last)
    ?_ ?_ (start settings) calls ⟨rfl, ?_⟩
  · rintro ks site after known last ⟨rfl, h⟩ hchange
    exact ⟨rfl, h.change hchange⟩
  · rintro ks site known last received ⟨rfl, h⟩
    exact ⟨rfl, h.pass received⟩
  · have hempty : ∀ name, (start settings).site.store.get? name = none := by
      intro name
      simp [start, ofSettings, Store.get?]
    refine ⟨mirrored_start settings, reported_nil, ?_, ?_⟩
    · rw [hempty]
      rfl
    · rw [hempty]
      rfl

/-- After any calls, `texts` and `flags` are what the rules list for the known alarms, with the code
and the topic they are known by: each entry once, at its first place in the order of the alarms of
the list that was reconciled last. The channel of active alarms holds the texts in brackets, and the
channel of status flags the flags and, when there are texts, the flag that says so. -/
theorem channels_mirror_known_alarms (settings : EngineSettings) (calls : List Call) :
    let engine := (start settings).run calls
    let last := (start settings).lastReconciled calls
    let texts := AlarmTable.card.contributed AlarmAction.text? engine.known last
    let flags := AlarmTable.card.contributed AlarmAction.flag? engine.known last
    ((∀ text, text ∈ texts ↔ ∃ alarm ∈ engine.known.alarms,
        text ∈ AlarmTable.card.entriesOf AlarmAction.text? alarm) ∧ texts.Nodup) ∧
    ((∀ flag, flag ∈ flags ↔ ∃ alarm ∈ engine.known.alarms,
        flag ∈ AlarmTable.card.entriesOf AlarmAction.flag? alarm) ∧ flags.Nodup) ∧
    engine.site.store.get? "ups.alarm" =
      (if texts = [] then none
      else some (" ".intercalate (texts.map fun text => "[" ++ text ++ "]"))) ∧
    engine.site.store.get? "ups.status" =
      if texts = [] ∧ flags = [] then none
      else some (" ".intercalate (flags ++ if texts = [] then [] else ["ALARM"])) := by
  obtain ⟨-, h⟩ := channelsHold_run settings calls
  refine ⟨⟨fun _ => h.reported.mem_contributed, nodup_eraseDups _⟩,
    ⟨fun _ => h.reported.mem_contributed, nodup_eraseDups _⟩, ?_, ?_⟩
  · exact h.alarms
  · exact h.status

/-- An overloaded input is reported twice and a bypass once, and both channels have entries. -/
theorem channels_mirror_known_alarms_overload :
    let input := "mbdetnrs/1.0/powerDistributions/1/inputs/1"
    let output := "mbdetnrs/1.0/powerDistributions/1/outputs/1"
    let calls := [Call.reconcile
      [{ id := "a", level := 2, code := "2000", topic := input },
        { id := "b", level := 1, code := "4100", topic := output },
        { id := "c", level := 2, code := "2001", topic := input }]]
    let engine := (start {}).run calls
    engine.known.alarms.length = 3 ∧
      engine.site.store.get? "ups.alarm" = some "[Input overload]" ∧
      engine.site.store.get? "ups.status" = some "OVER BYPASS ALARM" := by
  intro input output calls engine
  obtain ⟨-, -, halarm, hstatus⟩ := channels_mirror_known_alarms {} calls
  have htexts : AlarmTable.card.contributed AlarmAction.text? engine.known
      ((start {}).lastReconciled calls) = ["Input overload"] := by decide +kernel
  have hflags : AlarmTable.card.contributed AlarmAction.flag? engine.known
      ((start {}).lastReconciled calls) = ["OVER", "BYPASS"] := by decide +kernel
  rw [htexts] at halarm hstatus
  rw [hflags] at hstatus
  exact ⟨by decide +kernel, halarm, hstatus⟩

end Engine

end RackTelemetry
