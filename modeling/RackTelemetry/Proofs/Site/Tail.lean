import RackTelemetry.Proofs.Site.Placement

/-!
The tail of the list. The devices after an index are taken off one by one, the last one first, and
every one comes with the position it had. How many stay is counted in 64 bits, and at the largest
index the count has no result, although no device stands after it. A trim there always counts, an
announcement only if devices are declared: the tail is dropped after the last declared position
alone, but every position is compared with it.
-/

namespace RackTelemetry

namespace DeviceRegistry

/-- The loop behind a trim: as long as there are more than `kept` devices, the last one is taken
off. The devices that were taken off are collected with their positions. -/
def popDown (kept : Nat) (devices : List Device) (dropped : List (Nat × Device)) :
    List Device × List (Nat × Device) :=
  if hmore : kept < devices.length then
    let device := devices.getLast (List.ne_nil_of_length_pos (Nat.zero_lt_of_lt hmore))
    popDown kept devices.dropLast (dropped ++ [(devices.length - 1, device)])
  else (devices, dropped)
termination_by devices.length
decreasing_by
  rw [List.length_dropLast]
  omega

/-- The devices in `dropped` were taken off the end of `devices`, the last one first, each with its
position, and those in `rest` are left. -/
structure TakenOff (devices rest : List Device) (dropped : List (Nat × Device)) : Prop where
  whole : rest ++ (dropped.map Prod.snd).reverse = devices
  positions : dropped.map Prod.fst = (List.range' rest.length dropped.length).reverse

variable {devices rest : List Device} {dropped : List (Nat × Device)} {device : Device}
  {kept index : Nat} {r after : DeviceRegistry}

/-! ### The loop -/

theorem popDown_nil (kept : Nat) (dropped : List (Nat × Device)) :
    popDown kept [] dropped = ([], dropped) := by
  rw [popDown]
  rfl

theorem popDown_concat (kept : Nat) (devices : List Device) (device : Device)
    (dropped : List (Nat × Device)) :
    popDown kept (devices ++ [device]) dropped =
      if kept ≤ devices.length then popDown kept devices (dropped ++ [(devices.length, device)])
      else (devices ++ [device], dropped) := by
  have hlength : (devices ++ [device]).length = devices.length + 1 := by
    rw [List.length_append, List.length_singleton]
  rw [popDown]
  split
  · next hmore =>
    rw [if_pos (by omega), hlength, Nat.add_sub_cancel, List.dropLast_concat, List.getLast_concat]
  · next hfew => rw [if_neg (by omega)]

/-- Taking off one more device. -/
theorem TakenOff.pop (h : TakenOff devices (rest ++ [device]) dropped) :
    TakenOff devices rest (dropped ++ [(rest.length, device)]) := by
  constructor
  · rw [← h.whole, List.map_append, List.reverse_append, List.append_assoc]
    rfl
  · have hpositions := h.positions
    rw [List.length_append, List.length_singleton] at hpositions
    rw [List.map_append, hpositions, List.length_append, List.length_singleton, List.range'_succ,
      List.reverse_cons]
    rfl

/-- Whatever the loop takes off, it takes off from the end. -/
theorem TakenOff.popDown (h : TakenOff devices rest dropped) (kept : Nat) :
    let result := popDown kept rest dropped
    TakenOff devices result.1 result.2 := by
  -- the loop takes its list apart from the end
  induction rest using List.reverseRecOn generalizing dropped with
  | nil =>
    rw [popDown_nil]
    exact h
  | append_singleton rest device ih =>
    rw [popDown_concat]
    split
    · exact ih h.pop
    · exact h

/-- The loop takes devices off until no more than `kept` are left. -/
theorem popDown_eq (kept : Nat) (devices : List Device) (dropped : List (Nat × Device)) :
    popDown kept devices dropped = (devices.take kept, dropped ++
      (devices.zipIdx.drop kept).reverse.map fun (device, position) => (position, device)) := by
  induction devices using List.reverseRecOn generalizing dropped with
  | nil => simp only [popDown_nil, List.take_nil, List.zipIdx_nil, List.drop_nil, List.reverse_nil,
      List.map_nil, List.append_nil]
  | append_singleton devices device ih =>
    have hzip : (devices ++ [device]).zipIdx = devices.zipIdx ++ [(device, devices.length)] := by
      rw [List.zipIdx_append, Nat.zero_add]
      rfl
    rw [popDown_concat, hzip]
    split
    · next hmore =>
      rw [ih, List.take_append_of_le_length hmore,
        List.drop_append_of_le_length (by rwa [List.length_zipIdx]), List.reverse_append,
        List.append_assoc]
      rfl
    · next hfew =>
      rw [List.take_of_length_le, List.drop_of_length_le]
      · simp only [List.reverse_nil, List.map_nil, List.append_nil]
      · rw [List.length_append, List.length_zipIdx, List.length_singleton]
        omega
      · rw [List.length_append, List.length_singleton]
        omega

/-- A trim that has a result is the loop down to one device more than the index. -/
theorem popDown_of_trimAfter (h : r.trimAfter index = some (after, dropped)) :
    popDown (index + 1) r.devices [] = (after.devices, dropped) := by
  obtain ⟨-, rfl, rfl⟩ := trimAfter_eq_some h
  exact popDown_eq (index + 1) r.devices []

/-! ### Trimming -/

theorem takenOff_trimAfter (h : r.trimAfter index = some (after, dropped)) :
    TakenOff r.devices after.devices dropped := by
  have hnone : TakenOff r.devices r.devices [] := ⟨List.append_nil _, rfl⟩
  have hloop := hnone.popDown (index + 1)
  rwa [popDown_of_trimAfter h] at hloop

theorem trimAfter_of_lt (r : DeviceRegistry) (hindex : index < Number.maxWord) :
    ∃ dropped,
      r.trimAfter index =
        some ({ r with devices := r.devices.take (min r.devices.length (index + 1)) }, dropped) ∧
      TakenOff r.devices (r.devices.take (min r.devices.length (index + 1))) dropped := by
  obtain ⟨after, dropped, htrim⟩ := r.exists_trimAfter hindex
  have htaken := takenOff_trimAfter htrim
  obtain ⟨-, rfl, -⟩ := trimAfter_eq_some htrim
  rw [Nat.min_comm, ← List.take_eq_take_min]
  exact ⟨dropped, htrim, htaken⟩

end DeviceRegistry

/-! ### Where an announcement overflows -/

namespace Site

open DeviceRegistry

variable {ks : KeySpace} {site : Site}

/-- No number that is counted in some work leaves the range of a word. -/
def InRange {α : Type} (outcome : Outcome α) : Prop :=
  ∀ event ∈ outcome.events, event.isOverflow = false

theorem inRange_renumber (ks : KeySpace) (site : Site) (before : List (String × Nat)) :
    InRange (renumber ks site before) := by
  unfold renumber
  dsimp only
  split
  · exact fun _ hmem => (List.not_mem_nil hmem).elim
  · split
    · exact fun _ hmem => List.mem_singleton.mp hmem ▸ rfl
    · exact fun _ hmem => (List.not_mem_nil hmem).elim

theorem InRange.after {α : Type} {outcome : Outcome α} (h : InRange outcome) {event : Event}
    (hevent : event.isOverflow = false) : InRange (outcome.after [event]) := by
  intro other hmem
  rcases List.mem_cons.mp hmem with rfl | hmem
  · exact hevent
  · exact h other hmem

theorem InRange.andThen {α β : Type} {first : Outcome α} {next : α → Site → Outcome β}
    (h : InRange first) (hnext : ∀ a, InRange (next a first.site)) :
    InRange (first.andThen next) := by
  unfold Outcome.andThen
  split
  · intro event hmem
    rcases List.mem_append.mp hmem with hmem | hmem
    · exact h event hmem
    · exact hnext _ event hmem
  · exact h

theorem inRange_put (site : Site) (key value : String) {event : Event}
    (hevent : event.isOverflow = false) : InRange (site.put key value event) := by
  unfold put
  split
  · exact fun _ hmem => List.mem_singleton.mp hmem ▸ hevent
  · exact fun _ hmem => (List.not_mem_nil hmem).elim

theorem inRange_settle (ks : KeySpace) (site : Site) (key : String) (position : Nat) :
    InRange (settleDevice ks site key position) := by
  have hnothing : ∀ (site : Site) (result : Except Error Unit), InRange ⟨site, [], result⟩ :=
    fun _ _ _ hmem => (List.not_mem_nil hmem).elim
  unfold settleDevice
  dsimp only
  split
  · split
    · exact hnothing _ _
    · split
      · exact (inRange_renumber ks _ _).after rfl
      · exact hnothing _ _
      · exact hnothing _ _
  · split
    · split
      · exact (inRange_renumber ks _ _).andThen fun _ => inRange_put _ _ _ rfl
      · exact hnothing _ _
    · exact hnothing _ _

theorem inRange_trimTail (ks : KeySpace) (site : Site) {last : Nat}
    (hlast : last < Number.maxWord) : InRange (trimTail ks site last) := by
  obtain ⟨after, dropped, htrim⟩ := site.devices.exists_trimAfter hlast
  simp only [trimTail, htrim]
  intro event hmem
  obtain ⟨_, -, rfl⟩ := List.mem_map.mp hmem
  rfl

/-- The number of an announced position is taken if devices are declared, and only there can the
arithmetic of an announcement have no result. -/
theorem announce_overflows_iff (ks : KeySpace) (site : Site) {key : String} (hkey : key ≠ "")
    (position : Nat) :
    (∃ event ∈ (announceDevice ks site key position).events, event.isOverflow = true) ↔
      0 < site.devices.declared ∧ Number.maxWord ≤ position := by
  have hok := settleDevice_ok ks site hkey position
  have hsettled := inRange_settle ks site key position
  rw [← completesDeclared_eq_none_iff]
  simp only [announceDevice, Outcome.andThen, hok, completesDeclared_settle ks site hkey,
    List.mem_append]
  cases hlast : site.devices.completesDeclared position with
  | none => simp [note, Event.isOverflow]
  | some last =>
    refine iff_of_false ?_ (Option.some_ne_none last)
    rintro ⟨event, hmem | hmem, hoverflow⟩
    · exact absurd hoverflow (Bool.eq_false_iff.mp (hsettled event hmem))
    · cases last with
      | false => exact List.not_mem_nil hmem
      | true =>
        have hindex := (completesDeclared_eq_true_iff.mp hlast).1
        exact absurd hoverflow (Bool.eq_false_iff.mp (inRange_trimTail ks _ hindex event hmem))

end Site

namespace DeviceRegistry

/-- An announcement at the last declared position leaves as many devices as are declared. -/
theorem keys_announced {ks : KeySpace} {site : Site} {key : String} (hbuilt : site.devices.Built)
    (hdeclared : site.devices.declared ≤ Number.maxWord) (hkey : key ≠ "") (position : Nat) :
    (Site.announceDevice ks site key position).site.devices.keys =
      if position + 1 = site.devices.declared then
        (site.devices.settledKeys key position).take (position + 1)
      else site.devices.settledKeys key position := by
  have hlast : position < Number.maxWord ∧ site.devices.declared = position + 1 ↔
      position + 1 = site.devices.declared := by omega
  rw [Site.keys_announce ks hbuilt.sound.distinct hkey position]
  simp only [completesDeclared_eq_true_iff, hlast]

/-- Below the largest index, the devices after an index are taken off, the last one first, and one
more than the index stay; an index is the last announced one exactly if it is one less than the
declared number, and an announcement drops the tail then and only then. At the largest index a trim
has no result, and neither has an announcement if devices are declared. -/
theorem tail_trimmed (r : DeviceRegistry) {index : Nat} (hdeclared : r.declared ≤ Number.maxWord)
    (hindex : index ≤ Number.maxWord) :
    (index < Number.maxWord → ∃ dropped,
      r.trimAfter index =
        some ({ r with devices := r.devices.take (min r.devices.length (index + 1)) }, dropped) ∧
      TakenOff r.devices (r.devices.take (min r.devices.length (index + 1))) dropped) ∧
      (r.trimAfter index = none ↔ index = Number.maxWord) ∧
      (r.completesDeclared index = some true ↔ 0 < r.declared ∧ index = r.declared - 1) ∧
      (r.completesDeclared index = none ↔ 0 < r.declared ∧ index = Number.maxWord) ∧
      ∀ ks template site value text key, site.devices = r → r.Built →
        Value.lastSegment value = .ok key → Value.index text = .ok index →
          let outcome := Handler.deviceIndex.process ks template value [text] site
          ((∃ event ∈ outcome.events, event.isOverflow = true) ↔
              0 < r.declared ∧ index = Number.maxWord) ∧
            (¬ (0 < r.declared ∧ index = Number.maxWord) →
              outcome.result = .ok () ∧
                outcome.site.devices.keys =
                  if index + 1 = r.declared then (r.settledKeys key index).take (index + 1)
                  else r.settledKeys key index) := by
  have hlargest : index = Number.maxWord ↔ Number.maxWord ≤ index := by omega
  rw [hlargest]
  refine ⟨r.trimAfter_of_lt, trimAfter_eq_none_iff, ?_, completesDeclared_eq_none_iff, ?_⟩
  · rw [completesDeclared_eq_true_iff]
    omega
  · rintro ks template site value text key rfl hbuilt hkey hposition
    have hne : key ≠ "" := (Value.isSegment_lastSegment hkey).1
    intro outcome
    have houtcome : outcome = Site.announceDevice ks site key index :=
      Handler.process_deviceIndex ks template site hkey hposition
    rw [houtcome]
    refine ⟨Site.announce_overflows_iff ks site hne index, fun _ => ?_⟩
    exact ⟨Site.announceDevice_ok ks site hne index, keys_announced hbuilt hdeclared hne index⟩

theorem tail_trimmed_after_first :
    let r := pairOfDevices.declare 1
    let outcome := Handler.deviceIndex.process {} none "/devices/dev-b" ["0"] { devices := r }
    r.declared ≤ Number.maxWord ∧ 0 < Number.maxWord ∧ r.Built ∧
      Value.lastSegment "/devices/dev-b" = .ok "dev-b" ∧ Value.index "0" = .ok 0 ∧
      r.trimAfter 0 = some ({ r with devices := [{ key := "dev-a" }] }, [(1, { key := "dev-b" })]) ∧
      outcome.result = .ok () ∧ outcome.site.devices.keys = ["dev-b"] := by
  intro r outcome
  have hdeclared : r.declared ≤ Number.maxWord := by decide
  have hindex : 0 < Number.maxWord := by decide
  have hbuilt : r.Built := .declared 1 built_pairOfDevices
  have hkey : Value.lastSegment "/devices/dev-b" = .ok "dev-b" := by decide
  have hposition : Value.index "0" = .ok 0 := by decide
  obtain ⟨htrim, -, -, -, hannounce⟩ := tail_trimmed r hdeclared (Nat.le_of_lt hindex)
  obtain ⟨dropped, htrimmed, htaken⟩ := htrim hindex
  obtain ⟨-, hreached⟩ := hannounce {} none { devices := r } _ _ _ rfl hbuilt hkey hposition
  obtain ⟨hok, hkeys⟩ := hreached (by decide)
  refine ⟨hdeclared, hindex, hbuilt, hkey, hposition, ?_, hok, hkeys⟩
  rw [htrimmed]
  have hdropped := (Prod.mk.inj (Option.some.inj htrimmed)).2
  rw [← hdropped]
  rfl

/-- The largest index is followed by no device, and still there is no trim and no answer whether it
is the last one. -/
theorem no_trim_after_largest_index :
    let r := pairOfDevices.declare 2
    r.Built ∧ min r.devices.length (Number.maxWord + 1) = 2 ∧
      r.trimAfter Number.maxWord = none ∧ r.completesDeclared Number.maxWord = none :=
  ⟨.declared 2 built_pairOfDevices, by decide, rfl, rfl⟩

end DeviceRegistry

end RackTelemetry
