import RackTelemetry.Proofs.Site.Upkeep

/-!
A whole list of devices is announced: first how many there are, then each at its position, in order.
Whatever the list was before, the announced devices end up at their positions; the induction is on
the devices announced so far, which stand at the beginning of the list. The last announcement drops
the others.
-/

namespace RackTelemetry

open KeySpace DeviceRegistry

namespace Site

variable {ks : KeySpace} {site after : Site} {keys : List String} {key : String} {i : Nat}

/-! ### One device -/

theorem keys_take_succ {r : DeviceRegistry} {devices : List Device} {index : Nat} {device : Device}
    (hindex : index ≤ devices.length) (htake : devices.take index = r.devices.take index) :
    ({ r with devices := devices.insertIdx index device } : DeviceRegistry).keys.take (index + 1) =
      r.keys.take index ++ [device.key] := by
  simp only [DeviceRegistry.keys, List.map_insertIdx]
  rw [List.take_add_one, List.take_insertIdx_eq_take_of_le _ _ _ _ (Nat.le_refl _),
    List.getElem?_insertIdx_self, if_pos (by simpa using hindex), ← List.map_take, htake,
    List.map_take]
  rfl

/-- A device that is announced right after those at the beginning is put after them. -/
theorem Mirrored.take_settle (h : Mirrored ks site) (hkey : key ≠ "")
    (hi : i ≤ site.devices.devices.length) (hnew : key ∉ site.devices.keys.take i) :
    (settleDevice ks site key i).site.devices.keys.take (i + 1) =
      site.devices.keys.take i ++ [key] := by
  cases hfound : site.devices.position? key with
  | none =>
    have hunknown := position?_eq_none_iff.mp hfound
    have hplace : (if site.devices.devices.length < i then Position.last else .index i) =
        .index i := if_neg (by omega)
    obtain ⟨store, -, -, hsite⟩ := settleDevice_new ks hfound
      (hplace ▸ add_index hkey hunknown hi)
    rw [hsite]
    exact keys_take_succ hi rfl
  | some current =>
    obtain ⟨device, hdevice, rfl⟩ := device_of_position? hfound
    have hlt : current < site.devices.devices.length := (List.getElem?_eq_some_iff.mp hdevice).1
    have hge : i ≤ current := by
      refine Nat.le_of_not_lt fun hlt' => hnew ?_
      refine List.mem_iff_getElem?.mpr ⟨current, ?_⟩
      rw [List.getElem?_take_of_lt hlt', getElem?_keys, hdevice]
      rfl
    by_cases hstay : current = i
    · subst hstay
      rw [settleDevice_stay hfound]
      simp only [done]
      rw [List.take_add_one, getElem?_keys, hdevice]
      rfl
    · have hmove := move_earlier h.distinct hdevice (by omega : i < current)
      obtain ⟨-, hsite⟩ := settleDevice_move ks hfound hstay
        (by rw [if_neg (by omega)]; exact hmove)
      rw [hsite, (renumber_eq ks _ _).2]
      refine keys_take_succ ?_ ?_
      · rw [List.length_eraseIdx_of_lt hlt]
        omega
      · exact List.take_eraseIdx_eq_take_of_le _ _ _ hge

/-! ### One device after the other -/

/-- The first `i` devices of the announced list stand at its beginning. -/
structure Placed (ks : KeySpace) (keys : List String) (before site : Site) (i : Nat) : Prop where
  mirrored : Mirrored ks site
  placed : site.devices.keys.take i = keys.take i
  declared : site.devices.declared = keys.length
  elsewhere : SameElsewhere ks before site
  carried : Carried ks before site
  kept : ∀ device ∈ before.devices.devices, device ∈ site.devices.devices

/-- The devices of a list are announced one after the other. -/
def announceAll (ks : KeySpace) (site : Site) (announced : List (String × Nat)) : Site :=
  announced.foldl (fun site entry => (announceDevice ks site entry.1 entry.2).site) site

theorem zipIdx_take_succ {α : Type} {items : List α} {item : α} {i : Nat}
    (hi : items[i]? = some item) :
    items.zipIdx.take (i + 1) = items.zipIdx.take i ++ [(item, i)] := by
  have hentry : items.zipIdx[i]? = some (item, i) := by
    rw [List.getElem?_zipIdx, hi]
    simp
  rw [List.take_add_one, hentry]
  rfl

theorem announceAll_take_succ (ks : KeySpace) (site : Site) (hi : keys[i]? = some key) :
    announceAll ks site (keys.zipIdx.take (i + 1)) =
      (announceDevice ks (announceAll ks site (keys.zipIdx.take i)) key i).site := by
  rw [zipIdx_take_succ hi]
  simp only [announceAll, List.foldl_append, List.foldl_cons, List.foldl_nil]

theorem Placed.settle {before : Site} (h : Placed ks keys before site i) (hnodup : keys.Nodup)
    (hkey : key ≠ "") (hi : keys[i]? = some key) :
    (settleDevice ks site key i).result = .ok () ∧
      Placed ks keys before (settleDevice ks site key i).site (i + 1) := by
  obtain ⟨hok, hsettled⟩ := h.mirrored.settle hkey i
  have hlt : i < keys.length := (List.getElem?_eq_some_iff.mp hi).1
  have hlength : i ≤ site.devices.devices.length := by
    have hsame := congrArg List.length h.placed
    simp only [List.length_take, length_keys] at hsame
    omega
  have hnew : key ∉ site.devices.keys.take i := by
    rw [h.placed]
    intro hmem
    obtain ⟨j, hj⟩ := List.mem_iff_getElem?.mp hmem
    rw [List.getElem?_take] at hj
    split at hj
    · next hji =>
      have := (List.getElem?_inj (by omega) hnodup).mp (hj.trans hi.symm)
      omega
    · cases hj
  refine ⟨hok, hsettled.mirrored, ?_, hsettled.declared.trans h.declared,
    h.elsewhere.trans hsettled.elsewhere, h.carried.trans hsettled.carried h.kept, ?_⟩
  · rw [h.mirrored.take_settle hkey hlength hnew, h.placed, List.take_add_one, hi]
    rfl
  · exact fun device hmem => hsettled.kept device (h.kept device hmem)

/-- All announcements but the last only settle their devices. -/
theorem Placed.announceAll {before start : Site} (hnodup : keys.Nodup)
    (hne : ∀ key ∈ keys, key ≠ "") (h : Placed ks keys before start 0) :
    ∀ i < keys.length, Placed ks keys before (announceAll ks start (keys.zipIdx.take i)) i := by
  intro i
  induction i with
  | zero => exact fun _ => h
  | succ i ih =>
    intro hi
    have hplaced := ih (by omega)
    have hkey : keys[i]? = some keys[i] := List.getElem?_eq_getElem (by omega)
    obtain ⟨hok, hsettled⟩ := hplaced.settle hnodup (hne _ (List.getElem_mem _)) hkey
    have hmore : ¬ (settleDevice ks (Site.announceAll ks start (keys.zipIdx.take i)) keys[i]
        i).site.devices.completesDeclared i = some true := by
      rw [completesDeclared_eq_true_iff, hsettled.declared]
      omega
    rw [announceAll_take_succ ks start hkey, (announceDevice_eq hok).2, if_neg hmore]
    exact hsettled

/-- What announcing a whole list leads to. -/
structure Relisted (ks : KeySpace) (keys : List String) (before after : Site) : Prop where
  mirrored : Mirrored ks after
  listed : after.devices.keys = keys
  declared : after.devices.declared = keys.length
  elsewhere : SameElsewhere ks before after
  carried : Carried ks before after

/-- The announced list becomes the list of devices, whatever it was before. -/
theorem Mirrored.relist (h : Mirrored ks site) (hnodup : keys.Nodup) (hne : ∀ key ∈ keys, key ≠ "")
    (hlength : keys.length ≤ Number.maxWord) :
    Relisted ks keys site
      (announceAll ks (countDevices ks site keys.length).site keys.zipIdx) := by
  by_cases hempty : keys = []
  · subst hempty
    have htruncated := truncated_countDevices_zero ks site
    refine ⟨h.truncated htruncated, ?_, ?_, htruncated.sameElsewhere, htruncated.carried⟩
    · simp only [announceAll, List.zipIdx_nil, List.foldl_nil, List.length_nil, DeviceRegistry.keys,
        htruncated.devices, List.take_zero, List.map_nil]
    · simp [announceAll, countDevices, note, removeAll, declare]
  · have hpos : 0 < keys.length := List.length_pos_of_ne_nil hempty
    have hcounted : (countDevices ks site keys.length).site =
        { site with devices := site.devices.declare keys.length } := by
      rw [countDevices, if_neg (by omega)]
      rfl
    have hstart : Placed ks keys site (countDevices ks site keys.length).site 0 := by
      rw [hcounted]
      exact ⟨h.of_ambient rfl fun _ _ => rfl, by simp, rfl, ⟨rfl, rfl, rfl, fun _ _ => rfl⟩,
        fun q device hq => .inl ⟨q, hq, fun _ => rfl⟩, fun _ hmem => hmem⟩
    obtain ⟨n, hn⟩ : ∃ n, keys.length = n + 1 := ⟨keys.length - 1, by omega⟩
    have hplaced := hstart.announceAll hnodup hne n (by omega)
    have hkey : keys[n]? = some keys[n] := List.getElem?_eq_getElem (by omega)
    obtain ⟨hok, hsettled⟩ := hplaced.settle hnodup (hne _ (List.getElem_mem _)) hkey
    have hwhole : keys.zipIdx = keys.zipIdx.take (n + 1) :=
      (List.take_of_length_le (by simp [hn])).symm
    have hindex : n < Number.maxWord := by omega
    have hcomplete := completesDeclared_eq_true_iff.mpr ⟨hindex, hsettled.declared.trans hn⟩
    -- the last announcement completes the list and drops what is left of the old one
    rw [hwhole, announceAll_take_succ ks _ hkey, (announceDevice_eq hok).2, if_pos hcomplete]
    generalize (settleDevice ks _ keys[n] n).site = settled at hsettled
    have htruncated := (truncated_trimTail ks settled hindex).2
    refine ⟨hsettled.mirrored.truncated htruncated, ?_, ?_,
      hsettled.elsewhere.trans htruncated.sameElsewhere,
      hsettled.carried.trans htruncated.carried hsettled.kept⟩
    · rw [DeviceRegistry.keys, htruncated.devices, List.map_take]
      exact hsettled.placed.trans (List.take_of_length_le (by omega))
    · exact (declared_trimTail ks settled n).trans hsettled.declared

/-! ### Announcing the same list again -/

section Again

variable {before again : Site} (h : Relisted ks keys before after)
  (hagain : Relisted ks keys after again)
include h hagain

/-- A device that the list names again stays where it is, with its sensors and its entries. -/
theorem Relisted.survives_again {q : Nat} {device : Device}
    (hq : again.devices.devices[q]? = some device) :
    after.devices.devices[q]? = some device ∧
      ∀ s, again.entry ks q s = after.entry ks q s := by
  have hkeys : again.devices.keys = after.devices.keys := hagain.listed.trans h.listed.symm
  rcases hagain.carried q device hq with ⟨p, hp, hentries⟩ | ⟨hnew, -, -⟩
  · have hplace : again.devices.keys[q]? = again.devices.keys[p]? := by
      rw [getElem?_keys, hq, hkeys, getElem?_keys, hp]
    have hlt : q < again.devices.keys.length := by
      rw [length_keys]
      exact (List.getElem?_eq_some_iff.mp hq).1
    obtain rfl := (List.getElem?_inj hlt hagain.mirrored.distinct).mp hplace
    exact ⟨hp, hentries⟩
  · have hmem : device.key ∈ again.devices.keys := List.mem_map_of_mem (List.mem_of_getElem? hq)
    rw [hkeys] at hmem
    exact absurd hmem hnew

theorem Relisted.devices_again : again.devices = after.devices := by
  have hlength : again.devices.devices.length = after.devices.devices.length := by
    rw [← length_keys, hagain.listed, ← h.listed, length_keys]
  have hdevices : again.devices.devices = after.devices.devices := by
    apply List.ext_getElem? fun q => ?_
    cases hq : again.devices.devices[q]? with
    | some device => exact (h.survives_again hagain hq).1.symm
    | none =>
      rw [List.getElem?_eq_none_iff, hlength] at hq
      exact (List.getElem?_eq_none_iff.mpr hq).symm
  have hdeclared := hagain.declared.trans h.declared.symm
  have hlimit := hagain.elsewhere.limit
  cases hr : again.devices
  cases hr' : after.devices
  rw [hr, hr'] at hdevices hdeclared hlimit
  simp only at hdevices hdeclared hlimit
  rw [hdevices, hdeclared, hlimit]

theorem Relisted.published_again (name : String) :
    again.store.get? name = after.store.get? name := by
  have hdevices := h.devices_again hagain
  by_cases hambient : ks.Ambient name
  · -- both sites mirror the same devices, so they publish entries of the same devices
    have hsame : ∀ q device, again.devices.devices[q]? = some device →
        name ∈ ks.deviceObjectKeys q device.contacts →
          again.store.get? name = after.store.get? name := by
      intro q device hq hmem
      obtain ⟨s, -, rfl⟩ := mem_deviceObjectKeys.mp hmem
      exact (h.survives_again hagain hq).2 s
    cases hvalue : again.store.get? name with
    | some value =>
      obtain ⟨q, device, hq, hmem⟩ := hagain.mirrored.owned name value hambient hvalue
      rw [← hvalue]
      exact hsame q device hq hmem
    | none =>
      cases hold : after.store.get? name with
      | none => rfl
      | some value =>
        obtain ⟨q, device, hq, hmem⟩ := h.mirrored.owned name value hambient hold
        rw [← hdevices] at hq
        rw [← hvalue, hsame q device hq hmem, hold]
  · exact hagain.elsewhere.published name hambient

end Again

end Site

end RackTelemetry
