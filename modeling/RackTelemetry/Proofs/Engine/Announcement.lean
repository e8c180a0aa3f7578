import RackTelemetry.Proofs.Engine.Mirror
import RackTelemetry.Proofs.Site.Placement

/-!
One announcement of a device, after any calls of an engine that publishes under the usual roots.
Whatever positions the devices have before and after it, the published data of a device goes where
the device goes.
-/

namespace RackTelemetry

open KeySpace DeviceRegistry

/-- An announcement that succeeds names a device and a position, and announces the one at the
other. -/
theorem Handler.announced_of_ok {ks : KeySpace} {template : Option KeyTemplate} {value : String}
    {params : List String} {site : Site}
    (hok : (Handler.deviceIndex.process ks template value params site).result = .ok ()) :
    ∃ text key position, params = [text] ∧ Value.lastSegment value = .ok key ∧
      Value.index text = .ok position ∧
      Handler.deviceIndex.process ks template value params site =
        Site.announceDevice ks site key position := by
  match params with
  | [] => cases hok
  | [text] =>
    simp only [Handler.process] at hok
    cases hkey : Value.lastSegment value with
    | error e =>
      rw [hkey] at hok
      cases hok
    | ok key =>
      cases hposition : Value.index text with
      | error e =>
        rw [hkey, hposition] at hok
        cases hok
      | ok position =>
        exact ⟨text, key, position, rfl, rfl, hposition,
          process_deviceIndex ks template site hkey hposition⟩
  | _ :: _ :: _ => cases hok

namespace Site

/-- What the announcement of a device at a position leads to. -/
structure Announced (ks : KeySpace) (key : String) (position : Nat) (before after : Site) :
    Prop where
  /-- A device that is still there keeps its sensors, and each of its entries is found where it
  stands now. -/
  kept : ∀ p q old device, before.devices.devices[p]? = some old →
    after.devices.devices[q]? = some device → device.key = old.key →
      device = old ∧ ∀ s, after.entry ks q s = before.entry ks p s
  /-- A device that was not there before is the announced one. It has no sensors, and has published
  its key only. -/
  fresh : ∀ q device, after.devices.devices[q]? = some device →
    device.key ∉ before.devices.keys →
      device = { key } ∧ ∀ s, after.entry ks q s = if s = "key" then some key else none
  /-- Nothing is left of a position that the list no longer has. -/
  vacated : ∀ q s, after.devices.devices.length ≤ q → after.entry ks q s = none
  /-- Everything below the root of the devices is an entry of a device that is there. -/
  owned : ∀ name value, ks.Ambient name → after.store.get? name = some value →
    ∃ q device, after.devices.devices[q]? = some device ∧
      name ∈ ks.deviceObjectKeys q device.contacts
  /-- The other devices keep their order, and all stay but those after the last declared
  position. -/
  order : ∃ settled : List String, key ∈ settled ∧ settled.Nodup ∧
    settled.erase key = before.devices.keys.erase key ∧
    (after.devices.keys = settled ∨
      before.devices.declared = position + 1 ∧ after.devices.keys = settled.take (position + 1))
  elsewhere : ∀ name, ¬ ks.Ambient name → after.store.get? name = before.store.get? name
  outlets : after.outlets = before.outlets
  draft : after.draft = before.draft

variable {ks : KeySpace} {site : Site} {key : String}

theorem order_announce (h : Mirrored ks site) (hkey : key ≠ "") (position : Nat) :
    ∃ settled : List String, key ∈ settled ∧ settled.Nodup ∧
      settled.erase key = site.devices.keys.erase key ∧
      ((announceDevice ks site key position).site.devices.keys = settled ∨
        site.devices.declared = position + 1 ∧
          (announceDevice ks site key position).site.devices.keys =
            settled.take (position + 1)) := by
  have hkeys := keys_announce ks h.distinct hkey position
  refine ⟨site.devices.settledKeys key position,
    List.mem_of_getElem? (getElem?_settledKeys _ key position),
    nodup_settledKeys h.distinct key position, erase_settledKeys h.distinct key position, ?_⟩
  split at hkeys
  · next hlast => exact .inr ⟨(completesDeclared_eq_true_iff.mp hlast).2, hkeys⟩
  · exact .inl hkeys

/-- Whoever is not the announced device was there before. -/
theorem key_of_new (h : Mirrored ks site) (hkey : key ≠ "") (position : Nat) {other : String}
    (hthere : other ∈ (announceDevice ks site key position).site.devices.keys)
    (hnew : other ∉ site.devices.keys) : other = key := by
  obtain ⟨settled, -, -, herase, hlist⟩ := order_announce h hkey position
  have hmem : other ∈ settled := by
    rcases hlist with hlist | ⟨-, hlist⟩
    · exact hlist ▸ hthere
    · exact List.mem_of_mem_take (hlist ▸ hthere)
  by_contra hother
  have hold := (List.mem_erase_of_ne hother).mpr hmem
  rw [herase] at hold
  exact hnew (List.mem_of_mem_erase hold)

/-- On a site that mirrors its devices, an announcement carries the data of each device along. -/
theorem Mirrored.announced (h : Mirrored ks site) (hkey : key ≠ "") (position : Nat) :
    Announced ks key position site (announceDevice ks site key position).site := by
  obtain ⟨hmirrored, helsewhere⟩ := h.announce hkey position
  have hcarried := h.carried_announce hkey position
  have horder := order_announce h hkey position
  refine ⟨?_, ?_, ?_, hmirrored.owned, horder, helsewhere.published, helsewhere.outlets,
    helsewhere.draft⟩
  · intro p q old device hp hq hsame
    exact hcarried.kept h.distinct hp hq hsame.symm
  · intro q device hq hnew
    obtain ⟨-, hempty, hentries⟩ := hcarried.fresh hq hnew
    have hthere := List.mem_map_of_mem (f := Device.key) (List.mem_of_getElem? hq)
    have hannounced := key_of_new h hkey position hthere hnew
    rw [hannounced] at hempty hentries
    exact ⟨hempty, hentries⟩
  · intro q s hbeyond
    cases hentry : (announceDevice ks site key position).site.entry ks q s with
    | none => rfl
    | some value =>
      obtain ⟨device, hq, -⟩ := hmirrored.owner hentry
      rw [List.getElem?_eq_none hbeyond] at hq
      cases hq

end Site

namespace Engine

/-- After any calls, every announcement of a device that succeeds carries the published data of the
devices to their places, and takes away what was published for those that go. -/
theorem announced_data_follows (settings : EngineSettings) (calls : List Call)
    {template : Option KeyTemplate} {value : String} {params : List String}
    (hok : (Handler.deviceIndex.process {} template value params
      ((start settings).run calls).site).result = .ok ()) :
    let before := ((start settings).run calls).site
    let after := (Handler.deviceIndex.process {} template value params before).site
    ∃ text key position, params = [text] ∧ Value.lastSegment value = .ok key ∧
      Value.index text = .ok position ∧ Site.Announced {} key position before after := by
  obtain ⟨text, key, position, hparams, hkey, hposition, houtcome⟩ := Handler.announced_of_ok hok
  obtain ⟨-, hmirrored⟩ := keyspace_and_mirrored_run settings calls
  intro before after
  have hafter : after = (Site.announceDevice {} before key position).site :=
    congrArg Outcome.site houtcome
  refine ⟨text, key, position, hparams, hkey, hposition, ?_⟩
  rw [hafter]
  exact hmirrored.announced (Site.lastSegment_ne_empty hkey) position

/-- Three devices are announced, and then a list of one. -/
def trioOfDevices : List Call :=
  [.document "mbdetnrs/1.0/sensors/devices"
    (.object [("members", .list [.object [("@id", .text "/dev-a")],
      .object [("@id", .text "/dev-b")], .object [("@id", .text "/dev-c")]]),
      ("members@count", .integer 1)])]

theorem trioOfDevices_announced :
    (Handler.deviceIndex.process {} none "/dev-c" ["0"]
      ((start {}).run trioOfDevices).site).result = .ok () := by
  have hkey : Value.lastSegment "/dev-c" = .ok "dev-c" := by decide
  have hposition : Value.index "0" = .ok 0 := by decide
  rw [Handler.process_deviceIndex {} none _ hkey hposition]
  exact Site.announceDevice_ok {} _ (by decide) 0

/-- The last of three devices is announced at the front of a list of one. -/
theorem announced_data_follows_to_front :
    let before := ((start {}).run trioOfDevices).site
    let outcome := Handler.deviceIndex.process {} none "/dev-c" ["0"] before
    outcome.result = .ok () ∧
      ∃ text key position, ["0"] = [text] ∧ Value.lastSegment "/dev-c" = .ok key ∧
        Value.index text = .ok position ∧
        Site.Announced {} key position before outcome.site :=
  ⟨trioOfDevices_announced, announced_data_follows {} trioOfDevices trioOfDevices_announced⟩

end Engine

end RackTelemetry
