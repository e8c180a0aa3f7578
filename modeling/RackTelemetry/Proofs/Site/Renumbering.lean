import RackTelemetry.Proofs.Inventory.Placement
import RackTelemetry.Proofs.Site.Relocation

/-!
Renumbering as one simultaneous relocation. The old and the new names of the moved devices overlap
when devices change places or a whole tail shifts, and devices with different numbers of contacts
have different numbers of names. All the same every value is the one its device had before: no two
moved devices write one name, so the order in which names are withdrawn and values are written does
not matter.
-/

namespace RackTelemetry

namespace Site

open KeySpace

variable {ks : KeySpace} {site : Site} {before : List (String × Nat)} {name value : String}

/-- A moved device brings a value to a name: under the entry of its old names that stands where the
name stands among its new ones, the value was found. -/
def Lands (ks : KeySpace) (site : Site) (before : List (String × Nat)) (name value : String) :
    Prop :=
  ∃ p q contacts key, Moved site.devices before p q contacts key ∧
    ∃ (j : Nat) (old : String), (ks.deviceObjectKeys p contacts)[j]? = some old ∧
      (ks.deviceObjectKeys q contacts)[j]? = some name ∧ site.store.get? old = some value

/-- A name of a moved device under its old position. -/
def Vacated (ks : KeySpace) (devices : DeviceRegistry) (before : List (String × Nat))
    (name : String) : Prop :=
  ∃ p q contacts key, Moved devices before p q contacts key ∧
    name ∈ ks.deviceObjectKeys p contacts

theorem lands_iff_step :
    Lands ks site before name value ↔
      ∃ p q contacts key, Moved site.devices before p q contacts key ∧
        ∃ s ∈ objectSteps contacts, name = ks.device q s ∧
          site.store.get? (ks.device p s) = some value := by
  constructor
  · rintro ⟨p, q, contacts, key, hmoved, j, old, hold, hnew, hvalue⟩
    obtain ⟨s, hs, rfl⟩ := getElem?_deviceObjectKeys.mp hold
    obtain ⟨t, ht, rfl⟩ := getElem?_deviceObjectKeys.mp hnew
    obtain rfl : s = t := Option.some.inj (hs.symm.trans ht)
    exact ⟨p, q, contacts, key, hmoved, s, List.mem_of_getElem? hs, rfl, hvalue⟩
  · rintro ⟨p, q, contacts, key, hmoved, s, hs, rfl, hvalue⟩
    obtain ⟨j, hj⟩ := List.mem_iff_getElem?.mp hs
    exact ⟨p, q, contacts, key, hmoved, j, ks.device p s,
      getElem?_deviceObjectKeys.mpr ⟨s, hj, rfl⟩, getElem?_deviceObjectKeys.mpr ⟨s, hj, rfl⟩, hvalue⟩

theorem lands_iff : Lands ks site before name value ↔ (name, value) ∈ luggage ks site before := by
  rw [lands_iff_step, mem_luggage]
  constructor
  · rintro ⟨p, q, contacts, key, hmoved, s, hs, rfl, hvalue⟩
    exact ⟨ks.device p s,
      mem_relocations.mpr ⟨p, q, contacts, key, hmoved, s, hs, rfl, rfl⟩, hvalue⟩
  · rintro ⟨old, hold, hvalue⟩
    obtain ⟨p, q, contacts, key, hmoved, s, hs, rfl, rfl⟩ := mem_relocations.mp hold
    exact ⟨p, q, contacts, key, hmoved, s, hs, rfl, hvalue⟩

theorem vacated_iff :
    Vacated ks site.devices before name ↔
      name ∈ (relocations ks site.devices before).map Prod.fst := by
  rw [mem_map_relocations]
  simp only [Vacated, mem_deviceObjectKeys]

theorem Lands.ne_empty (h : Lands ks site before name value) : name ≠ "" :=
  luggage_name_ne_empty (lands_iff.mp h)

section Distinct

variable (hbefore : (before.map Prod.fst).Nodup)
include hbefore

/-- Of all entries of all moved devices, only one is written under a name. -/
theorem entry_unique {p q contacts j p' q' contacts' j' : Nat} {key key' : String}
    (h : Moved site.devices before p q contacts key)
    (h' : Moved site.devices before p' q' contacts' key')
    (hname : (ks.deviceObjectKeys q contacts)[j]? = some name)
    (hname' : (ks.deviceObjectKeys q' contacts')[j']? = some name) : p = p' ∧ j = j' := by
  obtain ⟨s, hs, rfl⟩ := getElem?_deviceObjectKeys.mp hname
  obtain ⟨t, ht, hsame⟩ := getElem?_deviceObjectKeys.mp hname'
  -- the name tells the new position, where only one device stands, and its place in the list
  obtain ⟨rfl, rfl⟩ := device_inj.mp hsame
  obtain ⟨hp, rfl⟩ := h.unique hbefore h'
  have hj : j < (objectSteps contacts).length := (List.getElem?_eq_some_iff.mp hs).1
  exact ⟨hp, (List.getElem?_inj hj (nodup_objectSteps contacts)).mp (hs.trans ht.symm)⟩

theorem Lands.unique {other : String} (h : Lands ks site before name value)
    (h' : Lands ks site before name other) : other = value := by
  obtain ⟨p, q, contacts, key, hmoved, s, -, rfl, hvalue⟩ := lands_iff_step.mp h
  have hother := luggage_unique hbefore hmoved (lands_iff.mp h')
  exact Option.some.inj (hother.symm.trans hvalue)

/-- Withdrawing the vacated names and then writing what lands, each in any order, leaves every name
with what landed there, and what nobody vacated or wrote as it was. -/
theorem get?_relocated {stale : List String} {fresh : List (String × String)}
    (hstale : ∀ name, name ∈ stale ↔ Vacated ks site.devices before name)
    (hfresh : ∀ name value, (name, value) ∈ fresh ↔ Lands ks site before name value) :
    ((site.store.delMany stale).1.setMany fresh).1.get? name = some value ↔
      Lands ks site before name value ∨
        (∀ other, ¬ Lands ks site before name other) ∧ ¬ Vacated ks site.devices before name ∧
          site.store.get? name = some value := by
  have hne : ∀ write ∈ fresh, write.1 ≠ "" :=
    fun write hmem => ((hfresh write.1 write.2).mp hmem).ne_empty
  have hone : ∀ name value other, (name, value) ∈ fresh → (name, other) ∈ fresh → other = value :=
    fun name value other h h' => ((hfresh name value).mp h).unique hbefore ((hfresh name other).mp h')
  rw [Store.get?_setMany_delMany_eq_some_iff hne hone]
  simp only [hfresh, hstale]

theorem get?_renumber_eq_some_iff :
    (renumber ks site before).site.store.get? name = some value ↔
      Lands ks site before name value ∨
        (∀ other, ¬ Lands ks site before name other) ∧ ¬ Vacated ks site.devices before name ∧
          site.store.get? name = some value := by
  rw [(renumber_eq ks site before).2]
  exact get?_relocated hbefore (fun _ => vacated_iff.symm) (fun _ _ => lands_iff.symm)

/-- The outcome of renumbering does not depend on any order. -/
theorem entries_renumber {stale : List String} {fresh : List (String × String)}
    (hstale : ∀ name, name ∈ stale ↔ Vacated ks site.devices before name)
    (hfresh : ∀ name value, (name, value) ∈ fresh ↔ Lands ks site before name value) :
    (renumber ks site before).site.store.entries =
      ((site.store.delMany stale).1.setMany fresh).1.entries := by
  apply Std.ExtTreeMap.ext_getElem?
  intro name
  apply Option.ext
  intro value
  exact (get?_renumber_eq_some_iff hbefore).trans (get?_relocated hbefore hstale hfresh).symm

end Distinct

/-- What a simultaneous relocation of everything that moved devices published leaves. The moved
devices are the listed ones that stand elsewhere now. Their old and new names agree in number, and
no two of their entries are written under one name. A name holds the value that lands there, or else
what it held before unless it was vacated, so the store is the old one with the vacated names
withdrawn and the landing values written after that, in whatever order. -/
structure RelocatedAtOnce (ks : KeySpace) (site : Site) (before : List (String × Nat))
    (outcome : Outcome Unit) : Prop where
  moves : ∀ p q contacts key, Moved site.devices before p q contacts key ↔
    before[p]? = some (key, contacts) ∧ site.devices.keys[q]? = some key ∧ q ≠ p
  aligned : ∀ p q contacts,
    (ks.deviceObjectKeys p contacts).length = (ks.deviceObjectKeys q contacts).length
  apart : ∀ p q contacts key p' q' contacts' key' (j j' : Nat) name,
    Moved site.devices before p q contacts key → Moved site.devices before p' q' contacts' key' →
    (ks.deviceObjectKeys q contacts)[j]? = some name →
    (ks.deviceObjectKeys q' contacts')[j']? = some name → p = p' ∧ j = j'
  succeeds : outcome.result = .ok ()
  elsewhere : outcome.site = { site with store := outcome.site.store }
  published : ∀ name value, outcome.site.store.get? name = some value ↔
    Lands ks site before name value ∨
      (∀ other, ¬ Lands ks site before name other) ∧ ¬ Vacated ks site.devices before name ∧
        site.store.get? name = some value
  unordered : ∀ stale fresh, (∀ name, name ∈ stale ↔ Vacated ks site.devices before name) →
    (∀ name value, (name, value) ∈ fresh ↔ Lands ks site before name value) →
    outcome.site.store.entries = ((site.store.delMany stale).1.setMany fresh).1.entries

/-- Renumbering relocates everything at once, however the old and the new names overlap. -/
theorem renumber_relocates_at_once (ks : KeySpace) {site : Site} {before : List (String × Nat)}
    (hbefore : (before.map Prod.fst).Nodup) (hkeys : site.devices.keys.Nodup) :
    RelocatedAtOnce ks site before (renumber ks site before) := by
  obtain ⟨hok, hsite⟩ := renumber_eq ks site before
  refine ⟨?_, ?_, ?_, hok, ?_, fun _ _ => get?_renumber_eq_some_iff hbefore,
    fun _ _ => entries_renumber hbefore⟩
  · intro p q contacts key
    rw [← DeviceRegistry.position?_eq_some_iff hkeys]
    constructor
    · rintro ⟨hlisted, hfound, hmoved⟩
      exact ⟨hlisted, hfound, hmoved⟩
    · rintro ⟨hlisted, hfound, hmoved⟩
      exact ⟨hlisted, hfound, hmoved⟩
  · intro p q contacts
    rw [deviceObjectKeys_eq_map, deviceObjectKeys_eq_map, List.length_map, List.length_map]
  · intro p q contacts key p' q' contacts' key' j j' name h h'
    exact entry_unique hbefore h h'
  · rw [hsite]

/-- Two devices with different numbers of contacts change places. -/
theorem renumber_relocates_swapped_pair :
    let before := [("dev-a", 2), ("dev-b", 1)]
    let store := (Store.setMany {} [("ambient.1.key", "dev-a"), ("ambient.2.key", "dev-b"),
      ("ambient.1.contacts.2.status", "opened")]).1
    let site : Site := { devices := { devices := [{ key := "dev-b" }, { key := "dev-a" }] }, store }
    let after := (renumber {} site before).site.store
    (before.map Prod.fst).Nodup ∧ site.devices.keys.Nodup ∧
      after.get? "ambient.1.key" = some "dev-b" ∧ after.get? "ambient.2.key" = some "dev-a" ∧
      after.get? "ambient.2.contacts.2.status" = some "opened" := by
  intro before store site after
  have hbefore : (before.map Prod.fst).Nodup := by decide
  have hkeys : site.devices.keys.Nodup := by decide
  have hrelocated := renumber_relocates_at_once {} hbefore hkeys
  have hfirst : Moved site.devices before 0 1 2 "dev-a" := ⟨rfl, by decide, by decide⟩
  have hsecond : Moved site.devices before 1 0 1 "dev-b" := ⟨rfl, by decide, by decide⟩
  refine ⟨hbefore, hkeys, (hrelocated.published _ _).mpr (.inl ?_),
    (hrelocated.published _ _).mpr (.inl ?_), (hrelocated.published _ _).mpr (.inl ?_)⟩
  · exact ⟨1, 0, 1, _, hsecond, 0, "ambient.2.key", by decide, by decide, by decide +kernel⟩
  · exact ⟨0, 1, 2, _, hfirst, 0, "ambient.1.key", by decide, by decide, by decide +kernel⟩
  · exact ⟨0, 1, 2, _, hfirst, 26, "ambient.1.contacts.2.status", by decide, by decide,
      by decide +kernel⟩

end Site

end RackTelemetry
