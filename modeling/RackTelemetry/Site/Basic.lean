import RackTelemetry.Alarm.Draft
import RackTelemetry.Inventory.Outlet
import RackTelemetry.Journal
import RackTelemetry.Naming.Template

/-!
A site: the environment devices, the outlets, the alarm list that is being received, and the
published state. Applying a value to a site has an outcome: the site afterwards, the events on the
way, and the result. A site keeps what was changed before an error.
-/

namespace RackTelemetry

/-- Everything that telemetry changes, apart from the known alarms. -/
structure Site where
  devices : DeviceRegistry := {}
  outlets : OutletRegistry := {}
  draft : AlarmDraft := {}
  store : Store := {}
  deriving Inhabited

structure Outcome (α : Type) where
  site : Site
  events : List Event
  result : Except Error α

namespace Site

/-- Nothing more happens. -/
def done (site : Site) : Outcome Unit := ⟨site, [], .ok ()⟩

/-- Only these events happen. -/
def note (site : Site) (events : List Event) : Outcome Unit := ⟨site, events, .ok ()⟩

/-- An error ends the work on a value. -/
def fail {α : Type} (site : Site) (e : Error) : Outcome α := ⟨site, [], .error e⟩

/-- Work that first has to find out what is to be done. If that fails, nothing more is done. -/
def attempt {α : Type} (site : Site) (work : Except Error (Outcome α)) : Outcome α :=
  match work with
  | .ok outcome => outcome
  | .error e => site.fail e

end Site

namespace Outcome

/-- Goes on with the site after a success. -/
def andThen {α β : Type} (first : Outcome α) (next : α → Site → Outcome β) : Outcome β :=
  match first.result with
  | .ok a =>
    let second := next a first.site
    { second with events := first.events ++ second.events }
  | .error e => ⟨first.site, first.events, .error e⟩

/-- Puts events before those of an outcome. -/
def after {α : Type} (events : List Event) (outcome : Outcome α) : Outcome α :=
  { outcome with events := events ++ outcome.events }

end Outcome

namespace Site

def put (site : Site) (key value : String) (event : Event) : Outcome Unit :=
  match site.store.set key value with
  | .ok store => { site with store }.note [event]
  | .error e => site.fail (.store e)

/-- Publishes a value for a target, under the name that the template of a rule gives. -/
def publish (ks : KeySpace) (site : Site) (template : Option KeyTemplate) (target : KeyTarget)
    (value : String) : Outcome Unit :=
  match template with
  | none => site.fail (.missingTemplate target.text)
  | some template => site.attempt do
    let key ← template.render ks target
    return site.put key value (.published key value)

def withdraw (site : Site) (keys : List String) : Site :=
  { site with store := (site.store.delMany keys).1 }

end Site

end RackTelemetry
