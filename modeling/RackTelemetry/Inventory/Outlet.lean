import RackTelemetry.Error

/-!
The outlets of a power distribution unit, in the order of their announced list.
-/

namespace RackTelemetry

/-- One outlet: the topic it is known by and whether it can be switched, once announced. -/
structure Outlet where
  topic : Option String := none
  switchable : Option Bool := none
  deriving Repr, DecidableEq, Inhabited

/-- The outlets and how many of them there may be. -/
structure OutletRegistry where
  outlets : List Outlet := []
  maxOutlets : Nat := 0
  deriving Repr, DecidableEq, Inhabited

namespace OutletRegistry

def reset (r : OutletRegistry) (count : Nat) : Except Error OutletRegistry :=
  if r.maxOutlets < count then .error (.capacityExceeded count r.maxOutlets)
  else .ok { r with outlets := List.replicate count {} }

def update (r : OutletRegistry) (index : Nat) (change : Outlet → Outlet) :
    Except Error OutletRegistry :=
  match r.outlets[index]? with
  | some outlet => .ok { r with outlets := r.outlets.set index (change outlet) }
  | none => .error (.outOfBounds index r.outlets.length)

def setTopic (r : OutletRegistry) (index : Nat) (topic : String) : Except Error OutletRegistry :=
  if topic.isEmpty then .error .emptyKey
  else r.update index fun outlet => { outlet with topic := some topic }

def setSwitchable (r : OutletRegistry) (index : Nat) (switchable : Bool) :
    Except Error OutletRegistry :=
  r.update index fun outlet => { outlet with switchable := some switchable }

def indexOf (r : OutletRegistry) (topic : String) : Except Error Nat :=
  match r.outlets.findIdx? fun outlet => outlet.topic = some topic with
  | some index => .ok index
  | none => .error (.outletNotFound topic)

end OutletRegistry

end RackTelemetry
