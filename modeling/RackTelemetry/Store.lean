import RackTelemetry.Text.Quoted
import Std.Data.ExtTreeMap

/-!
The published state: a map from names to values that also counts the writes and the deletions it was
asked for. Names are ordered by their code points, which is also the order of their UTF-8 bytes.
-/

namespace RackTelemetry

inductive StoreError where
  | invalidKey (key : String)
  deriving Repr, DecidableEq, Inhabited

def StoreError.message : StoreError → String
  | .invalidKey key => "Invalid key: " ++ Text.quote key

/-- The published values by name, and how many writes were accepted and deletions requested. The
counts of the service have 64 bits and begin anew with zero; they are these counts as long as there
are fewer than two to the power of 64 of either. -/
structure Store where
  entries : Std.ExtTreeMap String String := ∅
  sets : Nat := 0
  dels : Nat := 0

namespace Store

instance : Inhabited Store := ⟨{}⟩

def get? (store : Store) (key : String) : Option String := store.entries[key]?

def contains (store : Store) (key : String) : Bool := store.entries.contains key

def size (store : Store) : Nat := store.entries.size

/-- Publishes a value. The empty name is refused, and a refused write is not counted. -/
def set (store : Store) (key value : String) : Except StoreError Store :=
  if key.isEmpty then .error (.invalidKey key)
  else .ok { store with entries := store.entries.insert key value, sets := store.sets + 1 }

/-- Withdraws a name. The request is counted whether or not the name was published. -/
def erase (store : Store) (key : String) : Store :=
  { store with entries := store.entries.erase key, dels := store.dels + 1 }

/-- Withdraws a name, and says whether it was published. -/
def del (store : Store) (key : String) : Store × Bool := (store.erase key, store.contains key)

/-- Publishes values in order. The first refusal ends the batch, the writes before it stay. -/
def setMany (store : Store) : List (String × String) → Store × Except StoreError Unit
  | [] => (store, .ok ())
  | (key, value) :: rest =>
    match store.set key value with
    | .ok store => store.setMany rest
    | .error e => (store, .error e)

/-- Withdraws names in order, and counts those that were published. -/
def delMany (store : Store) : List String → Store × Nat
  | [] => (store, 0)
  | key :: rest =>
    let (after, n) := (store.erase key).delMany rest
    (after, (if store.contains key then 1 else 0) + n)

/-- Everything published, in ascending order of the names. -/
def toList (store : Store) : List (String × String) := store.entries.toList

/-- The published names that begin with a text, in ascending order. -/
def keysStartingWith (store : Store) (beginning : String) : List String :=
  store.entries.keys.filter fun key => beginning.toList.isPrefixOf key.toList

/-- The store without values and with fresh counts. -/
def clear (_ : Store) : Store := {}

@[simp] theorem get?_erase (store : Store) (key other : String) :
    (store.erase key).get? other = if key = other then none else store.get? other := by
  simp only [get?, erase, Std.ExtTreeMap.getElem?_erase, Std.LawfulEqCmp.compare_eq_iff_eq]

theorem get?_of_set {store after : Store} {key value : String} (h : store.set key value = .ok after)
    (other : String) : after.get? other = if key = other then some value else store.get? other := by
  unfold set at h
  split at h
  · simp at h
  · simp only [Except.ok.injEq] at h
    subst h
    simp only [get?, Std.ExtTreeMap.getElem?_insert, Std.LawfulEqCmp.compare_eq_iff_eq]

theorem get?_delMany (store : Store) (keys : List String) (other : String) :
    (store.delMany keys).1.get? other = if other ∈ keys then none else store.get? other := by
  induction keys generalizing store with
  | nil => simp [delMany]
  | cons key rest ih =>
    simp only [delMany, ih, get?_erase, List.mem_cons]
    by_cases h : other ∈ rest
    · simp [h]
    · by_cases hk : key = other
      · simp [h, hk]
      · have : other ≠ key := fun e => hk e.symm
        simp [h, hk, this]

end Store

end RackTelemetry
