import Mathlib.Algebra.GroupWithZero.Nat
import Mathlib.Data.Finmap
import Mathlib.Data.List.DropRight
import RackTelemetry.Proofs.Store.Batch

/-!
A store as a finite map that counts. Whatever is asked of a store, beginning with an empty one, it
holds the map that the requests lead to when they are carried out on a map one after the other. Its
counts are those of the writes and deletions since it was last cleared, which a counter of 64 bits
shows while they fit into it, and it answers each request as the map says.
-/

namespace RackTelemetry

/-- What can be asked of a store that may change it. -/
inductive StoreRequest where
  | set (key value : String)
  | del (key : String)
  | setMany (writes : List (String × String))
  | delMany (keys : List String)
  | clear
  deriving Repr, DecidableEq

inductive StoreAnswer where
  | written (result : Except StoreError Unit)
  | deleted (existed : Bool)
  | deletedMany (existed : Nat)
  | cleared

namespace Store

/-- The store after a request, and its answer. -/
def serve (store : Store) : StoreRequest → Store × StoreAnswer
  | .set key value =>
    match store.set key value with
    | .ok after => (after, .written (.ok ()))
    | .error e => (store, .written (.error e))
  | .del key => ((store.del key).1, .deleted (store.del key).2)
  | .setMany writes => ((store.setMany writes).1, .written (store.setMany writes).2)
  | .delMany keys => ((store.delMany keys).1, .deletedMany (store.delMany keys).2)
  | .clear => (store.clear, .cleared)

/-- The store after some requests to an empty one. -/
def served (requests : List StoreRequest) : Store :=
  requests.foldl (fun store request => (store.serve request).1) {}

end Store

/-- What is published, as a finite map. -/
abbrev Contents := Finmap fun _ : String => String

namespace StoreRequest

/-- The writes of a batch before the first one without a name. -/
def accepted (writes : List (String × String)) : List (String × String) :=
  writes.takeWhile fun write => write.1 ≠ ""

/-- The map after a request. -/
def applyTo (map : Contents) : StoreRequest → Contents
  | .set key value => if key = "" then map else map.insert key value
  | .del key => map.erase key
  | .setMany writes => (accepted writes).foldl (fun map write => map.insert write.1 write.2) map
  | .delMany keys => keys.foldl (fun map key => map.erase key) map
  | .clear => ∅

/-- The map after some requests to an empty one. -/
def contents (requests : List StoreRequest) : Contents := requests.foldl applyTo ∅

/-- What a request is answered, by the map before it. Names that are listed repeatedly are there to
be deleted only once. -/
def answer (map : Contents) : StoreRequest → StoreAnswer
  | .set key _ => .written (if key = "" then .error (.invalidKey "") else .ok ())
  | .del key => .deleted (key ∈ map)
  | .setMany writes =>
    .written (if "" ∈ writes.map Prod.fst then .error (.invalidKey "") else .ok ())
  | .delMany keys => .deletedMany (keys.toFinset ∩ map.keys).card
  | .clear => .cleared

/-- How many writes of a request are accepted. -/
def sets : StoreRequest → Nat
  | .set key _ => if key = "" then 0 else 1
  | .setMany writes => (accepted writes).length
  | .del _ | .delMany _ | .clear => 0

/-- How many deletions a request asks for. -/
def dels : StoreRequest → Nat
  | .del _ => 1
  | .delMany keys => keys.length
  | .set _ _ | .setMany _ | .clear => 0

/-- The requests after the last one that cleared the store. -/
def sinceClear (requests : List StoreRequest) : List StoreRequest :=
  requests.rtakeWhile fun request => request ≠ .clear

theorem contents_concat (requests : List StoreRequest) (request : StoreRequest) :
    contents (requests ++ [request]) = request.applyTo (contents requests) := by
  rw [contents, List.foldl_append]
  rfl

/-- A count over the requests since the last `clear` begins anew there. -/
theorem sum_sinceClear_concat (count : StoreRequest → Nat) (requests : List StoreRequest)
    (request : StoreRequest) :
    ((sinceClear (requests ++ [request])).map count).sum =
      if request = .clear then 0
      else ((sinceClear requests).map count).sum + count request := by
  by_cases h : request = .clear
  · rw [sinceClear, List.rtakeWhile_concat_neg _ _ _ (by simpa using h), if_pos h]
    rfl
  · rw [sinceClear, List.rtakeWhile_concat_pos _ _ _ (by simpa using h), if_neg h,
      List.map_append, List.sum_append]
    rfl

theorem accepted_cons_of_empty (value : String) (rest : List (String × String)) :
    accepted (("", value) :: rest) = [] := rfl

theorem accepted_cons_of_ne {key : String} (h : key ≠ "") (value : String)
    (rest : List (String × String)) :
    accepted ((key, value) :: rest) = (key, value) :: accepted rest :=
  List.takeWhile_cons_of_pos (by simpa using h)

theorem unnamed_notMem_applyTo {map : Contents} (h : "" ∉ map) (request : StoreRequest) :
    "" ∉ request.applyTo map := by
  have hinsert : ∀ {map : Contents} {key value : String}, "" ∉ map → key ≠ "" →
      "" ∉ map.insert key value := by
    intro map key value hmap hkey
    rw [Finmap.mem_insert, not_or]
    exact ⟨Ne.symm hkey, hmap⟩
  have herase : ∀ {map : Contents} {key : String}, "" ∉ map → "" ∉ map.erase key :=
    fun hmap hmem => hmap (Finmap.mem_erase.mp hmem).2
  cases request with
  | set key value =>
    rw [applyTo]
    split
    · exact h
    · next hkey => exact hinsert h hkey
  | del key => exact herase h
  | setMany writes =>
    refine List.foldlRecOn (motive := fun map : Contents => "" ∉ map) _ _ h ?_
    intro map hmap write hwrite
    have hname : write.1 ≠ "" := by simpa using List.mem_takeWhile_imp hwrite
    exact hinsert hmap hname
  | delMany keys =>
    refine List.foldlRecOn (motive := fun map : Contents => "" ∉ map) _ _ h ?_
    intro map hmap key _
    exact herase hmap
  | clear => exact Finmap.notMem_empty

/-- Nothing is ever held without a name. -/
theorem unnamed_notMem_contents (requests : List StoreRequest) : "" ∉ contents requests := by
  induction requests using List.reverseRecOn with
  | nil => exact Finmap.notMem_empty
  | append_singleton requests request ih =>
    rw [contents_concat]
    exact unnamed_notMem_applyTo ih request

end StoreRequest

namespace Store

open StoreRequest

theorem set_empty (store : Store) (value : String) :
    store.set "" value = .error (.invalidKey "") := rfl

/-! ### The same entries as a map -/

/-- A store and a map have the same entries. -/
def Agrees (store : Store) (map : Contents) : Prop := ∀ key, store.get? key = map.lookup key

section Entries

variable {store after : Store} {map : Contents}

theorem Agrees.set {key value : String} (h : store.Agrees map)
    (hset : store.set key value = .ok after) : after.Agrees (map.insert key value) := by
  intro other
  rw [get?_of_set hset]
  by_cases hkey : key = other
  · subst hkey
    rw [if_pos rfl, Finmap.lookup_insert]
  · rw [if_neg hkey, Finmap.lookup_insert_of_ne _ (Ne.symm hkey)]
    exact h other

theorem Agrees.erase (h : store.Agrees map) (key : String) :
    (store.erase key).Agrees (map.erase key) := by
  intro other
  rw [get?_erase]
  by_cases hkey : key = other
  · subst hkey
    rw [if_pos rfl, Finmap.lookup_erase]
  · rw [if_neg hkey, Finmap.lookup_erase_ne (Ne.symm hkey)]
    exact h other

theorem Agrees.setMany (h : store.Agrees map) (writes : List (String × String)) :
    (store.setMany writes).1.Agrees
      ((accepted writes).foldl (fun map write => map.insert write.1 write.2) map) := by
  induction writes generalizing store map with
  | nil => exact h
  | cons write rest ih =>
    obtain ⟨key, value⟩ := write
    by_cases hkey : key = ""
    · subst hkey
      rw [accepted_cons_of_empty]
      exact h
    · obtain ⟨after, hset⟩ := store.set_of_ne value hkey
      rw [accepted_cons_of_ne hkey, Store.setMany, hset]
      exact ih (h.set hset)

theorem Agrees.delMany (h : store.Agrees map) (keys : List String) :
    (store.delMany keys).1.Agrees (keys.foldl (fun map key => map.erase key) map) := by
  induction keys generalizing store map with
  | nil => exact h
  | cons key rest ih => exact ih (h.erase key)

theorem Agrees.serve (h : store.Agrees map) (request : StoreRequest) :
    (store.serve request).1.Agrees (request.applyTo map) := by
  cases request with
  | set key value =>
    by_cases hkey : key = ""
    · subst hkey
      exact h
    · obtain ⟨after, hset⟩ := store.set_of_ne value hkey
      rw [Store.serve, hset, applyTo, if_neg hkey]
      exact h.set hset
  | del key => exact h.erase key
  | setMany writes => exact h.setMany writes
  | delMany keys => exact h.delMany keys
  | clear => exact fun _ => rfl

/-! ### What is read off a store -/

theorem Agrees.contains_iff (h : store.Agrees map) {key : String} :
    store.contains key = true ↔ key ∈ map := by
  rw [contains_eq_isSome, h key, Finmap.lookup_isSome]

theorem mem_entries_keys (store : Store) {key : String} :
    key ∈ store.entries.keys ↔ store.contains key = true :=
  Std.ExtTreeMap.mem_keys

/-- The names are listed in strictly ascending order. -/
theorem ordered_keys (store : Store) : store.entries.keys.Pairwise (· < ·) := by
  have hcompare : store.entries.keys.Pairwise fun a b => compare a b = .lt :=
    Std.ExtTreeMap.ordered_keys
  exact hcompare.imp compareOfLessAndEq_eq_lt.mp

theorem Agrees.size (h : store.Agrees map) : store.size = map.keys.card := by
  have hkeys : store.entries.keys.toFinset = map.keys := by
    ext key
    rw [List.mem_toFinset, mem_entries_keys, h.contains_iff, Finmap.mem_keys]
  rw [← hkeys, List.toFinset_card_of_nodup Std.ExtTreeMap.nodup_keys,
    Std.ExtTreeMap.length_keys]
  rfl

theorem Agrees.mem_toList (h : store.Agrees map) {key value : String} :
    (key, value) ∈ store.toList ↔ map.lookup key = some value := by
  rw [← h key]
  exact Std.ExtTreeMap.mem_toList_iff_getElem?_eq_some

theorem Agrees.mem_keysStartingWith (h : store.Agrees map) {beginning key : String} :
    key ∈ store.keysStartingWith beginning ↔ key ∈ map ∧ beginning.toList <+: key.toList := by
  rw [keysStartingWith, List.mem_filter, mem_entries_keys, h.contains_iff,
    List.isPrefixOf_iff_prefix]

/-! ### What is answered -/

theorem setMany_answer (store : Store) (writes : List (String × String)) :
    (store.setMany writes).2 =
      if "" ∈ writes.map Prod.fst then .error (.invalidKey "") else .ok () := by
  induction writes generalizing store with
  | nil => rfl
  | cons write rest ih =>
    obtain ⟨key, value⟩ := write
    by_cases hkey : key = ""
    · subst hkey
      simp [Store.setMany, set_empty]
    · obtain ⟨after, hset⟩ := store.set_of_ne value hkey
      simp only [Store.setMany, hset, ih after, List.map_cons, List.mem_cons, Ne.symm hkey,
        false_or]

/-- Deleting many names counts each of them once, if it was there. -/
theorem Agrees.delMany_answer (h : store.Agrees map) (keys : List String) :
    (store.delMany keys).2 = (keys.toFinset ∩ map.keys).card := by
  induction keys generalizing store map with
  | nil => rfl
  | cons key rest ih =>
    have hrest := ih (h.erase key)
    rw [Finmap.keys_erase, Finset.inter_erase] at hrest
    rw [List.toFinset_cons]
    simp only [Store.delMany, hrest, h.contains_iff]
    by_cases hkey : key ∈ map
    · have hmem : key ∈ map.keys := Finmap.mem_keys.mpr hkey
      rw [if_pos hkey, Finset.insert_inter_of_mem hmem, ← Finset.erase_insert_eq_erase,
        Nat.add_comm, Finset.card_erase_add_one (Finset.mem_insert_self key _)]
    · have hmem : key ∉ map.keys := fun hmem => hkey (Finmap.mem_keys.mp hmem)
      rw [if_neg hkey, Finset.insert_inter_of_notMem hmem, Finset.erase_eq_of_notMem, Nat.zero_add]
      exact fun hboth => hmem (Finset.mem_inter.mp hboth).2

theorem Agrees.answer (h : store.Agrees map) (request : StoreRequest) :
    (store.serve request).2 = request.answer map := by
  cases request with
  | set key value =>
    by_cases hkey : key = ""
    · subst hkey
      rfl
    · obtain ⟨after, hset⟩ := store.set_of_ne value hkey
      rw [Store.serve, hset, StoreRequest.answer, if_neg hkey]
  | del key =>
    have hexisted : store.contains key = decide (key ∈ map) := by
      rw [Bool.eq_iff_iff, h.contains_iff, decide_eq_true_iff]
    rw [Store.serve, Store.del, hexisted, StoreRequest.answer]
  | setMany writes => rw [Store.serve, setMany_answer, StoreRequest.answer]
  | delMany keys => rw [Store.serve, h.delMany_answer, StoreRequest.answer]
  | clear => rfl

end Entries

/-! ### What is counted -/

/-- So many more writes and deletions are counted. -/
structure Counted (store after : Store) (sets dels : Nat) : Prop where
  sets : after.sets = store.sets + sets
  dels : after.dels = store.dels + dels

section Counts

variable {store after : Store}

theorem counted_set {key value : String} (h : store.set key value = .ok after) :
    Counted store after 1 0 := by
  unfold Store.set at h
  split at h
  · cases h
  · obtain rfl := Except.ok.inj h
    exact ⟨rfl, rfl⟩

theorem counted_setMany (store : Store) (writes : List (String × String)) :
    Counted store (store.setMany writes).1 (accepted writes).length 0 := by
  induction writes generalizing store with
  | nil => exact ⟨rfl, rfl⟩
  | cons write rest ih =>
    obtain ⟨key, value⟩ := write
    by_cases hkey : key = ""
    · subst hkey
      rw [accepted_cons_of_empty]
      exact ⟨rfl, rfl⟩
    · obtain ⟨after, hset⟩ := store.set_of_ne value hkey
      obtain ⟨hsets, hdels⟩ := counted_set hset
      obtain ⟨hrestSets, hrestDels⟩ := ih after
      simp only [accepted_cons_of_ne hkey, Store.setMany, hset, List.length_cons]
      exact ⟨by omega, by omega⟩

theorem counted_delMany (store : Store) (keys : List String) :
    Counted store (store.delMany keys).1 0 keys.length := by
  induction keys generalizing store with
  | nil => exact ⟨rfl, rfl⟩
  | cons key rest ih =>
    obtain ⟨hsets, hdels⟩ := ih (store.erase key)
    have hone : (store.erase key).sets = store.sets ∧ (store.erase key).dels = store.dels + 1 :=
      ⟨rfl, rfl⟩
    rw [List.length_cons]
    exact ⟨hsets.trans (by omega), hdels.trans (by omega)⟩

theorem counted_serve (store : Store) {request : StoreRequest} (h : request ≠ .clear) :
    Counted store (store.serve request).1 request.sets request.dels := by
  cases request with
  | set key value =>
    by_cases hkey : key = ""
    · subst hkey
      exact ⟨rfl, rfl⟩
    · obtain ⟨after, hset⟩ := store.set_of_ne value hkey
      rw [Store.serve, hset, StoreRequest.sets, if_neg hkey]
      exact counted_set hset
  | del key => exact ⟨rfl, rfl⟩
  | setMany writes => exact counted_setMany store writes
  | delMany keys => exact counted_delMany store keys
  | clear => exact absurd rfl h

end Counts

/-! ### Any sequence of requests -/

theorem served_concat (requests : List StoreRequest) (request : StoreRequest) :
    served (requests ++ [request]) = ((served requests).serve request).1 := by
  rw [served, List.foldl_append]
  rfl

theorem agrees_served (requests : List StoreRequest) :
    (served requests).Agrees (contents requests) := by
  induction requests using List.reverseRecOn with
  | nil => exact fun _ => rfl
  | append_singleton requests request ih =>
    rw [served_concat, contents_concat]
    exact ih.serve request

theorem counts_served (requests : List StoreRequest) :
    (served requests).sets = ((sinceClear requests).map StoreRequest.sets).sum ∧
      (served requests).dels = ((sinceClear requests).map StoreRequest.dels).sum := by
  induction requests using List.reverseRecOn with
  | nil => exact ⟨rfl, rfl⟩
  | append_singleton requests request ih =>
    rw [served_concat, sum_sinceClear_concat, sum_sinceClear_concat]
    by_cases h : request = .clear
    · subst h
      exact ⟨rfl, rfl⟩
    · obtain ⟨hsets, hdels⟩ := counted_serve (served requests) h
      rw [if_neg h, if_neg h, ← ih.1, ← ih.2]
      exact ⟨hsets, hdels⟩

/-- Everything that a store shows is what some requests to an empty store lead to. -/
structure Reflects (store : Store) (requests : List StoreRequest) : Prop where
  found : ∀ key, store.get? key = (contents requests).lookup key
  contained : ∀ key, store.contains key = true ↔ key ∈ contents requests
  listed : ∀ key value,
    (key, value) ∈ store.toList ↔ (contents requests).lookup key = some value
  ordered : (store.toList.map Prod.fst).Pairwise (· < ·)
  size : store.size = (contents requests).keys.card
  sets : store.sets = ((sinceClear requests).map StoreRequest.sets).sum
  dels : store.dels = ((sinceClear requests).map StoreRequest.dels).sum
  named : "" ∉ contents requests
  scanned : ∀ beginning key,
    key ∈ store.keysStartingWith beginning ↔
      key ∈ contents requests ∧ beginning.toList <+: key.toList
  scanOrdered : ∀ beginning, (store.keysStartingWith beginning).Pairwise (· < ·)
  answered : ∀ request, (store.serve request).2 = request.answer (contents requests)
  refused : ∀ value, (store.serve (.set "" value)).1 = store

/-- After any sequence of requests to an empty store, refused ones among them, the store is a finite
map with exact counts. -/
theorem served_reflects_requests (requests : List StoreRequest) :
    (served requests).Reflects requests := by
  have hagrees := agrees_served requests
  obtain ⟨hsets, hdels⟩ := counts_served requests
  have hordered := (served requests).ordered_keys
  have hlisted : (served requests).toList.map Prod.fst = (served requests).entries.keys :=
    Std.ExtTreeMap.map_fst_toList_eq_keys
  exact {
    found := hagrees
    contained := fun _ => hagrees.contains_iff
    listed := fun _ _ => hagrees.mem_toList
    ordered := hlisted ▸ hordered
    size := hagrees.size
    sets := hsets
    dels := hdels
    named := unnamed_notMem_contents requests
    scanned := fun _ _ => hagrees.mem_keysStartingWith
    scanOrdered := fun _ => hordered.filter _
    answered := hagrees.answer
    refused := fun _ => rfl }

end Store

end RackTelemetry
