import Kryoptic.Object.Core

/-!
Contract: the in-memory object cache the JSON store primes and flushes.

Owns: `Cache`, a map from unique id to object whose keys are distinct by construction, with
`store`, `search`, `fetch_by_uid` and `remove_by_uid`, and the invariant of spec §3 on the
stored objects (`Keyed`) with what each call does to it.

The module `storage::memory` is not among the sources. Everything here is modelled from the spec
(§3 "Storage cache", §4.8): the cache is a map `unique_id → Object`; `store` inserts or replaces
the object under its id; `search` returns the objects matching a template, so the empty template
returns every object; `fetch_by_uid` looks one up; `remove_by_uid` drops one. None of them fails.

Does not own: the persisted form, which is `Kryoptic.Storage.Json`.
-/

namespace Kryoptic

/-- The entries after `store(uid, obj)`: the entry under `uid` is replaced in place, or a new
one is added at the end. -/
def storeEntries (uid : List UInt8) (obj : Object) :
    List (List UInt8 × Object) → List (List UInt8 × Object)
  | [] => [(uid, obj)]
  | entry :: rest => if uid = entry.1 then (uid, obj) :: rest else entry :: storeEntries uid obj rest

theorem storeEntries_keys_of_mem (uid : List UInt8) (obj : Object)
    (entries : List (List UInt8 × Object)) (present : uid ∈ entries.map Prod.fst) :
    (storeEntries uid obj entries).map Prod.fst = entries.map Prod.fst := by
  induction entries with
  | nil => cases present
  | cons entry rest inductionHypothesis =>
      by_cases same : uid = entry.1
      · simp [storeEntries, same]
      · have inRest : uid ∈ rest.map Prod.fst := (List.mem_cons.mp present).resolve_left same
        simp [storeEntries, same, inductionHypothesis inRest]

theorem storeEntries_keys_of_not_mem (uid : List UInt8) (obj : Object)
    (entries : List (List UInt8 × Object)) (absent : uid ∉ entries.map Prod.fst) :
    storeEntries uid obj entries = entries ++ [(uid, obj)] := by
  induction entries with
  | nil => rfl
  | cons entry rest inductionHypothesis =>
      have different : uid ≠ entry.1 := fun same => absent (by simp [same])
      have notInRest : uid ∉ rest.map Prod.fst := fun inRest =>
        absent (List.mem_cons_of_mem _ inRest)
      simp [storeEntries, different, inductionHypothesis notInRest]

theorem storeEntries_keys_nodup (uid : List UInt8) (obj : Object)
    {entries : List (List UInt8 × Object)} (distinct : (entries.map Prod.fst).Nodup) :
    ((storeEntries uid obj entries).map Prod.fst).Nodup := by
  by_cases present : uid ∈ entries.map Prod.fst
  · rwa [storeEntries_keys_of_mem uid obj entries present]
  · rw [storeEntries_keys_of_not_mem uid obj entries present, List.map_append]
    exact distinct.append (List.nodup_singleton _) (List.disjoint_singleton.mpr present)

/-- Every entry after `store` is the stored one or an old one. -/
theorem mem_storeEntries {uid : List UInt8} {obj : Object} {entries : List (List UInt8 × Object)}
    {entry : List UInt8 × Object} (member : entry ∈ storeEntries uid obj entries) :
    entry = (uid, obj) ∨ entry ∈ entries := by
  induction entries with
  | nil => simpa [storeEntries] using member
  | cons head rest inductionHypothesis =>
      unfold storeEntries at member
      split at member
      · rcases List.mem_cons.mp member with same | inRest
        · exact .inl same
        · exact .inr (List.mem_cons_of_mem _ inRest)
      · rcases List.mem_cons.mp member with same | inRest
        · exact .inr (same ▸ List.mem_cons_self _ _)
        · exact (inductionHypothesis inRest).imp_right (List.mem_cons_of_mem _)

/-- Modelled from the spec: the memory cache, a map from unique id to object. -/
structure Cache where
  entries : List (List UInt8 × Object)
  keys_nodup : (entries.map Prod.fst).Nodup

namespace Cache

def empty : Cache := ⟨[], List.nodup_nil⟩

/-- Modelled from the spec: `store(uid, obj)` inserts or replaces, and always succeeds. -/
def store (cache : Cache) (uid : List UInt8) (obj : Object) : Cache :=
  ⟨storeEntries uid obj cache.entries, storeEntries_keys_nodup uid obj cache.keys_nodup⟩

/-- Modelled from the spec: `search(template)`, the objects matching the template, in the
cache's order; it always succeeds. -/
def search (cache : Cache) (template : List CK_ATTRIBUTE) : List Object :=
  (cache.entries.map Prod.snd).filter (·.matchTemplate template)

/-- Modelled from the spec: `fetch_by_uid(uid)`. -/
def fetchByUid (cache : Cache) (uid : List UInt8) : Option Object :=
  (cache.entries.find? (·.1 == uid)).map Prod.snd

/-- Modelled from the spec: `remove_by_uid(uid)` drops the entry under `uid`. The spec names no
failure; an absent id leaves the cache as it is. -/
def removeByUid (cache : Cache) (uid : List UInt8) : Cache :=
  ⟨cache.entries.filter (·.1 != uid), ((List.filter_sublist _).map Prod.fst).nodup cache.keys_nodup⟩

@[simp] theorem empty_entries : empty.entries = [] := rfl

theorem find?_storeEntries (uid : List UInt8) (obj : Object) (entries : List (List UInt8 × Object)) :
    (storeEntries uid obj entries).find? (·.1 == uid) = some (uid, obj) := by
  induction entries with
  | nil => simp [storeEntries]
  | cons entry rest inductionHypothesis =>
      by_cases same : uid = entry.1
      · simp [storeEntries, same]
      · simpa [storeEntries, same, Ne.symm same] using inductionHypothesis

/-- `store` then `fetch_by_uid` of the same id returns the object stored. -/
theorem fetchByUid_store (cache : Cache) (uid : List UInt8) (obj : Object) :
    (cache.store uid obj).fetchByUid uid = some obj := by
  simp [fetchByUid, store, find?_storeEntries]

/-- After `remove_by_uid`, `fetch_by_uid` of that id finds nothing. -/
theorem fetchByUid_removeByUid (cache : Cache) (uid : List UInt8) :
    (cache.removeByUid uid).fetchByUid uid = none := by
  simp only [fetchByUid, removeByUid, Option.map_eq_none', List.find?_eq_none]
  intro entry member
  simpa using (List.mem_filter.mp member).2

/-- The empty template matches every object. -/
@[simp] theorem search_nil (cache : Cache) : cache.search [] = cache.entries.map Prod.snd := by
  simp [search]

/-- The cache invariant of the stored objects: one attribute per id. -/
def AllDistinct (cache : Cache) : Prop := ∀ entry ∈ cache.entries, DistinctIds entry.2.attributes

theorem store_allDistinct {cache : Cache} {uid : List UInt8} {obj : Object}
    (distinct : cache.AllDistinct) (objDistinct : DistinctIds obj.attributes) :
    (cache.store uid obj).AllDistinct := fun entry member => by
  rcases mem_storeEntries member with rfl | old
  · exact objDistinct
  · exact distinct entry old

/-! ### The invariant of the stored objects -/

/-- What spec §3 asks of the object under `uid`: one attribute per id, and a `CKA_UNIQUE_ID`
equal to the key. -/
def KeyedEntry (uid : List UInt8) (obj : Object) : Prop :=
  DistinctIds obj.attributes ∧
    obj.findAttr CKA_UNIQUE_ID = some (Attribute.fromString CKA_UNIQUE_ID uid)

instance (uid : List UInt8) (obj : Object) : Decidable (KeyedEntry uid obj) :=
  inferInstanceAs (Decidable (_ ∧ _))

/-- Every entry of the cache is keyed by its object's unique id. -/
def Keyed (cache : Cache) : Prop := ∀ entry ∈ cache.entries, KeyedEntry entry.1 entry.2

theorem empty_keyed : empty.Keyed := fun _ member => nomatch member

theorem store_keyed {cache : Cache} {uid : List UInt8} {obj : Object} (keyed : cache.Keyed)
    (stored : KeyedEntry uid obj) : (cache.store uid obj).Keyed := fun entry member => by
  rcases mem_storeEntries member with rfl | old
  · exact stored
  · exact keyed entry old

theorem removeByUid_keyed {cache : Cache} (keyed : cache.Keyed) (uid : List UInt8) :
    (cache.removeByUid uid).Keyed := fun entry member =>
  keyed entry (List.mem_of_mem_filter member)

/-- What `fetch_by_uid` returns from a keyed cache is keyed by the id asked for. -/
theorem fetchByUid_keyed {cache : Cache} (keyed : cache.Keyed) {uid : List UInt8} {obj : Object}
    (fetched : cache.fetchByUid uid = some obj) : KeyedEntry uid obj := by
  obtain ⟨entry, found, rfl⟩ := Option.map_eq_some'.mp fetched
  have sameKey : entry.1 = uid := by simpa using List.find?_some found
  exact sameKey ▸ keyed entry (List.mem_of_find?_eq_some found)

/-! ### Runs of `store` -/

/-- `store` calls one after another. -/
def storeAll (cache : Cache) (pairs : List (List UInt8 × Object)) : Cache :=
  pairs.foldl (fun cache pair => cache.store pair.1 pair.2) cache

theorem lookup_eq_none_of_not_mem {entries : List (List UInt8 × Object)} {uid : List UInt8}
    (absent : uid ∉ entries.map Prod.fst) : entries.lookup uid = none :=
  List.lookup_eq_none_iff.mpr fun entry member => bne_iff_ne.mpr fun hit =>
    absent (List.mem_map.mpr ⟨entry, member, hit.symm⟩)

theorem mem_of_lookup_isSome {entries : List (List UInt8 × Object)} {uid : List UInt8}
    (found : (entries.lookup uid).isSome) : uid ∈ entries.map Prod.fst := by
  by_contra absent
  simp [lookup_eq_none_of_not_mem absent] at found

/-- `store` then a lookup: the stored object under its id, every other id as before. -/
theorem lookup_storeEntries (uid : List UInt8) (obj : Object)
    (entries : List (List UInt8 × Object)) (u : List UInt8) :
    (storeEntries uid obj entries).lookup u = if u = uid then some obj else entries.lookup u := by
  induction entries with
  | nil => simp [storeEntries, lookup_cons_ite]
  | cons entry rest inductionHypothesis =>
      obtain ⟨k, v⟩ := entry
      unfold storeEntries
      split_ifs with same <;> simp only [lookup_cons_ite, inductionHypothesis] <;> split_ifs <;>
        simp_all

/-- Two entry lists with the same ids in the same order, the ids distinct, and the same lookups
are the same list. -/
theorem entries_eq_of_lookup : ∀ {entries entries' : List (List UInt8 × Object)},
    (entries.map Prod.fst).Nodup → entries.map Prod.fst = entries'.map Prod.fst →
      (∀ u, entries.lookup u = entries'.lookup u) → entries = entries'
  | [], [], _, _, _ => rfl
  | [], _ :: _, _, keys, _ => by simp at keys
  | _ :: _, [], _, keys, _ => by simp at keys
  | (k, v) :: rest, (k', v') :: rest', distinct, keys, same => by
      simp only [List.map_cons, List.cons.injEq] at keys
      obtain ⟨rfl, restKeys⟩ := keys
      rw [List.map_cons, List.nodup_cons] at distinct
      have values : v = v' := by simpa [lookup_cons_ite] using same k
      have rests : ∀ u, rest.lookup u = rest'.lookup u := fun u => by
        by_cases atKey : u = k
        · subst atKey
          rw [lookup_eq_none_of_not_mem distinct.1,
            lookup_eq_none_of_not_mem (restKeys ▸ distinct.1)]
        · simpa [lookup_cons_ite, atKey] using same u
      rw [values, entries_eq_of_lookup distinct.2 restKeys rests]

/-- A cache is determined by the order of its ids and what they look up. -/
theorem ext_lookup {cache cache' : Cache}
    (keys : cache.entries.map Prod.fst = cache'.entries.map Prod.fst)
    (same : ∀ u, cache.entries.lookup u = cache'.entries.lookup u) : cache = cache' := by
  obtain ⟨entries, distinct⟩ := cache
  obtain ⟨entries', _⟩ := cache'
  obtain rfl := entries_eq_of_lookup distinct keys same
  rfl

/-- After a run of `store` calls an id answers with the last object stored under it, if any, and
as before otherwise. -/
theorem lookup_storeAll (pairs : List (List UInt8 × Object)) (cache : Cache) (u : List UInt8) :
    (cache.storeAll pairs).entries.lookup u = (pairs.reverse.lookup u).or (cache.entries.lookup u) := by
  induction pairs generalizing cache with
  | nil => rfl
  | cons pair rest inductionHypothesis =>
      obtain ⟨k, v⟩ := pair
      rw [storeAll, List.foldl_cons, ← storeAll, inductionHypothesis, List.reverse_cons,
        List.lookup_append, store, lookup_storeEntries, lookup_cons_ite]
      by_cases same : u = k <;> cases rest.reverse.lookup u <;> simp [same]

/-- A run of `store` calls under ids already present keeps the ids and their order. -/
theorem keys_storeAll_of_mem (pairs : List (List UInt8 × Object)) (cache : Cache)
    (present : ∀ pair ∈ pairs, pair.1 ∈ cache.entries.map Prod.fst) :
    (cache.storeAll pairs).entries.map Prod.fst = cache.entries.map Prod.fst := by
  induction pairs generalizing cache with
  | nil => rfl
  | cons pair rest inductionHypothesis =>
      have kept : (cache.store pair.1 pair.2).entries.map Prod.fst = cache.entries.map Prod.fst :=
        storeEntries_keys_of_mem _ _ _ (present pair (List.mem_cons_self _ _))
      rw [storeAll, List.foldl_cons, ← storeAll, inductionHypothesis _ fun other member =>
        kept ▸ present other (List.mem_cons_of_mem _ member), kept]

/-- Storing the same objects again changes nothing. -/
theorem storeAll_storeAll (cache : Cache) (pairs : List (List UInt8 × Object)) :
    (cache.storeAll pairs).storeAll pairs = cache.storeAll pairs := by
  have stored : ∀ pair ∈ pairs, pair.1 ∈ (cache.storeAll pairs).entries.map Prod.fst :=
    fun pair member => mem_of_lookup_isSome (by
      rw [lookup_storeAll]
      have found : (pairs.reverse.lookup pair.1).isSome :=
        List.lookup_isSome_iff.mpr ⟨pair, List.mem_reverse.mpr member, beq_self_eq_true _⟩
      cases looked : pairs.reverse.lookup pair.1 <;> simp_all)
  refine ext_lookup (keys_storeAll_of_mem pairs _ stored) fun u => ?_
  rw [lookup_storeAll, lookup_storeAll]
  cases pairs.reverse.lookup u <;> rfl

end Cache

end Kryoptic
