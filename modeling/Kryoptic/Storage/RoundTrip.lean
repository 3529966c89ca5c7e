import Kryoptic.Storage.Json

/-!
Contract: flushing a cache with `JsonToken::from_cache` and loading the result with
`JsonToken::prime_cache` gives back every token object, under its unique id, with its persisted
attributes.

Owns: the step lemma of `prime_cache`'s inner loop on an entry `from_object` wrote
(`loadAttributes_cons`), the run lemmas of both loops (`loadAttributes_run`,
`primeObjects_run`), and the round trip itself.

The round trip holds for canonical attributes only: `from_bool` writes `CK_FALSE` or `CK_TRUE`,
so a one-byte Bool holding any other byte comes back changed.

Does not own: the per-attribute laws, which are `Kryoptic.Storage.Json`.
-/

namespace Kryoptic

/-- A permutation of a mapped list is the map of a permutation. -/
theorem exists_perm_of_perm_map {α β : Type} [DecidableEq α] (f : α → β) :
    ∀ {pairs : List β} {xs : List α}, List.Perm pairs (xs.map f) →
      ∃ ys, List.Perm ys xs ∧ pairs = ys.map f
  | [], xs, perm => by
      have empty : xs = [] := List.map_eq_nil_iff.mp (List.nil_perm.mp perm)
      exact ⟨[], by rw [empty], rfl⟩
  | _ :: rest, xs, perm => by
      obtain ⟨x, member, rfl⟩ := List.mem_map.mp (perm.subset (List.mem_cons_self _ _))
      have split : List.Perm xs (x :: xs.erase x) := List.perm_cons_erase member
      have restPerm : List.Perm rest ((xs.erase x).map f) := (perm.trans (split.map f)).cons_inv
      obtain ⟨ys, ysPerm, rfl⟩ := exists_perm_of_perm_map f restPerm
      exact ⟨x :: ys, (ysPerm.cons x).trans split.symm, rfl⟩

/-- What the round trip asks of one stored attribute: it is canonical, and its name reads back
as its id and declared type. -/
structure Loadable (names : NameTable) (a : Attribute) : Prop where
  named : names.nameToIdType (names.name a.ckType) = .ok (a.ckType, a.attrtype)
  canonical : a.canonical = true

theorem loadable_iff {names : NameTable} {a : Attribute} :
    Loadable names a ↔
      names.nameToIdType (names.name a.ckType) = .ok (a.ckType, a.attrtype) ∧ a.canonical = true :=
  ⟨fun loadable => ⟨loadable.named, loadable.canonical⟩,
    fun ⟨named, canonical⟩ => ⟨named, canonical⟩⟩

instance {names : NameTable} {a : Attribute} : Decidable (Loadable names a) :=
  decidable_of_iff _ loadable_iff.symm

/-- What the round trip asks of one token object stored under `uid`. -/
structure StoredToken (names : NameTable) (uid : List UInt8) (o : Object) : Prop where
  uniqueId : Attribute.fromString CKA_UNIQUE_ID uid ∈ o.attributes
  distinct : DistinctIds o.attributes
  loadable : ∀ a ∈ o.attributes, Loadable names a

theorem storedToken_iff {names : NameTable} {uid : List UInt8} {o : Object} :
    StoredToken names uid o ↔
      Attribute.fromString CKA_UNIQUE_ID uid ∈ o.attributes ∧ DistinctIds o.attributes ∧
        ∀ a ∈ o.attributes, Loadable names a :=
  ⟨fun stored => ⟨stored.uniqueId, stored.distinct, stored.loadable⟩,
    fun ⟨uniqueId, distinct, loadable⟩ => ⟨uniqueId, distinct, loadable⟩⟩

instance {names : NameTable} {uid : List UInt8} {o : Object} : Decidable (StoredToken names uid o) :=
  decidable_of_iff _ storedToken_iff.symm

/-- The unique id `prime_cache` has read after one more entry of a loadable attribute. -/
def uidStep (uid : Option (List UInt8)) (a : Attribute) : Option (List UInt8) :=
  if a.persisted ∧ a.ckType = CKA_UNIQUE_ID then some a.value else uid

/-- A run reads the value of the one persisted `CKA_UNIQUE_ID` attribute it meets. -/
theorem foldl_uidStep (u : Attribute) (persisted : u.persisted = true)
    (isUid : u.ckType = CKA_UNIQUE_ID) (attrs : List Attribute)
    (onlyUid : ∀ a ∈ attrs, a.persisted = true → a.ckType = CKA_UNIQUE_ID → a = u)
    (uid : Option (List UInt8)) :
    attrs.foldl uidStep uid = if u ∈ attrs then some u.value else uid := by
  induction attrs generalizing uid with
  | nil => rfl
  | cons a rest inductionHypothesis =>
      rw [List.foldl_cons, inductionHypothesis (fun b member => onlyUid b
        (List.mem_cons_of_mem _ member))]
      by_cases inRest : u ∈ rest
      · simp [inRest]
      · by_cases same : a = u
        · subst same
          simp [uidStep, persisted, isUid]
        · have skipped : ¬(a.persisted = true ∧ a.ckType = CKA_UNIQUE_ID) := fun ⟨kept, id⟩ =>
            same (onlyUid a (List.mem_cons_self _ _) kept id)
          simp [uidStep, skipped, inRest, Ne.symm same]

section Loading

variable {names : NameTable} {base64 : Base64}

/-- One pair of `from_object`'s map, as `prime_cache` loads it: a persisted attribute is set,
and a `CKA_UNIQUE_ID` one is also read as the unique id. -/
theorem loadAttributes_cons {a : Attribute} (loadable : Loadable names a)
    (uidTyped : names.nameToIdType uniqueIdName = .ok (CKA_UNIQUE_ID, .stringType))
    (uidNamed : names.name CKA_UNIQUE_ID = uniqueIdName)
    (rest : JsonMap) (obj : Object) (uid : Option (List UInt8)) :
    loadAttributes names base64 (jsonEntry names base64 a :: rest) obj uid =
      loadAttributes names base64 rest (if a.persisted then obj.setAttr a else obj)
        (uidStep uid a) := by
  simp only [jsonEntry, loadAttributes, loadable.named,
    attributeFromJson_toJsonValue base64 loadable.canonical]
  by_cases persisted : a.persisted = true
  · simp only [persisted, ↓reduceIte]
    by_cases isUid : names.name a.ckType = uniqueIdName
    · have typed : (a.ckType, a.attrtype) = (CKA_UNIQUE_ID, AttrType.stringType) := by
        have named := loadable.named
        rw [isUid, uidTyped] at named
        exact (Except.ok.inj named).symm
      obtain ⟨id, atype, value⟩ := a
      obtain ⟨rfl, rfl⟩ := Prod.mk.inj typed
      have valid : validUtf8 value = true := by
        simpa [Attribute.canonical, Attribute.wellFormed] using loadable.canonical
      simp [isUid, JsonValue.asStr, toJsonValue, Attribute.toString, valid, uidStep, persisted]
    · have notUid : a.ckType ≠ CKA_UNIQUE_ID := fun same => isUid (same ▸ uidNamed)
      simp [isUid, uidStep, notUid]
  · simp [persisted, uidStep]

/-- The inner loop over the map of loadable attributes of distinct ids: the persisted ones are
appended in the map's order. -/
theorem loadAttributes_run
    (uidTyped : names.nameToIdType uniqueIdName = .ok (CKA_UNIQUE_ID, .stringType))
    (uidNamed : names.name CKA_UNIQUE_ID = uniqueIdName) (attrs : List Attribute)
    (loadable : ∀ a ∈ attrs, Loadable names a) (obj : Object) (uid : Option (List UInt8))
    (distinct : DistinctIds (obj.attributes ++ attrs.filter (·.persisted))) :
    loadAttributes names base64 (attrs.map (jsonEntry names base64)) obj uid =
      .ok (⟨obj.handle, obj.attributes ++ attrs.filter (·.persisted)⟩,
        attrs.foldl uidStep uid) := by
  induction attrs generalizing obj uid with
  | nil => simp [loadAttributes]
  | cons a rest inductionHypothesis =>
      have restLoadable := fun b member => loadable b (List.mem_cons_of_mem _ member)
      rw [List.map_cons,
        loadAttributes_cons (loadable a (List.mem_cons_self _ _)) uidTyped uidNamed, List.foldl_cons]
      by_cases persisted : a.persisted = true
      · rw [List.filter_cons_of_pos persisted] at distinct
        have absent : a.ckType ∉ obj.attributes.map Attribute.ckType := fun inObj =>
          (List.nodup_append.mp (by simpa [DistinctIds] using distinct)).2.2 inObj
            (List.mem_cons_self _ _)
        have appended : Object.setAttrList a obj.attributes = obj.attributes ++ [a] :=
          Object.setAttrList_of_not_mem a obj.attributes absent
        rw [if_pos persisted, inductionHypothesis restLoadable _ _ (by
          show DistinctIds (Object.setAttrList a obj.attributes ++ _)
          rwa [appended, List.append_assoc])]
        simp [Object.setAttr, appended, List.filter_cons_of_pos persisted]
      · rw [List.filter_cons_of_neg persisted] at distinct
        rw [if_neg persisted, inductionHypothesis restLoadable _ _ distinct,
          List.filter_cons_of_neg persisted]

/-- One stored token object loads back as its persisted attributes, in the map's order, and
the unique id it is stored under. -/
theorem loadAttributes_fromObject (uidNamed : names.name CKA_UNIQUE_ID = uniqueIdName)
    {uid : List UInt8} {o : Object} (stored : StoredToken names uid o) :
    ∃ loaded : Object,
      loadAttributes names base64 (JsonObject.fromObject names base64 o).attributes
        (Object.new 0) none = .ok (loaded, some uid) ∧
      List.Perm loaded.attributes (o.attributes.filter (·.persisted)) := by
  have uidTyped : names.nameToIdType uniqueIdName = .ok (CKA_UNIQUE_ID, .stringType) := by
    simpa [uidNamed] using (stored.loadable _ stored.uniqueId).named
  have distinctNames : (o.attributes.map (names.name ·.ckType)).Nodup := by
    refine (stored.distinct.of_map _).map_on fun a aMember b bMember sameName => ?_
    have namedA := (stored.loadable a aMember).named
    rw [sameName, (stored.loadable b bMember).named] at namedA
    exact List.inj_on_of_nodup_map stored.distinct aMember bMember
      (Prod.mk.inj (Except.ok.inj namedA)).1.symm
  obtain ⟨attrs, attrsPerm, pairs⟩ :=
    exists_perm_of_perm_map _ (fromObject_perm names base64 o distinctNames)
  have kept : List.Perm (attrs.filter (·.persisted)) (o.attributes.filter (·.persisted)) :=
    attrsPerm.filter _
  have keptDistinct : DistinctIds ((Object.new 0).attributes ++ attrs.filter (·.persisted)) :=
    (kept.map _).nodup_iff.mpr (stored.distinct.sublist ((List.filter_sublist _).map _))
  refine ⟨⟨0, attrs.filter (·.persisted)⟩, ?_, kept⟩
  rw [pairs, loadAttributes_run uidTyped uidNamed attrs
    (fun a member => stored.loadable a (attrsPerm.subset member)) _ none keptDistinct,
    foldl_uidStep (Attribute.fromString CKA_UNIQUE_ID uid) rfl rfl attrs]
  · simp [attrsPerm.mem_iff, stored.uniqueId]
  · exact fun a member _ isUid =>
      List.inj_on_of_nodup_map stored.distinct (attrsPerm.subset member) stored.uniqueId isUid

/-- What one reloaded cache entry keeps of the entry it was flushed from: its key, and its
persisted attributes up to order. -/
def Reloads (entry reloaded : List UInt8 × Object) : Prop :=
  reloaded.1 = entry.1 ∧ List.Perm reloaded.2.attributes (entry.2.attributes.filter (·.persisted))

/-- The outer loop over the flushed objects, each stored under a key the cache does not hold
yet: every object is appended under its key. -/
theorem primeObjects_run (uidNamed : names.name CKA_UNIQUE_ID = uniqueIdName)
    (entries : List (List UInt8 × Object))
    (stored : ∀ entry ∈ entries, StoredToken names entry.1 entry.2) (cache : Cache)
    (fresh : ((cache.entries ++ entries).map Prod.fst).Nodup) :
    ∃ loaded : Cache,
      primeObjects names base64 (entries.map (JsonObject.fromObject names base64 ·.2)) cache =
        .ok loaded ∧
      ∃ reloaded, loaded.entries = cache.entries ++ reloaded ∧
        List.Forall₂ Reloads entries reloaded := by
  induction entries generalizing cache with
  | nil => exact ⟨cache, rfl, [], by simp, List.Forall₂.nil⟩
  | cons entry rest inductionHypothesis =>
      obtain ⟨obj, loading, kept⟩ :=
        loadAttributes_fromObject uidNamed (stored entry (List.mem_cons_self _ _))
      have absent : entry.1 ∉ cache.entries.map Prod.fst := by
        simp only [List.map_append, List.map_cons, List.nodup_append, List.nodup_cons] at fresh
        exact fun inCache => fresh.2.2 inCache (List.mem_cons_self _ _)
      have appended : (cache.store entry.1 obj).entries = cache.entries ++ [(entry.1, obj)] :=
        storeEntries_keys_of_not_mem _ _ _ absent
      obtain ⟨loaded, priming, reloaded, loadedEntries, reloads⟩ :=
        inductionHypothesis (fun other member => stored other (List.mem_cons_of_mem _ member))
          (cache.store entry.1 obj) (by simpa [appended] using fresh)
      refine ⟨loaded, by rw [List.map_cons, primeObjects, loading]; exact priming,
        (entry.1, obj) :: reloaded,
        by simp [loadedEntries, appended], List.Forall₂.cons ⟨rfl, kept⟩ reloads⟩

end Loading

/-- Flushing a cache and priming an empty cache from the flushed token: when every token object
is stored under its own `CKA_UNIQUE_ID`, holds one attribute per id, and has only canonical
attributes whose names read back as their ids and types, and `CKA_UNIQUE_ID` is named
`CKA_UNIQUE_ID`, the load succeeds and gives back exactly the token objects, in the cache's
order, under their keys, each with its persisted attributes. -/
theorem prime_cache_from_cache_round_trip (names : NameTable) (base64 : Base64) (cache : Cache)
    (uidNamed : names.name CKA_UNIQUE_ID = uniqueIdName)
    (stored : ∀ entry ∈ cache.entries, entry.2.isToken = true → StoredToken names entry.1 entry.2) :
    ∃ loaded : Cache,
      (JsonToken.fromCache names base64 cache).primeCache names base64 Cache.empty = .ok loaded ∧
      List.Forall₂ Reloads (cache.entries.filter (·.2.isToken)) loaded.entries := by
  have objects : (JsonToken.fromCache names base64 cache).objects =
      (cache.entries.filter (·.2.isToken)).map (JsonObject.fromObject names base64 ·.2) := by
    simp [JsonToken.fromCache, List.filter_map, Function.comp_def]
  obtain ⟨loaded, priming, reloaded, loadedEntries, reloads⟩ :=
    primeObjects_run uidNamed (cache.entries.filter (·.2.isToken))
      (fun entry member => stored entry (List.mem_filter.mp member).1
        (List.mem_filter.mp member).2) Cache.empty
      (by simpa using ((List.filter_sublist _).map Prod.fst).nodup cache.keys_nodup)
  exact ⟨loaded, by rw [JsonToken.primeCache, objects]; exact priming,
    by simpa [loadedEntries] using reloads⟩

/-! ### A concrete token -/

/-- A name table from its rows `(id, name, type)`, the first row of an id or name deciding. -/
def NameTable.ofList (table : List (Nat × List UInt8 × AttrType)) : NameTable where
  name id := ((table.find? (·.1 == id)).map (·.2.1)).getD []
  nameToIdType key :=
    match table.find? (·.2.1 == key) with
    | some (id, _, atype) => .ok (id, atype)
    | none => errRv CKR_ATTRIBUTE_TYPE_INVALID

/-- The canonical names (§6, "Persisted form") of the ids of the sample tokens. -/
def sampleNames : NameTable :=
  NameTable.ofList [(CKA_UNIQUE_ID, uniqueIdName, .stringType),
    (CKA_TOKEN, "CKA_TOKEN".toList.map fun c => c.toNat.toUInt8, .boolType),
    (CKA_PRIVATE, "CKA_PRIVATE".toList.map fun c => c.toNat.toUInt8, .boolType)]

/-- A lawful codec; no sample holds a Bytes attribute, so the results do not depend on it. -/
def plainBase64 : Base64 := ⟨id, some, fun _ => rfl⟩

/-- A token object with unique id `u` whose `CKA_PRIVATE` holds the byte `b`. -/
def sampleToken (b : UInt8) : Object :=
  ⟨1, [Attribute.fromString CKA_UNIQUE_ID [0x75], Attribute.fromBool CKA_TOKEN true,
    ⟨CKA_PRIVATE, .boolType, [b]⟩]⟩

def sampleCache (b : UInt8) : Cache := ⟨[([0x75], sampleToken b)], List.nodup_singleton _⟩

theorem prime_cache_from_cache_round_trip_sample :
    sampleNames.name CKA_UNIQUE_ID = uniqueIdName ∧
      (∀ entry ∈ (sampleCache 1).entries, entry.2.isToken = true →
        StoredToken sampleNames entry.1 entry.2) ∧
      ∃ loaded : Cache,
        (JsonToken.fromCache sampleNames plainBase64 (sampleCache 1)).primeCache sampleNames
          plainBase64 Cache.empty = .ok loaded ∧
        List.Forall₂ Reloads ((sampleCache 1).entries.filter (·.2.isToken)) loaded.entries :=
  ⟨by decide, by decide, prime_cache_from_cache_round_trip sampleNames plainBase64 (sampleCache 1)
    (by decide) (by decide)⟩

/-- A well-formed one-byte Bool other than `CK_FALSE` and `CK_TRUE` does not survive: the token
with `CKA_PRIVATE = [5]` meets every other condition of the round trip, and loads back with
`CKA_PRIVATE = [1]`. -/
theorem prime_cache_from_cache_rewrites_bool_byte :
    (∀ a ∈ (sampleToken 5).attributes, a.wellFormed = true ∧
        sampleNames.nameToIdType (sampleNames.name a.ckType) = .ok (a.ckType, a.attrtype)) ∧
      Attribute.fromString CKA_UNIQUE_ID [0x75] ∈ (sampleToken 5).attributes ∧
      DistinctIds (sampleToken 5).attributes ∧ (sampleToken 5).isToken = true ∧
      sampleNames.name CKA_UNIQUE_ID = uniqueIdName ∧
      ((JsonToken.fromCache sampleNames plainBase64 (sampleCache 5)).primeCache sampleNames
          plainBase64 Cache.empty).map (·.entries) =
        .ok [([0x75], ⟨0, [Attribute.fromBool CKA_PRIVATE true, Attribute.fromBool CKA_TOKEN true,
          Attribute.fromString CKA_UNIQUE_ID [0x75]]⟩)] :=
  ⟨by decide, by decide, by decide, by decide, by decide, by rfl⟩

end Kryoptic
