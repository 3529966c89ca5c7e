import Kryoptic.Storage.RoundTrip
import Kryoptic.Object.FillTemplate

/-!
Contract: the JSON file store of `storage/json.rs`, `JsonStorage`, and what holds over every run
of its `Storage` methods.

Owns: `uninit`, `JsonToken::load`, `JsonToken::save`, `json()`, and the `Storage` impl of
`JsonStorage`: `open`, `reinit`, `flush`, `fetch_by_uid`, `store`, `search` and
`remove_by_uid`. Over them: the cache invariant of spec §3 on every state a run from `json()`
reaches; between two `open`s, the storage as a map from unique id to object that failed writes
do not disturb; what a successful write leaves in the file, and what a failed call leaves
behind; reopening the file a store wrote; and `search` with a template read back from a stored
object.

`open` runs `prime_cache` on `&mut self.cache`, so the objects stored before a failing one stay
in the cache; `primeObjectsInPlace` is that loop, and agrees with `primeObjects` whenever the
load succeeds.

Two collaborators are not among the sources and are parameters carrying their laws: the file
system of `std::fs`, where a read after a successful write returns what was written, and
`serde_json`'s text form of a token (`to_string_pretty`, `from_reader`), which reads back every
token whose maps are in key order, as every `serde_json::Map` is.

Does not own: the cache (`Kryoptic.Storage.Memory`), `from_cache` and `prime_cache`
(`Kryoptic.Storage.Json`).
-/

namespace Kryoptic

/-! ### Errors and collaborators -/

/-- The `Error` of the storage layer: a `CK_RV` error, as `Err(CKR_…)?` and `?` on a kernel
result build it, or `Error::other_error` around an I/O or `serde_json` error. -/
inductive StorageError where
  | kernel (e : KError)
  | other
deriving DecidableEq, Repr

/-- The one kind of `std::io::Error` the store tells apart from the rest. -/
inductive IoError where
  | notFound
  | other
deriving DecidableEq, Repr

/-- `uninit`: a missing file is a token that was never initialized. -/
def uninit : IoError → StorageError
  | .notFound => .kernel (.rvError CKR_CRYPTOKI_NOT_INITIALIZED)
  | .other => .other

/-- Modelled from the spec: the file system over a world `φ`, with files holding texts `τ` (the
store writes a `String`). `read` is `File::open` and the read of the file, `write` is
`std::fs::write`. A read after a successful write returns what was written. -/
structure FileSystem (φ τ : Type) where
  read : φ → List UInt8 → Except IoError τ
  write : φ → List UInt8 → τ → φ × Except IoError Unit
  read_write : ∀ w name contents w', write w name contents = (w', .ok ()) →
    read w' name = .ok contents

/-- Modelled from the spec: `serde_json`'s text form of a token. `render` is
`to_string_pretty`, which does not fail on maps with string keys; `parse` is `from_reader`,
`none` on a text that is not a token. It reads back every token a Rust value can be: one whose
maps are in key order. -/
structure JsonText (τ : Type) where
  render : JsonToken → τ
  parse : τ → Option JsonToken
  parse_render : ∀ token : JsonToken, (∀ jo ∈ token.objects, jo.attributes.Sorted) →
    parse (render token) = some token

/-- The name table reads the key `CKA_UNIQUE_ID`, and no other, as the string attribute
`CKA_UNIQUE_ID`. -/
def NameTable.ReadsUniqueId (names : NameTable) : Prop :=
  ∀ key id atype, names.nameToIdType key = .ok (id, atype) →
    (id = CKA_UNIQUE_ID ↔ key = uniqueIdName) ∧ (key = uniqueIdName → atype = .stringType)

/-- Files held in memory, a name mapped to the text last written to it; a name never written is
`NotFound`. -/
def memoryFiles (τ : Type) : FileSystem (List (List UInt8 × τ)) τ where
  read files name :=
    match files.find? (·.1 == name) with
    | some file => .ok file.2
    | none => .error .notFound
  write files name contents := ((name, contents) :: files, .ok ())
  read_write := by
    intro files name contents files' written
    cases written
    simp

/-- The token as its own text: a lawful text form, on which the results do not depend. -/
def tokenText : JsonText JsonToken := ⟨id, some, fun _ _ => rfl⟩

/-- A name table built from rows reads `CKA_UNIQUE_ID` as the unique id when its rows do. -/
theorem NameTable.ofList_readsUniqueId {table : List (Nat × List UInt8 × AttrType)}
    (rows : ∀ row ∈ table, (row.1 = CKA_UNIQUE_ID ↔ row.2.1 = uniqueIdName) ∧
      (row.2.1 = uniqueIdName → row.2.2 = .stringType)) :
    (NameTable.ofList table).ReadsUniqueId := by
  intro key id atype named
  simp only [NameTable.ofList] at named
  split at named
  · next rowId rowName rowType found =>
      cases named
      have sameName : rowName = key := by simpa using List.find?_some found
      subst sameName
      exact rows _ (List.mem_of_find?_eq_some found)
  · simp [errRv] at named

theorem sampleNames_readsUniqueId : sampleNames.ReadsUniqueId :=
  NameTable.ofList_readsUniqueId (by decide)

/-! ### `JsonStorage` -/

structure JsonStorage where
  filename : List UInt8
  cache : Cache

/-- `json()`: an empty file name and an empty memory cache. -/
def json : JsonStorage := ⟨[], Cache.empty⟩

/-- The `Storage` methods on `&mut self`, with the world of the file system. -/
abbrev StorageM (φ α : Type) := EStateM StorageError (JsonStorage × φ) α

section Methods

variable {φ τ : Type} (fs : FileSystem φ τ) (text : JsonText τ) (names : NameTable)
  (base64 : Base64)

/-- `JsonToken::load`. -/
def JsonToken.load (filename : List UInt8) (w : φ) : Except StorageError JsonToken :=
  match fs.read w filename with
  | .error e => .error (uninit e)
  | .ok contents =>
    match text.parse contents with
    | some token => .ok token
    | none => .error .other

/-- `JsonToken::save`: every write error is an `other_error`. -/
def JsonToken.save (token : JsonToken) (filename : List UInt8) (w : φ) :
    φ × Except StorageError Unit :=
  match fs.write w filename (text.render token) with
  | (w', .ok ()) => (w', .ok ())
  | (w', .error _) => (w', .error .other)

/-- `prime_cache` as `open` runs it, on `&mut self.cache`: the objects stored before a failing
one stay. -/
def primeObjectsInPlace : List JsonObject → Cache → Cache × KResult Unit
  | [], cache => (cache, .ok ())
  | jo :: rest, cache =>
    match loadAttributes names base64 jo.attributes (Object.new 0) none with
    | .error e => (cache, .error e)
    | .ok (obj, some uid) => primeObjectsInPlace rest (cache.store uid obj)
    | .ok (_, none) => (cache, errRv CKR_DEVICE_ERROR)

namespace JsonStorage

/-- `open`: the file name is recorded before the file is read. -/
def «open» (filename : List UInt8) : StorageM φ Unit := fun (st, w) =>
  match JsonToken.load fs text filename w with
  | .error e => .error e ({ st with filename := filename }, w)
  | .ok token =>
    match primeObjectsInPlace names base64 token.objects st.cache with
    | (cache, .ok ()) => .ok () (⟨filename, cache⟩, w)
    | (cache, .error e) => .error (.kernel e) (⟨filename, cache⟩, w)

/-- `reinit`, a `TODO` of the source that returns `Ok(())`. -/
def reinit : StorageM φ Unit := pure ()

/-- `flush`: the token objects of the cache, saved to the file. -/
def flush : StorageM φ Unit := fun (st, w) =>
  match (JsonToken.fromCache names base64 st.cache).save fs text st.filename w with
  | (w', .ok ()) => .ok () (st, w')
  | (w', .error e) => .error e (st, w')

/-- `fetch_by_uid`, on `&self`: the cache's answer. -/
def fetchByUid (st : JsonStorage) (uid : List UInt8) : Option Object := st.cache.fetchByUid uid

/-- `search`, on `&self`: the cache's answer. -/
def search (st : JsonStorage) (template : List CK_ATTRIBUTE) : List Object :=
  st.cache.search template

/-- What `store` and `remove_by_uid` share: the cache is changed, then flushed. -/
def changeThenFlush (change : Cache → Cache) : StorageM φ Unit := fun (st, w) =>
  flush fs text names base64 ({ st with cache := change st.cache }, w)

def store (uid : List UInt8) (obj : Object) : StorageM φ Unit :=
  changeThenFlush fs text names base64 (·.store uid obj)

def removeByUid (uid : List UInt8) : StorageM φ Unit :=
  changeThenFlush fs text names base64 (·.removeByUid uid)

end JsonStorage

/-- The calls that change a `JsonStorage`; `fetch_by_uid` and `search` only read it. -/
inductive StorageCall where
  | «open» (filename : List UInt8)
  | reinit
  | flush
  | store (uid : List UInt8) (obj : Object)
  | removeByUid (uid : List UInt8)

def StorageCall.run : StorageCall → StorageM φ Unit
  | .open filename => JsonStorage.open fs text names base64 filename
  | .reinit => JsonStorage.reinit
  | .flush => JsonStorage.flush fs text names base64
  | .store uid obj => JsonStorage.store fs text names base64 uid obj
  | .removeByUid uid => JsonStorage.removeByUid fs text names base64 uid

/-- The state a call leaves, whatever it returned. -/
def afterCall {α : Type} : EStateM.Result StorageError (JsonStorage × φ) α → JsonStorage × φ
  | .ok _ s => s
  | .error _ s => s

/-- A run of calls, each on the state the one before left, whatever it returned: a caller gets
the error and goes on. -/
def runCalls (calls : List StorageCall) (s : JsonStorage × φ) : JsonStorage × φ :=
  calls.foldl (fun s call => afterCall (call.run fs text names base64 s)) s

end Methods

/-! ### The load loops of `open` -/

/-- A loaded attribute carries the id its key was read as. -/
theorem attributeFromJson_ckType {base64 : Base64} {id : Nat} {atype : AttrType}
    {val : JsonValue} {attr : Attribute}
    (loaded : attributeFromJson base64 id atype val = .ok (some attr)) : attr.ckType = id := by
  unfold attributeFromJson at loaded
  repeat' split at loaded
  all_goals try (cases loaded; rfl)
  all_goals try simp [errRv] at loaded
  cases date : stringToCkDate ‹_› <;> simp [date, Except.map] at loaded
  exact loaded ▸ rfl

/-- What the inner loop of `prime_cache` knows of the unique id: the one it has read is the
object's `CKA_UNIQUE_ID`, and before it reads one the object has none. -/
def UidRead (obj : Object) : Option (List UInt8) → Prop
  | some uid => obj.findAttr CKA_UNIQUE_ID = some (Attribute.fromString CKA_UNIQUE_ID uid)
  | none => obj.findAttr CKA_UNIQUE_ID = none

/-- What `open`'s load takes from a token's objects, whatever the cache holds: the pairs it
stores, up to the first object that fails, and the call's result. -/
def loadObjects (names : NameTable) (base64 : Base64) :
    List JsonObject → List (List UInt8 × Object) × KResult Unit
  | [] => ([], .ok ())
  | jo :: rest =>
    match loadAttributes names base64 jo.attributes (Object.new 0) none with
    | .error e => ([], .error e)
    | .ok (obj, some uid) =>
      ((uid, obj) :: (loadObjects names base64 rest).1, (loadObjects names base64 rest).2)
    | .ok (_, none) => ([], errRv CKR_DEVICE_ERROR)

section Priming

variable {names : NameTable} {base64 : Base64}

/-- The in-place loop stores what the load takes, from whatever cache it starts. -/
theorem primeObjectsInPlace_eq (objects : List JsonObject) (cache : Cache) :
    primeObjectsInPlace names base64 objects cache =
      (cache.storeAll (loadObjects names base64 objects).1,
        (loadObjects names base64 objects).2) := by
  induction objects generalizing cache with
  | nil => rfl
  | cons jo rest inductionHypothesis =>
      rcases loading : loadAttributes names base64 jo.attributes (Object.new 0) none with
        e | ⟨obj, _ | uid⟩ <;>
        simp only [primeObjectsInPlace, loadObjects, loading, inductionHypothesis] <;> rfl

theorem loadAttributes_uidRead (readsUid : names.ReadsUniqueId) {pairs : JsonMap} {obj : Object}
    {uid : Option (List UInt8)} {loaded : Object × Option (List UInt8)}
    (loading : loadAttributes names base64 pairs obj uid = .ok loaded) (read : UidRead obj uid) :
    UidRead loaded.1 loaded.2 := by
  induction pairs generalizing obj uid with
  | nil => cases loading; exact read
  | cons pair rest inductionHypothesis =>
      obtain ⟨key, val⟩ := pair
      cases named : names.nameToIdType key with
      | error e => simp [loadAttributes, named] at loading
      | ok idType =>
          obtain ⟨id, atype⟩ := idType
          obtain ⟨isUid, stringTyped⟩ := readsUid key id atype named
          cases attrLoaded : attributeFromJson base64 id atype val with
          | error e => simp [loadAttributes, named, attrLoaded] at loading
          | ok loadedAttr =>
              cases loadedAttr with
              | none =>
                  simp only [loadAttributes, named, attrLoaded] at loading
                  exact inductionHypothesis loading read
              | some attr =>
                  by_cases keyUid : key = uniqueIdName
                  · obtain rfl := stringTyped keyUid
                    obtain rfl := isUid.mpr keyUid
                    subst keyUid
                    cases asStr : val.asStr with
                    | none => simp [loadAttributes, named, attrLoaded, asStr, errRv] at loading
                    | some s =>
                        simp only [loadAttributes, named, attrLoaded, asStr, if_true] at loading
                        refine inductionHypothesis loading ?_
                        simp only [attributeFromJson, asStr, Except.ok.injEq,
                          Option.some.injEq] at attrLoaded
                        subst attrLoaded
                        exact Object.findAttr_setAttr_self obj _
                  · have idOther : CKA_UNIQUE_ID ≠ attr.ckType := fun same =>
                      keyUid (isUid.mp ((attributeFromJson_ckType attrLoaded) ▸ same.symm))
                    simp only [loadAttributes, named, attrLoaded, keyUid, if_false] at loading
                    refine inductionHypothesis loading ?_
                    cases uid <;> simpa [UidRead, Object.findAttr_setAttr_other idOther] using read

/-- Whether `open`'s load succeeds or stops at a failing object, every object it has stored is
keyed by its unique id. -/
theorem primeObjectsInPlace_keyed (readsUid : names.ReadsUniqueId) (objects : List JsonObject)
    {cache : Cache} (keyed : cache.Keyed) :
    (primeObjectsInPlace names base64 objects cache).1.Keyed := by
  induction objects generalizing cache with
  | nil => exact keyed
  | cons jo rest inductionHypothesis =>
      unfold primeObjectsInPlace
      split
      · exact keyed
      · rename_i obj uid loading
        exact inductionHypothesis (Cache.store_keyed keyed
          ⟨loadAttributes_distinctIds loading (Object.new_distinctIds 0),
            loadAttributes_uidRead readsUid loading rfl⟩)
      · exact keyed

/-- Past a prefix that loads, the in-place loop goes on from the cache `prime_cache` gives for
that prefix. -/
theorem primeObjectsInPlace_append {pre : List JsonObject} {cache loaded : Cache}
    (priming : primeObjects names base64 pre cache = .ok loaded) (rest : List JsonObject) :
    primeObjectsInPlace names base64 (pre ++ rest) cache =
      primeObjectsInPlace names base64 rest loaded := by
  induction pre generalizing cache with
  | nil => cases priming; rfl
  | cons jo pre inductionHypothesis =>
      cases loading : loadAttributes names base64 jo.attributes (Object.new 0) none with
      | error e => simp [primeObjects, loading] at priming
      | ok result =>
          obtain ⟨obj, uid⟩ := result
          cases uid with
          | none => simp [primeObjects, loading, errRv] at priming
          | some uid =>
              simp only [primeObjects, loading] at priming
              simp only [List.cons_append, primeObjectsInPlace, loading]
              exact inductionHypothesis priming

end Priming

/-! ### What each call does -/

section Calls

variable {φ τ : Type} (fs : FileSystem φ τ) (text : JsonText τ) (names : NameTable)
  (base64 : Base64)

namespace JsonStorage

/-- A successful flush has written the text of the cache's token objects, and changed nothing
else. -/
theorem flush_ok {s s' : JsonStorage × φ} {u : Unit}
    (flushed : flush fs text names base64 s = .ok u s') :
    s'.1 = s.1 ∧ fs.write s.2 s.1.filename
      (text.render (JsonToken.fromCache names base64 s.1.cache)) = (s'.2, .ok ()) := by
  obtain ⟨st, w⟩ := s
  cases written : fs.write w st.filename (text.render (JsonToken.fromCache names base64 st.cache))
    with
  | mk w' result =>
      cases result with
      | error e => simp [flush, JsonToken.save, written] at flushed
      | ok u =>
          cases u
          simp only [flush, JsonToken.save, written, EStateM.Result.ok.injEq] at flushed
          obtain ⟨-, rfl⟩ := flushed
          exact ⟨rfl, rfl⟩

/-- A failed flush fails with the write's `other_error`, and changes nothing but the files. -/
theorem flush_error {s s' : JsonStorage × φ} {e : StorageError}
    (failed : flush fs text names base64 s = .error e s') : s'.1 = s.1 ∧ e = .other := by
  obtain ⟨st, w⟩ := s
  cases written : fs.write w st.filename (text.render (JsonToken.fromCache names base64 st.cache))
    with
  | mk w' result =>
      cases result <;> simp [flush, JsonToken.save, written] at failed
      obtain ⟨rfl, rfl⟩ := failed
      exact ⟨rfl, rfl⟩

theorem afterCall_flush (s : JsonStorage × φ) :
    (afterCall (flush fs text names base64 s)).1 = s.1 := by
  cases flushed : flush fs text names base64 s with
  | ok u s' => exact (flush_ok fs text names base64 flushed).1
  | error e s' => exact (flush_error fs text names base64 flushed).1

theorem afterCall_changeThenFlush (change : Cache → Cache) (s : JsonStorage × φ) :
    (afterCall (changeThenFlush fs text names base64 change s)).1 =
      { s.1 with cache := change s.1.cache } := by
  obtain ⟨st, w⟩ := s
  exact afterCall_flush fs text names base64 ({ st with cache := change st.cache }, w)

end JsonStorage

/-- What a run asks of a call: a `store` passes an object keyed by the id it is stored under. -/
def StorageCall.StoresKeyed : StorageCall → Prop
  | .store uid obj => Cache.KeyedEntry uid obj
  | _ => True

/-- Every call keeps the cache keyed, whatever it returns. -/
theorem StorageCall.run_keyed (readsUid : names.ReadsUniqueId) (call : StorageCall)
    (stores : call.StoresKeyed) (s : JsonStorage × φ) (keyed : s.1.cache.Keyed) :
    (afterCall (call.run fs text names base64 s)).1.cache.Keyed := by
  obtain ⟨st, w⟩ := s
  cases call with
  | «open» filename =>
      simp only [StorageCall.run, JsonStorage.open]
      split
      · exact keyed
      · next token _ =>
          have primedKeyed : (primeObjectsInPlace names base64 token.objects st.cache).1.Keyed :=
            primeObjectsInPlace_keyed readsUid token.objects keyed
          split <;> next cache _ primed => rw [primed] at primedKeyed; exact primedKeyed
  | reinit => exact keyed
  | flush =>
      rw [StorageCall.run, JsonStorage.afterCall_flush]
      exact keyed
  | store uid obj =>
      rw [StorageCall.run, JsonStorage.store, JsonStorage.afterCall_changeThenFlush]
      exact Cache.store_keyed keyed stores
  | removeByUid uid =>
      rw [StorageCall.run, JsonStorage.removeByUid, JsonStorage.afterCall_changeThenFlush]
      exact Cache.removeByUid_keyed keyed uid

instance : DecidablePred StorageCall.StoresKeyed
  | .store uid obj => inferInstanceAs (Decidable (Cache.KeyedEntry uid obj))
  | .open _ | .reinit | .flush | .removeByUid _ => isTrue trivial

theorem runCalls_keyed (readsUid : names.ReadsUniqueId) (calls : List StorageCall)
    (stores : ∀ call ∈ calls, call.StoresKeyed) (s : JsonStorage × φ) (keyed : s.1.cache.Keyed) :
    (runCalls fs text names base64 calls s).1.cache.Keyed := by
  induction calls generalizing s with
  | nil => exact keyed
  | cons call rest inductionHypothesis =>
      exact inductionHypothesis (fun other member => stores other (List.mem_cons_of_mem _ member))
        _ (call.run_keyed fs text names base64 readsUid (stores call (List.mem_cons_self _ _)) s
          keyed)

/-- **Every state a run of the store reaches holds the cache invariant of spec §3.** From
`json()`, over any run of `open`, `reinit`, `flush`, `store` and `remove_by_uid` calls, each on
the state the one before left whether it succeeded or failed, and whatever the files hold: when
the name table reads `CKA_UNIQUE_ID`, and only it, as the unique id, and every `store` passes an
object of distinct ids whose `CKA_UNIQUE_ID` is the id it is stored under, every object in the
cache has one attribute per id and the `CKA_UNIQUE_ID` of its key, and so has every object
`fetch_by_uid` returns. -/
theorem json_storage_cache_keyed (readsUid : names.ReadsUniqueId) (calls : List StorageCall)
    (stores : ∀ call ∈ calls, call.StoresKeyed) (w : φ) :
    (runCalls fs text names base64 calls (json, w)).1.cache.Keyed ∧
      ∀ uid obj, (runCalls fs text names base64 calls (json, w)).1.fetchByUid uid = some obj →
        Cache.KeyedEntry uid obj :=
  have keyed := runCalls_keyed fs text names base64 readsUid calls stores (json, w) Cache.empty_keyed
  ⟨keyed, fun _ _ fetched => Cache.fetchByUid_keyed keyed fetched⟩

/-- A run that stores a keyed token object, reopens the file it wrote, removes the object and
flushes. -/
def sampleRun : List StorageCall :=
  [.store [0x75] (sampleToken 1), .open [], .removeByUid [0x75], .flush]

theorem json_storage_cache_keyed_sample :
    sampleNames.ReadsUniqueId ∧ (∀ call ∈ sampleRun, call.StoresKeyed) ∧
      (runCalls (memoryFiles JsonToken) tokenText sampleNames plainBase64 sampleRun
          (json, [])).1.cache.Keyed ∧
      ∀ uid obj, (runCalls (memoryFiles JsonToken) tokenText sampleNames plainBase64 sampleRun
          (json, [])).1.fetchByUid uid = some obj → Cache.KeyedEntry uid obj :=
  ⟨sampleNames_readsUniqueId, by decide, json_storage_cache_keyed (memoryFiles JsonToken) tokenText
    sampleNames plainBase64 sampleNames_readsUniqueId sampleRun (by decide) []⟩

end Calls

/-! ### The store as a map -/

section Map

variable {φ τ : Type} (fs : FileSystem φ τ) (text : JsonText τ) (names : NameTable)
  (base64 : Base64)

end Map

/-! ### What the file holds -/

section Files

variable {φ τ : Type} (fs : FileSystem φ τ) (text : JsonText τ) (names : NameTable)
  (base64 : Base64)

namespace JsonStorage

/-- After a successful flush, `JsonToken::load` of the storage's file gives back `from_cache` of
its cache. -/
theorem flush_load {s s' : JsonStorage × φ} {u : Unit}
    (flushed : flush fs text names base64 s = .ok u s') :
    s'.1 = s.1 ∧ JsonToken.load fs text s'.1.filename s'.2 =
      .ok (JsonToken.fromCache names base64 s'.1.cache) := by
  obtain ⟨same, written⟩ := flush_ok fs text names base64 flushed
  refine ⟨same, ?_⟩
  simp only [same, JsonToken.load, fs.read_write _ _ _ _ written,
    text.parse_render _ (fromCache_sorted names base64 _)]

/-- A failed flush: the storage is unchanged but for the files, and the error is `other`. -/
theorem changeThenFlush_error {change : Cache → Cache} {s s' : JsonStorage × φ}
    {e : StorageError} (failed : changeThenFlush fs text names base64 change s = .error e s') :
    e = .other ∧ s'.1 = { s.1 with cache := change s.1.cache } := by
  obtain ⟨st, w⟩ := s
  have flushFailed : flush fs text names base64 ({ st with cache := change st.cache }, w) =
      .error e s' := failed
  obtain ⟨same, other⟩ := flush_error fs text names base64 flushFailed
  exact ⟨other, same⟩

/-- `store` changes the cache before it flushes and keeps the change when the flush fails: the
call fails with `other_error`, and the cache holds `obj` under `uid`. -/
theorem store_error {s s' : JsonStorage × φ} {uid : List UInt8} {obj : Object} {e : StorageError}
    (failed : store fs text names base64 uid obj s = .error e s') :
    e = .other ∧ s'.1 = { s.1 with cache := s.1.cache.store uid obj } ∧
      s'.1.fetchByUid uid = some obj := by
  obtain ⟨other, changed⟩ := changeThenFlush_error fs text names base64 failed
  exact ⟨other, changed, by rw [changed]; exact Cache.fetchByUid_store _ uid obj⟩

/-- Likewise `remove_by_uid`: after a failed flush the cache holds no object under `uid`. -/
theorem removeByUid_error {s s' : JsonStorage × φ} {uid : List UInt8} {e : StorageError}
    (failed : removeByUid fs text names base64 uid s = .error e s') :
    e = .other ∧ s'.1 = { s.1 with cache := s.1.cache.removeByUid uid } ∧
      s'.1.fetchByUid uid = none := by
  obtain ⟨other, changed⟩ := changeThenFlush_error fs text names base64 failed
  exact ⟨other, changed, by rw [changed]; exact Cache.fetchByUid_removeByUid _ uid⟩

end JsonStorage

/-- The calls that write the file when they succeed. -/
def StorageCall.writes : StorageCall → Bool
  | .flush | .store _ _ | .removeByUid _ => true
  | .open _ | .reinit => false

/-- A successful `flush`, `store` or `remove_by_uid` keeps the file name, and `JsonToken::load`
of that file gives back `from_cache` of the cache the call left. -/
theorem StorageCall.run_load (call : StorageCall) (writes : call.writes = true)
    {s s' : JsonStorage × φ} {u : Unit} (succeeded : call.run fs text names base64 s = .ok u s') :
    s'.1.filename = s.1.filename ∧
      JsonToken.load fs text s'.1.filename s'.2 = .ok (JsonToken.fromCache names base64 s'.1.cache) := by
  obtain ⟨st, w⟩ := s
  cases call with
  | «open» filename => cases writes
  | reinit => cases writes
  | flush =>
      have flushed : JsonStorage.flush fs text names base64 (st, w) = .ok u s' := succeeded
      obtain ⟨same, loaded⟩ := JsonStorage.flush_load fs text names base64 flushed
      exact ⟨congrArg JsonStorage.filename same, loaded⟩
  | store uid obj =>
      have flushed : JsonStorage.flush fs text names base64
          ({ st with cache := st.cache.store uid obj }, w) = .ok u s' := succeeded
      obtain ⟨same, loaded⟩ := JsonStorage.flush_load fs text names base64 flushed
      exact ⟨by rw [same], loaded⟩
  | removeByUid uid =>
      have flushed : JsonStorage.flush fs text names base64
          ({ st with cache := st.cache.removeByUid uid }, w) = .ok u s' := succeeded
      obtain ⟨same, loaded⟩ := JsonStorage.flush_load fs text names base64 flushed
      exact ⟨by rw [same], loaded⟩

/-- **A failed `open` still switches the storage to the new file, with what it loaded.** `open`
records the file name before it reads the file, and loads into the cache in place. When the
token's objects load up to one that fails, by a load error or for want of a `CKA_UNIQUE_ID`, the
call fails and leaves the objects before it in the cache under the new file name; the next
successful `store` then writes that file from this cache, so the objects from the failing one on
are no longer in the file. -/
theorem json_storage_failed_open {st : JsonStorage} {w : φ} {filename : List UInt8}
    {token : JsonToken} {pre : List JsonObject} {bad : JsonObject} {post : List JsonObject}
    {loaded : Cache} (read : JsonToken.load fs text filename w = .ok token)
    (objects : token.objects = pre ++ bad :: post)
    (primed : primeObjects names base64 pre st.cache = .ok loaded)
    (failing : ∀ obj uid, loadAttributes names base64 bad.attributes (Object.new 0) none ≠
      .ok (obj, some uid)) :
    ∃ e, JsonStorage.open fs text names base64 filename (st, w) = .error e (⟨filename, loaded⟩, w) ∧
      ∀ uid obj s' u, JsonStorage.store fs text names base64 uid obj (⟨filename, loaded⟩, w) =
          .ok u s' →
        JsonToken.load fs text filename s'.2 =
          .ok (JsonToken.fromCache names base64 (loaded.store uid obj)) := by
  have stops : ∃ e, primeObjectsInPlace names base64 (bad :: post) loaded = (loaded, .error e) := by
    simp only [primeObjectsInPlace]
    split
    · exact ⟨_, rfl⟩
    · next obj uid loading => exact absurd loading (failing obj uid)
    · exact ⟨_, rfl⟩
  obtain ⟨e, stopped⟩ := stops
  refine ⟨.kernel e, ?_, fun uid obj s' u stored => ?_⟩
  · simp only [JsonStorage.open, read, objects, primeObjectsInPlace_append primed, stopped]
  · have flushed : JsonStorage.flush fs text names base64 (⟨filename, loaded.store uid obj⟩, w) =
        .ok u s' := stored
    obtain ⟨same, loadedBack⟩ := JsonStorage.flush_load fs text names base64 flushed
    rwa [same] at loadedBack

/-- A file whose second object carries no `CKA_UNIQUE_ID`, between two token objects. -/
def brokenFiles : List (List UInt8 × JsonToken) :=
  [([0x66], ⟨[JsonObject.fromObject sampleNames plainBase64 (sampleToken 1), ⟨[]⟩,
    JsonObject.fromObject sampleNames plainBase64 (sampleToken 0)]⟩)]

theorem json_storage_failed_open_sample :
    ∃ loaded, primeObjects sampleNames plainBase64
        [JsonObject.fromObject sampleNames plainBase64 (sampleToken 1)] json.cache = .ok loaded ∧
      ∃ e, JsonStorage.open (memoryFiles JsonToken) tokenText sampleNames plainBase64 [0x66]
          (json, brokenFiles) = .error e (⟨[0x66], loaded⟩, brokenFiles) ∧
        ∀ uid obj s' u, JsonStorage.store (memoryFiles JsonToken) tokenText sampleNames plainBase64
            uid obj (⟨[0x66], loaded⟩, brokenFiles) = .ok u s' →
          JsonToken.load (memoryFiles JsonToken) tokenText [0x66] s'.2 =
            .ok (JsonToken.fromCache sampleNames plainBase64 (loaded.store uid obj)) :=
  ⟨_, rfl, @json_storage_failed_open _ _ (memoryFiles JsonToken) tokenText sampleNames plainBase64
    json brokenFiles [0x66] _ [JsonObject.fromObject sampleNames plainBase64 (sampleToken 1)] ⟨[]⟩
    [JsonObject.fromObject sampleNames plainBase64 (sampleToken 0)] _ rfl rfl rfl
    fun _ _ loading => by cases loading⟩

end Files

/-! ### Reopening the file a store wrote -/

theorem find?_filter_of_find? {α : Type} {p q : α → Bool} {x : α} :
    ∀ {l : List α}, l.find? q = some x → p x = true → (l.filter p).find? q = some x
  | [], found, _ => by simp at found
  | y :: l, found, kept => by
    by_cases hit : q y = true
    · rw [List.find?_cons_of_pos _ hit] at found
      cases found
      simp [List.filter_cons, kept, hit]
    · rw [List.find?_cons_of_neg _ hit] at found
      have inRest := find?_filter_of_find? found kept
      by_cases keptHead : p y = true <;> simp [List.filter_cons, keptHead, hit, inRest]

/-- A lookup by key in the reloaded entries finds the entry reloaded from the one found before. -/
theorem find?_reloads {entries reloaded : List (List UInt8 × Object)}
    (reloads : List.Forall₂ Reloads entries reloaded) {uid : List UInt8}
    {entry : List UInt8 × Object} (found : entries.find? (·.1 == uid) = some entry) :
    ∃ again, reloaded.find? (·.1 == uid) = some again ∧ Reloads entry again := by
  induction reloads with
  | nil => simp at found
  | @cons head back rest restBack reload _ inductionHypothesis =>
      have sameKey : (back.1 == uid) = (head.1 == uid) := by rw [reload.1]
      rw [List.find?_cons] at found
      cases hit : head.1 == uid
      · simp only [hit] at found
        obtain ⟨again, foundAgain, reloadsAgain⟩ := inductionHypothesis found
        exact ⟨again, by simp only [List.find?_cons, sameKey, hit, foundAgain], reloadsAgain⟩
      · simp only [hit, Option.some.injEq] at found
        subst found
        exact ⟨back, by simp only [List.find?_cons, sameKey, hit], reload⟩

section Reopen

variable {φ τ : Type} (fs : FileSystem φ τ) (text : JsonText τ) {names : NameTable}
  {base64 : Base64}

theorem fromCache_objects (cache : Cache) :
    (JsonToken.fromCache names base64 cache).objects =
      (cache.entries.filter (·.2.isToken)).map (JsonObject.fromObject names base64 ·.2) := by
  simp [JsonToken.fromCache, List.filter_map, Function.comp_def]

theorem primeObjectsInPlace_of_ok {objects : List JsonObject} {cache loaded : Cache}
    (priming : primeObjects names base64 objects cache = .ok loaded) :
    primeObjectsInPlace names base64 objects cache = (loaded, .ok ()) := by
  simpa using primeObjectsInPlace_append priming []

/-- **A stored token object survives reopening its file.** The round trip of spec §8 through
the storage: when `store(uid, obj)` succeeds with `obj` a token object, and every token object
the cache then holds is stored under its own `CKA_UNIQUE_ID`, holds one attribute per id and has
only canonical attributes whose names read back as their ids and types (`CKA_UNIQUE_ID` named
`CKA_UNIQUE_ID`), then a fresh `json()` storage opening the same file in the world the store
left succeeds, and its `fetch_by_uid(uid)` returns an object holding exactly `obj`'s persisted
attributes, up to order. -/
theorem json_storage_reopen (uidNamed : names.name CKA_UNIQUE_ID = uniqueIdName)
    {s s' : JsonStorage × φ} {uid : List UInt8} {obj : Object} {u : Unit}
    (stored : ∀ entry ∈ (s.1.cache.store uid obj).entries, entry.2.isToken = true →
      StoredToken names entry.1 entry.2)
    (isToken : obj.isToken = true)
    (storing : JsonStorage.store fs text names base64 uid obj s = .ok u s') :
    ∃ reopened : JsonStorage,
      JsonStorage.open fs text names base64 s.1.filename (json, s'.2) = .ok () (reopened, s'.2) ∧
      ∃ o, reopened.fetchByUid uid = some o ∧
        List.Perm o.attributes (obj.attributes.filter (·.persisted)) := by
  obtain ⟨st, w⟩ := s
  have flushed : JsonStorage.flush fs text names base64
      ({ st with cache := st.cache.store uid obj }, w) = .ok u s' := storing
  obtain ⟨same, loadedBack⟩ := JsonStorage.flush_load fs text names base64 flushed
  rw [same] at loadedBack
  have fresh : ((Cache.empty.entries ++ (st.cache.store uid obj).entries.filter (·.2.isToken)).map
      Prod.fst).Nodup := by
    simpa using ((List.filter_sublist _).map Prod.fst).nodup (st.cache.store uid obj).keys_nodup
  obtain ⟨loaded, priming, reloaded, loadedEntries, reloads⟩ :=
    primeObjects_run uidNamed ((st.cache.store uid obj).entries.filter (·.2.isToken))
      (fun entry member => stored entry (List.mem_filter.mp member).1
        (List.mem_filter.mp member).2) Cache.empty fresh
  have found : ((st.cache.store uid obj).entries.filter (·.2.isToken)).find? (·.1 == uid) =
      some (uid, obj) :=
    find?_filter_of_find? (Cache.find?_storeEntries uid obj st.cache.entries) isToken
  obtain ⟨again, foundAgain, -, perm⟩ := find?_reloads reloads found
  refine ⟨⟨st.filename, loaded⟩, ?_, again.2, ?_, perm⟩
  · simp only [JsonStorage.open, loadedBack, fromCache_objects, json, Cache.empty_entries]
    rw [primeObjectsInPlace_of_ok priming]
  · simp [JsonStorage.fetchByUid, Cache.fetchByUid, loadedEntries, foundAgain]

theorem json_storage_reopen_sample :
    sampleNames.name CKA_UNIQUE_ID = uniqueIdName ∧
      (∀ entry ∈ (json.cache.store [0x75] (sampleToken 1)).entries, entry.2.isToken = true →
        StoredToken sampleNames entry.1 entry.2) ∧
      (sampleToken 1).isToken = true ∧
      ∃ s', JsonStorage.store (memoryFiles JsonToken) tokenText sampleNames plainBase64 [0x75]
          (sampleToken 1) (json, []) = .ok () s' ∧
        ∃ reopened : JsonStorage, JsonStorage.open (memoryFiles JsonToken) tokenText sampleNames
            plainBase64 json.filename (json, s'.2) = .ok () (reopened, s'.2) ∧
          ∃ o, reopened.fetchByUid [0x75] = some o ∧
            List.Perm o.attributes ((sampleToken 1).attributes.filter (·.persisted)) :=
  ⟨by decide, by decide, by decide, _, rfl,
    @json_storage_reopen _ _ (memoryFiles JsonToken) tokenText sampleNames plainBase64 (by decide)
      (json, []) _ [0x75] (sampleToken 1) () (by decide) (by decide) rfl⟩

end Reopen

/-! ### Opening a file twice -/

section Reopening

variable {φ τ : Type} (fs : FileSystem φ τ) (text : JsonText τ) (names : NameTable)
  (base64 : Base64)

/-- **Opening the same file again changes nothing.** From every state and whatever the file
holds, `open` of a file name, run on the state a first `open` of the same name left, returns what
the first call returned and leaves the same state, whether the first call succeeded or stopped
at a failing object: reading the token in again adds, drops, reorders and changes no cached
object, since `store` replaces the object under an id in place and the load reads the file
alone. -/
theorem json_storage_open_idempotent (filename : List UInt8) (s : JsonStorage × φ) :
    JsonStorage.open fs text names base64 filename
        (afterCall (JsonStorage.open fs text names base64 filename s)) =
      JsonStorage.open fs text names base64 filename s := by
  obtain ⟨st, w⟩ := s
  cases loaded : JsonToken.load fs text filename w with
  | error e => simp [JsonStorage.open, afterCall, loaded]
  | ok token =>
      cases result : (loadObjects names base64 token.objects).2 <;>
        simp [JsonStorage.open, afterCall, loaded, primeObjectsInPlace_eq, result,
          Cache.storeAll_storeAll]

end Reopening

/-! ### Searching with what was read back -/

/-- **`search` finds a stored object by what a caller reads back from it.** For every object the
storage's cache holds, under any id, and every template whose entries all point at a buffer:
when `fill_template` reads the template back from the object without error, the object matches
the template as filled, and `search` with it has the object among its results. -/
theorem json_storage_search_finds_read_back (st : JsonStorage) {uid : List UInt8} {obj : Object}
    (fetched : st.fetchByUid uid = some obj) (template : List CK_ATTRIBUTE)
    (buffers : ∀ elem ∈ template, elem.pValue.isSome)
    (read : (obj.fillTemplate template).2 = .ok ()) :
    obj.matchTemplate (obj.fillTemplate template).1 = true ∧
      obj ∈ st.search (obj.fillTemplate template).1 := by
  have matched := Object.matchTemplate_fillTemplate obj template buffers read
  refine ⟨matched, List.mem_filter.mpr ⟨?_, matched⟩⟩
  obtain ⟨entry, found, rfl⟩ := Option.map_eq_some'.mp fetched
  exact List.mem_map_of_mem _ (List.mem_of_find?_eq_some found)

theorem json_storage_search_finds_read_back_sample :
    (⟨[], sampleCache 1⟩ : JsonStorage).fetchByUid [0x75] = some (sampleToken 1) ∧
      (∀ elem ∈ [(⟨CKA_TOKEN, some [0], 1⟩ : CK_ATTRIBUTE)], elem.pValue.isSome) ∧
      ((sampleToken 1).fillTemplate [⟨CKA_TOKEN, some [0], 1⟩]).2 = .ok () ∧
      sampleToken 1 ∈ (⟨[], sampleCache 1⟩ : JsonStorage).search
        ((sampleToken 1).fillTemplate [⟨CKA_TOKEN, some [0], 1⟩]).1 :=
  ⟨rfl, by decide, rfl, (@json_storage_search_finds_read_back ⟨[], sampleCache 1⟩ [0x75]
    (sampleToken 1) rfl [⟨CKA_TOKEN, some [0], 1⟩] (by decide) rfl).2⟩

end Kryoptic
