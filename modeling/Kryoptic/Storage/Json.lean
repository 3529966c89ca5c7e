import Kryoptic.Object.Create
import Kryoptic.Storage.Memory

/-!
Contract: the JSON persisted form of a token, `storage/json.rs`.

Owns: `to_json_value`, `JsonObject::from_object`, `JsonToken::from_cache` and
`JsonToken::prime_cache` with its inner loop, the `serde_json` values and map they use, and the
per-attribute laws: what `to_json_value` writes, `prime_cache`'s `match atype` reads back
(`attributeFromJson_toJsonValue`), and the map `from_object` builds holds one entry per attribute
(`fromObject_perm`).

Three collaborators are not among the sources and are parameters: the BASE64 codec of
`data_encoding`, with the one law that it decodes what it encodes; the id → name table
`Attribute::name` with its inverse `AttrType::attr_name_to_id_type`; and the memory cache of
`Kryoptic.Storage.Memory`. A Rust `String` is its UTF-8 bytes, as in `Kryoptic.Attribute`.

Does not own: the file itself. `load` and `save` go through `serde_json` and the file system;
`JsonStorage` is read here as priming from, and flushing to, a `JsonToken` value.
-/

namespace Kryoptic

/-- A `serde_json::Value` as the store writes and reads it: numbers are the unsigned integers
`Number::from(u64)` makes, strings are their UTF-8 bytes. -/
inductive JsonValue where
  | null
  | bool (b : Bool)
  | number (n : Nat)
  | string (s : List UInt8)
deriving DecidableEq, Repr

namespace JsonValue

def asBool : JsonValue → Option Bool
  | bool b => some b
  | _ => none

def asU64 : JsonValue → Option Nat
  | number n => if n < 2 ^ 64 then some n else none
  | _ => none

def asStr : JsonValue → Option (List UInt8)
  | string s => some s
  | _ => none

end JsonValue

/-- `serde_json::Map`, a `BTreeMap` by default: one entry per key, in ascending key order. -/
abbrev JsonMap := List (List UInt8 × JsonValue)

/-- The order of `String`'s `Ord`, on which a `BTreeMap` of strings sorts: lexicographic on
the UTF-8 bytes. -/
def bytesLt : List UInt8 → List UInt8 → Bool
  | [], _ :: _ => true
  | _, [] => false
  | a :: rest, b :: rest' => a < b || (a == b && bytesLt rest rest')

/-- `Map::insert`: the value under an existing key is replaced, a new key goes to its place in
the order. -/
def JsonMap.insert (key : List UInt8) (value : JsonValue) : JsonMap → JsonMap
  | [] => [(key, value)]
  | entry :: rest =>
    if key = entry.1 then (key, value) :: rest
    else if bytesLt key entry.1 then (key, value) :: entry :: rest
    else entry :: JsonMap.insert key value rest

/-- A new key adds exactly its entry. -/
theorem JsonMap.insert_perm (value : JsonValue) {key : List UInt8} {m : JsonMap}
    (absent : key ∉ m.map Prod.fst) :
    List.Perm (JsonMap.insert key value m) ((key, value) :: m) := by
  induction m with
  | nil => exact List.Perm.refl _
  | cons entry rest inductionHypothesis =>
      have different : key ≠ entry.1 := fun same => absent (by simp [same])
      have notInRest : key ∉ rest.map Prod.fst := fun inRest =>
        absent (List.mem_cons_of_mem _ inRest)
      rw [JsonMap.insert, if_neg different]
      split_ifs
      · exact List.Perm.refl _
      · exact ((inductionHypothesis notInRest).cons entry).trans (List.Perm.swap _ _ _)

/-! #### The key order -/

theorem uint8_lt_of_not_lt {a b : UInt8} (different : a ≠ b) (notLt : ¬a < b) : b < a := by
  rw [UInt8.not_lt, UInt8.le_def, BitVec.le_def] at notLt
  have : a.toBitVec.toNat ≠ b.toBitVec.toNat := fun same =>
    different (UInt8.eq_of_toBitVec_eq (BitVec.eq_of_toNat_eq same))
  rw [UInt8.lt_def, BitVec.lt_def]
  omega

theorem bytesLt_trans :
    ∀ {a b c : List UInt8}, bytesLt a b = true → bytesLt b c = true → bytesLt a c = true
  | [], _ :: _, _ :: _, _, _ => rfl
  | x :: a, y :: b, z :: c, ab, bc => by
    simp only [bytesLt, Bool.or_eq_true, decide_eq_true_eq, Bool.and_eq_true, beq_iff_eq] at ab bc ⊢
    rcases ab with below | ⟨rfl, ab⟩ <;> rcases bc with below' | ⟨rfl, bc⟩
    · exact .inl (UInt8.lt_trans below below')
    · exact .inl below
    · exact .inl below'
    · exact .inr ⟨rfl, bytesLt_trans ab bc⟩
  | [], [], _, ab, _ => by simp [bytesLt] at ab
  | _ :: _, [], _, ab, _ => by simp [bytesLt] at ab
  | _, _ :: _, [], _, bc => by simp [bytesLt] at bc

/-- Two different keys are ordered one way or the other. -/
theorem bytesLt_of_not : ∀ {a b : List UInt8}, a ≠ b → bytesLt a b = false → bytesLt b a = true
  | [], [], different, _ => absurd rfl different
  | [], _ :: _, _, below => by simp [bytesLt] at below
  | _ :: _, [], _, _ => rfl
  | x :: a, y :: b, different, notBelow => by
    simp only [bytesLt, Bool.or_eq_false_iff, decide_eq_false_iff_not, Bool.and_eq_false_imp,
      beq_iff_eq] at notBelow
    simp only [bytesLt, Bool.or_eq_true, decide_eq_true_eq, Bool.and_eq_true, beq_iff_eq]
    by_cases same : x = y
    · subst same
      exact .inr ⟨rfl, bytesLt_of_not (fun rest => different (rest ▸ rfl))
        (by simpa using notBelow.2 rfl)⟩
    · exact .inl (uint8_lt_of_not_lt same notBelow.1)

/-- A `serde_json::Map` as Rust holds it: its keys in strictly ascending order. -/
def JsonMap.Sorted (m : JsonMap) : Prop := m.Pairwise fun a b => bytesLt a.1 b.1 = true

theorem JsonMap.mem_insert {key : List UInt8} {value : JsonValue} {m : JsonMap}
    {entry : List UInt8 × JsonValue} (member : entry ∈ m.insert key value) :
    entry = (key, value) ∨ entry ∈ m := by
  induction m with
  | nil => simpa [JsonMap.insert] using member
  | cons head rest inductionHypothesis =>
      unfold JsonMap.insert at member
      split_ifs at member
      · exact (List.mem_cons.mp member).imp_right (List.mem_cons_of_mem _)
      · exact List.mem_cons.mp member
      · rcases List.mem_cons.mp member with rfl | inRest
        · exact .inr (List.mem_cons_self _ _)
        · exact (inductionHypothesis inRest).imp_right (List.mem_cons_of_mem _)

/-- `Map::insert` keeps the map in key order. -/
theorem JsonMap.insert_sorted (key : List UInt8) (value : JsonValue) :
    ∀ {m : JsonMap}, m.Sorted → (m.insert key value).Sorted
  | [], _ => List.pairwise_singleton _ _
  | head :: rest, sorted => by
    obtain ⟨below, restSorted⟩ := List.pairwise_cons.mp sorted
    unfold JsonMap.insert
    split_ifs with same before
    · exact List.pairwise_cons.mpr ⟨fun b member => same ▸ below b member, restSorted⟩
    · exact List.pairwise_cons.mpr ⟨fun b member => by
        rcases List.mem_cons.mp member with rfl | inRest
        · exact before
        · exact bytesLt_trans before (below b inRest), sorted⟩
    · refine List.pairwise_cons.mpr ⟨fun b member => ?_, insert_sorted key value restSorted⟩
      rcases JsonMap.mem_insert member with rfl | inRest
      · exact bytesLt_of_not same (Bool.of_not_eq_true before)
      · exact below b inRest

/-- Modelled from the spec: the BASE64 codec of `data_encoding`. `decode` stands for
`decode_len`, `decode_mut` into a buffer of that length, and the slice `v[0..l]`; a failure of
either call is `none`. The library decodes what it encodes. -/
structure Base64 where
  encode : List UInt8 → List UInt8
  decode : List UInt8 → Option (List UInt8)
  decode_encode : ∀ bytes, decode (encode bytes) = some bytes

/-- Modelled from the spec: `Attribute::name` and `AttrType::attr_name_to_id_type`, which fails
on an unknown name. -/
structure NameTable where
  name : Nat → List UInt8
  nameToIdType : List UInt8 → KResult (Nat × AttrType)

/-- The key `prime_cache` reads the unique id from, the text `CKA_UNIQUE_ID`. -/
def uniqueIdName : List UInt8 := "CKA_UNIQUE_ID".toList.map fun c => c.toNat.toUInt8

/-! ### Writing: `to_json_value`, `from_object`, `from_cache` -/

def toJsonValue (base64 : Base64) (a : Attribute) : JsonValue :=
  match a.attrtype with
  | .boolType => match a.toBool with
    | .ok b => .bool b
    | .error _ => .null
  | .numType => match a.toUlong with
    | .ok l => .number l
    | .error _ => .null
  | .stringType => match a.toString with
    | .ok s => .string s
    | .error _ => .string (base64.encode a.value)
  | .bytesType => .string (base64.encode a.value)
  | .dateType => match a.toDateString with
    | .ok d => .string d
    | .error _ => .string []
  | .ignoreType => .null
  | .denyType => .null

structure JsonObject where
  attributes : JsonMap

structure JsonToken where
  objects : List JsonObject

section Tables

variable (names : NameTable) (base64 : Base64)

/-- The entry `from_object` inserts for one attribute. -/
def jsonEntry (a : Attribute) : List UInt8 × JsonValue := (names.name a.ckType, toJsonValue base64 a)

def JsonObject.fromObject (o : Object) : JsonObject :=
  ⟨o.attributes.foldl (fun jo a => JsonMap.insert (jsonEntry names base64 a).1
    (jsonEntry names base64 a).2 jo) []⟩

/-- `from_cache`: every object of `search(&[])` whose `CKA_TOKEN` is true, in the cache's
order. -/
def JsonToken.fromCache (cache : Cache) : JsonToken :=
  ⟨((cache.search []).filter (·.isToken)).map (JsonObject.fromObject names base64)⟩

/-- Every map `from_cache` writes is in key order. -/
theorem fromCache_sorted (cache : Cache) :
    ∀ jo ∈ (JsonToken.fromCache names base64 cache).objects, jo.attributes.Sorted := by
  suffices foldSorted : ∀ (attrs : List Attribute) (m : JsonMap), m.Sorted →
      (attrs.foldl (fun jo a => JsonMap.insert (jsonEntry names base64 a).1
        (jsonEntry names base64 a).2 jo) m).Sorted by
    simp only [JsonToken.fromCache, List.mem_map]
    rintro _ ⟨o, -, rfl⟩
    exact foldSorted o.attributes [] List.Pairwise.nil
  intro attrs
  induction attrs with
  | nil => exact fun _ sorted => sorted
  | cons a rest inductionHypothesis =>
      exact fun m sorted => inductionHypothesis _ (JsonMap.insert_sorted _ _ sorted)

/-! ### Reading: `prime_cache` -/

/-- The `match atype` of `prime_cache`: the attribute one `(key, val)` pair loads as, or `none`
for the `continue` of a Deny or Ignore type. -/
def attributeFromJson (id : Nat) (atype : AttrType) (val : JsonValue) :
    KResult (Option Attribute) :=
  match atype with
  | .boolType => match val.asBool with
    | some b => .ok (some (Attribute.fromBool id b))
    | none => errRv CKR_ATTRIBUTE_VALUE_INVALID
  | .numType => match val.asU64 with
    | some n => .ok (some (Attribute.fromUlong id n))
    | none => errRv CKR_ATTRIBUTE_VALUE_INVALID
  | .stringType => match val.asStr with
    | some s => .ok (some (Attribute.fromString id s))
    | none => errRv CKR_ATTRIBUTE_VALUE_INVALID
  | .bytesType => match val.asStr with
    | some s => match base64.decode s with
      | some bytes => .ok (some (Attribute.fromBytes id bytes))
      | none => errRv CKR_GENERAL_ERROR
    | none => errRv CKR_ATTRIBUTE_VALUE_INVALID
  | .dateType => match val.asStr with
    | some s =>
      if s.length = 0 then .ok (some (Attribute.fromDateBytes id []))
      else (stringToCkDate s).map fun date => some (Attribute.fromDateBytes id date)
    | none => errRv CKR_ATTRIBUTE_VALUE_INVALID
  | .denyType => .ok none
  | .ignoreType => .ok none

/-- The inner loop of `prime_cache` over one object's pairs: the object built so far and the
unique id read so far. -/
def loadAttributes : JsonMap → Object → Option (List UInt8) → KResult (Object × Option (List UInt8))
  | [], obj, uid => .ok (obj, uid)
  | (key, val) :: rest, obj, uid =>
    match names.nameToIdType key with
    | .error e => .error e
    | .ok (id, atype) =>
      match attributeFromJson base64 id atype val with
      | .error e => .error e
      | .ok none => loadAttributes rest obj uid
      | .ok (some attr) =>
        if key = uniqueIdName then
          match val.asStr with
          | some s => loadAttributes rest (obj.setAttr attr) (some s)
          | none => errRv CKR_DEVICE_ERROR
        else loadAttributes rest (obj.setAttr attr) uid

/-- The outer loop of `prime_cache`: each object is loaded into `Object::new()` (the handle is
not read back, the model uses 0) and stored under the unique id it carried. -/
def primeObjects : List JsonObject → Cache → KResult Cache
  | [], cache => .ok cache
  | jo :: rest, cache =>
    match loadAttributes names base64 jo.attributes (Object.new 0) none with
    | .error e => .error e
    | .ok (obj, some uid) => primeObjects rest (cache.store uid obj)
    | .ok (_, none) => errRv CKR_DEVICE_ERROR

def JsonToken.primeCache (token : JsonToken) (cache : Cache) : KResult Cache :=
  primeObjects names base64 token.objects cache

end Tables

/-! ### What one attribute survives -/

namespace Attribute

/-- Well-formed for its declared type: a Bool of one byte, a Num of one `CK_ULONG`, a String of
valid UTF-8, any Bytes, a Date of eight digits or empty, any Ignore or Deny. -/
def wellFormed (a : Attribute) : Bool :=
  match a.attrtype with
  | .boolType => a.value.length == 1
  | .numType => a.value.length == 8
  | .stringType => validUtf8 a.value
  | .bytesType => true
  | .dateType => a.value.isEmpty || (a.value.length == 8 && a.value.all isDigit)
  | .ignoreType => true
  | .denyType => true

/-- Well-formed, with a Bool held as `CK_FALSE` or `CK_TRUE`. -/
def canonical (a : Attribute) : Bool :=
  a.wellFormed && (a.attrtype != .boolType || a.value == [0] || a.value == [1])

/-- The attributes the persisted form keeps: all but Ignore and Deny. -/
def persisted (a : Attribute) : Bool := a.attrtype != .ignoreType && a.attrtype != .denyType

end Attribute

/-- `prime_cache` reads back what `to_json_value` wrote for a canonical attribute, and skips
Ignore and Deny. -/
theorem attributeFromJson_toJsonValue (base64 : Base64) {a : Attribute}
    (canonical : a.canonical = true) :
    attributeFromJson base64 a.ckType a.attrtype (toJsonValue base64 a) =
      .ok (if a.persisted then some a else none) := by
  obtain ⟨id, atype, value⟩ := a
  cases atype with
  | boolType =>
      have canonicalBool : value.length = 1 ∧ (value = [0] ∨ value = [1]) := by
        simpa [Attribute.canonical, Attribute.wellFormed] using canonical
      rcases canonicalBool.2 with rfl | rfl <;> rfl
  | numType =>
      have width : value.length = 8 := by
        simpa [Attribute.canonical, Attribute.wellFormed] using canonical
      have readBack : (JsonValue.number (leValue value)).asU64 = some (leValue value) :=
        if_pos (lt_of_lt_of_eq (leValue_lt value) (by simp [width]))
      have bytes : leBytes 8 (leValue value) = value := width ▸ leBytes_leValue value
      simp [toJsonValue, Attribute.toUlong, width, attributeFromJson, readBack,
        Attribute.fromUlong, bytes, Attribute.persisted]
  | stringType =>
      have valid : validUtf8 value = true := by
        simpa [Attribute.canonical, Attribute.wellFormed] using canonical
      simp [toJsonValue, Attribute.toString, valid, attributeFromJson, JsonValue.asStr,
        Attribute.fromString, Attribute.persisted]
  | bytesType =>
      simp [toJsonValue, attributeFromJson, JsonValue.asStr, base64.decode_encode,
        Attribute.fromBytes, Attribute.persisted]
  | dateType =>
      have date : value = [] ∨ (value.length = 8 ∧ value.all isDigit = true) := by
        simpa [Attribute.canonical, Attribute.wellFormed] using canonical
      rcases date with rfl | ⟨width, digits⟩
      · rfl
      · simp [toJsonValue, Attribute.toDateString, width, digits, attributeFromJson,
          JsonValue.asStr, stringToCkDate, Except.map, Attribute.fromDateBytes,
          Attribute.persisted]
  | ignoreType => rfl
  | denyType => rfl

/-- With one name per attribute, `from_object`'s map holds exactly one entry per attribute. -/
theorem fromObject_perm (names : NameTable) (base64 : Base64) (o : Object)
    (distinctNames : (o.attributes.map (names.name ·.ckType)).Nodup) :
    List.Perm (JsonObject.fromObject names base64 o).attributes
      (o.attributes.map (jsonEntry names base64)) := by
  suffices foldPerm : ∀ (attrs : List Attribute) (m : JsonMap),
      ((attrs.map (names.name ·.ckType)) ++ m.map Prod.fst).Nodup →
      List.Perm (attrs.foldl (fun jo a => JsonMap.insert (jsonEntry names base64 a).1
        (jsonEntry names base64 a).2 jo) m) (attrs.map (jsonEntry names base64) ++ m) by
    simpa using foldPerm o.attributes [] (by simpa using distinctNames)
  intro attrs
  induction attrs with
  | nil => intro m _; exact List.Perm.refl _
  | cons a rest inductionHypothesis =>
      intro m distinct
      have absent : names.name a.ckType ∉ m.map Prod.fst := fun inMap =>
        (List.nodup_cons.mp distinct).1 (List.mem_append_right _ inMap)
      have inserted := JsonMap.insert_perm (toJsonValue base64 a) absent
      have restDistinct : ((rest.map (names.name ·.ckType)) ++
          (JsonMap.insert (names.name a.ckType) (toJsonValue base64 a) m).map Prod.fst).Nodup :=
        (((inserted.map Prod.fst).append_left _).trans List.perm_middle).nodup_iff.mpr distinct
      exact (inductionHypothesis _ restDistinct).trans
        ((inserted.append_left _).trans List.perm_middle)

/-! ### Every object `prime_cache` builds has one attribute per id -/

theorem loadAttributes_distinctIds {names : NameTable} {base64 : Base64} {pairs : JsonMap}
    {obj : Object} {uid : Option (List UInt8)} {loaded : Object × Option (List UInt8)}
    (loading : loadAttributes names base64 pairs obj uid = .ok loaded)
    (distinct : DistinctIds obj.attributes) : DistinctIds loaded.1.attributes := by
  induction pairs generalizing obj uid with
  | nil => cases loading; exact distinct
  | cons pair rest inductionHypothesis =>
      obtain ⟨key, val⟩ := pair
      simp only [loadAttributes] at loading
      split at loading
      · cases loading
      · split at loading
        · cases loading
        · exact inductionHypothesis loading distinct
        · split at loading
          · split at loading
            · exact inductionHypothesis loading (Object.setAttr_distinctIds _ distinct)
            · simp [errRv] at loading
          · exact inductionHypothesis loading (Object.setAttr_distinctIds _ distinct)

/-- `prime_cache` keeps the cache invariant: every object it stores was built from
`Object::new()` by `set_attr` calls. -/
theorem primeObjects_allDistinct {names : NameTable} {base64 : Base64} {objects : List JsonObject}
    {cache loaded : Cache} (priming : primeObjects names base64 objects cache = .ok loaded)
    (distinct : cache.AllDistinct) : loaded.AllDistinct := by
  induction objects generalizing cache with
  | nil => cases priming; exact distinct
  | cons jo rest inductionHypothesis =>
      cases loading : loadAttributes names base64 jo.attributes (Object.new 0) none with
      | error e => simp [primeObjects, loading] at priming
      | ok result =>
          obtain ⟨obj, uid⟩ := result
          cases uid with
          | none => simp [primeObjects, loading, errRv] at priming
          | some uid =>
              simp only [primeObjects, loading] at priming
              exact inductionHypothesis priming (Cache.store_allDistinct distinct
                (loadAttributes_distinctIds loading (Object.new_distinctIds 0)))

/-- One attribute per id, over every way the code makes an object: `create`, any run of
`set_attr` from a created object or from `Object::new`, and the objects `prime_cache` stores
(a cache whose objects have distinct ids keeps that property through a load, the empty cache
included); and on an object of distinct ids, `set_attr(a)` leaves `a` as the only attribute of
its id, every other attribute in place and in order, and grows the object by one exactly when
`a`'s id was absent. -/
theorem one_attribute_per_id :
    (∀ (decoder : AttributeDecoder) (uuid : List UInt8) (handle : Nat)
        (template : List CK_ATTRIBUTE) (o : Object),
        create decoder uuid handle template = .ok o → DistinctIds o.attributes) ∧
    (∀ (decoder : AttributeDecoder) (uuid : List UInt8) (handle : Nat)
        (template : List CK_ATTRIBUTE) (o : Object) (calls : List Attribute),
        create decoder uuid handle template = .ok o →
          DistinctIds (calls.foldl Object.setAttr o).attributes) ∧
    (∀ (handle : Nat) (calls : List Attribute),
        DistinctIds (calls.foldl Object.setAttr (Object.new handle)).attributes) ∧
    (∀ (names : NameTable) (base64 : Base64) (token : JsonToken) (cache loaded : Cache),
        cache.AllDistinct → token.primeCache names base64 cache = .ok loaded → loaded.AllDistinct) ∧
    (∀ (o : Object) (a : Attribute), DistinctIds o.attributes →
        (o.setAttr a).attributes.filter (·.ckType == a.ckType) = [a] ∧
        (o.setAttr a).attributes.filter (·.ckType != a.ckType) =
          o.attributes.filter (·.ckType != a.ckType) ∧
        (o.setAttr a).attributes.length =
          if a.ckType ∈ o.attributes.map Attribute.ckType then o.attributes.length
          else o.attributes.length + 1) :=
  ⟨fun _ _ _ _ _ created => create_distinctIds created,
    fun _ _ _ _ _ calls created =>
      Object.foldl_setAttr_distinctIds calls (create_distinctIds created),
    fun handle calls => Object.foldl_setAttr_distinctIds calls (Object.new_distinctIds handle),
    fun _ _ _ _ _ distinct priming => primeObjects_allDistinct priming distinct,
    fun o a distinct => ⟨Object.setAttrList_filter_same a o.attributes distinct,
      Object.setAttrList_filter_other a o.attributes, Object.setAttrList_length a o.attributes⟩⟩

end Kryoptic
