import Mathlib.Data.List.Nodup
import Kryoptic.Attribute

/-!
Contract: the attribute bag of `object.rs` and the predicates read from it.

Owns: `Object`, `Object::new`, the `create_bool_checker!` and `attr_as_type!` families,
`set_attr` with its replace-by-id laws, `match_template`, and the sensitivity policy
(`SENSITIVE`, `private_key_type`, `needs_sensitivity_check`, `is_sensitive_attr`).

The `set_attr` laws are the step of the "one attribute per id" invariant: `DistinctIds` is
kept by every call (`setAttr_distinctIds`), and on a distinct bag the call leaves exactly the
new attribute under its id and every other attribute where it was.

Does not own: `fill_template` and `create`, which have their own modules.
-/

namespace Kryoptic

structure Object where
  handle : Nat
  attributes : List Attribute
deriving DecidableEq, Repr

/-- At most one attribute per id. -/
def DistinctIds (attributes : List Attribute) : Prop := (attributes.map Attribute.ckType).Nodup

instance (attributes : List Attribute) : Decidable (DistinctIds attributes) :=
  inferInstanceAs (Decidable (List.Nodup _))

namespace Object

def new (handle : Nat) : Object := ⟨handle, []⟩

@[simp] theorem new_handle (handle : Nat) : (new handle).handle = handle := rfl
@[simp] theorem new_attributes (handle : Nat) : (new handle).attributes = [] := rfl

/-- The attribute every `for attr in &self.attributes { if attr.get_type() == id { .. } }` loop
of `object.rs` stops at: the first one with that id. -/
def findAttr (o : Object) (id : Nat) : Option Attribute := o.attributes.find? (·.ckType == id)

/-! ### `create_bool_checker!` -/

/-- The first attribute of id `id` read as a Bool, `default` when it is absent or unreadable. -/
def boolChecker (id : Nat) (default : Bool) (o : Object) : Bool :=
  match o.findAttr id with
  | some a => match a.toBool with
    | .ok b => b
    | .error _ => default
  | none => default

def isToken : Object → Bool := boolChecker CKA_TOKEN false
def isPrivate : Object → Bool := boolChecker CKA_PRIVATE true
def isSensitive : Object → Bool := boolChecker CKA_SENSITIVE true
def isModifiable : Object → Bool := boolChecker CKA_MODIFIABLE true
def isDestroyable : Object → Bool := boolChecker CKA_DESTROYABLE false
def isExtractable : Object → Bool := boolChecker CKA_EXTRACTABLE false

/-! ### `attr_as_type!` -/

/-- The first attribute of id `t`, rejected unless its declared variant is `atype`. -/
def attrAsType {α : Type} (atype : AttrType) (conv : Attribute → KResult α) (o : Object)
    (t : Nat) : KResult α :=
  match o.findAttr t with
  | some attr => if attr.attrtype ≠ atype then errRv CKR_ATTRIBUTE_TYPE_INVALID else conv attr
  | none => .error (.notFound t)

def getAttrAsBool : Object → Nat → KResult Bool := attrAsType .boolType Attribute.toBool
def getAttrAsUlong : Object → Nat → KResult Nat := attrAsType .numType Attribute.toUlong
def getAttrAsString : Object → Nat → KResult (List UInt8) :=
  attrAsType .stringType Attribute.toString
def getAttrAsBytes : Object → Nat → KResult (List UInt8) :=
  attrAsType .bytesType Attribute.toBytes

/-! ### `set_attr` -/

/-- The attribute list after `set_attr(a)`: the loop finds the first index with `a`'s id, which
is then overwritten; with no such index `a` is pushed. -/
def setAttrList (a : Attribute) : List Attribute → List Attribute
  | [] => [a]
  | elem :: rest => if a.ckType = elem.ckType then a :: rest else elem :: setAttrList a rest

/-- `set_attr`, which always returns `Ok(())`. -/
def setAttr (o : Object) (a : Attribute) : Object :=
  { o with attributes := setAttrList a o.attributes }

section SetAttr

variable (a : Attribute) (attributes : List Attribute)

theorem setAttrList_ids_of_mem (present : a.ckType ∈ attributes.map Attribute.ckType) :
    (setAttrList a attributes).map Attribute.ckType = attributes.map Attribute.ckType := by
  induction attributes with
  | nil => cases present
  | cons elem rest inductionHypothesis =>
      by_cases same : a.ckType = elem.ckType
      · simp [setAttrList, same]
      · have inRest : a.ckType ∈ rest.map Attribute.ckType :=
          (List.mem_cons.mp present).resolve_left same
        simp [setAttrList, same, inductionHypothesis inRest]

/-- An attribute of a new id is appended. -/
theorem setAttrList_of_not_mem (absent : a.ckType ∉ attributes.map Attribute.ckType) :
    setAttrList a attributes = attributes ++ [a] := by
  induction attributes with
  | nil => rfl
  | cons elem rest inductionHypothesis =>
      have different : a.ckType ≠ elem.ckType := fun same => absent (by simp [same])
      have notInRest : a.ckType ∉ rest.map Attribute.ckType := fun inRest =>
        absent (List.mem_cons_of_mem _ inRest)
      simp [setAttrList, different, inductionHypothesis notInRest]

theorem setAttrList_ids_of_not_mem (absent : a.ckType ∉ attributes.map Attribute.ckType) :
    (setAttrList a attributes).map Attribute.ckType =
      attributes.map Attribute.ckType ++ [a.ckType] := by
  simp [setAttrList_of_not_mem a attributes absent]

/-- The call grows the bag by one exactly when `a`'s id was absent. -/
theorem setAttrList_length :
    (setAttrList a attributes).length =
      if a.ckType ∈ attributes.map Attribute.ckType then attributes.length
      else attributes.length + 1 := by
  split
  · simpa using congrArg List.length (setAttrList_ids_of_mem a attributes ‹_›)
  · simpa using congrArg List.length (setAttrList_ids_of_not_mem a attributes ‹_›)

/-- Attributes of other ids are untouched and keep their order. -/
theorem setAttrList_filter_other :
    (setAttrList a attributes).filter (·.ckType != a.ckType) =
      attributes.filter (·.ckType != a.ckType) := by
  induction attributes with
  | nil => simp [setAttrList]
  | cons elem rest inductionHypothesis =>
      by_cases same : a.ckType = elem.ckType
      · simp [setAttrList, same]
      · simp [setAttrList, same, List.filter_cons, inductionHypothesis, Ne.symm same]

/-- On a distinct bag, `a` ends up as the only attribute of its id. -/
theorem setAttrList_filter_same (distinct : DistinctIds attributes) :
    (setAttrList a attributes).filter (·.ckType == a.ckType) = [a] := by
  induction attributes with
  | nil => simp [setAttrList]
  | cons elem rest inductionHypothesis =>
      simp only [DistinctIds, List.map_cons, List.nodup_cons, List.mem_map] at distinct
      by_cases same : a.ckType = elem.ckType
      · have restOther : rest.filter (·.ckType == a.ckType) = [] := by
          simp only [List.filter_eq_nil_iff, beq_iff_eq]
          exact fun other member equal => distinct.1 ⟨other, member, equal.trans same⟩
        simp only [setAttrList, if_pos same, List.filter_cons, beq_self_eq_true, ↓reduceIte,
          restOther]
      · simp [setAttrList, same, List.filter_cons, Ne.symm same,
          inductionHypothesis distinct.2]

theorem setAttrList_distinctIds (distinct : DistinctIds attributes) :
    DistinctIds (setAttrList a attributes) := by
  unfold DistinctIds
  by_cases present : a.ckType ∈ attributes.map Attribute.ckType
  · rwa [setAttrList_ids_of_mem a attributes present]
  · rw [setAttrList_ids_of_not_mem a attributes present]
    exact distinct.append (List.nodup_singleton _) (List.disjoint_singleton.mpr present)

end SetAttr

/-- `set_attr` then a lookup of the same id finds the attribute just set. -/
theorem findAttr_setAttr_self (o : Object) (a : Attribute) :
    (o.setAttr a).findAttr a.ckType = some a := by
  unfold findAttr setAttr
  induction o.attributes with
  | nil => simp [setAttrList]
  | cons elem rest inductionHypothesis =>
      by_cases same : a.ckType = elem.ckType
      · simp [setAttrList, same]
      · simpa [setAttrList, same, Ne.symm same] using inductionHypothesis

/-- `set_attr` leaves the lookup of every other id as it was. -/
theorem findAttr_setAttr_other {o : Object} {a : Attribute} {id : Nat} (other : id ≠ a.ckType) :
    (o.setAttr a).findAttr id = o.findAttr id := by
  unfold findAttr setAttr
  induction o.attributes with
  | nil => simp [setAttrList, Ne.symm other]
  | cons elem rest inductionHypothesis =>
      by_cases same : a.ckType = elem.ckType
      · have elemOther : elem.ckType ≠ id := fun hit => other (hit.symm.trans same.symm)
        simp [setAttrList, same, Ne.symm other, elemOther]
      · simp only [setAttrList, if_neg same, List.find?_cons, inductionHypothesis]

/-- A typed read of `a`'s id after `set_attr(a)` answers from `a` when `a` is of the read's
variant. -/
theorem attrAsType_setAttr_self {α : Type} {atype : AttrType} (conv : Attribute → KResult α)
    (o : Object) {a : Attribute} (typed : a.attrtype = atype) :
    (o.setAttr a).attrAsType atype conv a.ckType = conv a := by
  simp [attrAsType, findAttr_setAttr_self, typed]

/-- A typed read of `a`'s id after `set_attr(a)` fails with `CKR_ATTRIBUTE_TYPE_INVALID` when
`a` is of another variant. -/
theorem attrAsType_setAttr_mistyped {α : Type} {atype : AttrType} (conv : Attribute → KResult α)
    (o : Object) {a : Attribute} (mistyped : a.attrtype ≠ atype) :
    (o.setAttr a).attrAsType atype conv a.ckType = errRv CKR_ATTRIBUTE_TYPE_INVALID := by
  simp [attrAsType, findAttr_setAttr_self, mistyped]

/-- After `set_attr(a)` a typed read of every other id answers as before. -/
theorem attrAsType_setAttr_other {α : Type} (atype : AttrType) (conv : Attribute → KResult α)
    (o : Object) {a : Attribute} {t : Nat} (other : t ≠ a.ckType) :
    (o.setAttr a).attrAsType atype conv t = o.attrAsType atype conv t := by
  simp only [attrAsType, findAttr_setAttr_other other]

/-- **`set_attr` and the typed getters round trip.** On every object, whatever attributes it
already holds, several of one id included: after `set_attr` of an attribute built by
`from_bool`, `from_ulong`, `from_string` or `from_bytes`, the getter of its variant reads back
the value set (a number modulo 2^64, a string when it is valid UTF-8); a getter of another
variant fails with `CKR_ATTRIBUTE_TYPE_INVALID`; and every other id reads as it did. -/
theorem set_attr_get_attr_round_trip (o : Object) (id : Nat) :
    (∀ b, (o.setAttr (Attribute.fromBool id b)).getAttrAsBool id = .ok b) ∧
    (∀ n, (o.setAttr (Attribute.fromUlong id n)).getAttrAsUlong id = .ok (n % 2 ^ 64)) ∧
    (∀ s, validUtf8 s = true →
      (o.setAttr (Attribute.fromString id s)).getAttrAsString id = .ok s) ∧
    (∀ v, (o.setAttr (Attribute.fromBytes id v)).getAttrAsBytes id = .ok v) ∧
    (∀ (a : Attribute) {α : Type} (atype : AttrType) (conv : Attribute → KResult α),
      a.ckType = id → a.attrtype ≠ atype →
        (o.setAttr a).attrAsType atype conv id = errRv CKR_ATTRIBUTE_TYPE_INVALID) ∧
    (∀ (a : Attribute) {α : Type} (atype : AttrType) (conv : Attribute → KResult α) (t : Nat),
      t ≠ a.ckType → (o.setAttr a).attrAsType atype conv t = o.attrAsType atype conv t) := by
  refine ⟨fun b => ?_, fun n => ?_, fun s valid => ?_, fun v => ?_,
    fun a _ _ conv named mistyped => named ▸ attrAsType_setAttr_mistyped conv o mistyped,
    fun _ _ atype conv _ other => attrAsType_setAttr_other atype conv o other⟩
  · exact (attrAsType_setAttr_self _ o rfl).trans (by cases b <;> rfl)
  · exact (attrAsType_setAttr_self _ o rfl).trans (Attribute.fromUlong_toUlong id n)
  · exact (attrAsType_setAttr_self _ o rfl).trans (if_pos valid)
  · exact attrAsType_setAttr_self _ o rfl

theorem setAttr_distinctIds {o : Object} (a : Attribute) (distinct : DistinctIds o.attributes) :
    DistinctIds (o.setAttr a).attributes :=
  setAttrList_distinctIds a o.attributes distinct

/-- Any run of `set_attr` calls keeps a bag distinct. -/
theorem foldl_setAttr_distinctIds (calls : List Attribute) {o : Object}
    (distinct : DistinctIds o.attributes) :
    DistinctIds (calls.foldl setAttr o).attributes := by
  induction calls generalizing o with
  | nil => exact distinct
  | cons a rest inductionHypothesis => exact inductionHypothesis (setAttr_distinctIds a distinct)

@[simp] theorem new_distinctIds (handle : Nat) : DistinctIds (new handle).attributes :=
  List.nodup_nil

/-! ### `match_template` -/

/-- Modelled from the spec: `Attribute::match_ck_attr` matches by id and byte-equal value; the
caller's value is the `ulValueLen` bytes at `pValue`. -/
def matchCkAttr (attr : Attribute) (entry : CK_ATTRIBUTE) : Bool :=
  attr.ckType == entry.type_ && entry.ulValueLen == attr.value.length &&
    entry.pValue.map (·.take entry.ulValueLen) == some attr.value

def matchTemplate (o : Object) (template : List CK_ATTRIBUTE) : Bool :=
  template.all fun entry => o.attributes.any fun attr => matchCkAttr attr entry

@[simp] theorem matchTemplate_nil (o : Object) : o.matchTemplate [] = true := rfl

/-! ### Sensitivity policy -/

/-- One iteration of the `private_key_type` loop over `(class, key_type)`. -/
def privateKeyTypeStep (acc : Nat × Nat) (attr : Attribute) : Nat × Nat :=
  if attr.ckType = CKA_CLASS then (attr.toUlong.toOption.getD CK_UNAVAILABLE_INFORMATION, acc.2)
  else if attr.ckType = CKA_KEY_TYPE then
    (acc.1, attr.toUlong.toOption.getD CK_UNAVAILABLE_INFORMATION)
  else acc

/-- The class half of `privateKeyTypeStep` keeps the last `CKA_CLASS` read. -/
theorem privateKeyTypeStep_fst (acc : Nat × Nat) (attr : Attribute) :
    (privateKeyTypeStep acc attr).1 =
      if attr.ckType = CKA_CLASS then attr.toUlong.toOption.getD CK_UNAVAILABLE_INFORMATION
      else acc.1 := by
  unfold privateKeyTypeStep
  split_ifs <;> rfl

/-- The type half of `privateKeyTypeStep` keeps the last `CKA_KEY_TYPE` read. -/
theorem privateKeyTypeStep_snd (acc : Nat × Nat) (attr : Attribute) :
    (privateKeyTypeStep acc attr).2 =
      if attr.ckType = CKA_KEY_TYPE then attr.toUlong.toOption.getD CK_UNAVAILABLE_INFORMATION
      else acc.2 := by
  unfold privateKeyTypeStep
  split_ifs with isClass isType <;> simp_all [CKA_CLASS, CKA_KEY_TYPE]

/-- The key type of a private or secret key, read from the last `CKA_CLASS` and `CKA_KEY_TYPE`
attributes; `none` for any other class. -/
def privateKeyType (o : Object) : Option Nat :=
  let (keyClass, keyType) :=
    o.attributes.foldl privateKeyTypeStep (CK_UNAVAILABLE_INFORMATION, CK_UNAVAILABLE_INFORMATION)
  if keyClass = CKO_PRIVATE_KEY ∨ keyClass = CKO_SECRET_KEY then some keyType else none

/-- A read through `attr_as_type!` that succeeds found the attribute, of the declared type. -/
theorem attrAsType_ok {α : Type} {atype : AttrType} {conv : Attribute → KResult α} {o : Object}
    {t : Nat} {v : α} (read : o.attrAsType atype conv t = .ok v) :
    ∃ attr, o.findAttr t = some attr ∧ attr.attrtype = atype ∧ conv attr = .ok v := by
  unfold attrAsType at read
  split at read
  · split_ifs at read with mistyped
    · cases read
    · exact ⟨_, ‹_›, not_not.mp mistyped, read⟩
  · cases read

/-- A loop that keeps the value of the last attribute of id `id` ends, over distinct ids, with
the value of the only one. -/
theorem foldl_lastWrite {β : Type} (id : Nat) (value : Attribute → β)
    {attributes : List Attribute} (distinct : DistinctIds attributes) (init : β) :
    attributes.foldl (fun acc attr => if attr.ckType = id then value attr else acc) init =
      ((attributes.find? (·.ckType == id)).map value).getD init := by
  induction attributes generalizing init with
  | nil => rfl
  | cons attr rest inductionHypothesis =>
      obtain ⟨fresh, restDistinct⟩ := List.nodup_cons.mp distinct
      by_cases same : attr.ckType = id
      · have absent : rest.find? (·.ckType == id) = none :=
          List.find?_eq_none.mpr fun other member sameId => fresh (by
            rw [same, ← beq_iff_eq.mp sameId]
            exact List.mem_map_of_mem _ member)
        simp [same, inductionHypothesis restDistinct, absent]
      · simp [same, inductionHypothesis restDistinct]

/-- Over distinct ids, `private_key_type` reads the only `CKA_CLASS` and `CKA_KEY_TYPE`. -/
theorem privateKeyType_of_distinct {o : Object} (distinct : DistinctIds o.attributes)
    {keyClass keyType : Nat} (classRead : o.getAttrAsUlong CKA_CLASS = .ok keyClass)
    (typeRead : o.getAttrAsUlong CKA_KEY_TYPE = .ok keyType) :
    o.privateKeyType =
      if keyClass = CKO_PRIVATE_KEY ∨ keyClass = CKO_SECRET_KEY then some keyType else none := by
  let read (attr : Attribute) := attr.toUlong.toOption.getD CK_UNAVAILABLE_INFORMATION
  have lastRead : ∀ {id value}, o.getAttrAsUlong id = .ok value → ∀ init,
      o.attributes.foldl (fun acc attr => if attr.ckType = id then read attr else acc) init =
        value := fun {id} _ readOk init => by
    obtain ⟨attr, found, -, converted⟩ := attrAsType_ok readOk
    rw [foldl_lastWrite id read distinct]
    show ((o.findAttr id).map read).getD init = _
    simp [found, read, converted, Except.toOption]
  have classOfFold := List.foldl_hom Prod.fst privateKeyTypeStep
    (fun acc attr => if attr.ckType = CKA_CLASS then read attr else acc) o.attributes
    (CK_UNAVAILABLE_INFORMATION, CK_UNAVAILABLE_INFORMATION)
    fun acc attr => (privateKeyTypeStep_fst acc attr).symm
  have typeOfFold := List.foldl_hom Prod.snd privateKeyTypeStep
    (fun acc attr => if attr.ckType = CKA_KEY_TYPE then read attr else acc) o.attributes
    (CK_UNAVAILABLE_INFORMATION, CK_UNAVAILABLE_INFORMATION)
    fun acc attr => (privateKeyTypeStep_snd acc attr).symm
  rw [lastRead classRead] at classOfFold
  rw [lastRead typeRead] at typeOfFold
  simp only [privateKeyType, ← classOfFold, ← typeOfFold]

end Object

def SENSITIVE_CKK_RSA : List Nat :=
  [CKA_PRIVATE_EXPONENT, CKA_PRIME_1, CKA_PRIME_2, CKA_EXPONENT_1, CKA_EXPONENT_2,
    CKA_COEFFICIENT]

def SENSITIVE_CKK_EC : List Nat := [CKA_VALUE]

def SENSITIVE_CKK_DH : List Nat := [CKA_VALUE, CKA_VALUE_BITS]

def SENSITIVE_CKK_DSA : List Nat := [CKA_VALUE]

def SENSITIVE_CKK_GENERIC_SECRET : List Nat := [CKA_VALUE, CKA_VALUE_LEN]

def SENSITIVE : List (Nat × List Nat) :=
  [(CKK_RSA, SENSITIVE_CKK_RSA),
    (CKK_EC, SENSITIVE_CKK_EC),
    (CKK_EC_EDWARDS, SENSITIVE_CKK_EC),
    (CKK_EC_MONTGOMERY, SENSITIVE_CKK_EC),
    (CKK_DH, SENSITIVE_CKK_DH),
    (CKK_X9_42_DH, SENSITIVE_CKK_DH),
    (CKK_DSA, SENSITIVE_CKK_DSA),
    (CKK_GENERIC_SECRET, SENSITIVE_CKK_GENERIC_SECRET)]

namespace Object

/-- The sensitive set of the object's key type, when it is a private or secret key of a type
listed in `SENSITIVE`. -/
def needsSensitivityCheck (o : Object) : Option (List Nat) :=
  match o.privateKeyType with
  | some keyType => (SENSITIVE.find? (·.1 == keyType)).map (·.2)
  | none => none

def isSensitiveAttr (o : Object) (id : Nat) (sense : List Nat) : Bool :=
  if !sense.contains id then false
  else if o.isSensitive then true
  else if !o.isExtractable then true
  else false

end Object

end Kryoptic
