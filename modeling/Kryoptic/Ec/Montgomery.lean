import Kryoptic.Object.FillTemplate

/-!
Contract: `ec/montgomery.rs`: the key-pair generation of `ECMontgomeryMechanism`, the mechanism
`register_mechanisms` adds, the checks the file's two factories make in `create`, and the object
types `register` installs them under.

Owns: `ECMontgomeryMechanism::generate_keypair` as the code runs it, and the collaborators it
calls that are not among the sources, modelled from the spec (§4.3, §4.5.3): `check_or_set_attr`,
the factories' `default_object_generate`, the provider's key generation
`ECMontgomeryOperation::generate_keypair` and `default_key_attributes`.

Proved here: `check_or_set_attr` leaves the forced value under its id and every other id as it
was (`forceAttr_ok`), and refuses a different value (`forceAttr_conflict`); from these, what a
successful generation returns whatever the factories and the provider do, and which templates it
refuses.

The factories' `create` (§4.3, step 4): the public one checks, on the object
`default_object_create` built, that `CKA_EC_PARAMS` names X25519 or X448 and that `CKA_EC_POINT`
has that curve's size, with `get_oid_from_obj`, `get_ec_point_from_obj` and `ec_point_size`
modelled from the spec; `ECMontgomeryPubFactory.create_eq_ok_iff` says which objects pass, and
`create_ecParams_errors` what the others answer. `generate_keypair` calls neither `create`.

Does not own: the factories' schemas, `default_object_create` and `ec_key_check_import`, which
are parameters; and the registry `register_mechanisms` adds to, which is
`Kryoptic.Mechanism.Registry`.
-/

namespace Kryoptic

namespace Object

/-- The value of the first attribute of id `id`: what `check_or_set_attr` compares. -/
def valueOf (o : Object) (id : Nat) : Option (List UInt8) := (o.findAttr id).map (·.value)

/-- Modelled from the spec (§4.5.3, "reject if the user template contradicts"):
`check_or_set_attr`. An attribute of `attr`'s id with another value refuses (`false`); one with
the same value is kept; with none, `attr` is pushed. -/
def checkOrSetAttr (o : Object) (attr : Attribute) : Bool × Object :=
  match o.findAttr attr.ckType with
  | some a => (a.value == attr.value, o)
  | none => (true, { o with attributes := o.attributes ++ [attr] })

theorem valueOf_setAttr_other {o : Object} {a : Attribute} {id : Nat} (other : id ≠ a.ckType) :
    (o.setAttr a).valueOf id = o.valueOf id := by
  rw [valueOf, findAttr_setAttr_other other, valueOf]

theorem checkOrSetAttr_other (o : Object) (attr : Attribute) {id : Nat} (other : id ≠ attr.ckType) :
    (o.checkOrSetAttr attr).2.valueOf id = o.valueOf id := by
  unfold checkOrSetAttr
  split
  · rfl
  · simp [valueOf, findAttr, List.find?_append, Ne.symm other]

theorem checkOrSetAttr_self {o : Object} {attr : Attribute}
    (agreed : (o.checkOrSetAttr attr).1 = true) :
    (o.checkOrSetAttr attr).2.valueOf attr.ckType = some attr.value := by
  unfold checkOrSetAttr at *
  split at agreed
  · rename_i a found
    simpa [valueOf, found] using agreed
  · rename_i absent
    simp only [findAttr] at absent
    simp [valueOf, findAttr, List.find?_append, absent]

theorem valueOf_of_getAttrAsBytes {o : Object} {id : Nat} {bytes : List UInt8}
    (read : o.getAttrAsBytes id = .ok bytes) : o.valueOf id = some bytes := by
  obtain ⟨attr, found, -, converted⟩ := attrAsType_ok read
  cases converted
  simp [valueOf, found]

end Object

/-! ### `generate_keypair` -/

/-- `if !obj.check_or_set_attr(attr)? { return Err(CKR_TEMPLATE_INCONSISTENT)?; }`, which
`generate_keypair` makes for every attribute it forces on a key. -/
def forceAttr (o : Object) (attr : Attribute) : KResult Object :=
  if (o.checkOrSetAttr attr).1 then .ok (o.checkOrSetAttr attr).2
  else errRv CKR_TEMPLATE_INCONSISTENT

/-- A forced attribute is the one under its id afterwards, and every other id is untouched. -/
theorem forceAttr_ok {o o' : Object} {attr : Attribute} (forced : forceAttr o attr = .ok o') :
    o'.valueOf attr.ckType = some attr.value ∧
      ∀ id, id ≠ attr.ckType → o'.valueOf id = o.valueOf id := by
  unfold forceAttr at forced
  split_ifs at forced with agreed
  · cases forced
    exact ⟨Object.checkOrSetAttr_self agreed, fun _ other => Object.checkOrSetAttr_other o attr other⟩
  · cases forced

/-- A value already under the id that differs from the forced one is refused. -/
theorem forceAttr_conflict {o : Object} {attr : Attribute} {value : List UInt8}
    (present : o.valueOf attr.ckType = some value) (different : value ≠ attr.value) :
    forceAttr o attr = errRv CKR_TEMPLATE_INCONSISTENT := by
  obtain ⟨a, found, rfl⟩ := Option.map_eq_some'.mp present
  simp [forceAttr, Object.checkOrSetAttr, found, different]

/-- `forceAttr` fails only with `CKR_TEMPLATE_INCONSISTENT`. -/
theorem forceAttr_cases (o : Object) (attr : Attribute) :
    (∃ o', forceAttr o attr = .ok o') ∨ forceAttr o attr = errRv CKR_TEMPLATE_INCONSISTENT := by
  unfold forceAttr
  split_ifs
  · exact .inl ⟨_, rfl⟩
  · exact .inr rfl

/-- The two factory statics of the file. -/
inductive MontgomeryFactory where
  | publicKeyFactory
  | privateKeyFactory
deriving DecidableEq, Repr

/-- Modelled from the spec: what `generate_keypair` calls outside this file. -/
structure MontgomeryBackend where
  /-- A factory's `default_object_generate` on a template: the object skeleton of §4.3. -/
  defaultObjectGenerate : MontgomeryFactory → List CK_ATTRIBUTE → KResult Object
  /-- The provider's curve-specific key generation for the public key's `CKA_EC_PARAMS`: the
  public point and the private value (§4.5.3, step 4). -/
  keygen : List UInt8 → KResult (List UInt8 × List UInt8)

namespace ECMontgomeryOperation

/-- Modelled from the spec (§4.5.3, step 4): the provider's key generation for the curve of the
public key's `CKA_EC_PARAMS`, which sets `CKA_EC_POINT` on the public key and `CKA_VALUE` on the
private one. -/
def generateKeypair (B : MontgomeryBackend) (pubkey privkey : Object) :
    KResult (Object × Object) := do
  let ecParams ← pubkey.getAttrAsBytes CKA_EC_PARAMS
  let (point, value) ← B.keygen ecParams
  pure (pubkey.setAttr (Attribute.fromBytes CKA_EC_POINT point),
    privkey.setAttr (Attribute.fromBytes CKA_VALUE value))

end ECMontgomeryOperation

/-- Modelled from the spec (§4.5.3, step 5): the mechanism-default attributes of a generated
key, marking it as generated here and by which mechanism. -/
def defaultKeyAttributes (key : Object) (mech : Nat) : Object :=
  (key.setAttr (Attribute.fromBool CKA_LOCAL true)).setAttr
    (Attribute.fromUlong CKA_KEY_GEN_MECHANISM mech)

/-- The public key's `CKA_EC_PARAMS` as `generate_keypair` reads it, any failure answered with
`CKR_ATTRIBUTE_VALUE_INVALID`. -/
def ecParamsOf (pubkey : Object) : KResult (List UInt8) :=
  match pubkey.getAttrAsBytes CKA_EC_PARAMS with
  | .ok a => .ok a
  | .error _ => errRv CKR_ATTRIBUTE_VALUE_INVALID

theorem ecParamsOf_valueOf {pubkey : Object} {params : List UInt8}
    (read : ecParamsOf pubkey = .ok params) : pubkey.valueOf CKA_EC_PARAMS = some params := by
  unfold ecParamsOf at read
  split at read
  · cases read
    exact Object.valueOf_of_getAttrAsBytes ‹_›
  · cases read

theorem ECMontgomeryOperation.generateKeypair_ok {B : MontgomeryBackend}
    {pubkey privkey pub priv : Object}
    (generated : ECMontgomeryOperation.generateKeypair B pubkey privkey = .ok (pub, priv)) :
    ∃ point value, pub = pubkey.setAttr (Attribute.fromBytes CKA_EC_POINT point) ∧
      priv = privkey.setAttr (Attribute.fromBytes CKA_VALUE value) := by
  obtain ⟨_, -, generated⟩ := KResult.bind_eq_ok.mp generated
  obtain ⟨⟨point, value⟩, -, generated⟩ := KResult.bind_eq_ok.mp generated
  cases generated
  exact ⟨point, value, rfl, rfl⟩

/-- The last two steps of a generation, the provider's attribute and the mechanism defaults,
leave every other id as it was. -/
theorem defaultKeyAttributes_setAttr_valueOf {o : Object} {attrId mech id : Nat}
    {bytes : List UInt8} (notSet : id ≠ attrId ∧ id ≠ CKA_LOCAL ∧ id ≠ CKA_KEY_GEN_MECHANISM) :
    (defaultKeyAttributes (o.setAttr (Attribute.fromBytes attrId bytes)) mech).valueOf id =
      o.valueOf id := by
  rw [defaultKeyAttributes, Object.valueOf_setAttr_other notSet.2.2,
    Object.valueOf_setAttr_other notSet.2.1, Object.valueOf_setAttr_other notSet.1]

/-- Modelled from the spec: the size in bits of an X25519 key (§4.5.3). -/
def BITS_X25519 : Nat := 255

/-- Modelled from the spec: the size in bits of an X448 key (§4.5.3). -/
def BITS_X448 : Nat := 448

def MIN_EC_MONTGOMERY_SIZE_BITS : Nat := BITS_X25519
def MAX_EC_MONTGOMERY_SIZE_BITS : Nat := BITS_X448

structure ECMontgomeryMechanism where
  info : CK_MECHANISM_INFO
deriving DecidableEq, Repr

namespace ECMontgomeryMechanism

def generateKeypair (B : MontgomeryBackend) (mech : CK_MECHANISM)
    (pubkeyTemplate prikeyTemplate : List CK_ATTRIBUTE) : KResult (Object × Object) := do
  let pubkey ← B.defaultObjectGenerate .publicKeyFactory pubkeyTemplate
  let pubkey ← forceAttr pubkey (Attribute.fromUlong CKA_CLASS CKO_PUBLIC_KEY)
  let pubkey ← forceAttr pubkey (Attribute.fromUlong CKA_KEY_TYPE CKK_EC_EDWARDS)
  let privkey ← B.defaultObjectGenerate .privateKeyFactory prikeyTemplate
  let privkey ← forceAttr privkey (Attribute.fromUlong CKA_CLASS CKO_PRIVATE_KEY)
  let privkey ← forceAttr privkey (Attribute.fromUlong CKA_KEY_TYPE CKK_EC_EDWARDS)
  let ecParams ← ecParamsOf pubkey
  let privkey ← forceAttr privkey (Attribute.fromBytes CKA_EC_PARAMS ecParams)
  let (pubkey, privkey) ← ECMontgomeryOperation.generateKeypair B pubkey privkey
  let privkey := defaultKeyAttributes privkey mech.mechanism
  let pubkey := defaultKeyAttributes pubkey mech.mechanism
  pure (pubkey, privkey)

section Generation

variable {B : MontgomeryBackend} {mech : CK_MECHANISM} {pubkeyTemplate prikeyTemplate : List CK_ATTRIBUTE}

/-- What a successful generation returns, whatever the factories and the provider do: the
classes and the key type it forces, and the private key's `CKA_EC_PARAMS` copied from the
public key. -/
theorem generateKeypair_ok {pub priv : Object}
    (generated : generateKeypair B mech pubkeyTemplate prikeyTemplate = .ok (pub, priv)) :
    pub.valueOf CKA_CLASS = some (Attribute.fromUlong CKA_CLASS CKO_PUBLIC_KEY).value ∧
      priv.valueOf CKA_CLASS = some (Attribute.fromUlong CKA_CLASS CKO_PRIVATE_KEY).value ∧
      pub.valueOf CKA_KEY_TYPE = some (Attribute.fromUlong CKA_KEY_TYPE CKK_EC_EDWARDS).value ∧
      priv.valueOf CKA_KEY_TYPE = some (Attribute.fromUlong CKA_KEY_TYPE CKK_EC_EDWARDS).value ∧
      priv.valueOf CKA_EC_PARAMS = pub.valueOf CKA_EC_PARAMS := by
  obtain ⟨_, -, generated⟩ := KResult.bind_eq_ok.mp generated
  obtain ⟨pub1, pubClass, generated⟩ := KResult.bind_eq_ok.mp generated
  obtain ⟨pub2, pubType, generated⟩ := KResult.bind_eq_ok.mp generated
  obtain ⟨_, -, generated⟩ := KResult.bind_eq_ok.mp generated
  obtain ⟨priv1, privClass, generated⟩ := KResult.bind_eq_ok.mp generated
  obtain ⟨priv2, privType, generated⟩ := KResult.bind_eq_ok.mp generated
  obtain ⟨params, read, generated⟩ := KResult.bind_eq_ok.mp generated
  obtain ⟨priv3, privParams, generated⟩ := KResult.bind_eq_ok.mp generated
  obtain ⟨⟨pub4, priv4⟩, keys, generated⟩ := KResult.bind_eq_ok.mp generated
  obtain ⟨point, value, rfl, rfl⟩ := ECMontgomeryOperation.generateKeypair_ok keys
  cases generated
  obtain ⟨pubClassValue, -⟩ := forceAttr_ok pubClass
  obtain ⟨pubTypeValue, pubTypeOther⟩ := forceAttr_ok pubType
  obtain ⟨privClassValue, -⟩ := forceAttr_ok privClass
  obtain ⟨privTypeValue, privTypeOther⟩ := forceAttr_ok privType
  obtain ⟨privParamsValue, privParamsOther⟩ := forceAttr_ok privParams
  refine ⟨?_, ?_, ?_, ?_, ?_⟩
  · rw [defaultKeyAttributes_setAttr_valueOf (by decide), pubTypeOther CKA_CLASS (by decide)]
    exact pubClassValue
  · rw [defaultKeyAttributes_setAttr_valueOf (by decide),
      privParamsOther CKA_CLASS (show CKA_CLASS ≠ CKA_EC_PARAMS by decide),
      privTypeOther CKA_CLASS (by decide)]
    exact privClassValue
  · rw [defaultKeyAttributes_setAttr_valueOf (by decide)]
    exact pubTypeValue
  · rw [defaultKeyAttributes_setAttr_valueOf (by decide),
      privParamsOther CKA_KEY_TYPE
      (show CKA_KEY_TYPE ≠ CKA_EC_PARAMS by decide)]
    exact privTypeValue
  · rw [defaultKeyAttributes_setAttr_valueOf (by decide),
      defaultKeyAttributes_setAttr_valueOf (by decide), ecParamsOf_valueOf read]
    exact privParamsValue

/-- A key that comes out of the public factory with a `CKA_KEY_TYPE` other than the forced one
is refused with `CKR_TEMPLATE_INCONSISTENT`. -/
theorem generateKeypair_pub_conflict {pub : Object} {keyType : List UInt8}
    (generated : B.defaultObjectGenerate .publicKeyFactory pubkeyTemplate = .ok pub)
    (typed : pub.valueOf CKA_KEY_TYPE = some keyType)
    (other : keyType ≠ (Attribute.fromUlong CKA_KEY_TYPE CKK_EC_EDWARDS).value) :
    generateKeypair B mech pubkeyTemplate prikeyTemplate = errRv CKR_TEMPLATE_INCONSISTENT := by
  rcases forceAttr_cases pub (Attribute.fromUlong CKA_CLASS CKO_PUBLIC_KEY) with
    ⟨pub1, classed⟩ | refused
  · have kept : pub1.valueOf CKA_KEY_TYPE = some keyType :=
      ((forceAttr_ok classed).2 CKA_KEY_TYPE (by decide)).trans typed
    simp [generateKeypair, generated, classed, forceAttr_conflict kept other, bind,
      Except.bind, errRv]
  · simp [generateKeypair, generated, refused, bind, Except.bind, errRv]

/-- Likewise for the private factory: the generation cannot succeed. -/
theorem generateKeypair_priv_conflict {priv : Object} {keyType : List UInt8}
    (generated : B.defaultObjectGenerate .privateKeyFactory prikeyTemplate = .ok priv)
    (typed : priv.valueOf CKA_KEY_TYPE = some keyType)
    (other : keyType ≠ (Attribute.fromUlong CKA_KEY_TYPE CKK_EC_EDWARDS).value)
    (keys : Object × Object) :
    generateKeypair B mech pubkeyTemplate prikeyTemplate ≠ .ok keys := fun built => by
  obtain ⟨_, -, built⟩ := KResult.bind_eq_ok.mp built
  obtain ⟨_, -, built⟩ := KResult.bind_eq_ok.mp built
  obtain ⟨_, -, built⟩ := KResult.bind_eq_ok.mp built
  obtain ⟨_, privGenerated, built⟩ := KResult.bind_eq_ok.mp built
  rw [generated] at privGenerated
  cases privGenerated
  obtain ⟨priv1, classed, built⟩ := KResult.bind_eq_ok.mp built
  obtain ⟨_, typedForced, -⟩ := KResult.bind_eq_ok.mp built
  have kept : priv1.valueOf CKA_KEY_TYPE = some keyType :=
    ((forceAttr_ok classed).2 CKA_KEY_TYPE (by decide)).trans typed
  rw [forceAttr_conflict kept other] at typedForced
  cases typedForced

end Generation

/-- The one `add_mechanism` of `register_mechanisms`: key-pair generation, for keys from X25519's
size to X448's. -/
def registerMechanisms : List (Nat × ECMontgomeryMechanism) :=
  [(CKM_EC_MONTGOMERY_KEY_PAIR_GEN,
    ⟨⟨MIN_EC_MONTGOMERY_SIZE_BITS, MAX_EC_MONTGOMERY_SIZE_BITS, CKF_GENERATE_KEY_PAIR⟩⟩)]

end ECMontgomeryMechanism

namespace Montgomery

/-- The object types `register` installs the factories under with `ot.add_factory`. -/
def register : List ((Nat × Nat) × MontgomeryFactory) :=
  [((CKO_PUBLIC_KEY, CKK_EC_MONTGOMERY), .publicKeyFactory),
    ((CKO_PRIVATE_KEY, CKK_EC_MONTGOMERY), .privateKeyFactory)]

end Montgomery

/-! ### The factories' `create` -/

/-- Modelled from the spec (§4.3, step 4): `oid::X25519_OID`, 1.3.101.110, as the content octets
of its DER encoding. -/
def X25519_OID : List UInt8 := [0x2B, 0x65, 0x6E]

/-- Modelled from the spec: `oid::X448_OID`, 1.3.101.111. -/
def X448_OID : List UInt8 := [0x2B, 0x65, 0x6F]

/-- Modelled from the spec (§4.3, step 4, `CKA_EC_PARAMS` "must DER-encode one of the X25519 or
X448 OIDs"): the `OBJECT IDENTIFIER` a DER value encodes, as its content octets: the tag `0x06`,
a short-form length, then exactly that many octets. -/
def derObjectIdentifier : List UInt8 → Option (List UInt8)
  | tag :: len :: body =>
      if tag = 0x06 ∧ len.toNat < 0x80 ∧ body.length = len.toNat then some body else none
  | _ => none

/-- Modelled from the spec: `get_oid_from_obj`, the object identifier the key's `CKA_EC_PARAMS`
encodes; a value that encodes none is `CKR_ATTRIBUTE_VALUE_INVALID`. -/
def getOidFromObj (obj : Object) : KResult (List UInt8) :=
  obj.getAttrAsBytes CKA_EC_PARAMS >>= fun params =>
    match derObjectIdentifier params with
    | some oid => .ok oid
    | none => errRv CKR_ATTRIBUTE_VALUE_INVALID

/-- Modelled from the spec: `get_ec_point_from_obj`, the key's `CKA_EC_POINT`, the public key's
bytes as RFC 7748 writes them (the comment in `create`). -/
def getEcPointFromObj (obj : Object) : KResult (List UInt8) := obj.getAttrAsBytes CKA_EC_POINT

/-- Modelled from the spec (§4.3, step 4, "the curve's expected public-point size"):
`ec_point_size`, `bits.div_ceil(8)` for the Montgomery curves. -/
def ecPointSize (oid : List UInt8) : KResult Nat :=
  if oid = X25519_OID then .ok ((BITS_X25519 + 7) / 8)
  else if oid = X448_OID then .ok ((BITS_X448 + 7) / 8)
  else errRv CKR_GENERAL_ERROR

/-- The `map_err` closure `create` applies to the errors of `get_oid_from_obj` and
`get_ec_point_from_obj`: a missing attribute is `CKR_TEMPLATE_INCOMPLETE`, any other code
`CKR_ATTRIBUTE_VALUE_INVALID`, and `CKR_ATTRIBUTE_VALUE_INVALID` itself `general_error`, which is
`CKR_GENERAL_ERROR`. -/
def ecAttrError : KError → KError
  | .notFound _ => .rvError CKR_TEMPLATE_INCOMPLETE
  | .rvError rv =>
      if rv ≠ CKR_ATTRIBUTE_VALUE_INVALID then .rvError CKR_ATTRIBUTE_VALUE_INVALID
      else .rvError CKR_GENERAL_ERROR
  | .panic => .panic

/-- `ECMontgomeryPubFactory::create`, over the factory's `default_object_create` (steps 1 to 3 of
spec §4.3, on the factory's schema). -/
def ECMontgomeryPubFactory.create (defaultObjectCreate : List CK_ATTRIBUTE → KResult Object)
    (template : List CK_ATTRIBUTE) : KResult Object := do
  let obj ← defaultObjectCreate template
  let oid ← (getOidFromObj obj).mapError ecAttrError
  if oid = X25519_OID ∨ oid = X448_OID then
    let point ← (getEcPointFromObj obj).mapError ecAttrError
    if point.length ≠ (← ecPointSize oid) then errRv CKR_ATTRIBUTE_VALUE_INVALID else pure obj
  else errRv CKR_ATTRIBUTE_VALUE_INVALID

/-- `ECMontgomeryPrivFactory::create`, over the factory's `default_object_create` and
`ec_key_check_import`, which are not among the sources (the import validation of spec §4.3,
step 4). -/
def ECMontgomeryPrivFactory.create (defaultObjectCreate : List CK_ATTRIBUTE → KResult Object)
    (ecKeyCheckImport : Object → KResult Object) (template : List CK_ATTRIBUTE) :
    KResult Object := do
  let obj ← defaultObjectCreate template
  ecKeyCheckImport obj

/-- The DER form of an object identifier: tag, one length octet below `0x80`, the content. -/
theorem derObjectIdentifier_eq_some_iff (params oid : List UInt8) :
    derObjectIdentifier params = some oid ↔
      ∃ len : UInt8, len.toNat < 0x80 ∧ len.toNat = oid.length ∧ params = 0x06 :: len :: oid := by
  match params with
  | [] | [_] => simp [derObjectIdentifier]
  | tag :: len :: body =>
      simp only [derObjectIdentifier, List.cons.injEq]
      split_ifs with wellFormed
      · simp only [Option.some.injEq]
        constructor
        · rintro rfl
          exact ⟨len, wellFormed.2.1, wellFormed.2.2.symm, wellFormed.1, rfl, rfl⟩
        · rintro ⟨_, -, -, -, rfl, rfl⟩
          rfl
      · simp only [reduceCtorEq, false_iff, not_exists, not_and]
        rintro _ short sized rfl rfl rfl
        exact wellFormed ⟨rfl, short, sized.symm⟩

/-- The Montgomery object identifiers are the two whose DER form `0x06 0x03 …` names them. -/
theorem getOidFromObj_montgomery {obj : Object} {oid : List UInt8}
    (curve : oid = X25519_OID ∨ oid = X448_OID) :
    getOidFromObj obj = .ok oid ↔ obj.getAttrAsBytes CKA_EC_PARAMS = .ok (0x06 :: 0x03 :: oid) := by
  have threeOctets : oid.length = 3 := by rcases curve with rfl | rfl <;> rfl
  unfold getOidFromObj
  cases read : obj.getAttrAsBytes CKA_EC_PARAMS with
  | error e => simp [bind, Except.bind]
  | ok params =>
      have encodes : derObjectIdentifier params = some oid ↔ params = 0x06 :: 0x03 :: oid := by
        rw [derObjectIdentifier_eq_some_iff, threeOctets]
        constructor
        · rintro ⟨len, -, three, rfl⟩
          rw [UInt8.toNat.inj (three.trans rfl : len.toNat = (3 : UInt8).toNat)]
        · rintro rfl
          exact ⟨3, by decide, rfl, rfl⟩
      simp only [bind, Except.bind, Except.ok.injEq, ← encodes]
      split <;> simp_all [errRv]

/-- **`ECMontgomeryPubFactory::create` accepts exactly the X25519 and X448 public keys.** Whatever
`default_object_create` does, `create` returns `Ok` exactly with the object it built, unchanged,
when that object's `CKA_EC_PARAMS` is the DER `OBJECT IDENTIFIER` of X25519 and its `CKA_EC_POINT`
has 32 bytes, or that of X448 with a point of 56 bytes. -/
theorem ECMontgomeryPubFactory.create_eq_ok_iff
    (defaultObjectCreate : List CK_ATTRIBUTE → KResult Object) (template : List CK_ATTRIBUTE)
    (obj : Object) :
    ECMontgomeryPubFactory.create defaultObjectCreate template = .ok obj ↔
      defaultObjectCreate template = .ok obj ∧
      ((obj.getAttrAsBytes CKA_EC_PARAMS = .ok (0x06 :: 0x03 :: X25519_OID) ∧
          ∃ point, obj.getAttrAsBytes CKA_EC_POINT = .ok point ∧ point.length = 32) ∨
        (obj.getAttrAsBytes CKA_EC_PARAMS = .ok (0x06 :: 0x03 :: X448_OID) ∧
          ∃ point, obj.getAttrAsBytes CKA_EC_POINT = .ok point ∧ point.length = 56)) := by
  have accepts : ∀ {oid size}, (oid = X25519_OID ∧ size = 32 ∨ oid = X448_OID ∧ size = 56) →
      obj.getAttrAsBytes CKA_EC_PARAMS = .ok (0x06 :: 0x03 :: oid) →
      ∀ point, obj.getAttrAsBytes CKA_EC_POINT = .ok point → point.length = size →
      defaultObjectCreate template = .ok obj →
      ECMontgomeryPubFactory.create defaultObjectCreate template = .ok obj := by
    rintro oid size curve params point pointRead sized built
    have named : oid = X25519_OID ∨ oid = X448_OID := curve.imp And.left And.left
    have sizeOf : ecPointSize oid = .ok size := by
      rcases curve with ⟨rfl, rfl⟩ | ⟨rfl, rfl⟩ <;> rfl
    have oidRead := (getOidFromObj_montgomery named).mpr params
    simp [ECMontgomeryPubFactory.create, built, Except.mapError, oidRead, named, getEcPointFromObj,
      pointRead, sizeOf, sized, bind, Except.bind, pure, Except.pure]
  constructor
  · intro created
    obtain ⟨obj₀, built, created⟩ := KResult.bind_eq_ok.mp created
    obtain ⟨oid, oidRead, created⟩ := KResult.bind_eq_ok.mp created
    split at created
    · next named =>
        obtain ⟨point, pointRead, created⟩ := KResult.bind_eq_ok.mp created
        obtain ⟨size, sizeOf, created⟩ := KResult.bind_eq_ok.mp created
        split at created
        · cases created
        · next fits =>
            cases created
            rw [KResult.mapError_eq_ok, getOidFromObj_montgomery named] at oidRead
            rw [KResult.mapError_eq_ok] at pointRead
            refine ⟨built, ?_⟩
            rcases named with rfl | rfl <;> cases sizeOf
            exacts [.inl ⟨oidRead, point, pointRead, not_not.mp fits⟩,
              .inr ⟨oidRead, point, pointRead, not_not.mp fits⟩]
    · cases created
  · rintro ⟨built, ⟨params, point, pointRead, sized⟩ | ⟨params, point, pointRead, sized⟩⟩
    · exact accepts (.inl ⟨rfl, rfl⟩) params point pointRead sized built
    · exact accepts (.inr ⟨rfl, rfl⟩) params point pointRead sized built

/-- What a `CKA_EC_PARAMS` that names no Montgomery curve answers, once `default_object_create`
has built the object: a missing one `CKR_TEMPLATE_INCOMPLETE`; one that encodes no object
identifier `CKR_GENERAL_ERROR`, since `get_oid_from_obj` reports it as
`CKR_ATTRIBUTE_VALUE_INVALID` and the `map_err` turns that code into `general_error`; and one of
another curve `CKR_ATTRIBUTE_VALUE_INVALID`. -/
theorem ECMontgomeryPubFactory.create_ecParams_errors
    {defaultObjectCreate : List CK_ATTRIBUTE → KResult Object} {template : List CK_ATTRIBUTE}
    {obj : Object} (built : defaultObjectCreate template = .ok obj) :
    (obj.findAttr CKA_EC_PARAMS = none →
      ECMontgomeryPubFactory.create defaultObjectCreate template = errRv CKR_TEMPLATE_INCOMPLETE) ∧
    (∀ params, obj.getAttrAsBytes CKA_EC_PARAMS = .ok params → derObjectIdentifier params = none →
      ECMontgomeryPubFactory.create defaultObjectCreate template = errRv CKR_GENERAL_ERROR) ∧
    (∀ params oid, obj.getAttrAsBytes CKA_EC_PARAMS = .ok params →
      derObjectIdentifier params = some oid → ¬(oid = X25519_OID ∨ oid = X448_OID) →
      ECMontgomeryPubFactory.create defaultObjectCreate template =
        errRv CKR_ATTRIBUTE_VALUE_INVALID) := by
  refine ⟨fun absent => ?_, fun params read malformed => ?_, fun params oid read named other => ?_⟩
  · simp [ECMontgomeryPubFactory.create, built, getOidFromObj, Object.getAttrAsBytes,
      Object.attrAsType, absent, Except.mapError, ecAttrError, errRv, bind, Except.bind]
  · simp [ECMontgomeryPubFactory.create, built, getOidFromObj, read, malformed, Except.mapError,
      ecAttrError, errRv, bind, Except.bind]
  · simp [ECMontgomeryPubFactory.create, built, getOidFromObj, read, named, Except.mapError, other,
      errRv, bind, Except.bind]

/-! ### The key type of generated keys -/

/-- A stand-in for the factories and the provider: a factory builds the object of the template's
entries, each entry's bytes under its type, as step 2 of spec §4.3 sets them; the key generation
returns fixed bytes. -/
def templateBackend : MontgomeryBackend where
  defaultObjectGenerate _ template :=
    .ok ⟨0, template.filterMap fun entry => entry.pValue.map (Attribute.fromBytes entry.type_)⟩
  keygen _ := .ok (List.replicate 32 9, List.replicate 32 7)

/-- The DER encoding of the X25519 object identifier 1.3.101.110. -/
def x25519Params : List UInt8 := [0x06, 0x03, 0x2B, 0x65, 0x6E]

/-- `CKM_EC_MONTGOMERY_KEY_PAIR_GEN`, which takes no parameter. -/
def montgomeryKeyPairGen : CK_MECHANISM := ⟨CKM_EC_MONTGOMERY_KEY_PAIR_GEN, [], 0⟩

/-- **Generated Montgomery keys are typed `CKK_EC_EDWARDS`.** Whatever the factories and the
provider's key generation do, a key pair that `generate_keypair` returns has a public key of
class `CKO_PUBLIC_KEY` and a private key of class `CKO_PRIVATE_KEY` whose `CKA_EC_PARAMS` is the
public key's; but both are of key type `CKK_EC_EDWARDS`, while `register` installs the file's
factories under `CKK_EC_MONTGOMERY` only. A template whose key comes out of its factory with
`CKA_KEY_TYPE` `CKK_EC_MONTGOMERY`, as a factory that sets the template's attributes makes it, is
refused: the public one with `CKR_TEMPLATE_INCONSISTENT`, and with a private one the generation
cannot succeed. -/
theorem montgomery_keypair_typed_edwards :
    (∀ (B : MontgomeryBackend) (mech : CK_MECHANISM)
        (pubkeyTemplate prikeyTemplate : List CK_ATTRIBUTE) (pub priv : Object),
      ECMontgomeryMechanism.generateKeypair B mech pubkeyTemplate prikeyTemplate =
          .ok (pub, priv) →
        pub.valueOf CKA_CLASS = some (Attribute.fromUlong CKA_CLASS CKO_PUBLIC_KEY).value ∧
        priv.valueOf CKA_CLASS = some (Attribute.fromUlong CKA_CLASS CKO_PRIVATE_KEY).value ∧
        pub.valueOf CKA_KEY_TYPE = some (Attribute.fromUlong CKA_KEY_TYPE CKK_EC_EDWARDS).value ∧
        priv.valueOf CKA_KEY_TYPE = some (Attribute.fromUlong CKA_KEY_TYPE CKK_EC_EDWARDS).value ∧
        priv.valueOf CKA_EC_PARAMS = pub.valueOf CKA_EC_PARAMS) ∧
    (∀ entry ∈ Montgomery.register, entry.1.2 = CKK_EC_MONTGOMERY) ∧
    (Attribute.fromUlong CKA_KEY_TYPE CKK_EC_EDWARDS).value ≠
      (Attribute.fromUlong CKA_KEY_TYPE CKK_EC_MONTGOMERY).value ∧
    (∀ (B : MontgomeryBackend) (mech : CK_MECHANISM)
        (pubkeyTemplate prikeyTemplate : List CK_ATTRIBUTE) (pub : Object),
      B.defaultObjectGenerate .publicKeyFactory pubkeyTemplate = .ok pub →
      pub.valueOf CKA_KEY_TYPE =
          some (Attribute.fromUlong CKA_KEY_TYPE CKK_EC_MONTGOMERY).value →
        ECMontgomeryMechanism.generateKeypair B mech pubkeyTemplate prikeyTemplate =
          errRv CKR_TEMPLATE_INCONSISTENT) ∧
    (∀ (B : MontgomeryBackend) (mech : CK_MECHANISM)
        (pubkeyTemplate prikeyTemplate : List CK_ATTRIBUTE) (priv : Object)
        (keys : Object × Object),
      B.defaultObjectGenerate .privateKeyFactory prikeyTemplate = .ok priv →
      priv.valueOf CKA_KEY_TYPE =
          some (Attribute.fromUlong CKA_KEY_TYPE CKK_EC_MONTGOMERY).value →
        ECMontgomeryMechanism.generateKeypair B mech pubkeyTemplate prikeyTemplate ≠ .ok keys) ∧
    (∃ pub priv, ECMontgomeryMechanism.generateKeypair templateBackend montgomeryKeyPairGen
        [⟨CKA_EC_PARAMS, some x25519Params, 5⟩] [] = .ok (pub, priv) ∧
      pub.getAttrAsUlong CKA_KEY_TYPE = .ok CKK_EC_EDWARDS ∧
      priv.getAttrAsUlong CKA_KEY_TYPE = .ok CKK_EC_EDWARDS) ∧
    ECMontgomeryMechanism.generateKeypair templateBackend montgomeryKeyPairGen
        [⟨CKA_EC_PARAMS, some x25519Params, 5⟩,
          ⟨CKA_KEY_TYPE, some (leBytes 8 CKK_EC_MONTGOMERY), 8⟩] [] =
      errRv CKR_TEMPLATE_INCONSISTENT :=
  ⟨fun _ _ _ _ _ _ generated => ECMontgomeryMechanism.generateKeypair_ok generated,
    by decide, by decide,
    fun _ _ _ _ _ generated typed =>
      ECMontgomeryMechanism.generateKeypair_pub_conflict generated typed (by decide),
    fun _ _ _ _ _ keys generated typed =>
      ECMontgomeryMechanism.generateKeypair_priv_conflict generated typed (by decide) keys,
    ⟨_, _, rfl, rfl, rfl⟩, rfl⟩

end Kryoptic
