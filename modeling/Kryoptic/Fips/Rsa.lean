import Kryoptic.Mechanism
import Kryoptic.Object.Core

/-!
Contract: the RSA PKCS #1 v1.5 operation of `fips/rsa.rs` and the provider calls it makes.

Owns: `object_to_rsa_public_key` and `object_to_rsa_private_key` (the `make_bn!` reads and the
choice of the CRT form), `get_digest_name`, the constructors `encrypt_new`, `decrypt_new`,
`sign_new` and `verify_new`, and `RsaPKCSOperation`'s `Encryption`, `Decryption`, `Sign` and
`Verify` methods, with their `in_use` / `finalized` flags.

The provider, that is the `fips` bridge (`EvpPkeyCtx`, `EvpPkey`, `ProviderSignatureCtx`) and the
library behind it, is not among the sources. It is a parameter `Provider ω` over the provider's
state: every call may fail and may change that state. Keys and contexts are handles. A call
returning a C `int` succeeds on 1; a wrapper that turns a null pointer into a `KResult` fails with
`CKR_DEVICE_ERROR`, the spec's fallback for a provider failure (§5); the `ProviderSignatureCtx`
methods fail with whatever error the provider reports. A key import is one call: the big number
conversions, `EVP_PKEY_fromdata_init`, `EVP_PKEY_fromdata` and `EvpPkey::from_ptr`, each of
which fails with `CKR_DEVICE_ERROR`.

Arithmetic on `usize` and `u64` wraps, as in a release build.

Proved here: every constructor returns a `Fresh` operation (`new_fresh`); one step lemma for
each method, derived from what the method may do to the flags (`FinalizeStep`, `FlagStep`); and
the operation, used as an `Encryption`, a `Decryption`, a `Sign` or a `Verify`, refines the
abstract lifecycle of `Kryoptic.Mechanism` whatever the provider returns.

Does not own: the lifecycle from the constructors and the runs on a concrete provider, which are
`Kryoptic.Operation.Lifecycle`.
-/

namespace Kryoptic

/-- The key an `EvpPkey` owns: `none` for `EvpPkey::empty()`. -/
abbrev EvpPkey := Option Nat

/-- The `OSSL_PKEY_PARAM_RSA_*` parameters of a key import. -/
inductive RsaParam where
  | n
  | e
  | d
  | factor1
  | factor2
  | exponent1
  | exponent2
  | coefficient1
deriving DecidableEq, Repr

/-- The selection of `EVP_PKEY_fromdata`: `EVP_PKEY_PUBLIC_KEY` or `EVP_PKEY_PRIVATE_KEY`. -/
inductive KeySelection where
  | publicKey
  | privateKey
deriving DecidableEq, Repr

/-- The operation an `EVP_PKEY_*_init` sets a context up for, and the one an `EVP_PKEY_*` call
performs. -/
inductive PkeyOp where
  | encrypt
  | decrypt
  | sign
  | verify
deriving DecidableEq, Repr

/-- Modelled from the spec: the provider over its state `ω`. -/
structure Provider (ω : Type) where
  /-- A key import; `none` when one of its steps fails. -/
  fromdata : ω → KeySelection → List (RsaParam × List UInt8) → ω × Option Nat
  /-- `EVP_PKEY_CTX_new_from_pkey`; `none` for a null context. -/
  ctxNewFromPkey : ω → EvpPkey → ω × Option Nat
  /-- `EVP_PKEY_encrypt_init`, `EVP_PKEY_decrypt_init`, `EVP_PKEY_sign_init` and
  `EVP_PKEY_verify_init` on a context. -/
  init : ω → Nat → PkeyOp → ω × Int
  /-- `EVP_PKEY_CTX_set_params` with the PKCS #1 v1.5 pad mode. -/
  setParams : ω → Nat → ω × Int
  /-- `EVP_PKEY_encrypt`, `EVP_PKEY_decrypt` and `EVP_PKEY_sign` (the `PkeyOp` says which) on a
  context, with a null output (`none`) or an output buffer of `*outlen` bytes: the return code,
  the `*outlen` written back and the bytes written. -/
  apply : ω → Nat → PkeyOp → Option Nat → List UInt8 → ω × (Int × Nat × List UInt8)
  /-- `ProviderSignatureCtx::new`; `none` for a null context. -/
  sigctxNew : ω → ω × Option Nat
  /-- `digest_sign_init` (with `PkeyOp.sign`) and `digest_verify_init` (with `PkeyOp.verify`):
  the digest name and the key. -/
  digestInit : ω → Nat → PkeyOp → String → EvpPkey → ω × KResult Unit
  /-- `digest_sign_update` and `digest_verify_update`. -/
  digestUpdate : ω → Nat → PkeyOp → List UInt8 → ω × KResult Unit
  /-- `digest_sign_final` into a signature of the given length. -/
  digestSignFinal : ω → Nat → Nat → ω × KResult (List UInt8)
  /-- `digest_verify_final` on a signature. -/
  digestVerifyFinal : ω → Nat → List UInt8 → ω × KResult Unit

/-- A program on the provider's state alone. -/
abbrev WorldM (ω α : Type) := EStateM KError ω α

section Calls

variable {ω : Type} (P : Provider ω)

/-- A call whose wrapper returns a `KResult`, passed on with `?`. -/
def callK {α : Type} (f : ω → ω × KResult α) : WorldM ω α := fun w =>
  match f w with
  | (w', .ok a) => .ok a w'
  | (w', .error e) => .error e w'

/-- A call returning a pointer, turned into a `KResult` by its wrapper. -/
def callPtr (f : ω → ω × Option Nat) : WorldM ω Nat := fun w =>
  match f w with
  | (w', some handle) => .ok handle w'
  | (w', none) => .error (.rvError CKR_DEVICE_ERROR) w'

/-- `if unsafe { EVP_.. } != 1 { return err_rv!(CKR_DEVICE_ERROR); }`. -/
def ossl (f : ω → ω × Int) : WorldM ω Unit := fun w =>
  let (w', ret) := f w
  if ret = 1 then .ok () w' else .error (.rvError CKR_DEVICE_ERROR) w'

/-- `EvpPkeyCtx::from_ptr(EVP_PKEY_CTX_new_from_pkey(get_libctx(), key, null))?`. -/
def newCtx (key : EvpPkey) : WorldM ω Nat := callPtr (P.ctxNewFromPkey · key)

/-- An `EVP_PKEY_encrypt`, `_decrypt` or `_sign` checked for 1: the `*outlen` written back and
the bytes written. -/
def pkeyApply (ctx : Nat) (pkeyOp : PkeyOp) (out : Option Nat) (input : List UInt8) :
    WorldM ω (Nat × List UInt8) := fun w =>
  let (w', ret, outlen, written) := P.apply w ctx pkeyOp out input
  if ret = 1 then .ok (outlen, written) w' else .error (.rvError CKR_DEVICE_ERROR) w'

end Calls

/-! ### Keys -/

/-- The read of `make_bn!`: the attribute's bytes, `CKR_DEVICE_ERROR` without them. -/
def makeBn (key : Object) (id : Nat) : KResult (List UInt8) :=
  match key.getAttrAsBytes id with
  | .ok bytes => .ok bytes
  | .error _ => errRv CKR_DEVICE_ERROR

/-- A `KResult` computed without the provider, passed on with `?`. -/
def liftK {ω α : Type} (r : KResult α) : WorldM ω α := fun w =>
  match r with
  | .ok a => .ok a w
  | .error e => .error e w

/-- The private key's CRT parameters, read only when all five are present. -/
def crtParams (key : Object) : KResult (List (RsaParam × List UInt8)) :=
  if [CKA_PRIME_1, CKA_PRIME_2, CKA_EXPONENT_1, CKA_EXPONENT_2, CKA_COEFFICIENT].all
      fun id => (key.findAttr id).isSome then do
    let p ← makeBn key CKA_PRIME_1
    let q ← makeBn key CKA_PRIME_2
    let a ← makeBn key CKA_EXPONENT_1
    let b ← makeBn key CKA_EXPONENT_2
    let c ← makeBn key CKA_COEFFICIENT
    pure [(.factor1, p), (.factor2, q), (.exponent1, a), (.exponent2, b), (.coefficient1, c)]
  else pure []

section Keys

variable {ω : Type} (P : Provider ω)

def objectToRsaPublicKey (key : Object) : WorldM ω EvpPkey := do
  let n ← liftK (makeBn key CKA_MODULUS)
  let e ← liftK (makeBn key CKA_PUBLIC_EXPONENT)
  let pkey ← callPtr (P.fromdata · .publicKey [(.n, n), (.e, e)])
  pure (some pkey)

def objectToRsaPrivateKey (key : Object) : WorldM ω EvpPkey := do
  let n ← liftK (makeBn key CKA_MODULUS)
  let e ← liftK (makeBn key CKA_PUBLIC_EXPONENT)
  let d ← liftK (makeBn key CKA_PRIVATE_EXPONENT)
  let crt ← liftK (crtParams key)
  let pkey ← callPtr (P.fromdata · .privateKey ([(.n, n), (.e, e), (.d, d)] ++ crt))
  pure (some pkey)

end Keys

/-- `get_digest_name`: the `OSSL_DIGEST_NAME_*` of a mechanism, empty for `CKM_RSA_PKCS`. -/
def getDigestName (mech : Nat) : KResult String :=
  if mech = CKM_RSA_PKCS then .ok ""
  else if mech = CKM_SHA1_RSA_PKCS then .ok "SHA1"
  else if mech = CKM_SHA224_RSA_PKCS then .ok "SHA2-224"
  else if mech = CKM_SHA256_RSA_PKCS then .ok "SHA2-256"
  else if mech = CKM_SHA384_RSA_PKCS then .ok "SHA2-384"
  else if mech = CKM_SHA512_RSA_PKCS then .ok "SHA2-512"
  else if mech = CKM_SHA3_224_RSA_PKCS then .ok "SHA3-224"
  else if mech = CKM_SHA3_256_RSA_PKCS then .ok "SHA3-256"
  else if mech = CKM_SHA3_384_RSA_PKCS then .ok "SHA3-384"
  else if mech = CKM_SHA3_512_RSA_PKCS then .ok "SHA3-512"
  else errRv CKR_GENERAL_ERROR

/-- `usize` subtraction in a release build: it wraps below zero. -/
def usizeSub (a b : Nat) : Nat := (a + 2 ^ 64 - b) % 2 ^ 64

/-! ### `RsaPKCSOperation` -/

structure RsaPKCSOperation where
  mech : Nat
  maxInput : Nat
  outputLen : Nat
  publicKey : EvpPkey
  privateKey : EvpPkey
  finalized : Bool
  inUse : Bool
  sigctx : Option Nat
  mdname : String
deriving DecidableEq, Repr

/-- What a method call reads and changes: the operation, and the provider's state. -/
structure RsaState (ω : Type) where
  world : ω
  op : RsaPKCSOperation

namespace RsaPKCSOperation

section Constructors

variable {ω : Type} (P : Provider ω)

/-- The key size gate of every constructor: `CKA_MODULUS`, and its length in bits within the
mechanism's bounds. -/
def checkKeySize (key : Object) (info : CK_MECHANISM_INFO) : KResult (List UInt8) := do
  let modulus ← key.getAttrAsBytes CKA_MODULUS
  let modulusBits := modulus.length * 8 % 2 ^ 64
  if modulusBits < info.ulMinKeySize ∨ (info.ulMaxKeySize ≠ 0 ∧ modulusBits > info.ulMaxKeySize)
  then errRv CKR_KEY_SIZE_RANGE
  else pure modulus

def encryptNew (mech : CK_MECHANISM) (key : Object) (info : CK_MECHANISM_INFO) :
    WorldM ω RsaPKCSOperation := do
  let modulus ← liftK (checkKeySize key info)
  if mech.mechanism ≠ CKM_RSA_PKCS then liftK (errRv CKR_MECHANISM_INVALID)
  else
    let publicKey ← objectToRsaPublicKey P key
    pure ⟨mech.mechanism, usizeSub modulus.length 11, modulus.length, publicKey, none, false,
      false, none, ""⟩

def decryptNew (mech : CK_MECHANISM) (key : Object) (info : CK_MECHANISM_INFO) :
    WorldM ω RsaPKCSOperation := do
  let modulus ← liftK (checkKeySize key info)
  if mech.mechanism ≠ CKM_RSA_PKCS then liftK (errRv CKR_MECHANISM_INVALID)
  else
    let publicKey ← objectToRsaPublicKey P key
    let privateKey ← objectToRsaPrivateKey P key
    pure ⟨mech.mechanism, modulus.length, usizeSub modulus.length 11, publicKey, privateKey,
      false, false, none, ""⟩

/-- `max_input` of `sign_new` and `verify_new`. -/
def signMaxInput (mechanism : Nat) (modulus : List UInt8) : Nat :=
  if mechanism = CKM_RSA_PKCS then usizeSub modulus.length 11 else 0

def signNew (mech : CK_MECHANISM) (key : Object) (info : CK_MECHANISM_INFO) :
    WorldM ω RsaPKCSOperation := do
  let modulus ← liftK (checkKeySize key info)
  let publicKey ← objectToRsaPublicKey P key
  let privateKey ← objectToRsaPrivateKey P key
  let sigctx ← if mech.mechanism = CKM_RSA_PKCS then pure none
    else some <$> callPtr P.sigctxNew
  let mdname ← liftK (getDigestName mech.mechanism)
  pure ⟨mech.mechanism, signMaxInput mech.mechanism modulus, modulus.length, publicKey,
    privateKey, false, false, sigctx, mdname⟩

def verifyNew (mech : CK_MECHANISM) (key : Object) (info : CK_MECHANISM_INFO) :
    WorldM ω RsaPKCSOperation := do
  let modulus ← liftK (checkKeySize key info)
  let publicKey ← objectToRsaPublicKey P key
  let sigctx ← if mech.mechanism = CKM_RSA_PKCS then pure none
    else some <$> callPtr P.sigctxNew
  let mdname ← liftK (getDigestName mech.mechanism)
  pure ⟨mech.mechanism, signMaxInput mech.mechanism modulus, modulus.length, publicKey, none,
    false, false, sigctx, mdname⟩

/-- What every constructor returns: an operation of the mechanism asked for, neither in use nor
finalized. -/
def BuiltFresh (mech : Nat) (op : RsaPKCSOperation) : Prop :=
  op.mech = mech ∧ op.inUse = false ∧ op.finalized = false

theorem liftK_errRv_returns {α : Type} {p : α → Prop} (rv : Nat) :
    Returns p (liftK (errRv rv) : WorldM ω α) := fun _ _ _ returned => by
  cases returned

/-- Every constructor returns a `Fresh` operation of the mechanism asked for. -/
theorem new_fresh (mech : CK_MECHANISM) (key : Object) (info : CK_MECHANISM_INFO) :
    Returns (BuiltFresh mech.mechanism) (encryptNew P mech key info) ∧
      Returns (BuiltFresh mech.mechanism) (decryptNew P mech key info) ∧
      Returns (BuiltFresh mech.mechanism) (signNew P mech key info) ∧
      Returns (BuiltFresh mech.mechanism) (verifyNew P mech key info) := by
  refine ⟨?_, ?_, ?_, ?_⟩
  all_goals repeat' first
    | refine Returns.bind fun _ => ?_
    | refine Returns.ite ?_ ?_
    | exact liftK_errRv_returns _
    | exact Returns.pure ⟨rfl, rfl, rfl⟩

end Constructors

/-! #### Methods -/

section Methods

variable {ω : Type} (P : Provider ω)

/-- The lifecycle phase of `in_use` and `finalized`. -/
def phase (st : RsaState ω) : Phase := phaseOf st.op.inUse st.op.finalized

/-- A program on the provider alone, run from a method: it leaves the operation as it is. -/
def onWorld {α : Type} (x : WorldM ω α) : OpM (RsaState ω) α := fun st =>
  match x st.world with
  | .ok a world => .ok a { st with world }
  | .error e world => .error e { st with world }

/-- The operation, as a method reads `self`. -/
def getOp : OpM (RsaState ω) RsaPKCSOperation := fun st => .ok st.op st

def modifyOp (f : RsaPKCSOperation → RsaPKCSOperation) : OpM (RsaState ω) Unit :=
  modify fun st => { st with op := f st.op }

/-- `self.finalized = true`. -/
def setFinalized : OpM (RsaState ω) Unit := modifyOp fun op => { op with finalized := true }

/-- `self.in_use = true`. -/
def setInUse : OpM (RsaState ω) Unit := modifyOp fun op => { op with inUse := true }

/-- `self.sigctx.as_mut().unwrap()`: it panics on `None`. -/
def unwrapSigctx : OpM (RsaState ω) Nat := fun st =>
  match st.op.sigctx with
  | some sigctx => .ok sigctx st
  | none => .error .panic st

/-- `encrypt` and `decrypt`, which differ only in the key and the provider operation: the output
length first, then, for a buffer large enough, the operation finalized and the output. -/
def oneShotCipher (key : RsaPKCSOperation → EvpPkey) (pkeyOp : PkeyOp) (input : List UInt8)
    (output : Option Nat) : OpM (RsaState ω) (List UInt8 × Nat) := do
  let op ← getOp
  guardRv op.inUse CKR_OPERATION_NOT_INITIALIZED
  guardRv op.finalized CKR_OPERATION_NOT_INITIALIZED
  let ctx ← onWorld (newCtx P (key op))
  onWorld (ossl (P.init · ctx pkeyOp))
  onWorld (ossl (P.setParams · ctx))
  let (outlen, _) ← onWorld (pkeyApply P ctx pkeyOp none input)
  match output with
  | none => pure ([], outlen)
  | some outputLen =>
    guardRv (outputLen < outlen) CKR_BUFFER_TOO_SMALL
    setFinalized
    let (outlen, written) ← onWorld (pkeyApply P ctx pkeyOp (some outlen) input)
    pure (written, outlen)

/-- `encrypt_update`, `encrypt_final`, `decrypt_update` and `decrypt_final`: the operation is
single-part. -/
def notMultiPart : OpM (RsaState ω) (List UInt8 × Nat) := do
  setFinalized
  throw (.rvError CKR_OPERATION_NOT_INITIALIZED)

def encrypt (plain : List UInt8) (cipher : Option Nat) : OpM (RsaState ω) (List UInt8 × Nat) :=
  oneShotCipher P (·.publicKey) .encrypt plain cipher

def encryptUpdate (_plain : List UInt8) (_cipher : Option Nat) :
    OpM (RsaState ω) (List UInt8 × Nat) := notMultiPart

def encryptFinal (_cipher : Option Nat) : OpM (RsaState ω) (List UInt8 × Nat) := notMultiPart

def decrypt (cipher : List UInt8) (plain : Option Nat) : OpM (RsaState ω) (List UInt8 × Nat) :=
  oneShotCipher P (·.privateKey) .decrypt cipher plain

def decryptUpdate (_cipher : List UInt8) (_plain : Option Nat) :
    OpM (RsaState ω) (List UInt8 × Nat) := notMultiPart

def decryptFinal (_plain : Option Nat) : OpM (RsaState ω) (List UInt8 × Nat) := notMultiPart

/-- The first update of `sign_update` and `verify_update` on the operation `op` it read: refused
for the single-part `CKM_RSA_PKCS`, otherwise the operation goes in use and the provider's digest
starts with the operation's digest name and key. -/
def startDigest (key : RsaPKCSOperation → EvpPkey) (pkeyOp : PkeyOp) (op : RsaPKCSOperation) :
    OpM (RsaState ω) Unit := do
  guardRv (op.mech == CKM_RSA_PKCS) CKR_OPERATION_NOT_INITIALIZED
  setInUse
  let sigctx ← unwrapSigctx
  onWorld (callK (P.digestInit · sigctx pkeyOp op.mdname (key op)))

/-- The data of an update, fed to the provider's digest. -/
def continueDigest (pkeyOp : PkeyOp) (data : List UInt8) : OpM (RsaState ω) Unit := do
  let sigctx ← unwrapSigctx
  onWorld (callK (P.digestUpdate · sigctx pkeyOp data))

/-- `sign_update` and `verify_update`, which differ only in the key and the provider operation. -/
def updateCall (key : RsaPKCSOperation → EvpPkey) (pkeyOp : PkeyOp) (data : List UInt8) :
    OpM (RsaState ω) Unit := do
  let op ← getOp
  guardRv op.finalized CKR_OPERATION_NOT_INITIALIZED
  if !op.inUse then startDigest P key pkeyOp op
  continueDigest P pkeyOp data

/-- The head `sign_final` and `verify_final` share: only an operation in use and not finalized
may end, and it is finalized before the provider is called. -/
def finalCall {α : Type} (rest : Nat → WorldM ω α) : OpM (RsaState ω) α := do
  let op ← getOp
  guardRv (!op.inUse) CKR_OPERATION_NOT_INITIALIZED
  guardRv op.finalized CKR_OPERATION_NOT_INITIALIZED
  setFinalized
  let sigctx ← unwrapSigctx
  onWorld (rest sigctx)

/-- The head `sign` and `verify` share: only a `Fresh` operation may make a one-shot call;
`CKM_RSA_PKCS` has its own single-part path, any other mechanism is one update and the final. -/
def oneShotSig {α : Type} (pkcs : RsaPKCSOperation → OpM (RsaState ω) α)
    (update : OpM (RsaState ω) Unit) (final : OpM (RsaState ω) α) : OpM (RsaState ω) α := do
  let op ← getOp
  guardRv op.inUse CKR_OPERATION_NOT_INITIALIZED
  guardRv op.finalized CKR_OPERATION_NOT_INITIALIZED
  if op.mech = CKM_RSA_PKCS then pkcs op
  else
    update
    final

def signUpdate (data : List UInt8) : OpM (RsaState ω) Unit :=
  updateCall P (·.privateKey) .sign data

def signFinal (signature : Nat) : OpM (RsaState ω) (List UInt8) :=
  finalCall fun sigctx => callK (P.digestSignFinal · sigctx signature)

/-- The `CKM_RSA_PKCS` path of `sign` on the operation `op` it read: finalized at once, the
length checks, and `EVP_PKEY_sign` twice, for the length and for the signature. -/
def signPkcs (op : RsaPKCSOperation) (data : List UInt8) (signature : Nat) :
    OpM (RsaState ω) (List UInt8) := do
  setFinalized
  guardRv (data.length > op.maxInput) CKR_DATA_LEN_RANGE
  guardRv (signature != op.outputLen) CKR_GENERAL_ERROR
  let ctx ← onWorld (newCtx P op.privateKey)
  onWorld (ossl (P.init · ctx .sign))
  onWorld (ossl (P.setParams · ctx))
  setFinalized
  let (siglen, _) ← onWorld (pkeyApply P ctx .sign none data)
  guardRv (signature != siglen) CKR_GENERAL_ERROR
  let (_, written) ← onWorld (pkeyApply P ctx .sign (some siglen) data)
  pure written

def sign (data : List UInt8) (signature : Nat) : OpM (RsaState ω) (List UInt8) :=
  oneShotSig (signPkcs P · data signature) (signUpdate P data) (signFinal P signature)

def verifyUpdate (data : List UInt8) : OpM (RsaState ω) Unit :=
  updateCall P (·.publicKey) .verify data

def verifyFinal (signature : List UInt8) : OpM (RsaState ω) Unit :=
  finalCall fun sigctx => callK (P.digestVerifyFinal · sigctx signature)

/-- The `CKM_RSA_PKCS` path of `verify` on the operation `op` it read: the signature buffer goes
to `EVP_PKEY_sign` as its output, on a context set up by `EVP_PKEY_verify_init`. -/
def verifyPkcs (op : RsaPKCSOperation) (data signature : List UInt8) : OpM (RsaState ω) Unit := do
  setFinalized
  guardRv (data.length > op.maxInput) CKR_DATA_LEN_RANGE
  guardRv (signature.length != op.outputLen) CKR_GENERAL_ERROR
  let ctx ← onWorld (newCtx P op.publicKey)
  onWorld (ossl (P.init · ctx .verify))
  onWorld (ossl (P.setParams · ctx))
  setFinalized
  let _ ← onWorld (pkeyApply P ctx .sign (some signature.length) data)
  pure ()

def verify (data signature : List UInt8) : OpM (RsaState ω) Unit :=
  oneShotSig (verifyPkcs P · data signature) (verifyUpdate P data) (verifyFinal P signature)

/-- The operation as a `Box<dyn Encryption>`. -/
def encrypter : OperationMachine (RsaState ω) CipherCall :=
  Cipher.machine ⟨encrypt P, encryptUpdate, encryptFinal⟩ phase

/-- The operation as a `Box<dyn Decryption>`. -/
def decrypter : OperationMachine (RsaState ω) CipherCall :=
  Cipher.machine ⟨decrypt P, decryptUpdate, decryptFinal⟩ phase

/-- The operation as a `Box<dyn Sign>`. -/
def signer : OperationMachine (RsaState ω) SignCall :=
  Sign.machine ⟨sign P, signUpdate P, signFinal P⟩ phase

/-- The operation as a `Box<dyn Verify>`. -/
def verifier : OperationMachine (RsaState ω) VerifyCall :=
  Verify.machine ⟨verify P, verifyUpdate P, verifyFinal P⟩ phase

end Methods

/-! #### Lifecycle -/

section Lifecycle

variable {ω : Type} (P : Provider ω)

/-- A constructor's operation is `Fresh`, whatever the provider's state. -/
theorem BuiltFresh.phase {mech : Nat} {op : RsaPKCSOperation} (built : BuiltFresh mech op)
    (world : ω) : phase ⟨world, op⟩ = .fresh := by
  simp [RsaPKCSOperation.phase, built.2.1, built.2.2]

/-! The reads, the `unwrap` and the provider calls leave the operation as it is. -/

theorem getOp_keeps : Keeps (·.op) (getOp : OpM (RsaState ω) RsaPKCSOperation) := fun _ => rfl

theorem onWorld_keeps {α : Type} (x : WorldM ω α) : Keeps (·.op) (onWorld x) := fun st => by
  unfold onWorld
  split <;> rfl

theorem unwrapSigctx_keeps : Keeps (·.op) (unwrapSigctx : OpM (RsaState ω) Nat) := fun st => by
  unfold unwrapSigctx
  split <;> rfl

theorem continueDigest_keeps (pkeyOp : PkeyOp) (data : List UInt8) :
    Keeps (·.op) (continueDigest P pkeyOp data) :=
  Keeps.bind unwrapSigctx_keeps fun _ => onWorld_keeps _

@[simp] theorem getOp_apply (st : RsaState ω) : (getOp : OpM (RsaState ω) _) st = .ok st.op st :=
  rfl

@[simp] theorem getOp_bind {α : Type} (rest : RsaPKCSOperation → OpM (RsaState ω) α)
    (st : RsaState ω) : (getOp >>= rest) st = rest st.op st := rfl

/-- A relation between the state before a call and after it that holds when the operation is
unchanged, composes, and admits `self.finalized = true`. -/
structure FinalizeStep (rel : RsaState ω → RsaState ω → Prop) : Prop where
  keep : ∀ {st st' : RsaState ω}, st'.op = st.op → rel st st'
  trans : ∀ a b c : RsaState ω, rel a b → rel b c → rel a c
  finalize : ∀ st : RsaState ω, rel st { st with op := { st.op with finalized := true } }

/-- A `FinalizeStep` that also admits `self.in_use = true`. -/
structure FlagStep (rel : RsaState ω → RsaState ω → Prop) extends FinalizeStep rel : Prop where
  use : ∀ st : RsaState ω, rel st { st with op := { st.op with inUse := true } }

/-- No method changes the mechanism. -/
theorem mechKept : FlagStep fun st st' : RsaState ω => st'.op.mech = st.op.mech :=
  ⟨⟨fun same => by rw [same], fun _ _ _ first second => second.trans first, fun _ => rfl⟩,
    fun _ => rfl⟩

/-- Only an update sets `in_use`. -/
theorem inUseKept : FinalizeStep fun st st' : RsaState ω => st'.op.inUse = st.op.inUse :=
  ⟨fun same => by rw [same], fun _ _ _ first second => second.trans first, fun _ => rfl⟩

namespace FinalizeStep

variable {rel : RsaState ω → RsaState ω → Prop} (steps : FinalizeStep rel)
include steps

theorem refl (st : RsaState ω) : rel st st := steps.keep rfl

theorem ofKeeps {α : Type} {x : OpM (RsaState ω) α} (kept : Keeps (·.op) x) : Steps rel x :=
  fun st => steps.keep (kept st)

theorem setFinalized : Steps rel (setFinalized : OpM (RsaState ω) Unit) :=
  Steps.ofModify steps.finalize

end FinalizeStep

theorem FlagStep.setInUse {rel : RsaState ω → RsaState ω → Prop} (steps : FlagStep rel) :
    Steps rel (setInUse : OpM (RsaState ω) Unit) :=
  Steps.ofModify steps.use

section Steps

variable {rel : RsaState ω → RsaState ω → Prop}

theorem oneShotCipher_steps (steps : FinalizeStep rel) (key : RsaPKCSOperation → EvpPkey)
    (pkeyOp : PkeyOp) (input : List UInt8) (output : Option Nat) :
    Steps rel (oneShotCipher P key pkeyOp input output) := by
  unfold oneShotCipher
  repeat' first
    | refine Steps.bind steps.trans (steps.ofKeeps getOp_keeps) fun _ => ?_
    | refine Steps.bind steps.trans (steps.ofKeeps (onWorld_keeps _)) fun _ => ?_
    | refine Steps.bind steps.trans (Steps.guardRv steps.refl _ _) fun _ => ?_
    | refine Steps.bind steps.trans steps.setFinalized fun _ => ?_
    | refine Steps.map (steps.ofKeeps (onWorld_keeps _)) _
    | exact Steps.pure steps.refl _
    | split

theorem startDigest_steps (steps : FlagStep rel) (key : RsaPKCSOperation → EvpPkey)
    (pkeyOp : PkeyOp) (op : RsaPKCSOperation) : Steps rel (startDigest P key pkeyOp op) :=
  Steps.bind steps.trans (Steps.guardRv steps.refl _ _) fun _ =>
    Steps.bind steps.trans steps.setInUse fun _ =>
      steps.ofKeeps (Keeps.bind unwrapSigctx_keeps fun _ => onWorld_keeps _)

theorem updateCall_steps (steps : FlagStep rel) (key : RsaPKCSOperation → EvpPkey)
    (pkeyOp : PkeyOp) (data : List UInt8) : Steps rel (updateCall P key pkeyOp data) := by
  have continued := steps.ofKeeps (continueDigest_keeps P pkeyOp data)
  exact Steps.bind steps.trans (steps.ofKeeps getOp_keeps) fun op =>
    Steps.bind steps.trans (Steps.guardRv steps.refl _ _) fun _ =>
      Steps.ite
        (Steps.bind steps.trans (startDigest_steps P steps key pkeyOp op) fun _ => continued)
        (Steps.bind steps.trans (Steps.pure steps.refl _) fun _ => continued)

theorem finalCall_steps {α : Type} (steps : FinalizeStep rel) (rest : Nat → WorldM ω α) :
    Steps rel (finalCall rest) :=
  Steps.bind steps.trans (steps.ofKeeps getOp_keeps) fun _ =>
    Steps.bind steps.trans (Steps.guardRv steps.refl _ _) fun _ =>
      Steps.bind steps.trans (Steps.guardRv steps.refl _ _) fun _ =>
        Steps.bind steps.trans steps.setFinalized fun _ =>
          steps.ofKeeps (Keeps.bind unwrapSigctx_keeps fun _ => onWorld_keeps _)

theorem signPkcs_steps (steps : FinalizeStep rel) (op : RsaPKCSOperation) (data : List UInt8)
    (signature : Nat) : Steps rel (signPkcs P op data signature) := by
  unfold signPkcs
  repeat' first
    | refine Steps.bind steps.trans (steps.ofKeeps (onWorld_keeps _)) fun _ => ?_
    | refine Steps.bind steps.trans (Steps.guardRv steps.refl _ _) fun _ => ?_
    | refine Steps.bind steps.trans steps.setFinalized fun _ => ?_
    | refine Steps.map (steps.ofKeeps (onWorld_keeps _)) _
    | exact Steps.pure steps.refl _

theorem verifyPkcs_steps (steps : FinalizeStep rel) (op : RsaPKCSOperation)
    (data signature : List UInt8) : Steps rel (verifyPkcs P op data signature) := by
  unfold verifyPkcs
  repeat' first
    | refine Steps.bind steps.trans (steps.ofKeeps (onWorld_keeps _)) fun _ => ?_
    | refine Steps.bind steps.trans (Steps.guardRv steps.refl _ _) fun _ => ?_
    | refine Steps.bind steps.trans steps.setFinalized fun _ => ?_
    | refine Steps.map (steps.ofKeeps (onWorld_keeps _)) _
    | exact Steps.pure steps.refl _

theorem oneShotSig_steps {α : Type} (steps : FinalizeStep rel)
    {pkcs : RsaPKCSOperation → OpM (RsaState ω) α} {update : OpM (RsaState ω) Unit}
    {final : OpM (RsaState ω) α} (pkcsSteps : ∀ op, Steps rel (pkcs op))
    (updateSteps : Steps rel update) (finalSteps : Steps rel final) :
    Steps rel (oneShotSig pkcs update final) :=
  Steps.bind steps.trans (steps.ofKeeps getOp_keeps) fun op =>
    Steps.bind steps.trans (Steps.guardRv steps.refl _ _) fun _ =>
      Steps.bind steps.trans (Steps.guardRv steps.refl _ _) fun _ =>
        Steps.ite (pkcsSteps op) (Steps.bind steps.trans updateSteps fun _ => finalSteps)

theorem sign_steps (steps : FlagStep rel) (data : List UInt8) (signature : Nat) :
    Steps rel (sign P data signature) :=
  oneShotSig_steps steps.toFinalizeStep (fun op => signPkcs_steps P steps.toFinalizeStep op _ _)
    (updateCall_steps P steps _ _ data) (finalCall_steps steps.toFinalizeStep _)

theorem verify_steps (steps : FlagStep rel) (data signature : List UInt8) :
    Steps rel (verify P data signature) :=
  oneShotSig_steps steps.toFinalizeStep (fun op => verifyPkcs_steps P steps.toFinalizeStep op _ _)
    (updateCall_steps P steps _ _ data) (finalCall_steps steps.toFinalizeStep _)

end Steps

/-- The update policy of a signing or verifying operation: `CKM_RSA_PKCS` refuses a first
update. -/
def updatePolicy (mech : Nat) : UpdatePolicy :=
  if mech = CKM_RSA_PKCS then .afterFirst else .streaming

/-- What `encrypt` and `decrypt` can do: fail on an operation that is not `Fresh` and leave it,
or leave it anywhere but `Running`. -/
theorem oneShotCipher_step (key : RsaPKCSOperation → EvpPkey) (pkeyOp : PkeyOp)
    (input : List UInt8) (output : Option Nat) (st : RsaState ω) :
    (phase st ≠ .fresh ∧ oneShotCipher P key pkeyOp input output st =
        .error (.rvError CKR_OPERATION_NOT_INITIALIZED) st) ∨
      (phase st = .fresh ∧
        phase (resultState (oneShotCipher P key pkeyOp input output st)) ≠ .running) := by
  cases inUse : st.op.inUse <;> cases finalized : st.op.finalized
  case false.false =>
    have kept : _ = st.op.inUse := oneShotCipher_steps P inUseKept key pkeyOp input output st
    simp [phase, inUse, finalized, kept]
  all_goals simp [phase, oneShotCipher, inUse, finalized]

theorem oneShotCipher_allowed (policy : UpdatePolicy) (key : RsaPKCSOperation → EvpPkey)
    (pkeyOp : PkeyOp) (input : List UInt8) (output : Option Nat) (st : RsaState ω) :
    (Transition.ofResult .oneShot phase st
      (oneShotCipher P key pkeyOp input output st)).Allowed policy := by
  rcases oneShotCipher_step P key pkeyOp input output st with ⟨-, failed⟩ | ⟨fresh, notRunning⟩
  · exact Transition.allowed_ofResult_error failed
  · simp only [Transition.ofResult, fresh]
    exact Transition.allowed_oneShot _ fun _ => notRunning

/-- A first update with a multi-part mechanism leaves the operation in use. -/
theorem startDigest_op (key : RsaPKCSOperation → EvpPkey) (pkeyOp : PkeyOp)
    {op : RsaPKCSOperation} (multiPart : op.mech ≠ CKM_RSA_PKCS) (st : RsaState ω) :
    (resultState (startDigest P key pkeyOp op st)).op = { st.op with inUse := true } := by
  have accepted : (op.mech == CKM_RSA_PKCS) = false := by simpa using multiPart
  simp only [startDigest, accepted, guardRv_false_bind]
  exact Keeps.modify_bind (fun _ => Keeps.bind unwrapSigctx_keeps fun _ => onWorld_keeps _) st

theorem continueDigest_after {α : Type} (x : OpM (RsaState ω) α) (pkeyOp : PkeyOp)
    (data : List UInt8) (st : RsaState ω) :
    (resultState ((x >>= fun _ => continueDigest P pkeyOp data) st)).op =
      (resultState (x st)).op :=
  Keeps.bind_right (fun _ => continueDigest_keeps P pkeyOp data) st

/-- What `sign_update` and `verify_update` can do: fail and leave the operation, or start from
`Running`, or from `Fresh` with a multi-part mechanism, and leave it `Running`. -/
theorem updateCall_step (key : RsaPKCSOperation → EvpPkey) (pkeyOp : PkeyOp) (data : List UInt8)
    (st : RsaState ω) :
    updateCall P key pkeyOp data st = .error (.rvError CKR_OPERATION_NOT_INITIALIZED) st ∨
      ((phase st = .running ∨ phase st = .fresh ∧ st.op.mech ≠ CKM_RSA_PKCS) ∧
        phase (resultState (updateCall P key pkeyOp data st)) = .running) := by
  cases finalized : st.op.finalized
  case true => exact .inl (by simp [updateCall, finalized])
  cases inUse : st.op.inUse
  case true =>
    refine .inr ⟨.inl (by simp [phase, inUse, finalized]), ?_⟩
    simp only [updateCall, getOp_bind, finalized, inUse, guardRv_false_bind, Bool.not_true,
      Bool.false_eq_true, if_false, phase, continueDigest_after, pure_apply, resultState_ok]
    simp [inUse, finalized]
  by_cases multiPart : st.op.mech = CKM_RSA_PKCS
  · exact .inl (by simp [updateCall, startDigest, finalized, inUse, multiPart])
  · refine .inr ⟨.inr ⟨by simp [phase, inUse, finalized], multiPart⟩, ?_⟩
    simp only [updateCall, getOp_bind, finalized, inUse, guardRv_false_bind, Bool.not_false,
      if_true, phase, continueDigest_after, startDigest_op P key pkeyOp multiPart]
    simp [finalized]

theorem updateCall_runs (key : RsaPKCSOperation → EvpPkey) (pkeyOp : PkeyOp) (data : List UInt8)
    (st : RsaState ω) (ok : succeeded (updateCall P key pkeyOp data st) = true) :
    phase (resultState (updateCall P key pkeyOp data st)) = .running := by
  rcases updateCall_step P key pkeyOp data st with failed | ⟨-, running⟩
  · rw [failed] at ok
    cases ok
  · exact running

theorem updateCall_allowed (key : RsaPKCSOperation → EvpPkey) (pkeyOp : PkeyOp)
    (data : List UInt8) (st : RsaState ω) :
    (Transition.ofResult .update phase st
      (updateCall P key pkeyOp data st)).Allowed (updatePolicy st.op.mech) := by
  rcases updateCall_step P key pkeyOp data st with failed | ⟨admitted, running⟩
  · exact Transition.allowed_ofResult_error failed
  · simp only [Transition.ofResult, running]
    refine Transition.allowed_update _ ?_
    rcases admitted with running | ⟨fresh, multiPart⟩
    · rw [running, updatePolicy]
      split <;> rfl
    · simp [updatePolicy, fresh, multiPart, UpdatePolicy.admits]

/-- What `sign_final` and `verify_final` can do: fail on an operation that is not `Running` and
leave it, or finalize it. -/
theorem finalCall_step {α : Type} (rest : Nat → WorldM ω α) (st : RsaState ω) :
    (phase st ≠ .running ∧ finalCall rest st = .error (.rvError CKR_OPERATION_NOT_INITIALIZED) st) ∨
      (phase st = .running ∧
        (resultState (finalCall rest st)).op = { st.op with finalized := true }) := by
  cases inUse : st.op.inUse <;> cases finalized : st.op.finalized
  case true.false =>
    refine .inr ⟨by simp [phase, inUse, finalized], ?_⟩
    have idle : (!st.op.inUse) = false := by simp [inUse]
    simp only [finalCall, getOp_bind, idle, finalized, guardRv_false_bind]
    exact Keeps.modify_bind (fun _ => Keeps.bind unwrapSigctx_keeps fun _ => onWorld_keeps _) st
  all_goals simp [finalCall, phase, inUse, finalized]

theorem finalCall_ends {α : Type} (rest : Nat → WorldM ω α) (st : RsaState ω)
    (running : phase st = .running) : phase (resultState (finalCall rest st)) = .done := by
  rcases finalCall_step rest st with ⟨notRunning, -⟩ | ⟨-, ended⟩
  · exact absurd running notRunning
  · simp [phase, ended]

theorem finalCall_allowed {α : Type} (policy : UpdatePolicy) (rest : Nat → WorldM ω α)
    (st : RsaState ω) :
    (Transition.ofResult .final phase st (finalCall rest st)).Allowed policy := by
  rcases finalCall_step rest st with ⟨-, failed⟩ | ⟨running, -⟩
  · exact Transition.allowed_ofResult_error failed
  · simp only [Transition.ofResult, running, finalCall_ends rest st running]
    exact Transition.allowed_final _

section OneShot

variable {α : Type} {pkcs : RsaPKCSOperation → OpM (RsaState ω) α}
  {update : OpM (RsaState ω) Unit} {final : OpM (RsaState ω) α}

/-- What `sign` and `verify` can do: fail on an operation that is not `Fresh` and leave it, or
start from `Fresh` and, when they succeed, leave it anywhere but `Running`. -/
theorem oneShotSig_step (pkcsKeeps : ∀ op, Keeps (·.op.inUse) (pkcs op))
    (updateRuns : ∀ st, succeeded (update st) = true → phase (resultState (update st)) = .running)
    (finalEnds : ∀ st, phase st = .running → phase (resultState (final st)) = .done)
    (st : RsaState ω) :
    (phase st ≠ .fresh ∧
        oneShotSig pkcs update final st = .error (.rvError CKR_OPERATION_NOT_INITIALIZED) st) ∨
      (phase st = .fresh ∧ (succeeded (oneShotSig pkcs update final st) = true →
        phase (resultState (oneShotSig pkcs update final st)) ≠ .running)) := by
  cases inUse : st.op.inUse <;> cases finalized : st.op.finalized
  case false.false =>
    refine .inr ⟨by simp [phase, inUse, finalized], fun ok => ?_⟩
    simp only [oneShotSig, getOp_bind, inUse, finalized, guardRv_false_bind] at ok ⊢
    split_ifs at ok ⊢
    · have kept : _ = st.op.inUse := pkcsKeeps st.op st
      simp [phase, kept, inUse]
    · rw [bind_apply] at ok ⊢
      cases updated : update st with
      | ok _ s =>
        have running := updateRuns st (by rw [updated]; rfl)
        rw [updated, resultState_ok] at running
        simp [finalEnds s running]
      | error _ _ =>
        rw [updated] at ok
        cases ok
  all_goals simp [oneShotSig, phase, inUse, finalized]

theorem oneShotSig_allowed (pkcsKeeps : ∀ op, Keeps (·.op.inUse) (pkcs op))
    (updateRuns : ∀ st, succeeded (update st) = true → phase (resultState (update st)) = .running)
    (finalEnds : ∀ st, phase st = .running → phase (resultState (final st)) = .done)
    (policy : UpdatePolicy) (st : RsaState ω) :
    (Transition.ofResult .oneShot phase st (oneShotSig pkcs update final st)).Allowed policy := by
  rcases oneShotSig_step pkcsKeeps updateRuns finalEnds st with ⟨-, failed⟩ | ⟨fresh, notRunning⟩
  · exact Transition.allowed_ofResult_error failed
  · simp only [Transition.ofResult, fresh]
    exact Transition.allowed_oneShot _ notRunning

end OneShot


/-- A multi-part call of a single-part cipher fails and ends the operation. -/
theorem notMultiPart_allowed (kind : CallKind) (policy : UpdatePolicy) (st : RsaState ω) :
    (Transition.ofResult kind phase st (notMultiPart st)).Allowed policy :=
  Transition.allowed_of_failed rfl (by
    show (phase st).rank ≤ (phaseOf st.op.inUse true).rank
    rw [phaseOf_finalized]
    exact Phase.rank_le_done _)

/-- Used as an `Encryption`, the operation follows the lifecycle from every state, with no
update ever succeeding, whatever the provider returns. -/
theorem encrypter_refines : (encrypter P).Refines fun _ => .never :=
  Cipher.machine_refines (fun input output => oneShotCipher_allowed P _ _ _ input output)
    (fun _ _ => notMultiPart_allowed _ _) (fun _ => notMultiPart_allowed _ _) fun _ _ => rfl

/-- Used as a `Decryption`, likewise. -/
theorem decrypter_refines : (decrypter P).Refines fun _ => .never :=
  Cipher.machine_refines (fun input output => oneShotCipher_allowed P _ _ _ input output)
    (fun _ _ => notMultiPart_allowed _ _) (fun _ => notMultiPart_allowed _ _) fun _ _ => rfl

/-- Used as a `Sign`, the operation follows the lifecycle from every state under the update
policy of its mechanism, whatever the provider returns. -/
theorem signer_refines : (signer P).Refines fun st => updatePolicy st.op.mech :=
  Sign.machine_refines
    (fun data signature st => oneShotSig_allowed
      (fun op => signPkcs_steps P inUseKept op data signature) (updateCall_runs P _ _ data)
      (finalCall_ends _) _ st)
    (fun data => updateCall_allowed P _ _ data) (fun _ st => finalCall_allowed _ _ st)
    fun call st => congrArg updatePolicy (match call with
      | .sign data signature => sign_steps P mechKept data signature st
      | .signUpdate data => updateCall_steps P mechKept _ _ data st
      | .signFinal _ => finalCall_steps mechKept.toFinalizeStep _ st)

/-- Used as a `Verify`, likewise. -/
theorem verifier_refines : (verifier P).Refines fun st => updatePolicy st.op.mech :=
  Verify.machine_refines
    (fun data signature st => oneShotSig_allowed
      (fun op => verifyPkcs_steps P inUseKept op data signature) (updateCall_runs P _ _ data)
      (finalCall_ends _) _ st)
    (fun data => updateCall_allowed P _ _ data) (fun _ st => finalCall_allowed _ _ st)
    fun call st => congrArg updatePolicy (match call with
      | .verify data signature => verify_steps P mechKept data signature st
      | .verifyUpdate data => updateCall_steps P mechKept _ _ data st
      | .verifyFinal _ => finalCall_steps mechKept.toFinalizeStep _ st)

end Lifecycle

/-! #### What `CKM_RSA_PKCS` verification answers -/

section Errors

variable {ω : Type} (P : Provider ω) {p : KError → Prop}

theorem onWorld_raises {α : Type} {x : WorldM ω α} (raises : Raises p x) :
    Raises p (onWorld x) := fun st e after raised => by
  unfold onWorld at raised
  split at raised
  · cases raised
  · rename_i found
    cases raised
    exact raises _ _ _ found

/-! A provider call checked by its wrapper fails with `CKR_DEVICE_ERROR` only. -/

theorem callPtr_raises (device : p (.rvError CKR_DEVICE_ERROR)) (f : ω → ω × Option Nat) :
    Raises p (callPtr f) := fun w e after raised => by
  unfold callPtr at raised
  split at raised
  · cases raised
  · cases raised
    exact device

theorem ossl_raises (device : p (.rvError CKR_DEVICE_ERROR)) (f : ω → ω × Int) :
    Raises p (ossl f) := fun w e after raised => by
  unfold ossl at raised
  split at raised
  split_ifs at raised
  cases raised
  exact device

theorem pkeyApply_raises (device : p (.rvError CKR_DEVICE_ERROR)) (ctx : Nat) (pkeyOp : PkeyOp)
    (out : Option Nat) (input : List UInt8) : Raises p (pkeyApply P ctx pkeyOp out input) :=
  fun w e after raised => by
    unfold pkeyApply at raised
    split at raised
    split_ifs at raised
    cases raised
    exact device

theorem verifyPkcs_raises (dataLen : p (.rvError CKR_DATA_LEN_RANGE))
    (general : p (.rvError CKR_GENERAL_ERROR)) (device : p (.rvError CKR_DEVICE_ERROR))
    (op : RsaPKCSOperation) (data signature : List UInt8) :
    Raises p (verifyPkcs P op data signature) :=
  Raises.bind Raises.ofModify fun _ => Raises.bind (Raises.guardRv dataLen) fun _ =>
    Raises.bind (Raises.guardRv general) fun _ =>
    Raises.bind (onWorld_raises (callPtr_raises device _)) fun _ =>
    Raises.bind (onWorld_raises (ossl_raises device _)) fun _ =>
    Raises.bind (onWorld_raises (ossl_raises device _)) fun _ =>
    Raises.bind Raises.ofModify fun _ =>
    Raises.bind (onWorld_raises (pkeyApply_raises P device _ _ _ _)) fun _ => Raises.pure

/-- For `CKM_RSA_PKCS`, `verify` answers only the codes of its flag and length checks and the
provider's `CKR_DEVICE_ERROR`: whatever signature it is given, the provider's verification is
never asked, and the answer is never `CKR_SIGNATURE_INVALID`. -/
theorem verify_pkcs_error (data signature : List UInt8) (st : RsaState ω)
    (pkcs : st.op.mech = CKM_RSA_PKCS) (e : KError) (after : RsaState ω)
    (failed : verify P data signature st = .error e after) :
    e = .rvError CKR_OPERATION_NOT_INITIALIZED ∨ e = .rvError CKR_DATA_LEN_RANGE ∨
      e = .rvError CKR_GENERAL_ERROR ∨ e = .rvError CKR_DEVICE_ERROR := by
  simp only [verify, oneShotSig, getOp_bind, if_pos pkcs] at failed
  revert e after
  refine Raises.bind (Raises.guardRv ?_) (fun _ => Raises.bind (Raises.guardRv ?_) fun _ =>
    verifyPkcs_raises P ?_ ?_ ?_ st.op data signature) st
  all_goals simp

end Errors

end RsaPKCSOperation

end Kryoptic
