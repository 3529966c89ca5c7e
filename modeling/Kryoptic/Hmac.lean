import Kryoptic.Mechanism
import Kryoptic.Object.FillTemplate

/-!
Contract: the HMAC mechanisms of `hmac.rs` (FIPS 198-1) and the operation they build.

Owns: `check_and_fetch_key`, `check_and_fetch_param`, `HMACMechanism` with `sign_new` and
`verify_new`, the table `register` adds, and `HMACOperation`: `init`, `update`, `finalize` and
the `Sign` and `Verify` methods with their `in_use` / `finalized` flags. A caller's `&mut [u8]`
is given by its length, and a call returns the bytes it writes there.

The digests `sha1::SHA1Operation` and `sha2::SHA*Operation` are not among the sources. They are a
parameter `DigestOps σ` over the digest's state: every call may fail, and a call that writes a
slice returns what it writes. Their lengths are FIPS 180-4's.

Proved here: the operation, used as a `Sign` or a `Verify`, refines the abstract lifecycle of
`Kryoptic.Mechanism` whatever its digest does (`signer_refines`, `verifier_refines`); and the
keys `check_and_fetch_key` accepts for the HMAC-typed mechanisms are keys `fill_template` reads
out whatever their sensitivity.

Does not own: what the operation computes, which is `Kryoptic.Hmac.Fips198`.
-/

namespace Kryoptic

/-- Modelled from the spec: the hash algorithms `sign_new` selects
(`Spec_Hash_Definitions_SHA1`, `..._SHA2_256`, `..._SHA2_384`, `..._SHA2_512`). -/
inductive HashAlg where
  | sha1
  | sha256
  | sha384
  | sha512
deriving DecidableEq, Repr

namespace HashAlg

/-- Modelled from the spec: `hashlen()` of the digest, the output length `L` of FIPS 180-4. -/
def hashlen : HashAlg → Nat
  | sha1 => 20
  | sha256 => 32
  | sha384 => 48
  | sha512 => 64

/-- Modelled from the spec: `blocklen()` of the digest, the block length `B` of FIPS 180-4. -/
def blocklen : HashAlg → Nat
  | sha1 => 64
  | sha256 => 64
  | sha384 => 128
  | sha512 => 128

theorem hashlen_le_blocklen (hash : HashAlg) : hash.hashlen ≤ hash.blocklen := by
  cases hash <;> decide

end HashAlg

/-- Modelled from the spec: the digest behind `Operation::Digest`, over its state `σ`: `new()`
for each algorithm, and the four calls `HMACOperation` makes. A call that fills a slice is given
the slice's length and returns the bytes it writes. -/
structure DigestOps (σ : Type) where
  new : HashAlg → σ
  reset : σ → σ × KResult Unit
  digestUpdate : σ → List UInt8 → σ × KResult Unit
  digestFinal : σ → Nat → σ × KResult (List UInt8)
  digest : σ → List UInt8 → Nat → σ × KResult (List UInt8)

/-! ### Byte buffers -/

/-- A slice after `written` is copied into it: it keeps its length. -/
def writeInto (slice written : List UInt8) : List UInt8 :=
  (written ++ slice.drop written.length).take slice.length

/-- `Vec::resize(n, value)`. -/
def resize (v : List UInt8) (n : Nat) (value : UInt8) : List UInt8 :=
  v.take n ++ List.replicate (n - v.length) value

/-- `pad.iter_mut().zip(key.iter()).for_each(|(i1, i2)| *i1 ^= *i2)`. -/
def xorInto (pad key : List UInt8) : List UInt8 :=
  List.zipWith (· ^^^ ·) pad key ++ pad.drop key.length

@[simp] theorem writeInto_length (slice written : List UInt8) :
    (writeInto slice written).length = slice.length := by
  simp only [writeInto, List.length_take, List.length_append, List.length_drop]
  omega

theorem writeInto_of_length {slice written : List UInt8} (same : written.length = slice.length) :
    writeInto slice written = written := by
  simp [writeInto, same]

@[simp] theorem resize_length (v : List UInt8) (n : Nat) (value : UInt8) :
    (resize v n value).length = n := by
  simp only [resize, List.length_append, List.length_take, List.length_replicate]
  omega

theorem resize_of_le {v : List UInt8} {n : Nat} (value : UInt8) (fits : v.length ≤ n) :
    resize v n value = v ++ List.replicate (n - v.length) value := by
  simp [resize, List.take_of_length_le fits]

theorem xorInto_replicate (c : UInt8) (key : List UInt8) :
    xorInto (List.replicate key.length c) key = key.map (c ^^^ ·) := by
  induction key with
  | nil => rfl
  | cons byte rest inductionHypothesis =>
      simpa [xorInto, List.replicate_succ] using inductionHypothesis

/-! ### Mechanism checks -/

def checkAndFetchKey (key : Object) (keytype : Nat) : KResult (List UInt8) := do
  if (← key.getAttrAsUlong CKA_CLASS) ≠ CKO_SECRET_KEY then
    return ← errRv CKR_KEY_TYPE_INCONSISTENT
  let t ← key.getAttrAsUlong CKA_KEY_TYPE
  if t ≠ CKK_GENERIC_SECRET ∧ t ≠ keytype then
    return ← errRv CKR_KEY_TYPE_INCONSISTENT
  key.getAttrAsBytes CKA_VALUE

/-- `check_and_fetch_param`: the fixed variants take no parameter; the `_GENERAL` ones take one
`CK_ULONG`, read from the `ulParameterLen` bytes at `pParameter`, within `[min, max]`. -/
def checkAndFetchParam (mech : CK_MECHANISM) (min max : Nat) : KResult Nat :=
  if min = max then
    if mech.ulParameterLen ≠ 0 then errRv CKR_MECHANISM_PARAM_INVALID else .ok max
  else if mech.ulParameterLen ≠ 8 then errRv CKR_MECHANISM_PARAM_INVALID
  else
    let genlen := leValue (mech.pParameter.take 8)
    if genlen < min ∨ genlen > max then errRv CKR_MECHANISM_PARAM_INVALID else .ok genlen

/-- An accepted output length lies within the mechanism's bounds. -/
theorem checkAndFetchParam_bounds {mech : CK_MECHANISM} {min max outputLen : Nat}
    (accepted : checkAndFetchParam mech min max = .ok outputLen) :
    min ≤ outputLen ∧ outputLen ≤ max := by
  simp only [checkAndFetchParam, errRv] at accepted
  split_ifs at accepted with same _ _ outside <;> cases accepted
  all_goals omega

structure HMACMechanism where
  info : CK_MECHANISM_INFO
  keytype : Nat
  minlen : Nat
  maxlen : Nat
deriving DecidableEq, Repr

/-- The `match mech.mechanism` of `sign_new` and `verify_new`. -/
def hashOfMechanism (mechanism : Nat) : Option HashAlg :=
  if mechanism = CKM_SHA_1_HMAC ∨ mechanism = CKM_SHA_1_HMAC_GENERAL then some .sha1
  else if mechanism = CKM_SHA256_HMAC ∨ mechanism = CKM_SHA256_HMAC_GENERAL then some .sha256
  else if mechanism = CKM_SHA384_HMAC ∨ mechanism = CKM_SHA384_HMAC_GENERAL then some .sha384
  else if mechanism = CKM_SHA512_HMAC ∨ mechanism = CKM_SHA512_HMAC_GENERAL then some .sha512
  else none

/-- One `add_mechanism` of `register`: sign and verify, no key size bounds. -/
def hmacMechanism (keytype minlen maxlen : Nat) : HMACMechanism :=
  ⟨⟨0, 0, CKF_SIGN ||| CKF_VERIFY⟩, keytype, minlen, maxlen⟩

/-- The mechanisms `register` adds, in its order: each hash has a `_GENERAL` variant with any
output length from 1 to `L` and a fixed one of length `L`. -/
def register : List (Nat × HMACMechanism) :=
  [(CKM_SHA_1_HMAC_GENERAL, hmacMechanism CKK_SHA_1_HMAC 1 HashAlg.sha1.hashlen),
    (CKM_SHA_1_HMAC, hmacMechanism CKK_SHA_1_HMAC HashAlg.sha1.hashlen HashAlg.sha1.hashlen),
    (CKM_SHA256_HMAC_GENERAL, hmacMechanism CKK_SHA256_HMAC 1 HashAlg.sha256.hashlen),
    (CKM_SHA256_HMAC, hmacMechanism CKK_SHA256_HMAC HashAlg.sha256.hashlen
      HashAlg.sha256.hashlen),
    (CKM_SHA384_HMAC_GENERAL, hmacMechanism CKK_SHA384_HMAC 1 HashAlg.sha384.hashlen),
    (CKM_SHA384_HMAC, hmacMechanism CKK_SHA384_HMAC HashAlg.sha384.hashlen
      HashAlg.sha384.hashlen),
    (CKM_SHA512_HMAC_GENERAL, hmacMechanism CKK_SHA512_HMAC 1 HashAlg.sha512.hashlen),
    (CKM_SHA512_HMAC, hmacMechanism CKK_SHA512_HMAC HashAlg.sha512.hashlen
      HashAlg.sha512.hashlen)]

/-- Every registered mechanism signs and verifies with the hash of its own type, its output
lengths run from at least 1 up to that hash's length, and its key type is an HMAC type. -/
theorem register_hash {mechType : Nat} {mech : HMACMechanism}
    (registered : (mechType, mech) ∈ register) :
    ∃ hash, hashOfMechanism mechType = some hash ∧ mech.maxlen = hash.hashlen ∧
      1 ≤ mech.minlen ∧ mech.minlen ≤ mech.maxlen ∧ mech.keytype ∈ Object.hmacKeyTypes ∧
      mech.info.flags &&& CKF_SIGN = CKF_SIGN ∧ mech.info.flags &&& CKF_VERIFY = CKF_VERIFY := by
  simp only [register, List.mem_cons, Prod.mk.injEq, List.mem_nil_iff, or_false] at registered
  rcases registered with ⟨rfl, rfl⟩ | ⟨rfl, rfl⟩ | ⟨rfl, rfl⟩ | ⟨rfl, rfl⟩ | ⟨rfl, rfl⟩ |
    ⟨rfl, rfl⟩ | ⟨rfl, rfl⟩ | ⟨rfl, rfl⟩
  all_goals exact ⟨_, rfl, rfl, by decide⟩

/-! ### `HMACOperation` -/

/-- The operation: `inner` is the digest's state (`init` always sets `Operation::Digest`, so the
`_ => CKR_GENERAL_ERROR` arms of the source cannot be taken). -/
structure HMACOperation (σ : Type) where
  mech : Nat
  hashlen : Nat
  blocklen : Nat
  outputlen : Nat
  state : List UInt8
  ipad : List UInt8
  opad : List UInt8
  inner : σ
  finalized : Bool
  inUse : Bool

namespace HMACOperation

variable {σ : Type} (D : DigestOps σ)

/-- The lifecycle phase of `in_use` and `finalized`. -/
def phase (op : HMACOperation σ) : Phase := phaseOf op.inUse op.finalized

/-- A call on the digest `match &mut self.inner { Operation::Digest(op) => op.call(..) }`. -/
def innerCall {α : Type} (call : σ → σ × KResult α) : OpM (HMACOperation σ) α := fun op =>
  match call op.inner with
  | (inner, .ok a) => .ok a { op with inner }
  | (inner, .error e) => .error e { op with inner }

def init (mech : Nat) (hash : HashAlg) (key : List UInt8) (outputlen : Nat) :
    KResult (HMACOperation σ) := do
  let hashlen := hash.hashlen
  let blocklen := hash.blocklen
  let inner := D.new hash
  /- K0 -/
  let (inner, state) ← if key.length ≤ blocklen then pure (inner, key)
    else match D.digest inner key hashlen with
      | (inner, .ok written) => pure (inner, writeInto (List.replicate hashlen 0) written)
      | (_, .error e) => throw e
  let state := resize state blocklen 0
  /- K0 ^ ipad, K0 ^ opad -/
  let ipad := xorInto (List.replicate blocklen 0x36) state
  let opad := xorInto (List.replicate blocklen 0x5c) state
  /- H((K0 ^ ipad) || .. ) -/
  let (inner, reset) := D.reset inner
  reset
  let (inner, absorbed) := D.digestUpdate inner ipad
  absorbed
  pure ⟨mech, hashlen, blocklen, outputlen, state, ipad, opad, inner, false, false⟩

/-- `update`: `H( .. || text ..)`. -/
def update (data : List UInt8) : OpM (HMACOperation σ) Unit := innerCall (D.digestUpdate · data)

/-- `finalize`: `H((K0 ^ opad) || H((K0 ^ ipad) || text))`, of which an output slice of length
`outputLen` receives the first bytes; a slice longer than the hash panics. -/
def finalize (outputLen : Nat) : OpM (HMACOperation σ) (List UInt8) := do
  modify fun op => { op with state := resize op.state op.hashlen 0 }
  /- state = H((K0 ^ ipad) || text) -/
  let op ← get
  let written ← innerCall (D.digestFinal · op.state.length)
  modify fun op => { op with state := writeInto op.state written }
  /- state = H((K0 ^ opad) || H((K0 ^ ipad) || text)) -/
  innerCall D.reset
  let op ← get
  innerCall (D.digestUpdate · op.opad)
  innerCall (D.digestUpdate · op.state)
  let written ← innerCall (D.digestFinal · op.state.length)
  modify fun op => { op with state := writeInto op.state written }
  /- state -> output -/
  let op ← get
  if outputLen ≤ op.state.length then pure (op.state.take outputLen) else throw .panic

/-! #### `impl Sign` and `impl Verify` -/

def signUpdate (data : List UInt8) : OpM (HMACOperation σ) Unit := do
  guardRv (← get).finalized CKR_OPERATION_NOT_INITIALIZED
  modify fun op => { op with inUse := true }
  update D data

/-- The head `sign_final` and `verify_final` share: only an operation in use and not finalized
may end, and it is finalized before anything else is done. -/
def finalCall {α : Type} (rest : OpM (HMACOperation σ) α) : OpM (HMACOperation σ) α := do
  guardRv (!(← get).inUse) CKR_OPERATION_NOT_INITIALIZED
  guardRv (← get).finalized CKR_OPERATION_NOT_INITIALIZED
  modify fun op => { op with finalized := true }
  rest

def signFinal (signature : Nat) : OpM (HMACOperation σ) (List UInt8) := finalCall do
  guardRv (signature != (← get).outputlen) CKR_GENERAL_ERROR
  finalize D signature

/-- The body `sign` and `verify` share: a one-shot call feeds its data through the update call,
finalizes the operation if that fails, and then makes the final call. -/
def oneShot {α : Type} (data : List UInt8) (final : OpM (HMACOperation σ) α) :
    OpM (HMACOperation σ) α := do
  guardRv (← get).inUse CKR_OPERATION_NOT_INITIALIZED
  onErr (signUpdate D data) fun op => { op with finalized := true }
  final

def sign (data : List UInt8) (signature : Nat) : OpM (HMACOperation σ) (List UInt8) :=
  oneShot D data (signFinal D signature)

/-- `verify_update`, whose body is `sign_update`'s. -/
def verifyUpdate (data : List UInt8) : OpM (HMACOperation σ) Unit := signUpdate D data

def verifyFinal (signature : List UInt8) : OpM (HMACOperation σ) Unit := finalCall do
  guardRv (signature.length != (← get).outputlen) CKR_GENERAL_ERROR
  let verify ← finalize D (← get).outputlen
  guardRv (verify != signature) CKR_SIGNATURE_INVALID

/-- `verify`, whose update call is `verify_update`, that is `sign_update`. -/
def verify (data signature : List UInt8) : OpM (HMACOperation σ) Unit :=
  oneShot D data (verifyFinal D signature)

/-- The operation as a `Box<dyn Sign>`. -/
def signer : OperationMachine (HMACOperation σ) SignCall :=
  Sign.machine ⟨sign D, signUpdate D, signFinal D⟩ phase

/-- The operation as a `Box<dyn Verify>`. -/
def verifier : OperationMachine (HMACOperation σ) VerifyCall :=
  Verify.machine ⟨verify D, verifyUpdate D, verifyFinal D⟩ phase

/-! #### Lifecycle -/

/-- The two flags the lifecycle reads. -/
def flags (op : HMACOperation σ) : Bool × Bool := (op.inUse, op.finalized)

theorem phase_eq_of_flags {op op' : HMACOperation σ} (same : flags op' = flags op) :
    op'.phase = op.phase := by
  simp only [flags, Prod.mk.injEq] at same
  simp only [phase, same]

theorem phase_of_keeps {α : Type} {x : OpM (HMACOperation σ) α} (kept : Keeps flags x)
    (op : HMACOperation σ) : (resultState (x op)).phase = op.phase :=
  phase_eq_of_flags (kept op)

theorem innerCall_keeps {α : Type} (call : σ → σ × KResult α) : Keeps flags (innerCall call) :=
  fun op => by unfold innerCall; split <;> rfl

/-- `finalize` changes neither flag: one frame fact per statement. -/
theorem finalize_keeps (outputLen : Nat) : Keeps flags (finalize D outputLen) :=
  Keeps.bind (Keeps.ofModify fun _ => rfl) fun _ => Keeps.bind Keeps.get fun _ =>
    Keeps.bind (innerCall_keeps _) fun _ => Keeps.bind (Keeps.ofModify fun _ => rfl) fun _ =>
    Keeps.bind (innerCall_keeps _) fun _ => Keeps.bind Keeps.get fun _ =>
    Keeps.bind (innerCall_keeps _) fun _ => Keeps.bind (innerCall_keeps _) fun _ =>
    Keeps.bind (innerCall_keeps _) fun _ => Keeps.bind (Keeps.ofModify fun _ => rfl) fun _ =>
    Keeps.bind Keeps.get fun _ => Keeps.ite (Keeps.pure _) (Keeps.throw _)

/-- `init` builds a `Fresh` operation. -/
theorem init_fresh {mech : Nat} {hash : HashAlg} {key : List UInt8} {outputlen : Nat}
    {op : HMACOperation σ} (built : init D mech hash key outputlen = .ok op) :
    op.phase = .fresh := by
  simp only [init, bind, Except.bind, pure, Except.pure] at built
  split_ifs at built
  all_goals repeat' split at built
  all_goals first | (cases built; rfl) | cases built

/-- What `sign_update` can do: fail on a finalized operation and leave it, or leave it
`Running`. -/
theorem signUpdate_step (data : List UInt8) (op : HMACOperation σ) :
    (op.finalized = true ∧
        signUpdate D data op = .error (.rvError CKR_OPERATION_NOT_INITIALIZED) op) ∨
      (op.finalized = false ∧ (resultState (signUpdate D data op)).phase = .running) := by
  cases finalized : op.finalized
  · have running :=
      phase_of_keeps (innerCall_keeps (D.digestUpdate · data)) { op with inUse := true }
    simp only [finalized] at running
    simp only [signUpdate, update, bind_apply, get_apply, finalized, guardRv_false, modify_apply,
      running]
    simp [phase, phaseOf]
  · simp [signUpdate, finalized]

/-- What a final call can do: fail on an operation that is not `Running` and leave it, or end
it. -/
theorem finalCall_step {α : Type} {rest : OpM (HMACOperation σ) α} (kept : Keeps flags rest)
    (op : HMACOperation σ) :
    (op.phase ≠ .running ∧
        finalCall rest op = .error (.rvError CKR_OPERATION_NOT_INITIALIZED) op) ∨
      (op.phase = .running ∧ (resultState (finalCall rest op)).phase = .done) := by
  cases inUse : op.inUse <;> cases finalized : op.finalized
  case true.false =>
    have ended := kept { op with finalized := true }
    simp only [flags, Prod.mk.injEq, inUse] at ended
    simp [finalCall, inUse, finalized, phase, phaseOf, ended]
  all_goals simp [finalCall, inUse, finalized, phase, phaseOf]

/-- What a one-shot call can do: fail on an operation that is not `Fresh` and leave it, or end
it, whatever its update and final calls return. -/
theorem oneShot_step {α : Type} {final : OpM (HMACOperation σ) α}
    (finalEnds : ∀ s : HMACOperation σ, s.phase = .running → (resultState (final s)).phase = .done)
    (data : List UInt8) (op : HMACOperation σ) :
    (op.phase ≠ .fresh ∧
        oneShot D data final op = .error (.rvError CKR_OPERATION_NOT_INITIALIZED) op) ∨
      (op.phase = .fresh ∧ (resultState (oneShot D data final op)).phase = .done) := by
  cases inUse : op.inUse
  · rcases signUpdate_step D data op with ⟨finalized, failed⟩ | ⟨finalized, running⟩
    · have same : { op with finalized := true } = op := by cases op; simp_all
      simp only [inUse] at same
      simp [oneShot, inUse, onErr, failed, same, phase, phaseOf, finalized]
    · refine .inr ⟨by simp [phase, phaseOf, inUse, finalized], ?_⟩
      simp only [oneShot, bind_apply, get_apply, inUse, guardRv_false, onErr]
      cases updated : signUpdate D data op with
      | ok _ s => rw [updated] at running; exact finalEnds s running
      | error e s => simp [phase]
  · cases finalized : op.finalized <;> simp [oneShot, inUse, finalized, phase, phaseOf]

theorem signUpdate_allowed (data : List UInt8) (op : HMACOperation σ) :
    (Transition.ofResult .update phase op (signUpdate D data op)).Allowed .streaming := by
  rcases signUpdate_step D data op with ⟨-, failed⟩ | ⟨finalized, running⟩
  · exact Transition.allowed_ofResult_error failed
  · simp only [Transition.ofResult, running]
    exact Transition.allowed_update _ (by simp only [phase, finalized]; cases op.inUse <;> rfl)

theorem finalCall_allowed {α : Type} {rest : OpM (HMACOperation σ) α} (kept : Keeps flags rest)
    (policy : UpdatePolicy) (op : HMACOperation σ) :
    (Transition.ofResult .final phase op (finalCall rest op)).Allowed policy := by
  rcases finalCall_step kept op with ⟨-, failed⟩ | ⟨running, done⟩
  · exact Transition.allowed_ofResult_error failed
  · simp only [Transition.ofResult, running, done]
    exact Transition.allowed_final _

theorem oneShot_allowed {α : Type} {final : OpM (HMACOperation σ) α}
    (finalEnds : ∀ s : HMACOperation σ, s.phase = .running → (resultState (final s)).phase = .done)
    (policy : UpdatePolicy) (data : List UInt8) (op : HMACOperation σ) :
    (Transition.ofResult .oneShot phase op (oneShot D data final op)).Allowed policy := by
  rcases oneShot_step D finalEnds data op with ⟨-, failed⟩ | ⟨fresh, done⟩
  · exact Transition.allowed_ofResult_error failed
  · simp only [Transition.ofResult, fresh, done]
    refine Transition.allowed_oneShot _ fun _ => ?_
    decide

theorem signFinal_keeps (signature : Nat) :
    Keeps flags (do
      guardRv (signature != (← get).outputlen) CKR_GENERAL_ERROR
      finalize D signature : OpM (HMACOperation σ) (List UInt8)) :=
  Keeps.bind Keeps.get fun _ => Keeps.bind (Keeps.guardRv _ _) fun _ => finalize_keeps D signature

theorem verifyFinal_keeps (signature : List UInt8) :
    Keeps flags (do
      guardRv (signature.length != (← get).outputlen) CKR_GENERAL_ERROR
      let verify ← finalize D (← get).outputlen
      guardRv (verify != signature) CKR_SIGNATURE_INVALID : OpM (HMACOperation σ) Unit) :=
  Keeps.bind Keeps.get fun _ => Keeps.bind (Keeps.guardRv _ _) fun _ =>
    Keeps.bind Keeps.get fun op => Keeps.bind (finalize_keeps D op.outputlen) fun _ =>
      Keeps.guardRv _ _

/-- Used as a `Sign`, the operation follows the lifecycle from every state, whatever its digest
returns. -/
theorem signer_refines : (signer D).Refines fun _ => .streaming :=
  Sign.machine_refines
    (fun data signature => oneShot_allowed D
      (fun s running => ((finalCall_step (signFinal_keeps D signature) s).resolve_left
        (not_and.mpr fun notRunning => absurd running notRunning)).2) _ data)
    (signUpdate_allowed D) (fun signature => finalCall_allowed (signFinal_keeps D signature) _)
    (fun _ _ => rfl)

/-- Used as a `Verify`, the operation follows the lifecycle from every state, whatever its
digest returns. -/
theorem verifier_refines : (verifier D).Refines fun _ => .streaming :=
  Verify.machine_refines
    (fun data signature => oneShot_allowed D
      (fun s running => ((finalCall_step (verifyFinal_keeps D signature) s).resolve_left
        (not_and.mpr fun notRunning => absurd running notRunning)).2) _ data)
    (signUpdate_allowed D) (fun signature => finalCall_allowed (verifyFinal_keeps D signature) _)
    (fun _ _ => rfl)

end HMACOperation

/-- `sign_new` and `verify_new`, which differ only in the flag they check. -/
def HMACMechanism.operationNew {σ : Type} (D : DigestOps σ) (flag : Nat) (self : HMACMechanism)
    (mech : CK_MECHANISM) (keyobj : Object) : KResult (HMACOperation σ) :=
  if self.info.flags &&& flag ≠ flag then errRv CKR_MECHANISM_INVALID
  else do
    let outputLen ← checkAndFetchParam mech self.minlen self.maxlen
    let key ← checkAndFetchKey keyobj self.keytype
    match hashOfMechanism mech.mechanism with
    | some hash => HMACOperation.init D mech.mechanism hash key outputLen
    | none => errRv CKR_MECHANISM_INVALID

def HMACMechanism.signNew {σ : Type} (D : DigestOps σ) : HMACMechanism → CK_MECHANISM → Object →
    KResult (HMACOperation σ) :=
  HMACMechanism.operationNew D CKF_SIGN

def HMACMechanism.verifyNew {σ : Type} (D : DigestOps σ) :
    HMACMechanism → CK_MECHANISM → Object → KResult (HMACOperation σ) :=
  HMACMechanism.operationNew D CKF_VERIFY

/-! ### The keys the mechanisms accept -/

/-- For every registered mechanism, `check_and_fetch_key` accepts the secret keys of the
mechanism's own key type, and `SENSITIVE` does not list that key type: `fill_template` copies
such a key's value into any buffer large enough and succeeds, however sensitive or unextractable
the key is. -/
theorem hmac_typed_key_readable {mechType : Nat} {mech : HMACMechanism}
    (registered : (mechType, mech) ∈ register) {o : Object} (distinct : DistinctIds o.attributes)
    (secretKey : o.getAttrAsUlong CKA_CLASS = .ok CKO_SECRET_KEY)
    (ownType : o.getAttrAsUlong CKA_KEY_TYPE = .ok mech.keytype) {value : List UInt8}
    (hasValue : o.getAttrAsBytes CKA_VALUE = .ok value) (memory : List UInt8) {ulValueLen : Nat}
    (fits : value.length ≤ ulValueLen) :
    checkAndFetchKey o mech.keytype = .ok value ∧
      o.fillTemplate [⟨CKA_VALUE, some memory, ulValueLen⟩] =
        ([⟨CKA_VALUE, some (value ++ memory.drop value.length), value.length⟩], .ok ()) := by
  obtain ⟨_, -, -, -, -, hmacType, -⟩ := register_hash registered
  have isKey : o.privateKeyType = some mech.keytype := by
    simp [Object.privateKeyType_of_distinct distinct secretKey ownType]
  obtain ⟨attr, found, -, read⟩ := Object.attrAsType_ok hasValue
  cases read
  refine ⟨by simp [checkAndFetchKey, secretKey, ownType, hasValue, bind, Except.bind, pure,
    Except.pure], ?_⟩
  exact Object.fillTemplate_copies_hmac_key_value hmacType isKey found memory ulValueLen fits

/-- A SHA-256 HMAC key that is sensitive and not extractable. -/
def sensitiveSha256HmacKey : Object :=
  ⟨1, [Attribute.fromUlong CKA_CLASS CKO_SECRET_KEY,
    Attribute.fromUlong CKA_KEY_TYPE CKK_SHA256_HMAC, Attribute.fromBool CKA_SENSITIVE true,
    Attribute.fromBool CKA_EXTRACTABLE false, Attribute.fromBytes CKA_VALUE [0x5A]]⟩

theorem hmac_typed_key_readable_sha256 :
    sensitiveSha256HmacKey.isSensitive = true ∧ sensitiveSha256HmacKey.isExtractable = false ∧
      checkAndFetchKey sensitiveSha256HmacKey CKK_SHA256_HMAC = .ok [0x5A] ∧
      sensitiveSha256HmacKey.fillTemplate [⟨CKA_VALUE, some [0], 1⟩] =
        ([⟨CKA_VALUE, some [0x5A], 1⟩], .ok ()) :=
  ⟨rfl, rfl, hmac_typed_key_readable
    (show (CKM_SHA256_HMAC, hmacMechanism CKK_SHA256_HMAC HashAlg.sha256.hashlen
      HashAlg.sha256.hashlen) ∈ register by decide) (by decide) (by rfl) (by rfl) (by rfl) [0]
    (by decide)⟩

end Kryoptic
