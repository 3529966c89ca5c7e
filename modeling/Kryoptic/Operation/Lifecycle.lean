import Kryoptic.Hmac
import Kryoptic.Fips.Rsa

/-!
Contract: the lifecycle of every operation of the repository, from the state its constructor
returns, against the abstract machine of spec §4.5; and what a failed call leaves behind.

Owns: `operation_lifecycle`, which puts the refinement theorems of `Kryoptic.Hmac` and
`Kryoptic.Fips.Rsa` together with the constructors' `Fresh` results; two concrete back ends, a
digest whose update takes a bounded input and a provider whose contexts remember what they were
set up for; and two ways the operations depart from the spec, shown on these back ends and, for
HMAC's `sign_update` and for the `CKM_RSA_PKCS` verification, stated for every back end: a failed
call that leaves the operation open, and a verification decided by the provider's signing
primitive.

Does not own: the step lemmas of each method, which sit beside the methods.

## Why refinement and not an invariant

The spec's lifecycle is a property of runs: which calls may succeed from which phase, and that a
run never goes back. `OperationMachine.Refines` asks it of one call from any state, so that
`trace_path` gives it for every run from every state, and the constructors only have to return a
`Fresh` operation.
-/

namespace Kryoptic

/-- **Every operation follows the lifecycle.** From the state its constructor returns, every
sequence of calls, with any data and buffers and whatever the digest or the provider returns, is a
path of the abstract machine: HMAC under the streaming policy; RSA encryption and decryption with
no update that succeeds; RSA signing and verification under the policy of their mechanism, where
`CKM_RSA_PKCS` refuses a first update. -/
theorem operation_lifecycle {σ ω : Type} (D : DigestOps σ) (P : Provider ω) :
    (∀ {mech : Nat} {hash : HashAlg} {key : List UInt8} {outputlen : Nat} {op : HMACOperation σ},
      HMACOperation.init D mech hash key outputlen = .ok op →
        (∀ calls, Path .streaming .fresh ((HMACOperation.signer D).trace calls op)) ∧
          ∀ calls, Path .streaming .fresh ((HMACOperation.verifier D).trace calls op)) ∧
    (∀ {mech : CK_MECHANISM} {key : Object} {info : CK_MECHANISM_INFO} {world world' : ω}
      {op : RsaPKCSOperation}, RsaPKCSOperation.encryptNew P mech key info world = .ok op world' →
        ∀ w calls, Path .never .fresh ((RsaPKCSOperation.encrypter P).trace calls ⟨w, op⟩)) ∧
    (∀ {mech : CK_MECHANISM} {key : Object} {info : CK_MECHANISM_INFO} {world world' : ω}
      {op : RsaPKCSOperation}, RsaPKCSOperation.decryptNew P mech key info world = .ok op world' →
        ∀ w calls, Path .never .fresh ((RsaPKCSOperation.decrypter P).trace calls ⟨w, op⟩)) ∧
    (∀ {mech : CK_MECHANISM} {key : Object} {info : CK_MECHANISM_INFO} {world world' : ω}
      {op : RsaPKCSOperation}, RsaPKCSOperation.signNew P mech key info world = .ok op world' →
        ∀ w calls, Path (RsaPKCSOperation.updatePolicy mech.mechanism) .fresh
          ((RsaPKCSOperation.signer P).trace calls ⟨w, op⟩)) ∧
    (∀ {mech : CK_MECHANISM} {key : Object} {info : CK_MECHANISM_INFO} {world world' : ω}
      {op : RsaPKCSOperation}, RsaPKCSOperation.verifyNew P mech key info world = .ok op world' →
        ∀ w calls, Path (RsaPKCSOperation.updatePolicy mech.mechanism) .fresh
          ((RsaPKCSOperation.verifier P).trace calls ⟨w, op⟩)) := by
  refine ⟨fun built => ⟨?_, ?_⟩, fun built w => ?_, fun built w => ?_, fun built w => ?_,
    fun built w => ?_⟩
  · exact (HMACOperation.signer D).path_of_fresh (HMACOperation.signer_refines D)
      (HMACOperation.init_fresh D built)
  · exact (HMACOperation.verifier D).path_of_fresh (HMACOperation.verifier_refines D)
      (HMACOperation.init_fresh D built)
  · exact (RsaPKCSOperation.encrypter P).path_of_fresh (RsaPKCSOperation.encrypter_refines P)
      (((RsaPKCSOperation.new_fresh P _ _ _).1 _ _ _ built).phase w)
  · exact (RsaPKCSOperation.decrypter P).path_of_fresh (RsaPKCSOperation.decrypter_refines P)
      (((RsaPKCSOperation.new_fresh P _ _ _).2.1 _ _ _ built).phase w)
  · have fresh := (RsaPKCSOperation.new_fresh P _ _ _).2.2.1 _ _ _ built
    rw [← fresh.1]
    exact (RsaPKCSOperation.signer P).path_of_fresh (RsaPKCSOperation.signer_refines P)
      (fresh.phase w)
  · have fresh := (RsaPKCSOperation.new_fresh P _ _ _).2.2.2 _ _ _ built
    rw [← fresh.1]
    exact (RsaPKCSOperation.verifier P).path_of_fresh (RsaPKCSOperation.verifier_refines P)
      (fresh.phase w)

/-! ### Failed calls on concrete back ends -/

/-- A digest whose update refuses more than `limit` bytes at a time, as a back end with a bounded
input may; its final calls return zeros. -/
def boundedDigest (limit : Nat) : DigestOps Unit where
  new _ := ()
  reset _ := ((), .ok ())
  digestUpdate _ data := ((), if data.length ≤ limit then .ok () else errRv CKR_DEVICE_ERROR)
  digestFinal _ n := ((), .ok (List.replicate n 0))
  digest _ _ n := ((), .ok (List.replicate n 0))

/-- A provider whose contexts remember the operation they were set up for and refuse an
`EVP_PKEY_*` call for another one, as OpenSSL's do. Its state is that record, one entry a
context. `initOk` says whether `EVP_PKEY_*_init` succeeds; a signature or ciphertext has `outLen`
bytes, the input reversed and padded with zeros. -/
def contextProvider (initOk : Bool) (outLen : Nat) : Provider (List (Option PkeyOp)) where
  fromdata contexts _ _ := (contexts, some 0)
  ctxNewFromPkey contexts _ := (contexts ++ [none], some contexts.length)
  init contexts ctx pkeyOp :=
    if initOk then (contexts.set ctx (some pkeyOp), 1) else (contexts, 0)
  setParams contexts _ := (contexts, 1)
  apply contexts ctx pkeyOp out input :=
    if contexts.get? ctx = some (some pkeyOp) then
      (contexts, 1, outLen, match out with
        | none => []
        | some _ => (input.reverse ++ List.replicate outLen 0).take outLen)
    else (contexts, -1, 0, [])
  sigctxNew contexts := (contexts, some 0)
  digestInit contexts _ _ _ _ := (contexts, .ok ())
  digestUpdate contexts _ _ _ := (contexts, .ok ())
  digestSignFinal contexts _ n := (contexts, .ok (List.replicate n 0))
  digestVerifyFinal contexts _ _ := (contexts, .ok ())

/-- A 128-bit RSA private key, without its CRT parameters. -/
def rsaPrivateKey : Object :=
  ⟨2, [Attribute.fromUlong CKA_CLASS CKO_PRIVATE_KEY, Attribute.fromUlong CKA_KEY_TYPE CKK_RSA,
    Attribute.fromBytes CKA_MODULUS (List.replicate 16 0xC5),
    Attribute.fromBytes CKA_PUBLIC_EXPONENT [1, 0, 1],
    Attribute.fromBytes CKA_PRIVATE_EXPONENT (List.replicate 16 0x3B)]⟩

/-- The public key that matches `rsaPrivateKey`. -/
def rsaPublicKey : Object :=
  ⟨3, [Attribute.fromUlong CKA_CLASS CKO_PUBLIC_KEY, Attribute.fromUlong CKA_KEY_TYPE CKK_RSA,
    Attribute.fromBytes CKA_MODULUS (List.replicate 16 0xC5),
    Attribute.fromBytes CKA_PUBLIC_EXPONENT [1, 0, 1]]⟩

/-- `CKM_RSA_PKCS`, which takes no parameter. -/
def rsaPkcs : CK_MECHANISM := ⟨CKM_RSA_PKCS, [], 0⟩

set_option maxRecDepth 1000 in
/-- A failed call need not end the operation. Whatever its digest returns, `sign_update` leaves
an HMAC operation that is not finalized `Running`, failure included; so a `sign_update` whose
digest fails is followed by a `sign_final` that succeeds. An `encrypt` from `Fresh` with a buffer
large enough that fails at `EVP_PKEY_encrypt_init` leaves the RSA operation `Fresh`. -/
theorem failed_call_leaves_operation_open :
    (∀ {σ : Type} (D : DigestOps σ) (data : List UInt8) (op : HMACOperation σ),
      op.finalized = false → (resultState (HMACOperation.signUpdate D data op)).phase = .running) ∧
    (∃ op, HMACOperation.init (boundedDigest 64) CKM_SHA256_HMAC .sha256 [1] 32 = .ok op ∧
      ∃ after, HMACOperation.signUpdate (boundedDigest 64) (List.replicate 65 0) op =
          .error (.rvError CKR_DEVICE_ERROR) after ∧ after.phase = .running ∧
        ∃ signature ended, HMACOperation.signFinal (boundedDigest 64) 32 after =
          .ok signature ended) ∧
    ∃ op, RsaPKCSOperation.encryptNew (contextProvider false 16) rsaPkcs rsaPublicKey ⟨0, 0, 0⟩ [] =
        .ok op [] ∧
      ∃ after, RsaPKCSOperation.encrypt (contextProvider false 16) [7] (some 16) ⟨[], op⟩ =
          .error (.rvError CKR_DEVICE_ERROR) after ∧ RsaPKCSOperation.phase after = .fresh :=
  ⟨fun D data op notFinalized => by
      rcases HMACOperation.signUpdate_step D data op with ⟨finalized, -⟩ | ⟨-, running⟩
      · simp [notFinalized] at finalized
      · exact running,
    ⟨_, rfl, _, rfl, rfl, _, _, rfl⟩, _, rfl, _, rfl, rfl⟩

/-- For `CKM_RSA_PKCS`, `verify` is decided by the provider's signing primitive, not by a
verification. Under every provider it never answers `CKR_SIGNATURE_INVALID`, whatever signature it
is given; and on a provider that refuses `EVP_PKEY_sign` on a context set up by
`EVP_PKEY_verify_init`, it rejects the signature that `sign` made with the matching private key. -/
theorem rsa_pkcs_verify_rejects_own_signature :
    (∀ {ω : Type} (P : Provider ω) (data signature : List UInt8) (st : RsaState ω) (e : KError)
        (after : RsaState ω), st.op.mech = CKM_RSA_PKCS →
      RsaPKCSOperation.verify P data signature st = .error e after →
        e ≠ .rvError CKR_SIGNATURE_INVALID) ∧
    ∃ signer verifier signature,
      RsaPKCSOperation.signNew (contextProvider true 16) rsaPkcs rsaPrivateKey ⟨0, 0, 0⟩ [] =
        .ok signer [] ∧
      RsaPKCSOperation.verifyNew (contextProvider true 16) rsaPkcs rsaPublicKey ⟨0, 0, 0⟩ [] =
        .ok verifier [] ∧
      (∃ after, RsaPKCSOperation.sign (contextProvider true 16) [1, 2, 3] 16 ⟨[], signer⟩ =
        .ok signature after) ∧
      ∃ after, RsaPKCSOperation.verify (contextProvider true 16) [1, 2, 3] signature
        ⟨[], verifier⟩ = .error (.rvError CKR_DEVICE_ERROR) after :=
  ⟨fun P data signature st e after pkcs failed => by
      rcases RsaPKCSOperation.verify_pkcs_error P data signature st pkcs e after failed with
        rfl | rfl | rfl | rfl <;> decide,
    _, _, _, rfl, rfl, ⟨_, rfl⟩, _, rfl⟩

end Kryoptic
