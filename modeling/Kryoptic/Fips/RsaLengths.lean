import Kryoptic.Operation.Lifecycle

/-!
Contract: the lengths of the RSA PKCS #1 v1.5 operation: the key-size gate of every constructor,
the `max_input` and `output_len` each constructor computes from the modulus, and which one-shot
methods compare their input with `max_input`.

Owns: the spec lemma of the gate (`checkKeySize_eq_ok`); the wrap of the `usize` subtraction
`|MODULUS| − 11` (`usizeSub_of_lt`); the bounds each constructor stores (`new_maxInput`); the
length check of the `CKM_RSA_PKCS` `sign` and `verify`, made before the provider is called; and
the absence of any such check in `encrypt` and `decrypt`, whose errors come from the flags, the
buffer and the provider only. On the concrete provider of `Kryoptic.Operation.Lifecycle` it
shows an over-long plaintext encrypted, a ciphertext of the wrong length decrypted, and a
10-byte modulus whose `max_input` wraps.

Does not own: the methods and the provider, which are `Kryoptic.Fips.Rsa`.
-/

namespace Kryoptic

/-! ### The subtraction and the gate -/

/-- Below zero, the `usize` subtraction wraps by `2^64`. -/
theorem usizeSub_of_lt {a b : Nat} (below : a < b) (bounded : b ≤ 2 ^ 64) :
    usizeSub a b = 2 ^ 64 + a - b := by
  unfold usizeSub
  omega

namespace RsaPKCSOperation

/-- What the gate lets through: the key's `CKA_MODULUS`, whose length in bits, taken modulo
`2^64` as the `u64` product is, lies within the mechanism's bounds. -/
theorem checkKeySize_eq_ok {key : Object} {info : CK_MECHANISM_INFO} {modulus : List UInt8} :
    checkKeySize key info = .ok modulus ↔
      key.getAttrAsBytes CKA_MODULUS = .ok modulus ∧
        info.ulMinKeySize ≤ modulus.length * 8 % 2 ^ 64 ∧
        (info.ulMaxKeySize = 0 ∨ modulus.length * 8 % 2 ^ 64 ≤ info.ulMaxKeySize) := by
  unfold checkKeySize
  cases read : key.getAttrAsBytes CKA_MODULUS with
  | error e => simp [bind, Except.bind]
  | ok bytes =>
      simp only [bind, Except.bind, Except.ok.injEq]
      split_ifs with outside
      · simp only [errRv, reduceCtorEq, false_iff, not_and]
        rintro rfl
        rcases outside with below | ⟨nonzero, above⟩ <;> omega
      · simp only [pure, Except.pure, Except.ok.injEq]
        constructor
        · rintro rfl
          exact ⟨rfl, by omega⟩
        · exact fun accepted => accepted.1

/-- A key holding only a modulus of `k` bytes. -/
def modulusKey (k : Nat) : Object := ⟨0, [Attribute.fromBytes CKA_MODULUS (List.replicate k 0)]⟩

theorem modulusKey_modulus (k : Nat) :
    (modulusKey k).getAttrAsBytes CKA_MODULUS = .ok (List.replicate k 0) := rfl

/-! ### The bounds the constructors store -/

theorem signMaxInput_of_pkcs {mechanism : Nat} (pkcs : mechanism = CKM_RSA_PKCS)
    (modulus : List UInt8) : signMaxInput mechanism modulus = usizeSub modulus.length 11 :=
  if_pos pkcs

section Constructors

variable {ω : Type} (P : Provider ω)

theorem liftK_returns {α : Type} (r : KResult α) :
    Returns (fun a => r = .ok a) (liftK r : WorldM ω α) := fun _ _ _ returned => by
  unfold liftK at returned
  split at returned <;> simp_all

/-- The bounds each constructor stores, computed from the modulus its gate let through:
`encrypt_new` takes `|MODULUS| − 11` in `usize` as `max_input`, `decrypt_new` takes `|MODULUS|`
and gives `|MODULUS| − 11` as `output_len`, and `sign_new` and `verify_new` take `|MODULUS| − 11`
under `CKM_RSA_PKCS` and 0 otherwise. -/
theorem new_maxInput (mech : CK_MECHANISM) (key : Object) (info : CK_MECHANISM_INFO) :
    Returns (fun op => ∃ modulus, checkKeySize key info = .ok modulus ∧
        op.maxInput = usizeSub modulus.length 11) (encryptNew P mech key info) ∧
      Returns (fun op => ∃ modulus, checkKeySize key info = .ok modulus ∧
        op.maxInput = modulus.length ∧ op.outputLen = usizeSub modulus.length 11)
        (decryptNew P mech key info) ∧
      Returns (fun op => ∃ modulus, checkKeySize key info = .ok modulus ∧
        op.maxInput = signMaxInput mech.mechanism modulus) (signNew P mech key info) ∧
      Returns (fun op => ∃ modulus, checkKeySize key info = .ok modulus ∧
        op.maxInput = signMaxInput mech.mechanism modulus) (verifyNew P mech key info) := by
  refine ⟨?_, ?_, ?_, ?_⟩
  all_goals refine Returns.bind_of (liftK_returns _) fun modulus gate => ?_
  all_goals repeat' first
    | refine Returns.bind fun _ => ?_
    | refine Returns.ite ?_ ?_
    | exact liftK_errRv_returns _
    | exact Returns.pure ⟨modulus, gate, rfl⟩
    | exact Returns.pure ⟨modulus, gate, rfl, rfl⟩

/-- Under `CKM_RSA_PKCS`, `sign_new` and `verify_new` store `|MODULUS| − 11` as `max_input`. -/
theorem pkcs_new_maxInput {mech : CK_MECHANISM} (pkcs : mech.mechanism = CKM_RSA_PKCS)
    (key : Object) (info : CK_MECHANISM_INFO) :
    Returns (fun op => ∃ modulus, checkKeySize key info = .ok modulus ∧
        op.maxInput = usizeSub modulus.length 11) (signNew P mech key info) ∧
      Returns (fun op => ∃ modulus, checkKeySize key info = .ok modulus ∧
        op.maxInput = usizeSub modulus.length 11) (verifyNew P mech key info) :=
  have pkcsBound : ∀ op : RsaPKCSOperation, (∃ modulus, checkKeySize key info = .ok modulus ∧
      op.maxInput = signMaxInput mech.mechanism modulus) → ∃ modulus,
        checkKeySize key info = .ok modulus ∧ op.maxInput = usizeSub modulus.length 11 :=
    fun _ ⟨modulus, gate, bound⟩ => ⟨modulus, gate, bound.trans (signMaxInput_of_pkcs pkcs _)⟩
  ⟨(new_maxInput P mech key info).2.2.1.imp pkcsBound,
    (new_maxInput P mech key info).2.2.2.imp pkcsBound⟩

end Constructors

/-! ### Which one-shot methods check the input -/

section Methods

variable {ω : Type} (P : Provider ω)

/-- A `CKM_RSA_PKCS` `sign` from `Fresh` whose data is longer than `max_input` finalizes the
operation and answers `CKR_DATA_LEN_RANGE` before the provider is called. -/
theorem sign_dataLenRange (data : List UInt8) (signature : Nat) (st : RsaState ω)
    (pkcs : st.op.mech = CKM_RSA_PKCS) (idle : st.op.inUse = false)
    (notFinalized : st.op.finalized = false) (tooLong : st.op.maxInput < data.length) :
    sign P data signature st =
      .error (.rvError CKR_DATA_LEN_RANGE) { st with op := { st.op with finalized := true } } := by
  simp [sign, oneShotSig, signPkcs, pkcs, idle, notFinalized, tooLong, setFinalized, modifyOp]

/-- The same check in the `CKM_RSA_PKCS` `verify`. -/
theorem verify_dataLenRange (data signature : List UInt8) (st : RsaState ω)
    (pkcs : st.op.mech = CKM_RSA_PKCS) (idle : st.op.inUse = false)
    (notFinalized : st.op.finalized = false) (tooLong : st.op.maxInput < data.length) :
    verify P data signature st =
      .error (.rvError CKR_DATA_LEN_RANGE) { st with op := { st.op with finalized := true } } := by
  simp [verify, oneShotSig, verifyPkcs, pkcs, idle, notFinalized, tooLong, setFinalized,
    modifyOp]

theorem getOp_raises {p : KError → Prop} : Raises p (getOp : OpM (RsaState ω) RsaPKCSOperation) :=
  fun _ _ _ raised => by cases raised

/-- `encrypt` and `decrypt` answer only the codes of their flag and buffer checks and the
provider's `CKR_DEVICE_ERROR`: neither compares its input with `max_input`. -/
theorem oneShotCipher_raises {p : KError → Prop}
    (notInit : p (.rvError CKR_OPERATION_NOT_INITIALIZED))
    (tooSmall : p (.rvError CKR_BUFFER_TOO_SMALL)) (device : p (.rvError CKR_DEVICE_ERROR))
    (key : RsaPKCSOperation → EvpPkey) (pkeyOp : PkeyOp) (input : List UInt8)
    (output : Option Nat) : Raises p (oneShotCipher P key pkeyOp input output) :=
  Raises.bind getOp_raises fun _ => Raises.bind (Raises.guardRv notInit) fun _ =>
    Raises.bind (Raises.guardRv notInit) fun _ =>
    Raises.bind (onWorld_raises (callPtr_raises device _)) fun _ =>
    Raises.bind (onWorld_raises (ossl_raises device _)) fun _ =>
    Raises.bind (onWorld_raises (ossl_raises device _)) fun _ =>
    Raises.bind (onWorld_raises (pkeyApply_raises P device _ _ _ _)) fun ⟨_, _⟩ => by
      cases output with
      | none => exact Raises.pure
      | some _ =>
          exact Raises.bind (Raises.guardRv tooSmall) fun _ => Raises.bind Raises.ofModify fun _ =>
            Raises.bind (onWorld_raises (pkeyApply_raises P device _ _ _ _)) fun ⟨_, _⟩ =>
              Raises.pure

end Methods

end RsaPKCSOperation

/-! ### Which methods check the input length, and the gate that bounds the modulus -/

/-- **Only `sign` and `verify` check the input length.** Whatever the provider returns,
`encrypt` and `decrypt` never answer `CKR_DATA_LEN_RANGE`: neither compares its input with the
`max_input` its constructor stored, so an over-long plaintext or a ciphertext of the wrong
length reaches the provider. `sign_new` and `verify_new` under `CKM_RSA_PKCS` store the `usize`
difference `|MODULUS| − 11`, and a one-shot `sign` or `verify` of a longer input finalizes the
operation and answers `CKR_DATA_LEN_RANGE` before any provider call. On a provider that accepts
any input, a 6-byte plaintext is encrypted under a 16-byte modulus, whose `max_input` is 5, and a
3-byte ciphertext is decrypted. -/
theorem rsa_pkcs_cipher_length_unchecked :
    (∀ {ω : Type} (P : Provider ω) (plain : List UInt8) (cipher : Option Nat)
        (st : RsaState ω) (e : KError) (after : RsaState ω),
      RsaPKCSOperation.encrypt P plain cipher st = .error e after →
        e ≠ .rvError CKR_DATA_LEN_RANGE) ∧
    (∀ {ω : Type} (P : Provider ω) (cipher : List UInt8) (plain : Option Nat)
        (st : RsaState ω) (e : KError) (after : RsaState ω),
      RsaPKCSOperation.decrypt P cipher plain st = .error e after →
        e ≠ .rvError CKR_DATA_LEN_RANGE) ∧
    (∀ {ω : Type} (P : Provider ω) (mech : CK_MECHANISM) (key : Object)
        (info : CK_MECHANISM_INFO) (world world' : ω) (op : RsaPKCSOperation),
      mech.mechanism = CKM_RSA_PKCS →
        RsaPKCSOperation.signNew P mech key info world = .ok op world' →
      ∃ modulus, RsaPKCSOperation.checkKeySize key info = .ok modulus ∧
        op.maxInput = usizeSub modulus.length 11 ∧
        ∀ (data : List UInt8) (signature : Nat) (w : ω), op.maxInput < data.length →
          RsaPKCSOperation.sign P data signature ⟨w, op⟩ =
            .error (.rvError CKR_DATA_LEN_RANGE) ⟨w, { op with finalized := true }⟩) ∧
    (∀ {ω : Type} (P : Provider ω) (mech : CK_MECHANISM) (key : Object)
        (info : CK_MECHANISM_INFO) (world world' : ω) (op : RsaPKCSOperation),
      mech.mechanism = CKM_RSA_PKCS →
        RsaPKCSOperation.verifyNew P mech key info world = .ok op world' →
      ∃ modulus, RsaPKCSOperation.checkKeySize key info = .ok modulus ∧
        op.maxInput = usizeSub modulus.length 11 ∧
        ∀ (data signature : List UInt8) (w : ω), op.maxInput < data.length →
          RsaPKCSOperation.verify P data signature ⟨w, op⟩ =
            .error (.rvError CKR_DATA_LEN_RANGE) ⟨w, { op with finalized := true }⟩) ∧
    (∃ op, RsaPKCSOperation.encryptNew (contextProvider true 16) rsaPkcs rsaPublicKey ⟨0, 0, 0⟩
        [] = .ok op [] ∧ op.maxInput = 5 ∧
      ∃ output after, RsaPKCSOperation.encrypt (contextProvider true 16) [1, 2, 3, 4, 5, 6]
          (some 16) ⟨[], op⟩ = .ok (output, 16) after ∧ after.op.finalized = true) ∧
    ∃ op, RsaPKCSOperation.decryptNew (contextProvider true 16) rsaPkcs rsaPrivateKey ⟨0, 0, 0⟩
        [] = .ok op [] ∧ op.maxInput = 16 ∧
      ∃ output after, RsaPKCSOperation.decrypt (contextProvider true 16) [1, 2, 3] (some 16)
          ⟨[], op⟩ = .ok (output, 16) after ∧ after.op.finalized = true := by
  have notDataLen : ∀ code, code ≠ CKR_DATA_LEN_RANGE →
      KError.rvError code ≠ .rvError CKR_DATA_LEN_RANGE :=
    fun code different same => different (KError.rvError.inj same)
  have unchecked : ∀ {ω : Type} (P : Provider ω) key pkeyOp input output,
      Raises (fun e => e ≠ .rvError CKR_DATA_LEN_RANGE)
        (RsaPKCSOperation.oneShotCipher P key pkeyOp input output) :=
    fun P => RsaPKCSOperation.oneShotCipher_raises P (notDataLen _ (by decide))
      (notDataLen _ (by decide)) (notDataLen _ (by decide))
  refine ⟨fun P _ _ st e after failed => unchecked P _ _ _ _ st e after failed,
    fun P _ _ st e after failed => unchecked P _ _ _ _ st e after failed,
    fun P mech key info _ _ op pkcs built => ?_, fun P mech key info _ _ op pkcs built => ?_,
    ⟨_, rfl, rfl, _, _, rfl, rfl⟩, ⟨_, rfl, rfl, _, _, rfl, rfl⟩⟩
  · obtain ⟨modulus, gate, bound⟩ :=
      (RsaPKCSOperation.pkcs_new_maxInput P pkcs key info).1 _ _ _ built
    have fresh := (RsaPKCSOperation.new_fresh P mech key info).2.2.1 _ _ _ built
    exact ⟨modulus, gate, bound, fun data signature w tooLong =>
      RsaPKCSOperation.sign_dataLenRange P data signature ⟨w, op⟩ (fresh.1.trans pkcs) fresh.2.1
        fresh.2.2 tooLong⟩
  · obtain ⟨modulus, gate, bound⟩ :=
      (RsaPKCSOperation.pkcs_new_maxInput P pkcs key info).2 _ _ _ built
    have fresh := (RsaPKCSOperation.new_fresh P mech key info).2.2.2 _ _ _ built
    exact ⟨modulus, gate, bound, fun data signature w tooLong =>
      RsaPKCSOperation.verify_dataLenRange P data signature ⟨w, op⟩ (fresh.1.trans pkcs) fresh.2.1
        fresh.2.2 tooLong⟩

/-- A private key like `rsaPrivateKey` with a 10-byte modulus, shorter than the 11 bytes of
PKCS #1 v1.5 padding. -/
def shortRsaPrivateKey : Object :=
  ⟨4, [Attribute.fromUlong CKA_CLASS CKO_PRIVATE_KEY, Attribute.fromUlong CKA_KEY_TYPE CKK_RSA,
    Attribute.fromBytes CKA_MODULUS (List.replicate 10 0xC5),
    Attribute.fromBytes CKA_PUBLIC_EXPONENT [1, 0, 1],
    Attribute.fromBytes CKA_PRIVATE_EXPONENT (List.replicate 10 0x3B)]⟩

/-- **The key-size gate does not protect `|MODULUS| − 11`.** For a modulus shorter than `2^61`
bytes, that is for every key object, the `u64` product `|MODULUS|·8` is exact and the gate
compares the modulus's true length in bits with the bounds. But the gate keeps every modulus
shorter than 11 bytes out only under bounds that exclude each of 0, 8, …, 80 bits; any other
`CK_MECHANISM_INFO`, one with no bounds among them, lets such a modulus through, and then
`encrypt_new`, `sign_new` and `verify_new` under `CKM_RSA_PKCS` store a wrapped `max_input`, and
`decrypt_new` a wrapped `output_len`. With no bounds, `sign_new` on a 10-byte modulus stores
`2^64 − 1`, and a one-shot `sign` of 3 bytes, more than `10 − 11` allows, passes the length check
and signs. -/
theorem rsa_key_size_gate_admits_underflow :
    (∀ (key : Object) (info : CK_MECHANISM_INFO) (modulus : List UInt8),
      RsaPKCSOperation.checkKeySize key info = .ok modulus → modulus.length < 2 ^ 61 →
        modulus.length * 8 % 2 ^ 64 = modulus.length * 8 ∧
          info.ulMinKeySize ≤ modulus.length * 8 ∧
          (info.ulMaxKeySize = 0 ∨ modulus.length * 8 ≤ info.ulMaxKeySize)) ∧
    (∀ info : CK_MECHANISM_INFO,
      (∀ key modulus, RsaPKCSOperation.checkKeySize key info = .ok modulus →
          11 ≤ modulus.length) ↔
        ∀ k < 11, k * 8 < info.ulMinKeySize ∨
          (info.ulMaxKeySize ≠ 0 ∧ info.ulMaxKeySize < k * 8)) ∧
    (∀ {ω : Type} (P : Provider ω) (mech : CK_MECHANISM) (key : Object)
        (info : CK_MECHANISM_INFO) (world world' : ω) (op : RsaPKCSOperation),
      (RsaPKCSOperation.encryptNew P mech key info world = .ok op world' ∨
        mech.mechanism = CKM_RSA_PKCS ∧
          (RsaPKCSOperation.signNew P mech key info world = .ok op world' ∨
            RsaPKCSOperation.verifyNew P mech key info world = .ok op world')) →
      ∃ modulus, RsaPKCSOperation.checkKeySize key info = .ok modulus ∧
        (modulus.length < 11 → op.maxInput = 2 ^ 64 + modulus.length - 11)) ∧
    (∀ {ω : Type} (P : Provider ω) (mech : CK_MECHANISM) (key : Object)
        (info : CK_MECHANISM_INFO) (world world' : ω) (op : RsaPKCSOperation),
      RsaPKCSOperation.decryptNew P mech key info world = .ok op world' →
      ∃ modulus, RsaPKCSOperation.checkKeySize key info = .ok modulus ∧
        (modulus.length < 11 → op.outputLen = 2 ^ 64 + modulus.length - 11)) ∧
    ∃ op, RsaPKCSOperation.signNew (contextProvider true 10) rsaPkcs shortRsaPrivateKey
        ⟨0, 0, 0⟩ [] = .ok op [] ∧ op.maxInput = 2 ^ 64 - 1 ∧
      ∃ signature after, RsaPKCSOperation.sign (contextProvider true 10) [1, 2, 3] 10 ⟨[], op⟩ =
        .ok signature after := by
  refine ⟨fun key info modulus passes short => ?_, fun info => ⟨fun protects k short => ?_,
    fun bounded key modulus passes => ?_⟩, fun P mech key info _ _ op built => ?_,
    fun P mech key info _ _ op built => ?_, ⟨_, rfl, rfl, _, _, rfl⟩⟩
  · obtain ⟨-, low, high⟩ := RsaPKCSOperation.checkKeySize_eq_ok.mp passes
    have exact : modulus.length * 8 % 2 ^ 64 = modulus.length * 8 := Nat.mod_eq_of_lt (by omega)
    rw [exact] at low high
    exact ⟨exact, low, high⟩
  · by_contra admitted
    push_neg at admitted
    have passes : RsaPKCSOperation.checkKeySize (RsaPKCSOperation.modulusKey k) info =
        .ok (List.replicate k 0) := RsaPKCSOperation.checkKeySize_eq_ok.mpr
      ⟨RsaPKCSOperation.modulusKey_modulus k, by simp only [List.length_replicate]; omega,
        by simp only [List.length_replicate]; omega⟩
    have long := protects _ _ passes
    simp only [List.length_replicate] at long
    omega
  · obtain ⟨-, low, high⟩ := RsaPKCSOperation.checkKeySize_eq_ok.mp passes
    by_contra short
    rcases bounded _ (Nat.lt_of_not_le short) with below | ⟨nonzero, above⟩ <;> omega
  · obtain ⟨modulus, gate, bound⟩ : ∃ modulus, RsaPKCSOperation.checkKeySize key info =
        .ok modulus ∧ op.maxInput = usizeSub modulus.length 11 := by
      rcases built with built | ⟨pkcs, built | built⟩
      exacts [(RsaPKCSOperation.new_maxInput P mech key info).1 _ _ _ built,
        (RsaPKCSOperation.pkcs_new_maxInput P pkcs key info).1 _ _ _ built,
        (RsaPKCSOperation.pkcs_new_maxInput P pkcs key info).2 _ _ _ built]
    exact ⟨modulus, gate, fun short => bound.trans (usizeSub_of_lt short (by decide))⟩
  · obtain ⟨modulus, gate, -, outputLen⟩ :=
      (RsaPKCSOperation.new_maxInput P mech key info).2.1 _ _ _ built
    exact ⟨modulus, gate, fun short => outputLen.trans (usizeSub_of_lt short (by decide))⟩

end Kryoptic
