import Mathlib.Algebra.Group.Nat.Basic
import Mathlib.Data.List.Basic

/-!
Contract: the PKCS#11 surface the kernel is written against.

Owns: the `CK_*` constants the modelled code reads, the error type `KError` with the
`KResult` alias, the C records `CK_ATTRIBUTE`, `CK_MECHANISM` and `CK_MECHANISM_INFO`, and the
lookup law of the association lists the sources' maps are modelled by.

The module `interface` (bindgen output of the PKCS#11 v3.1 headers) is not among the sources.
Every constant below is modelled from the spec, which fixes the `CKR_*`, `CKA_*`, `CKO_*`,
`CKK_*` and `CKM_*` names; the numbers are those of the PKCS#11 v3.1 headers. `CK_ULONG` is the
64-bit unsigned long of the supported platforms and is modelled by `Nat`: every theorem below
holds for all naturals, hence for every 64-bit value.

Pointers are modelled by what they point to. A `CK_ATTRIBUTE`'s `pValue` is `none` for a null
pointer and `some memory` otherwise, where `memory` is the caller's buffer; a write of `n`
bytes replaces its first `n` bytes and leaves the rest alone.
-/

namespace Kryoptic

/-! ### Return values -/

def CKR_OK : Nat := 0x000
def CKR_GENERAL_ERROR : Nat := 0x005
def CKR_ATTRIBUTE_SENSITIVE : Nat := 0x011
def CKR_ATTRIBUTE_TYPE_INVALID : Nat := 0x012
def CKR_ATTRIBUTE_VALUE_INVALID : Nat := 0x013
def CKR_DATA_LEN_RANGE : Nat := 0x021
def CKR_DEVICE_ERROR : Nat := 0x030
def CKR_KEY_SIZE_RANGE : Nat := 0x062
def CKR_KEY_TYPE_INCONSISTENT : Nat := 0x063
def CKR_MECHANISM_INVALID : Nat := 0x070
def CKR_MECHANISM_PARAM_INVALID : Nat := 0x071
def CKR_OPERATION_NOT_INITIALIZED : Nat := 0x091
def CKR_SIGNATURE_INVALID : Nat := 0x0C0
def CKR_TEMPLATE_INCOMPLETE : Nat := 0x0D0
def CKR_TEMPLATE_INCONSISTENT : Nat := 0x0D1
def CKR_BUFFER_TOO_SMALL : Nat := 0x150
def CKR_CRYPTOKI_NOT_INITIALIZED : Nat := 0x190

/-- `!0` as a `CK_ULONG`. -/
def CK_UNAVAILABLE_INFORMATION : Nat := 2 ^ 64 - 1

/-! ### Attribute types -/

def CKA_CLASS : Nat := 0x000
def CKA_TOKEN : Nat := 0x001
def CKA_PRIVATE : Nat := 0x002
def CKA_LABEL : Nat := 0x003
def CKA_UNIQUE_ID : Nat := 0x004
def CKA_APPLICATION : Nat := 0x010
def CKA_VALUE : Nat := 0x011
def CKA_OBJECT_ID : Nat := 0x012
def CKA_KEY_TYPE : Nat := 0x100
def CKA_SENSITIVE : Nat := 0x103
def CKA_MODULUS : Nat := 0x120
def CKA_PUBLIC_EXPONENT : Nat := 0x122
def CKA_PRIVATE_EXPONENT : Nat := 0x123
def CKA_PRIME_1 : Nat := 0x124
def CKA_PRIME_2 : Nat := 0x125
def CKA_EXPONENT_1 : Nat := 0x126
def CKA_EXPONENT_2 : Nat := 0x127
def CKA_COEFFICIENT : Nat := 0x128
def CKA_VALUE_BITS : Nat := 0x160
def CKA_VALUE_LEN : Nat := 0x161
def CKA_EXTRACTABLE : Nat := 0x162
def CKA_LOCAL : Nat := 0x163
def CKA_KEY_GEN_MECHANISM : Nat := 0x166
def CKA_MODIFIABLE : Nat := 0x170
def CKA_COPYABLE : Nat := 0x171
def CKA_DESTROYABLE : Nat := 0x172
def CKA_EC_PARAMS : Nat := 0x180
def CKA_EC_POINT : Nat := 0x181

/-! ### Object classes and key types -/

def CKO_DATA : Nat := 0
def CKO_PUBLIC_KEY : Nat := 2
def CKO_PRIVATE_KEY : Nat := 3
def CKO_SECRET_KEY : Nat := 4

def CKK_RSA : Nat := 0x00
def CKK_DSA : Nat := 0x01
def CKK_DH : Nat := 0x02
def CKK_EC : Nat := 0x03
def CKK_X9_42_DH : Nat := 0x04
def CKK_GENERIC_SECRET : Nat := 0x10
def CKK_SHA_1_HMAC : Nat := 0x28
def CKK_SHA256_HMAC : Nat := 0x2B
def CKK_SHA384_HMAC : Nat := 0x2C
def CKK_SHA512_HMAC : Nat := 0x2D
def CKK_EC_EDWARDS : Nat := 0x40
def CKK_EC_MONTGOMERY : Nat := 0x41

/-! ### Mechanisms and mechanism flags -/

def CKM_RSA_PKCS : Nat := 0x0001
def CKM_SHA1_RSA_PKCS : Nat := 0x0006
def CKM_SHA256_RSA_PKCS : Nat := 0x0040
def CKM_SHA384_RSA_PKCS : Nat := 0x0041
def CKM_SHA512_RSA_PKCS : Nat := 0x0042
def CKM_SHA224_RSA_PKCS : Nat := 0x0046
def CKM_SHA3_256_RSA_PKCS : Nat := 0x0060
def CKM_SHA3_384_RSA_PKCS : Nat := 0x0061
def CKM_SHA3_512_RSA_PKCS : Nat := 0x0062
def CKM_SHA3_224_RSA_PKCS : Nat := 0x0066
def CKM_SHA_1_HMAC : Nat := 0x0221
def CKM_SHA_1_HMAC_GENERAL : Nat := 0x0222
def CKM_SHA256_HMAC : Nat := 0x0251
def CKM_SHA256_HMAC_GENERAL : Nat := 0x0252
def CKM_SHA384_HMAC : Nat := 0x0261
def CKM_SHA384_HMAC_GENERAL : Nat := 0x0262
def CKM_SHA512_HMAC : Nat := 0x0271
def CKM_SHA512_HMAC_GENERAL : Nat := 0x0272
def CKM_EC_MONTGOMERY_KEY_PAIR_GEN : Nat := 0x1056

def CKF_ENCRYPT : Nat := 0x0100
def CKF_DECRYPT : Nat := 0x0200
def CKF_DIGEST : Nat := 0x0400
def CKF_SIGN : Nat := 0x0800
def CKF_VERIFY : Nat := 0x2000
def CKF_GENERATE : Nat := 0x8000
def CKF_GENERATE_KEY_PAIR : Nat := 0x10000

/-! ### Errors -/

/-- The kernel's error type. `rvError` is what `err_rv!` builds, `notFound` what
`err_not_found!` builds. `panic` stands for a Rust panic (an out-of-range slice or an `unwrap`
of `None`): the code never returns it as an `Err`, so a theorem that concludes `Ok` also rules
the panic out. -/
inductive KError where
  | rvError (rv : Nat)
  | notFound (what : Nat)
  | panic
deriving DecidableEq, Repr

abbrev KResult (α : Type) := Except KError α

instance {α : Type} [DecidableEq α] : DecidableEq (KResult α)
  | .ok a, .ok b => decidable_of_iff (a = b) ⟨congrArg _, Except.ok.inj⟩
  | .error a, .error b => decidable_of_iff (a = b) ⟨congrArg _, Except.error.inj⟩
  | .ok _, .error _ => isFalse Except.noConfusion
  | .error _, .ok _ => isFalse Except.noConfusion

/-- `err_rv!(rv)`. -/
def errRv {α : Type} (rv : Nat) : KResult α := .error (.rvError rv)

/-- A bind that succeeds ran both of its halves successfully. -/
theorem KResult.bind_eq_ok {α β : Type} {x : KResult α} {f : α → KResult β} {b : β} :
    x >>= f = .ok b ↔ ∃ a, x = .ok a ∧ f a = .ok b := by
  cases x <;> simp [bind, Except.bind]

/-- Mapping the error of a result leaves a success as it is. -/
theorem KResult.mapError_eq_ok {α : Type} {x : KResult α} {f : KError → KError} {a : α} :
    x.mapError f = .ok a ↔ x = .ok a := by
  cases x <;> simp [Except.mapError]

/-- A lookup on the first entry of an association list, the form the sources' maps take here. -/
theorem lookup_cons_ite {κ μ : Type} [BEq κ] [LawfulBEq κ] [DecidableEq κ] (k t : κ) (v : μ)
    (rest : List (κ × μ)) :
    ((k, v) :: rest).lookup t = if t = k then some v else rest.lookup t := by
  by_cases same : t = k
  · simp [List.lookup_cons, same]
  · simp [List.lookup_cons, same, beq_eq_false_iff_ne.mpr same]

/-! ### C records -/

/-- One entry of a caller's template. -/
structure CK_ATTRIBUTE where
  type_ : Nat
  pValue : Option (List UInt8)
  ulValueLen : Nat
deriving DecidableEq, Repr

/-- The mechanism a caller names; `pParameter` is the memory the parameter pointer points to. -/
structure CK_MECHANISM where
  mechanism : Nat
  pParameter : List UInt8
  ulParameterLen : Nat
deriving DecidableEq, Repr

structure CK_MECHANISM_INFO where
  ulMinKeySize : Nat
  ulMaxKeySize : Nat
  flags : Nat
deriving DecidableEq, Repr

end Kryoptic
