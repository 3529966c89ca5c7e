import Kryoptic.Interface

/-!
Contract: typed attributes and their raw octets.

Owns: `AttrType`, `Attribute`, the typed readers (`to_bool`, `to_ulong`, `to_string`,
`to_date_string`) and constructors (`from_bool`, `from_ulong`, `from_string`, `from_bytes`,
`from_date_bytes`), the native-endian `CK_ULONG` byte codec, and the decoder of caller
templates.

The module `attribute` is not among the sources. Everything here is modelled from the spec
(§3 "Attribute", §4.1): an attribute is an id, a declared variant and the raw octets handed to
C callers; a Bool is one byte, a Num is the eight bytes of a native-endian `CK_ULONG`, a String
is UTF-8, a Date is `YYYYMMDD` or empty. A Rust `String` is modelled by its UTF-8 bytes.

Does not own: the id → variant table and the id → name table; the code that needs them takes
them as parameters.
-/

namespace Kryoptic

/-- Modelled from the spec: the declared variant of an attribute (§3). -/
inductive AttrType where
  | boolType
  | numType
  | stringType
  | bytesType
  | dateType
  | ignoreType
  | denyType
deriving DecidableEq, Repr

/-- Modelled from the spec: an attribute is its id, declared variant and raw octets (§3);
`get_type` is `ckType`, `get_attrtype` is `attrtype`, `get_value` is `value`. -/
structure Attribute where
  ckType : Nat
  attrtype : AttrType
  value : List UInt8
deriving DecidableEq, Repr

/-! ### Native-endian `CK_ULONG` octets -/

/-- The `width` low-order octets of `n`, least significant first (`to_ne_bytes` on the
supported little-endian platforms). -/
def leBytes : Nat → Nat → List UInt8
  | 0, _ => []
  | width + 1, n => UInt8.ofNat (n % 256) :: leBytes width (n / 256)

/-- The number whose little-endian octets are `bytes` (`from_ne_bytes`). -/
def leValue : List UInt8 → Nat
  | [] => 0
  | byte :: rest => byte.toNat + 256 * leValue rest

@[simp] theorem leBytes_length (width n : Nat) : (leBytes width n).length = width := by
  induction width generalizing n with
  | zero => rfl
  | succ width inductionHypothesis => simp [leBytes, inductionHypothesis]

theorem leValue_lt (bytes : List UInt8) : leValue bytes < 256 ^ bytes.length := by
  induction bytes with
  | nil => simp [leValue]
  | cons byte rest inductionHypothesis =>
      have byteLt : byte.toNat < 256 := byte.toNat_lt_size
      simp only [leValue, List.length_cons, Nat.pow_succ]
      omega

theorem leValue_leBytes (width n : Nat) : leValue (leBytes width n) = n % 256 ^ width := by
  induction width generalizing n with
  | zero => simp [leBytes, leValue, Nat.mod_one]
  | succ width inductionHypothesis =>
      have low : (UInt8.ofNat (n % 256)).toNat = n % 256 :=
        UInt8.toNat_ofNat_of_lt (Nat.mod_lt n (by decide))
      simp only [leBytes, leValue, inductionHypothesis, low, Nat.pow_succ', Nat.mod_mul]

theorem leBytes_leValue (bytes : List UInt8) : leBytes bytes.length (leValue bytes) = bytes := by
  induction bytes with
  | nil => rfl
  | cons byte rest inductionHypothesis =>
      have byteLt : byte.toNat < 256 := byte.toNat_lt_size
      have low : (byte.toNat + 256 * leValue rest) % 256 = byte.toNat := by omega
      have high : (byte.toNat + 256 * leValue rest) / 256 = leValue rest := by omega
      simp only [List.length_cons, leBytes, leValue, low, high, inductionHypothesis,
        List.cons.injEq, and_true]
      exact UInt8.toNat.inj (UInt8.toNat_ofNat_of_lt byteLt)

/-! ### Readers and constructors -/

/-- A UTF-8 continuation byte, `80..BF`. -/
def isCont (byte : UInt8) : Bool := 0x80 ≤ byte && byte ≤ 0xBF

/-- How many continuation bytes follow a UTF-8 lead byte, and the range of the first one
(Unicode Table 3-7); `none` for a byte that cannot start a character. -/
def utf8Lead (lead : UInt8) : Option (Nat × UInt8 × UInt8) :=
  if lead ≤ 0x7F then some (0, 0, 0)
  else if 0xC2 ≤ lead ∧ lead ≤ 0xDF then some (1, 0x80, 0xBF)
  else if lead = 0xE0 then some (2, 0xA0, 0xBF)
  else if 0xE1 ≤ lead ∧ lead ≤ 0xEC then some (2, 0x80, 0xBF)
  else if lead = 0xED then some (2, 0x80, 0x9F)
  else if 0xEE ≤ lead ∧ lead ≤ 0xEF then some (2, 0x80, 0xBF)
  else if lead = 0xF0 then some (3, 0x90, 0xBF)
  else if 0xF1 ≤ lead ∧ lead ≤ 0xF3 then some (3, 0x80, 0xBF)
  else if lead = 0xF4 then some (3, 0x80, 0x8F)
  else none

/-- UTF-8 validity of a byte string, as `String::from_utf8` decides it: a sequence of
well-formed characters of Table 3-7, so no overlong form, surrogate or code point past
`10FFFF`. -/
def validUtf8 : List UInt8 → Bool
  | [] => true
  | lead :: tail =>
    match utf8Lead lead, tail with
    | some (0, _, _), rest => validUtf8 rest
    | some (1, lo, hi), second :: rest => (lo ≤ second && second ≤ hi) && validUtf8 rest
    | some (2, lo, hi), second :: third :: rest =>
      (lo ≤ second && second ≤ hi) && isCont third && validUtf8 rest
    | some (3, lo, hi), second :: third :: fourth :: rest =>
      (lo ≤ second && second ≤ hi) && isCont third && isCont fourth && validUtf8 rest
    | _, _ => false

example : validUtf8 [0xE2, 0x82, 0xAC] = true := by decide
example : validUtf8 [0xED, 0xA0, 0x80] = false := by decide

/-- An ASCII decimal digit. -/
def isDigit (byte : UInt8) : Bool := 0x30 ≤ byte && byte ≤ 0x39

namespace Attribute

/-- Modelled from the spec: a Bool must be one byte (§4.1); any non-zero byte reads as true. -/
def toBool (a : Attribute) : KResult Bool :=
  match a.value with
  | [byte] => .ok (byte != 0)
  | _ => errRv CKR_ATTRIBUTE_VALUE_INVALID

/-- Modelled from the spec: a Num must be one `CK_ULONG`, eight bytes (§4.1). -/
def toUlong (a : Attribute) : KResult Nat :=
  if a.value.length = 8 then .ok (leValue a.value) else errRv CKR_ATTRIBUTE_VALUE_INVALID

/-- Modelled from the spec: `String::from_utf8` of the octets. -/
def toString (a : Attribute) : KResult (List UInt8) :=
  if validUtf8 a.value then .ok a.value else errRv CKR_ATTRIBUTE_VALUE_INVALID

/-- Modelled from the spec: the octets themselves. -/
def toBytes (a : Attribute) : KResult (List UInt8) := .ok a.value

/-- Modelled from the spec: `YYYYMMDD` for a date of eight digits (§4.8); an error for the
empty date and anything else. -/
def toDateString (a : Attribute) : KResult (List UInt8) :=
  if a.value.length = 8 ∧ a.value.all isDigit then .ok a.value
  else errRv CKR_ATTRIBUTE_VALUE_INVALID

/-- Modelled from the spec: `CK_TRUE` is 1 and `CK_FALSE` is 0. -/
def fromBool (id : Nat) (b : Bool) : Attribute := ⟨id, .boolType, [if b then 1 else 0]⟩

/-- Modelled from the spec: `from_ulong` and `from_u64`, the eight native-endian octets. -/
def fromUlong (id : Nat) (n : Nat) : Attribute := ⟨id, .numType, leBytes 8 n⟩

/-- Modelled from the spec: the UTF-8 octets of the string. -/
def fromString (id : Nat) (s : List UInt8) : Attribute := ⟨id, .stringType, s⟩

/-- Modelled from the spec: the octets as given. -/
def fromBytes (id : Nat) (bytes : List UInt8) : Attribute := ⟨id, .bytesType, bytes⟩

/-- Modelled from the spec: `from_date_bytes` and `from_date`, the `CK_DATE` octets. -/
def fromDateBytes (id : Nat) (bytes : List UInt8) : Attribute := ⟨id, .dateType, bytes⟩

@[simp] theorem fromBool_ckType (id : Nat) (b : Bool) : (fromBool id b).ckType = id := rfl
@[simp] theorem fromUlong_ckType (id n : Nat) : (fromUlong id n).ckType = id := rfl
@[simp] theorem fromString_ckType (id : Nat) (s : List UInt8) : (fromString id s).ckType = id := rfl
@[simp] theorem fromString_value (id : Nat) (s : List UInt8) : (fromString id s).value = s := rfl
@[simp] theorem fromBytes_ckType (id : Nat) (bytes : List UInt8) :
    (fromBytes id bytes).ckType = id := rfl
@[simp] theorem fromDateBytes_ckType (id : Nat) (bytes : List UInt8) :
    (fromDateBytes id bytes).ckType = id := rfl

@[simp] theorem fromUlong_toUlong (id n : Nat) :
    (fromUlong id n).toUlong = .ok (n % 2 ^ 64) := by
  simp [fromUlong, toUlong, leValue_leBytes]

end Attribute

/-- Modelled from the spec: `string_to_ck_date`, the `CK_DATE` octets of a `YYYYMMDD`
string. -/
def stringToCkDate (s : List UInt8) : KResult (List UInt8) :=
  if s.length = 8 ∧ s.all isDigit then .ok s else errRv CKR_ATTRIBUTE_VALUE_INVALID

/-- Modelled from the spec: `CK_ATTRIBUTE::to_attribute` decodes one caller entry into an
attribute of the same id, or fails. The id → variant table and the per-variant length checks
are in the missing module, so the decoder is a parameter and only its id-preservation is
assumed, as a field. -/
structure AttributeDecoder where
  toAttribute : CK_ATTRIBUTE → KResult Attribute
  toAttribute_type : ∀ entry attr, toAttribute entry = .ok attr → attr.ckType = entry.type_

end Kryoptic
