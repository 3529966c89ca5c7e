import Kryoptic.Hmac

/-!
Contract: what an HMAC operation signs and what it verifies, against FIPS 198-1.

Owns: `fipsK0` and `fipsHmac`, FIPS 198-1's HMAC over a hash function `H` as the standard and the
spec (§4.5.1) state it, not as the code computes it; `idealDigest`, a streaming hash whose final
call returns `H` of the bytes absorbed since its last reset; `signParts` and `verifyParts`, a
caller's multi-part signature and verification; the theorem that an operation built by
`sign_new` over that digest signs exactly the first `t` bytes of FIPS 198-1's HMAC, fed in any
chunks or in one call; and the theorem saying what an operation built by `verify_new` answers to
every candidate signature.

Does not own: the operation's lifecycle, which is `Kryoptic.Hmac`.
-/

namespace Kryoptic

variable (H : HashAlg → List UInt8 → List UInt8)

/-- FIPS 198-1, steps 1 to 3: the key padded, or hashed and padded, to the block length. -/
def fipsK0 (hash : HashAlg) (key : List UInt8) : List UInt8 :=
  if key.length ≤ hash.blocklen then key ++ List.replicate (hash.blocklen - key.length) 0
  else H hash key ++ List.replicate (hash.blocklen - hash.hashlen) 0

/-- FIPS 198-1: `H((K0 ⊕ opad) ‖ H((K0 ⊕ ipad) ‖ text))`, of which the first `t` bytes. -/
def fipsHmac (hash : HashAlg) (key text : List UInt8) (t : Nat) : List UInt8 :=
  (H hash ((fipsK0 H hash key).map (0x5c ^^^ ·) ++
    H hash ((fipsK0 H hash key).map (0x36 ^^^ ·) ++ text))).take t

/-- The streaming hash computing `H`: its state is the algorithm and the bytes absorbed since
the last reset. -/
def idealDigest : DigestOps (HashAlg × List UInt8) where
  new hash := (hash, [])
  reset s := ((s.1, []), .ok ())
  digestUpdate s data := ((s.1, s.2 ++ data), .ok ())
  digestFinal s _ := (s, .ok (H s.1 s.2))
  digest s data _ := (s, .ok (H s.1 data))

/-- Chunks fed one update call at a time, then the final call. -/
def feedChunks {σ α : Type} (update : List UInt8 → OpM σ Unit) (final : OpM σ α) :
    List (List UInt8) → OpM σ α
  | [] => final
  | chunk :: rest => do
    update chunk
    feedChunks update final rest

/-- A caller's multi-part verification: `verify_update` on each chunk, then `verify_final`. -/
def verifyParts {σ : Type} (D : DigestOps σ) (chunks : List (List UInt8))
    (signature : List UInt8) : OpM (HMACOperation σ) Unit :=
  feedChunks (HMACOperation.verifyUpdate D) (HMACOperation.verifyFinal D signature) chunks

/-- `verify_update` is `sign_update`. -/
theorem verifyUpdate_eq {σ : Type} (D : DigestOps σ) :
    HMACOperation.verifyUpdate D = HMACOperation.signUpdate D := rfl

section Ideal

variable {H}

theorem fipsK0_length (hashLength : ∀ hash data, (H hash data).length = hash.hashlen)
    (hash : HashAlg) (key : List UInt8) :
    (fipsK0 H hash key).length = hash.blocklen := by
  unfold fipsK0
  split_ifs with short
  · simp only [List.length_append, List.length_replicate]
    omega
  · simp only [List.length_append, List.length_replicate, hashLength]
    have := hash.hashlen_le_blocklen
    omega

/-- Over the ideal digest, `init` succeeds: it keys the operation with `K0`, and its digest has
absorbed `K0 ⊕ ipad`. -/
theorem init_ideal (hashLength : ∀ hash data, (H hash data).length = hash.hashlen) (mech : Nat)
    (hash : HashAlg) (key : List UInt8) (outputlen : Nat) :
    HMACOperation.init (idealDigest H) mech hash key outputlen =
      .ok ⟨mech, hash.hashlen, hash.blocklen, outputlen, fipsK0 H hash key,
        (fipsK0 H hash key).map (0x36 ^^^ ·), (fipsK0 H hash key).map (0x5c ^^^ ·),
        (hash, (fipsK0 H hash key).map (0x36 ^^^ ·)), false, false⟩ := by
  have pads : ∀ c : UInt8, xorInto (List.replicate hash.blocklen c) (fipsK0 H hash key) =
      (fipsK0 H hash key).map (c ^^^ ·) := fun c => by
    rw [← fipsK0_length hashLength hash key, xorInto_replicate]
  by_cases short : key.length ≤ hash.blocklen
  · have k0 : resize key hash.blocklen 0 = fipsK0 H hash key := by
      simp [fipsK0, short, resize_of_le 0 short]
    simp [HMACOperation.init, idealDigest, bind, Except.bind, pure, Except.pure, short, k0, pads]
  · have k0 : resize (writeInto (List.replicate hash.hashlen 0) (H hash key)) hash.blocklen 0 =
        fipsK0 H hash key := by
      have fits : (H hash key).length ≤ hash.blocklen := by
        rw [hashLength]
        exact hash.hashlen_le_blocklen
      rw [writeInto_of_length (by simp [hashLength]), resize_of_le 0 fits]
      simp [fipsK0, short, hashLength]
    simp [HMACOperation.init, idealDigest, bind, Except.bind, pure, Except.pure, short, k0, pads]

/-- Over the ideal digest, `finalize` returns the first `outputLen` bytes of
`H(opad ‖ H(absorbed))`, where `absorbed` is what the digest has taken in. -/
theorem finalize_ideal (hashLength : ∀ hash data, (H hash data).length = hash.hashlen)
    {op : HMACOperation (HashAlg × List UInt8)} {hash : HashAlg}
    {absorbed : List UInt8} (inner : op.inner = (hash, absorbed))
    (hashlen : op.hashlen = hash.hashlen)
    {outputLen : Nat} (fits : outputLen ≤ hash.hashlen) :
    ∃ after, HMACOperation.finalize (idealDigest H) outputLen op =
      .ok ((H hash (op.opad ++ H hash absorbed)).take outputLen) after := by
  have written : ∀ data, writeInto (resize op.state hash.hashlen 0) (H hash data) = H hash data :=
    fun data => writeInto_of_length (by simp [hashLength])
  have rewritten : ∀ data data', writeInto (H hash data) (H hash data') = H hash data' :=
    fun data data' => writeInto_of_length (by simp [hashLength])
  simp [HMACOperation.finalize, HMACOperation.innerCall, idealDigest, inner, written, rewritten,
    hashLength, hashlen, fits]

theorem signUpdate_ideal {op : HMACOperation (HashAlg × List UInt8)}
    (notFinalized : op.finalized = false) (data : List UInt8) :
    HMACOperation.signUpdate (idealDigest H) data op =
      .ok () { op with inUse := true, inner := (op.inner.1, op.inner.2 ++ data) } := by
  simp [HMACOperation.signUpdate, HMACOperation.update, HMACOperation.innerCall, idealDigest,
    notFinalized]

/-- Feeding chunks one `sign_update` at a time absorbs their concatenation, whatever call
ends the run. -/
theorem feedChunks_ideal {α : Type} (final : OpM (HMACOperation (HashAlg × List UInt8)) α)
    (chunk : List UInt8) (rest : List (List UInt8)) (op : HMACOperation (HashAlg × List UInt8))
    (notFinalized : op.finalized = false) :
    feedChunks (HMACOperation.signUpdate (idealDigest H)) final (chunk :: rest) op =
      final { op with
        inUse := true, inner := (op.inner.1, op.inner.2 ++ (chunk :: rest).flatten) } := by
  induction rest generalizing chunk op with
  | nil => simp [feedChunks, signUpdate_ideal notFinalized]
  | cons next rest inductionHypothesis =>
      rw [feedChunks, bind_apply, signUpdate_ideal notFinalized]
      dsimp only
      rw [inductionHypothesis next
        { op with inUse := true, inner := (op.inner.1, op.inner.2 ++ chunk) } notFinalized]
      simp

/-- Over the ideal digest, `verify_final` answers `CKR_GENERAL_ERROR` to a signature of the wrong
length, and otherwise accepts exactly the first `outputlen` bytes of `H(opad ‖ H(absorbed))`,
answering `CKR_SIGNATURE_INVALID` to any other signature of that length. -/
theorem verifyFinal_ideal (hashLength : ∀ hash data, (H hash data).length = hash.hashlen)
    {op : HMACOperation (HashAlg × List UInt8)} (inUse : op.inUse = true)
    (notFinalized : op.finalized = false) {hash : HashAlg} {absorbed : List UInt8}
    (inner : op.inner = (hash, absorbed)) (hashlen : op.hashlen = hash.hashlen)
    (fits : op.outputlen ≤ hash.hashlen) (signature : List UInt8) :
    ∃ after, HMACOperation.verifyFinal (idealDigest H) signature op =
      if signature.length ≠ op.outputlen then .error (.rvError CKR_GENERAL_ERROR) after
      else if signature = (H hash (op.opad ++ H hash absorbed)).take op.outputlen then
        .ok () after
      else .error (.rvError CKR_SIGNATURE_INVALID) after := by
  have began : ∀ rest : OpM (HMACOperation (HashAlg × List UInt8)) Unit,
      HMACOperation.finalCall rest op = rest { op with finalized := true } := fun rest => by
    simp [HMACOperation.finalCall, inUse, notFinalized]
  by_cases sized : signature.length = op.outputlen
  · obtain ⟨after, finalized⟩ := finalize_ideal hashLength
      (show ({ op with finalized := true } : HMACOperation _).inner = (hash, absorbed)
        from inner) hashlen fits
    refine ⟨after, ?_⟩
    simp only [HMACOperation.verifyFinal, began, bind_apply, get_apply, sized, bne_self_eq_false,
      guardRv_false, finalized, ne_eq, not_true_eq_false, if_false]
    by_cases same : signature = (H hash (op.opad ++ H hash absorbed)).take op.outputlen
    · simp [same]
    · have rejected : ((H hash (op.opad ++ H hash absorbed)).take op.outputlen != signature) =
          true := bne_iff_ne.mpr (Ne.symm same)
      simp [same, rejected]
  · have wrongLength : (signature.length != op.outputlen) = true := bne_iff_ne.mpr sized
    exact ⟨{ op with finalized := true }, by
      simp [HMACOperation.verifyFinal, began, sized, wrongLength]⟩

end Ideal

/-- A stand-in for a hash: `L` copies of the data's length. -/
def lengthHash (hash : HashAlg) (data : List UInt8) : List UInt8 :=
  List.replicate hash.hashlen data.length.toUInt8

/-- A generic secret key, which every HMAC mechanism accepts. -/
def genericSecretKey : Object :=
  ⟨1, [Attribute.fromUlong CKA_CLASS CKO_SECRET_KEY,
    Attribute.fromUlong CKA_KEY_TYPE CKK_GENERIC_SECRET, Attribute.fromBytes CKA_VALUE [1, 2, 3]]⟩

/-- An operation that `verify_new` builds for a registered mechanism, over a digest computing `H`,
accepts exactly the first `t` bytes of FIPS 198-1's HMAC of the key and the data, fed through
`verify_update` in one or more chunks and then `verify_final`, or in one `verify`. Any other
signature of length `t` is refused with `CKR_SIGNATURE_INVALID`, but one of another length is
refused with `CKR_GENERAL_ERROR`; and `verify_final` with no `verify_update` before it answers
`CKR_OPERATION_NOT_INITIALIZED`. -/
theorem hmac_verify_fips198 (hashLength : ∀ hash data, (H hash data).length = hash.hashlen)
    {mechType : Nat} {mech : HMACMechanism} (registered : (mechType, mech) ∈ register)
    {param : CK_MECHANISM} (named : param.mechanism = mechType) {t : Nat}
    (accepted : checkAndFetchParam param mech.minlen mech.maxlen = .ok t) {keyobj : Object}
    {key : List UInt8} (keyAccepted : checkAndFetchKey keyobj mech.keytype = .ok key)
    (chunk : List UInt8) (chunks : List (List UInt8)) (signature : List UInt8) :
    ∃ hash op, hashOfMechanism mechType = some hash ∧
      mech.verifyNew (idealDigest H) param keyobj = .ok op ∧
      HMACOperation.verifyFinal (idealDigest H) signature op =
        .error (.rvError CKR_OPERATION_NOT_INITIALIZED) op ∧
      (∃ after, verifyParts (idealDigest H) (chunk :: chunks) signature op =
        if signature.length ≠ t then .error (.rvError CKR_GENERAL_ERROR) after
        else if signature = fipsHmac H hash key (chunk :: chunks).flatten t then .ok () after
        else .error (.rvError CKR_SIGNATURE_INVALID) after) ∧
      ∃ after, HMACOperation.verify (idealDigest H) (chunk :: chunks).flatten signature op =
        if signature.length ≠ t then .error (.rvError CKR_GENERAL_ERROR) after
        else if signature = fipsHmac H hash key (chunk :: chunks).flatten t then .ok () after
        else .error (.rvError CKR_SIGNATURE_INVALID) after := by
  obtain ⟨hash, hashOf, maxlen, -, -, -, -, verifyFlag⟩ := register_hash registered
  have fits : t ≤ hash.hashlen := maxlen ▸ (checkAndFetchParam_bounds accepted).2
  refine ⟨hash, ⟨param.mechanism, hash.hashlen, hash.blocklen, t, fipsK0 H hash key,
    (fipsK0 H hash key).map (0x36 ^^^ ·), (fipsK0 H hash key).map (0x5c ^^^ ·),
    (hash, (fipsK0 H hash key).map (0x36 ^^^ ·)), false, false⟩, hashOf, ?_, rfl, ?_, ?_⟩
  · simp [HMACMechanism.verifyNew, HMACMechanism.operationNew, verifyFlag, accepted, keyAccepted,
      named, hashOf, init_ideal hashLength, bind, Except.bind]
  · rw [verifyParts, verifyUpdate_eq, feedChunks_ideal _ _ _ _ rfl]
    exact verifyFinal_ideal hashLength rfl rfl rfl rfl fits signature
  · simp only [HMACOperation.verify, HMACOperation.oneShot, bind_apply, get_apply, guardRv_false,
      onErr, HMACOperation.verifyUpdate, signUpdate_ideal]
    exact verifyFinal_ideal hashLength rfl rfl rfl rfl fits signature

/-- The failing input: a 15-byte signature for the 16-byte `CKM_SHA256_HMAC_GENERAL` output. -/
theorem hmac_verify_fips198_wrong_length :
    ∃ op, (hmacMechanism CKK_SHA256_HMAC 1 HashAlg.sha256.hashlen).verifyNew
        (idealDigest lengthHash) ⟨CKM_SHA256_HMAC_GENERAL, leBytes 8 16, 8⟩ genericSecretKey =
        .ok op ∧
      (∃ after, verifyParts (idealDigest lengthHash) [[4], [5, 6]] (List.replicate 15 0) op =
        .error (.rvError CKR_GENERAL_ERROR) after) ∧
      ∃ after, HMACOperation.verify (idealDigest lengthHash) [4, 5, 6] (List.replicate 15 0) op =
        .error (.rvError CKR_GENERAL_ERROR) after := by
  obtain ⟨_, op, -, built, -, ⟨after, parts⟩, oneShotAfter, oneShot⟩ :=
    hmac_verify_fips198 lengthHash (fun hash data => by simp [lengthHash])
      (show (CKM_SHA256_HMAC_GENERAL, hmacMechanism CKK_SHA256_HMAC 1 HashAlg.sha256.hashlen) ∈
        register by decide)
      (show (⟨CKM_SHA256_HMAC_GENERAL, leBytes 8 16, 8⟩ : CK_MECHANISM).mechanism =
        CKM_SHA256_HMAC_GENERAL from rfl)
      (show checkAndFetchParam ⟨CKM_SHA256_HMAC_GENERAL, leBytes 8 16, 8⟩ 1
        HashAlg.sha256.hashlen = .ok 16 by rfl)
      (show checkAndFetchKey genericSecretKey CKK_SHA256_HMAC = .ok [1, 2, 3] by rfl) [4] [[5, 6]]
      (List.replicate 15 0)
  exact ⟨op, built, ⟨after, by simpa using parts⟩, oneShotAfter, by simpa using oneShot⟩

end Kryoptic
