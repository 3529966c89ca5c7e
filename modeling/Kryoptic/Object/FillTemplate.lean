import Kryoptic.Object.Core

/-!
Contract: `Object::fill_template`, entry by entry.

Owns: the loop as the code runs it (`fillElem`, `fillLoop`, `fillTemplate`), the classification
of one entry into the spec's five rules (`FillCase`), and the refinement between them: the loop
leaves every entry as its own case says, whatever came before it, and its `rv` accumulator is
the last failing entry's code (`fillLoop_rv`).

Consequences proved here: per-entry independence and the no-overfill bound; that a template
read back without error matches the object under `match_template`; the two-call read, sizes
then values; noninterference of the
sensitive set for private and secret keys that are sensitive or non-extractable; and the
read-out of HMAC-typed secret keys, whose key types `SENSITIVE` does not list.
-/

namespace Kryoptic

namespace Object

/-- Whether the sensitivity regime `sense` hides attribute `id` of `o`. -/
def hides (o : Object) (sense : Option (List Nat)) (id : Nat) : Bool :=
  match sense with
  | some s => o.isSensitiveAttr id s
  | none => false

/-- One iteration of the `fill_template` loop on `elem`, with the error code `rv` so far: the
entry as the iteration leaves it, and the new `rv`. -/
def fillElem (o : Object) (sense : Option (List Nat)) (rv : Nat) (elem : CK_ATTRIBUTE) :
    CK_ATTRIBUTE × Nat :=
  if o.hides sense elem.type_ then
    ({ elem with ulValueLen := CK_UNAVAILABLE_INFORMATION }, CKR_ATTRIBUTE_SENSITIVE)
  else
    match o.findAttr elem.type_ with
    | none => ({ elem with ulValueLen := CK_UNAVAILABLE_INFORMATION }, CKR_ATTRIBUTE_TYPE_INVALID)
    | some attr =>
      match elem.pValue with
      | none => ({ elem with ulValueLen := attr.value.length }, rv)
      | some memory =>
        if elem.ulValueLen < attr.value.length then
          ({ elem with ulValueLen := CK_UNAVAILABLE_INFORMATION }, CKR_BUFFER_TOO_SMALL)
        else
          ({ elem with
              pValue := some (attr.value ++ memory.drop attr.value.length)
              ulValueLen := attr.value.length }, rv)

/-- The `for elem in template.iter_mut()` loop, threading `rv`. -/
def fillLoop (o : Object) (sense : Option (List Nat)) :
    Nat → List CK_ATTRIBUTE → List CK_ATTRIBUTE × Nat
  | rv, [] => ([], rv)
  | rv, elem :: rest =>
    let (filled, next) := o.fillElem sense rv elem
    let (restFilled, final) := o.fillLoop sense next rest
    (filled :: restFilled, final)

/-- `fill_template`: the template as the caller reads it back, and the call's result. -/
def fillTemplate (o : Object) (template : List CK_ATTRIBUTE) :
    List CK_ATTRIBUTE × KResult Unit :=
  let (filled, rv) := o.fillLoop o.needsSensitivityCheck CKR_OK template
  (filled, if rv = CKR_OK then .ok () else errRv rv)

end Object

/-! ### The spec's five rules -/

/-- The first applicable rule of spec §4.2 for one entry. -/
inductive FillCase where
  | hidden
  | absent
  | sizeQuery (value : List UInt8)
  | tooSmall
  | copied (value : List UInt8)
deriving DecidableEq, Repr

namespace FillCase

/-- The error an entry of this case records, if any. -/
def rv : FillCase → Option Nat
  | hidden => some CKR_ATTRIBUTE_SENSITIVE
  | absent => some CKR_ATTRIBUTE_TYPE_INVALID
  | tooSmall => some CKR_BUFFER_TOO_SMALL
  | sizeQuery _ | copied _ => none

def failed (c : FillCase) : Bool := c.rv.isSome

/-- The entry as the rule leaves it: rules 1, 2 and 4 only mark the length unavailable, rule 3
reports the length, rule 5 copies the value to the front of the buffer. -/
def entry (elem : CK_ATTRIBUTE) : FillCase → CK_ATTRIBUTE
  | hidden | absent | tooSmall => { elem with ulValueLen := CK_UNAVAILABLE_INFORMATION }
  | sizeQuery value => { elem with ulValueLen := value.length }
  | copied value =>
    { elem with
      pValue := elem.pValue.map fun memory => value ++ memory.drop value.length
      ulValueLen := value.length }

theorem rv_ne_ok {c : FillCase} {code : Nat} (recorded : c.rv = some code) : code ≠ CKR_OK := by
  cases c <;> simp [FillCase.rv] at recorded <;> subst recorded <;> decide

end FillCase

namespace Object

def fillCase (o : Object) (elem : CK_ATTRIBUTE) : FillCase :=
  if o.hides o.needsSensitivityCheck elem.type_ then .hidden
  else
    match o.findAttr elem.type_ with
    | none => .absent
    | some attr =>
      match elem.pValue with
      | none => .sizeQuery attr.value
      | some _ => if elem.ulValueLen < attr.value.length then .tooSmall else .copied attr.value

/-! ### The loop refines the rules -/

theorem fillElem_eq (o : Object) (rv : Nat) (elem : CK_ATTRIBUTE) :
    o.fillElem o.needsSensitivityCheck rv elem =
      ((o.fillCase elem).entry elem, ((o.fillCase elem).rv).getD rv) := by
  unfold fillElem fillCase
  split
  · rfl
  · split
    · rfl
    · split <;> (try split) <;> simp_all [FillCase.entry, FillCase.rv]

theorem fillLoop_filled (o : Object) (rv : Nat) (template : List CK_ATTRIBUTE) :
    (o.fillLoop o.needsSensitivityCheck rv template).1 =
      template.map fun elem => (o.fillCase elem).entry elem := by
  induction template generalizing rv with
  | nil => rfl
  | cons elem rest inductionHypothesis => simp [fillLoop, fillElem_eq, inductionHypothesis]

/-- The accumulated code is the last failing entry's code, or the initial one. -/
theorem fillLoop_rv (o : Object) (rv : Nat) (template : List CK_ATTRIBUTE) :
    (o.fillLoop o.needsSensitivityCheck rv template).2 =
      ((template.filterMap fun elem => (o.fillCase elem).rv).getLast?).getD rv := by
  induction template generalizing rv with
  | nil => rfl
  | cons elem rest inductionHypothesis =>
      simp only [fillLoop, fillElem_eq, inductionHypothesis, List.filterMap_cons]
      cases (o.fillCase elem).rv <;> cases rest.filterMap (fun elem => (o.fillCase elem).rv) <;>
        simp [List.getLast?_cons]

theorem fillTemplate_eq (o : Object) (template : List CK_ATTRIBUTE) :
    o.fillTemplate template =
      (template.map fun elem => (o.fillCase elem).entry elem,
        match (template.filterMap fun elem => (o.fillCase elem).rv).getLast? with
        | some code => errRv code
        | none => .ok ()) := by
  have filled := fillLoop_filled o CKR_OK template
  have rv := fillLoop_rv o CKR_OK template
  unfold fillTemplate
  cases recorded : (template.filterMap fun elem => (o.fillCase elem).rv).getLast? with
  | none => simp_all
  | some code =>
      have member := List.mem_filterMap.mp (List.mem_of_getLast?_eq_some recorded)
      obtain ⟨_, _, recordedCode⟩ := member
      simp_all [FillCase.rv_ne_ok recordedCode]

/-- `fill_template` depends on the object only through the case of each entry. -/
theorem fillTemplate_congr {o₁ o₂ : Object} {template : List CK_ATTRIBUTE}
    (sameCase : ∀ elem ∈ template, o₁.fillCase elem = o₂.fillCase elem) :
    o₁.fillTemplate template = o₂.fillTemplate template := by
  rw [fillTemplate_eq, fillTemplate_eq, List.map_congr_left fun elem member => by
    rw [sameCase elem member], List.filterMap_congr fun elem member => by
    rw [sameCase elem member]]


/-! ### Independence of entries and the no-overfill bound -/

/-- What a call may do to one entry: keep its type, keep a null pointer null, and change no byte
of the buffer at or past the length the caller declared. -/
def WritesWithin (before after : CK_ATTRIBUTE) : Prop :=
  after.type_ = before.type_ ∧
    match before.pValue, after.pValue with
    | none, none => True
    | some memory, some written => written.drop before.ulValueLen = memory.drop before.ulValueLen
    | _, _ => False

theorem fillCase_copied_fits {o : Object} {elem : CK_ATTRIBUTE} {value : List UInt8}
    (copied : o.fillCase elem = .copied value) : value.length ≤ elem.ulValueLen := by
  unfold fillCase at copied
  split at copied
  · cases copied
  · split at copied
    · cases copied
    · split at copied
      · cases copied
      · split at copied
        · cases copied
        · cases copied
          omega

theorem fillCase_writesWithin (o : Object) (elem : CK_ATTRIBUTE) :
    WritesWithin elem ((o.fillCase elem).entry elem) := by
  obtain ⟨type_, pValue, ulValueLen⟩ := elem
  cases copied : o.fillCase ⟨type_, pValue, ulValueLen⟩ with
  | copied value =>
      have fits : value.length ≤ ulValueLen := fillCase_copied_fits copied
      cases pValue with
      | none => exact ⟨rfl, trivial⟩
      | some memory =>
          refine ⟨rfl, ?_⟩
          show (value ++ memory.drop value.length).drop ulValueLen = memory.drop ulValueLen
          rw [List.drop_append_eq_append_drop, List.drop_eq_nil_of_le fits, List.nil_append,
            List.drop_drop, Nat.add_sub_cancel' fits]
  | _ => exact ⟨rfl, by cases pValue <;> trivial⟩

theorem fillTemplate_singleton (o : Object) (elem : CK_ATTRIBUTE) :
    (o.fillTemplate [elem]).1 = [(o.fillCase elem).entry elem] := by
  simp [fillTemplate_eq]

theorem fillTemplate_ok_iff (o : Object) (template : List CK_ATTRIBUTE) :
    (o.fillTemplate template).2 = .ok () ↔ ∀ elem ∈ template, (o.fillCase elem).failed = false := by
  rw [fillTemplate_eq]
  cases recorded : (template.filterMap fun elem => (o.fillCase elem).rv).getLast? with
  | none =>
      simp only [List.getLast?_eq_none_iff, List.filterMap_eq_nil_iff] at recorded
      simpa [FillCase.failed] using recorded
  | some code =>
      obtain ⟨elem, member, recordedCode⟩ :=
        List.mem_filterMap.mp (List.mem_of_getLast?_eq_some recorded)
      simp only [errRv, reduceCtorEq, false_iff, not_forall]
      exact ⟨elem, member, by simp [FillCase.failed, recordedCode]⟩

/-- `fill_template` handles each entry on its own: the template comes back as the one-entry
calls leave its entries, each as the first applicable rule says; no entry's buffer changes at or
past its declared length; and the call succeeds exactly when no entry is hidden, absent or too
small. -/
theorem fillTemplate_entrywise (o : Object) (template : List CK_ATTRIBUTE) :
    (o.fillTemplate template).1 = template.flatMap (fun elem => (o.fillTemplate [elem]).1) ∧
      (∀ elem, (o.fillTemplate [elem]).1 = [(o.fillCase elem).entry elem]) ∧
      (∀ elem ∈ template, WritesWithin elem ((o.fillCase elem).entry elem)) ∧
      ((o.fillTemplate template).2 = .ok () ↔
        ∀ elem ∈ template, (o.fillCase elem).failed = false) := by
  refine ⟨?_, fillTemplate_singleton o, fun elem _ => fillCase_writesWithin o elem,
    fillTemplate_ok_iff o template⟩
  simp only [fillTemplate_singleton, fillTemplate_eq]
  induction template with
  | nil => rfl
  | cons elem rest inductionHypothesis => simp [inductionHypothesis]

/-! ### Read back, then matched -/

/-- An entry with a buffer that `fill_template` does not fail on is copied. -/
theorem fillCase_of_buffer {o : Object} {elem : CK_ATTRIBUTE} (buffer : elem.pValue.isSome)
    (passed : (o.fillCase elem).failed = false) :
    ∃ attr, o.findAttr elem.type_ = some attr ∧ o.fillCase elem = .copied attr.value := by
  unfold fillCase at passed ⊢
  split at passed
  · cases passed
  · split at passed
    · cases passed
    · next attr found =>
        obtain ⟨memory, pointed⟩ := Option.isSome_iff_exists.mp buffer
        simp only [pointed] at passed ⊢
        split_ifs at passed ⊢
        · cases passed
        · exact ⟨attr, found, rfl⟩

/-- The entry `fill_template` copied an attribute's value into matches that attribute. -/
theorem matchCkAttr_copied {attr : Attribute} {elem : CK_ATTRIBUTE} (same : attr.ckType = elem.type_)
    (buffer : elem.pValue.isSome) :
    matchCkAttr attr ((FillCase.copied attr.value).entry elem) = true := by
  obtain ⟨memory, pointed⟩ := Option.isSome_iff_exists.mp buffer
  simp [matchCkAttr, FillCase.entry, pointed, same]

/-- A template whose entries all point at a buffer and that `fill_template` fills without error
matches the object as filled. -/
theorem matchTemplate_fillTemplate (o : Object) (template : List CK_ATTRIBUTE)
    (buffers : ∀ elem ∈ template, elem.pValue.isSome)
    (read : (o.fillTemplate template).2 = .ok ()) :
    o.matchTemplate (o.fillTemplate template).1 = true := by
  rw [fillTemplate_eq, matchTemplate, List.all_map, List.all_eq_true]
  intro elem member
  obtain ⟨attr, found, copied⟩ :=
    fillCase_of_buffer (buffers elem member) ((fillTemplate_ok_iff o template).mp read elem member)
  have same : attr.ckType = elem.type_ := by
    simpa using List.find?_some found
  simp only [Function.comp, copied, List.any_eq_true]
  exact ⟨attr, List.mem_of_find?_eq_some found, matchCkAttr_copied same (buffers elem member)⟩

/-! ### The two-call read -/

/-- An entry with a null pointer that `fill_template` does not fail on has its size reported. -/
theorem fillCase_of_null {o : Object} {elem : CK_ATTRIBUTE} (null : elem.pValue = none)
    (passed : (o.fillCase elem).failed = false) :
    ∃ attr, o.findAttr elem.type_ = some attr ∧ o.fillCase elem = .sizeQuery attr.value := by
  unfold fillCase at passed ⊢
  split at passed
  · cases passed
  · next notHidden =>
      split at passed
      · cases passed
      · next attr found => exact ⟨attr, found, by simp [notHidden, found, null]⟩

/-- The second call of the two-call read: an entry as the size query left it, given a buffer,
falls in the case the query did, a reported size becoming a copy. -/
theorem fillCase_resized (o : Object) {elem : CK_ATTRIBUTE} (null : elem.pValue = none)
    (memory : List UInt8) :
    o.fillCase { (o.fillCase elem).entry elem with pValue := some memory } =
      match o.fillCase elem with
      | .sizeQuery value => .copied value
      | other => other := by
  unfold fillCase
  by_cases hidden : o.hides o.needsSensitivityCheck elem.type_
  · simp [hidden, FillCase.entry]
  · cases found : o.findAttr elem.type_ with
    | none => simp [hidden, found, FillCase.entry]
    | some attr => simp [hidden, found, null, FillCase.entry]

/-- **The two-call read of PKCS #11 works on every object.** Call `fill_template` on a template
of null pointers to learn the sizes, then again on the template it returned with a buffer behind
every entry: the second call returns exactly what the first returned; and when the first
succeeded, the second leaves at the front of each entry's buffer the value of the attribute of
its type, with that value's length. -/
theorem fill_template_two_pass (o : Object) (template : List CK_ATTRIBUTE)
    (nulls : ∀ elem ∈ template, elem.pValue = none) (memory : CK_ATTRIBUTE → List UInt8) :
    (o.fillTemplate ((o.fillTemplate template).1.map
        fun e => { e with pValue := some (memory e) })).2 = (o.fillTemplate template).2 ∧
      ((o.fillTemplate template).2 = .ok () →
        (o.fillTemplate ((o.fillTemplate template).1.map
            fun e => { e with pValue := some (memory e) })).1.map
          (fun e => (e.type_, e.pValue.map (·.take e.ulValueLen))) =
        template.map fun elem => (elem.type_, (o.findAttr elem.type_).map (·.value))) := by
  have sameRv : ∀ elem ∈ template, (o.fillCase { (o.fillCase elem).entry elem with
      pValue := some (memory ((o.fillCase elem).entry elem)) }).rv = (o.fillCase elem).rv :=
    fun elem member => by
      rw [fillCase_resized o (nulls elem member)]
      cases o.fillCase elem <;> rfl
  refine ⟨?_, fun read => ?_⟩
  · simp only [fillTemplate_eq, List.map_map, List.filterMap_map]
    exact congrArg (fun codes => match codes.getLast? with
      | some code => errRv code
      | none => .ok ()) (List.filterMap_congr fun elem member => sameRv elem member)
  · simp only [fillTemplate_eq, List.map_map] at read ⊢
    refine List.map_congr_left fun elem member => ?_
    obtain ⟨attr, found, sized⟩ := fillCase_of_null (nulls elem member)
      ((fillTemplate_ok_iff o template).mp (by rw [fillTemplate_eq]; exact read) elem member)
    have resized := fillCase_resized o (nulls elem member) (memory ((o.fillCase elem).entry elem))
    simp only [sized, FillCase.entry] at resized
    simp [sized, resized, found, FillCase.entry]

/-- A token flag and nothing else. -/
def tokenFlagObject : Object := ⟨1, [Attribute.fromBool CKA_TOKEN true]⟩

theorem fill_template_two_pass_token :
    (∀ elem ∈ [(⟨CKA_TOKEN, none, 0⟩ : CK_ATTRIBUTE)], elem.pValue = none) ∧
      (tokenFlagObject.fillTemplate ((tokenFlagObject.fillTemplate [⟨CKA_TOKEN, none, 0⟩]).1.map
          fun e => { e with pValue := some [0] })).2 =
        (tokenFlagObject.fillTemplate [⟨CKA_TOKEN, none, 0⟩]).2 ∧
      ((tokenFlagObject.fillTemplate [⟨CKA_TOKEN, none, 0⟩]).2 = .ok () →
        (tokenFlagObject.fillTemplate ((tokenFlagObject.fillTemplate
            [⟨CKA_TOKEN, none, 0⟩]).1.map fun e => { e with pValue := some [0] })).1.map
          (fun e => (e.type_, e.pValue.map (·.take e.ulValueLen))) =
        [⟨CKA_TOKEN, none, 0⟩].map fun (elem : CK_ATTRIBUTE) =>
          (elem.type_, (tokenFlagObject.findAttr elem.type_).map (·.value))) :=
  ⟨by decide, fill_template_two_pass tokenFlagObject _ (by decide) fun _ => [0]⟩

/-! ### Noninterference of the sensitive set -/

theorem SENSITIVE_find?_of_mem {keyType : Nat} {sensitiveSet : List Nat}
    (listed : (keyType, sensitiveSet) ∈ SENSITIVE) :
    SENSITIVE.find? (·.1 == keyType) = some (keyType, sensitiveSet) := by
  have firstMatch : ∀ entry ∈ SENSITIVE, SENSITIVE.find? (·.1 == entry.1) = some entry := by
    decide
  exact firstMatch _ listed

theorem find?_filter_of_imp {α : Type} {p q : α → Bool} (implies : ∀ x, p x = true → q x = true)
    (l : List α) : (l.filter q).find? p = l.find? p := by
  induction l with
  | nil => rfl
  | cons x rest inductionHypothesis =>
      by_cases hit : p x = true
      · simp [List.filter_cons, implies x hit, hit]
      · cases keep : q x <;> simp [List.filter_cons, keep, hit, inductionHypothesis]

section Noninterference

variable {sensitiveSet : List Nat}

/-- The attributes outside a sensitive set: what an observer of a sensitive key may see. -/
def publicPart (sensitiveSet : List Nat) (o : Object) : List Attribute :=
  o.attributes.filter fun attr => !sensitiveSet.contains attr.ckType

theorem findAttr_of_public {o : Object} {id : Nat} (outside : id ∉ sensitiveSet) :
    o.findAttr id = (publicPart sensitiveSet o).find? (·.ckType == id) := by
  refine (find?_filter_of_imp (fun attr hit => ?_) o.attributes).symm
  simp only [beq_iff_eq] at hit
  simp [hit, outside]

theorem needsSensitivityCheck_of_listed {o : Object} {keyType : Nat}
    (listed : (keyType, sensitiveSet) ∈ SENSITIVE) (isKey : o.privateKeyType = some keyType) :
    o.needsSensitivityCheck = some sensitiveSet := by
  simp [needsSensitivityCheck, isKey, SENSITIVE_find?_of_mem listed]

theorem hides_of_regime {o : Object} (id : Nat)
    (regime : (o.isSensitive || !o.isExtractable) = true) :
    o.hides (some sensitiveSet) id = sensitiveSet.contains id := by
  cases sensitive : o.isSensitive <;> simp_all [hides, isSensitiveAttr]

/-- A key by its attributes: over distinct ids, a `CKA_CLASS` of a private or secret key and a
`CKA_KEY_TYPE` give `private_key_type`. -/
theorem privateKeyType_of_key {o : Object} (distinct : DistinctIds o.attributes)
    {keyClass keyType : Nat} (isKeyClass : keyClass = CKO_PRIVATE_KEY ∨ keyClass = CKO_SECRET_KEY)
    (classRead : o.getAttrAsUlong CKA_CLASS = .ok keyClass)
    (typeRead : o.getAttrAsUlong CKA_KEY_TYPE = .ok keyType) : o.privateKeyType = some keyType := by
  rw [privateKeyType_of_distinct distinct classRead typeRead, if_pos isKeyClass]

/-- Two sensitive or non-extractable keys of one listed type that agree outside that type's
sensitive set cannot be told apart through `fill_template`: every entry, the result and the
returned code are the same, whatever sensitive values each key holds or lacks. The key type is
the one `private_key_type` reads, and so, over distinct ids, the one of a `CKA_CLASS` of a private
or secret key and of the `CKA_KEY_TYPE`. -/
theorem fillTemplate_sensitive_noninterference (o₁ o₂ : Object) (template : List CK_ATTRIBUTE)
    (keyType : Nat) (sensitiveSet : List Nat) (listed : (keyType, sensitiveSet) ∈ SENSITIVE)
    (samePublic : publicPart sensitiveSet o₁ = publicPart sensitiveSet o₂)
    (regime₁ : (o₁.isSensitive || !o₁.isExtractable) = true)
    (regime₂ : (o₂.isSensitive || !o₂.isExtractable) = true) :
    (o₁.privateKeyType = some keyType → o₂.privateKeyType = some keyType →
      o₁.fillTemplate template = o₂.fillTemplate template) ∧
    ∀ keyClass₁ keyClass₂, (keyClass₁ = CKO_PRIVATE_KEY ∨ keyClass₁ = CKO_SECRET_KEY) →
      (keyClass₂ = CKO_PRIVATE_KEY ∨ keyClass₂ = CKO_SECRET_KEY) →
      DistinctIds o₁.attributes → DistinctIds o₂.attributes →
      o₁.getAttrAsUlong CKA_CLASS = .ok keyClass₁ → o₂.getAttrAsUlong CKA_CLASS = .ok keyClass₂ →
      o₁.getAttrAsUlong CKA_KEY_TYPE = .ok keyType → o₂.getAttrAsUlong CKA_KEY_TYPE = .ok keyType →
      o₁.fillTemplate template = o₂.fillTemplate template := by
  have byKeyType : o₁.privateKeyType = some keyType → o₂.privateKeyType = some keyType →
      o₁.fillTemplate template = o₂.fillTemplate template := fun isKey₁ isKey₂ => by
    refine fillTemplate_congr fun elem _ => ?_
    have sense₁ := needsSensitivityCheck_of_listed listed isKey₁
    have sense₂ := needsSensitivityCheck_of_listed listed isKey₂
    unfold fillCase
    rw [sense₁, sense₂, hides_of_regime elem.type_ regime₁, hides_of_regime elem.type_ regime₂]
    by_cases inside : sensitiveSet.contains elem.type_ = true
    · rw [if_pos inside, if_pos inside]
    · have outside : elem.type_ ∉ sensitiveSet := by simpa using inside
      simp only [inside, Bool.false_eq_true, ↓reduceIte, findAttr_of_public outside, samePublic]
  exact ⟨byKeyType, fun _ _ key₁ key₂ distinct₁ distinct₂ class₁ class₂ type₁ type₂ =>
    byKeyType (privateKeyType_of_key distinct₁ key₁ class₁ type₁)
      (privateKeyType_of_key distinct₂ key₂ class₂ type₂)⟩

end Noninterference

/-! ### HMAC-typed secret keys -/

/-- The key types the HMAC mechanisms accept besides `CKK_GENERIC_SECRET`. -/
def hmacKeyTypes : List Nat := [CKK_SHA_1_HMAC, CKK_SHA256_HMAC, CKK_SHA384_HMAC, CKK_SHA512_HMAC]

theorem needsSensitivityCheck_of_hmac_key {o : Object} {keyType : Nat}
    (hmacType : keyType ∈ hmacKeyTypes) (isKey : o.privateKeyType = some keyType) :
    o.needsSensitivityCheck = none := by
  have unlisted : ∀ keyType ∈ hmacKeyTypes, SENSITIVE.find? (·.1 == keyType) = none := by decide
  simp [needsSensitivityCheck, isKey, unlisted keyType hmacType]

/-- `SENSITIVE` does not list the HMAC key types, so `fill_template` copies such a key's value
into any buffer large enough, whatever its `CKA_SENSITIVE` and `CKA_EXTRACTABLE`. -/
theorem fillTemplate_copies_hmac_key_value {o : Object} {keyType : Nat}
    (hmacType : keyType ∈ hmacKeyTypes) (isKey : o.privateKeyType = some keyType)
    {attr : Attribute} (found : o.findAttr CKA_VALUE = some attr) (memory : List UInt8)
    (ulValueLen : Nat) (fits : attr.value.length ≤ ulValueLen) :
    o.fillTemplate [⟨CKA_VALUE, some memory, ulValueLen⟩] =
      ([⟨CKA_VALUE, some (attr.value ++ memory.drop attr.value.length), attr.value.length⟩],
        .ok ()) := by
  have copied : o.fillCase ⟨CKA_VALUE, some memory, ulValueLen⟩ = .copied attr.value := by
    simp [fillCase, hides, needsSensitivityCheck_of_hmac_key hmacType isKey, found,
      Nat.not_lt.mpr fits]
  simp [fillTemplate_eq, copied, FillCase.entry, FillCase.rv]

/-- Two RSA keys that differ only in their private exponent. -/
def rsaKeyWithExponent (exponent : List UInt8) : Object :=
  ⟨7, [Attribute.fromUlong CKA_CLASS CKO_PRIVATE_KEY, Attribute.fromUlong CKA_KEY_TYPE CKK_RSA,
    Attribute.fromBytes CKA_MODULUS [0xC5], Attribute.fromBytes CKA_PRIVATE_EXPONENT exponent]⟩

theorem fillTemplate_sensitive_noninterference_rsa :
    (CKK_RSA, SENSITIVE_CKK_RSA) ∈ SENSITIVE ∧
      publicPart SENSITIVE_CKK_RSA (rsaKeyWithExponent [1]) =
        publicPart SENSITIVE_CKK_RSA (rsaKeyWithExponent [2, 3]) ∧
      ((rsaKeyWithExponent [1]).isSensitive || !(rsaKeyWithExponent [1]).isExtractable) = true ∧
      ((rsaKeyWithExponent [2, 3]).isSensitive ||
        !(rsaKeyWithExponent [2, 3]).isExtractable) = true ∧
      DistinctIds (rsaKeyWithExponent [1]).attributes ∧
      DistinctIds (rsaKeyWithExponent [2, 3]).attributes ∧
      (rsaKeyWithExponent [1]).getAttrAsUlong CKA_CLASS = .ok CKO_PRIVATE_KEY ∧
      (rsaKeyWithExponent [2, 3]).getAttrAsUlong CKA_CLASS = .ok CKO_PRIVATE_KEY ∧
      (rsaKeyWithExponent [1]).getAttrAsUlong CKA_KEY_TYPE = .ok CKK_RSA ∧
      (rsaKeyWithExponent [2, 3]).getAttrAsUlong CKA_KEY_TYPE = .ok CKK_RSA ∧
      (rsaKeyWithExponent [1]).fillTemplate [⟨CKA_PRIVATE_EXPONENT, some [0, 0], 2⟩] =
        (rsaKeyWithExponent [2, 3]).fillTemplate [⟨CKA_PRIVATE_EXPONENT, some [0, 0], 2⟩] :=
  ⟨by decide, by decide, by rfl, by rfl, by decide, by decide, rfl, rfl, rfl, rfl,
    (fillTemplate_sensitive_noninterference _ _ _ CKK_RSA SENSITIVE_CKK_RSA (by decide) (by decide)
      (by rfl) (by rfl)).2 CKO_PRIVATE_KEY CKO_PRIVATE_KEY (.inl rfl) (.inl rfl) (by decide)
      (by decide) rfl rfl rfl rfl⟩

/-! ### The aggregated return code -/

/-- `fill_template` returns the code of the last entry that fails, whatever its kind: a later
absent or too small entry overrides an earlier hidden one, so the code depends on the order of
the entries. On an RSA key, a hidden `CKA_PRIVATE_EXPONENT` followed by an absent `CKA_LABEL`
gives `CKR_ATTRIBUTE_TYPE_INVALID`, and the other order gives `CKR_ATTRIBUTE_SENSITIVE`. -/
theorem fill_template_returns_last_failure :
    (∀ (o : Object) (template : List CK_ATTRIBUTE),
      (o.fillTemplate template).2 =
        match (template.filterMap fun elem => (o.fillCase elem).rv).getLast? with
        | some code => errRv code
        | none => .ok ()) ∧
    (∀ (o : Object) (first second : CK_ATTRIBUTE) (firstCode secondCode : Nat),
      (o.fillCase first).rv = some firstCode → (o.fillCase second).rv = some secondCode →
        (o.fillTemplate [first, second]).2 = errRv secondCode ∧
          (o.fillTemplate [second, first]).2 = errRv firstCode) ∧
    ((rsaKeyWithExponent [1]).fillTemplate
        [⟨CKA_PRIVATE_EXPONENT, some [0, 0], 2⟩, ⟨CKA_LABEL, some [0], 1⟩]).2 =
      errRv CKR_ATTRIBUTE_TYPE_INVALID ∧
    ((rsaKeyWithExponent [1]).fillTemplate
        [⟨CKA_LABEL, some [0], 1⟩, ⟨CKA_PRIVATE_EXPONENT, some [0, 0], 2⟩]).2 =
      errRv CKR_ATTRIBUTE_SENSITIVE :=
  ⟨fun o template => by rw [fillTemplate_eq],
    fun o first second _ _ firstFails secondFails => by
      simp [fillTemplate_eq, firstFails, secondFails],
    rfl, rfl⟩

end Object

end Kryoptic
