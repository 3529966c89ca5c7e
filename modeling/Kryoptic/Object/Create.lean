import Kryoptic.Object.Core

/-!
Contract: `object::create` and the data-object factory behind it.

Owns: `ObjectAttr` and `attr_element!`, the data-object schema, `basic_object_attrs_checks`
(its two loops: marking the template's ids present in the schema, then pushing defaults and
checking required entries), `create_data_object` and `create`.

The first loop is summarised by `firstViolation`: scanning the new object's ids in order, the
first id outside the schema or seen before decides the error. The second loop is summarised by
`pushDefaults_ok` / `pushDefaults_incomplete`. Together they give `create_of_decoded`; with the
decode loop read as the template's entries decoded in order (`decodeTemplate_eq_mapM`), the
factory as the spec describes it, over the caller's template, and `create_distinctIds`.

`Uuid::new_v4()` is random: `create` takes the generated string as its argument `uuid`.
-/

namespace Kryoptic

/-- One schema entry (`ObjectAttr`): its default attribute `attr` and the flags the checks
read and set. -/
structure ObjectAttr where
  attr : Attribute
  required : Bool
  present : Bool
  default : Bool
deriving DecidableEq, Repr

/-- `attr_element!`. -/
def attrElement {α : Type} (id : Nat) (required default : Bool) (fromType : Nat → α → Attribute)
    (defval : α) : ObjectAttr :=
  ⟨fromType id defval, required, false, default⟩

/-! ### The data-object schema -/

def lazyInitCommonObjectAttrs : List ObjectAttr :=
  [attrElement CKA_CLASS true false Attribute.fromUlong 0]

def lazyInitCommonStorageAttrs : List ObjectAttr :=
  [attrElement CKA_TOKEN false true Attribute.fromBool false,
    attrElement CKA_PRIVATE false true Attribute.fromBool false,
    attrElement CKA_MODIFIABLE false true Attribute.fromBool true,
    attrElement CKA_LABEL false false Attribute.fromString [],
    attrElement CKA_COPYABLE false true Attribute.fromBool true,
    attrElement CKA_DESTROYABLE false true Attribute.fromBool true,
    attrElement CKA_UNIQUE_ID true false Attribute.fromString []]

def lazyInitDataObjectAttrs : List ObjectAttr :=
  [attrElement CKA_APPLICATION true false Attribute.fromString [],
    attrElement CKA_OBJECT_ID false false Attribute.fromBytes [],
    attrElement CKA_VALUE true false Attribute.fromBytes []]

def lazyInitDataObjectTemplate : List ObjectAttr :=
  lazyInitCommonObjectAttrs ++ lazyInitCommonStorageAttrs ++ lazyInitDataObjectAttrs

/-- The clone of the `Once`-initialised static that `create_data_object` works on. -/
def getDataObjectTemplate : List ObjectAttr := lazyInitDataObjectTemplate

/-! ### `basic_object_attrs_checks` -/

/-- One iteration of the first loop: the first schema entry of type `typ` is marked present;
an entry already present is a duplicate, and no entry means `typ` is not in the schema. -/
def markPresent (typ : Nat) : List ObjectAttr → Except Nat (List ObjectAttr)
  | [] => .error CKR_ATTRIBUTE_VALUE_INVALID
  | elem :: rest =>
    if typ = elem.attr.ckType then
      if elem.present then .error CKR_TEMPLATE_INCONSISTENT
      else .ok ({ elem with present := true } :: rest)
    else (markPresent typ rest).map (elem :: ·)

/-- The first loop, over the object's attributes in order. -/
def markPresentAll : List Attribute → List ObjectAttr → Except Nat (List ObjectAttr)
  | [], cattrs => .ok cattrs
  | attr :: rest, cattrs => (markPresent attr.ckType cattrs).bind (markPresentAll rest)

/-- The second loop: push the default of every absent entry that has one, and stop at the
first required entry still absent. -/
def pushDefaults : List ObjectAttr → List Attribute → List Attribute × Nat
  | [], attributes => (attributes, CKR_OK)
  | elem :: rest, attributes =>
    let pushed := !elem.present && elem.default
    let attributes := if pushed then attributes ++ [elem.attr] else attributes
    if elem.required && !(elem.present || pushed) then (attributes, CKR_TEMPLATE_INCOMPLETE)
    else pushDefaults rest attributes

def basicObjectAttrsChecks (obj : Object) (cattrs : List ObjectAttr) : Object × Nat :=
  match markPresentAll obj.attributes cattrs with
  | .error rv => (obj, rv)
  | .ok marked =>
    let (attributes, rv) := pushDefaults marked obj.attributes
    ({ obj with attributes }, rv)

def createDataObject (obj : Object) : KResult Object :=
  let (obj, ret) := basicObjectAttrsChecks obj getDataObjectTemplate
  if ret ≠ CKR_OK then errRv ret else .ok obj

/-- The `for ck_attr in template.iter()` loop of `create`, stopping at the first decode error. -/
def decodeTemplate (decoder : AttributeDecoder) : List CK_ATTRIBUTE → KResult (List Attribute)
  | [] => .ok []
  | entry :: rest => do
    let attr ← decoder.toAttribute entry
    let attrs ← decodeTemplate decoder rest
    pure (attr :: attrs)

/-- `create`: every class but `CKO_DATA` is rejected with `CKR_ATTRIBUTE_VALUE_INVALID`. -/
def create (decoder : AttributeDecoder) (uuid : List UInt8) (handle : Nat)
    (template : List CK_ATTRIBUTE) : KResult Object :=
  match decodeTemplate decoder template with
  | .error e => .error e
  | .ok decoded =>
    let obj : Object := ⟨handle, Attribute.fromString CKA_UNIQUE_ID uuid :: decoded⟩
    match obj.getAttrAsUlong CKA_CLASS with
    | .error _ => errRv CKR_TEMPLATE_INCOMPLETE
    | .ok objectClass =>
      if objectClass = CKO_DATA then createDataObject obj else errRv CKR_ATTRIBUTE_VALUE_INVALID

/-! ### The first loop -/

def schemaIds (schema : List ObjectAttr) : List Nat := schema.map (·.attr.ckType)

/-- The schema with an entry present exactly when its id is in `seen`. -/
def markedWith (seen : List Nat) (schema : List ObjectAttr) : List ObjectAttr :=
  schema.map fun elem => { elem with present := decide (elem.attr.ckType ∈ seen) }

/-- Scanning `ids` in order after `seen`: the code of the first id outside `schema`
(`CKR_ATTRIBUTE_VALUE_INVALID`) or already seen (`CKR_TEMPLATE_INCONSISTENT`). -/
def firstViolation (schema : List Nat) : List Nat → List Nat → Option Nat
  | [], _ => none
  | id :: rest, seen =>
    if id ∉ schema then some CKR_ATTRIBUTE_VALUE_INVALID
    else if id ∈ seen then some CKR_TEMPLATE_INCONSISTENT
    else firstViolation schema rest (id :: seen)

theorem firstViolation_eq_none_iff (schema : List Nat) (ids seen : List Nat) :
    firstViolation schema ids seen = none ↔
      (∀ id ∈ ids, id ∈ schema) ∧ ids.Nodup ∧ ∀ id ∈ ids, id ∉ seen := by
  induction ids generalizing seen with
  | nil => simp [firstViolation]
  | cons id rest inductionHypothesis =>
      unfold firstViolation
      by_cases inSchema : id ∈ schema
      · by_cases repeated : id ∈ seen
        · simp [inSchema, repeated]
        · rw [if_neg (not_not.mpr inSchema), if_neg repeated, inductionHypothesis]
          simp only [List.mem_cons, forall_eq_or_imp, List.nodup_cons, not_or]
          constructor
          · rintro ⟨inside, nodup, fresh⟩
            exact ⟨⟨inSchema, inside⟩, ⟨fun member => (fresh id member).1 rfl, nodup⟩, repeated,
              fun other member => (fresh other member).2⟩
          · rintro ⟨⟨-, inside⟩, ⟨notInRest, nodup⟩, -, fresh⟩
            exact ⟨inside, nodup, fun other member =>
              ⟨fun equal => notInRest (equal ▸ member), fresh other member⟩⟩
      · simp [inSchema]

@[simp] theorem markedWith_cons (seen : List Nat) (elem : ObjectAttr) (rest : List ObjectAttr) :
    markedWith seen (elem :: rest) =
      { elem with present := decide (elem.attr.ckType ∈ seen) } :: markedWith seen rest := rfl

section Marking

variable {schema : List ObjectAttr} (distinct : (schemaIds schema).Nodup)
include distinct

theorem markPresent_markedWith (typ : Nat) (seen : List Nat) :
    markPresent typ (markedWith seen schema) =
      if typ ∉ schemaIds schema then .error CKR_ATTRIBUTE_VALUE_INVALID
      else if typ ∈ seen then .error CKR_TEMPLATE_INCONSISTENT
      else .ok (markedWith (typ :: seen) schema) := by
  induction schema with
  | nil => rfl
  | cons elem rest inductionHypothesis =>
      simp only [schemaIds, List.map_cons, List.nodup_cons] at distinct
      by_cases same : typ = elem.attr.ckType
      · subst same
        have restAgrees : markedWith (elem.attr.ckType :: seen) rest = markedWith seen rest :=
          List.map_congr_left fun other member => by
            have different : other.attr.ckType ≠ elem.attr.ckType := fun equal =>
              distinct.1 (equal ▸ List.mem_map_of_mem _ member)
            simp [different]
        have inSchema : elem.attr.ckType ∈ schemaIds (elem :: rest) := List.mem_cons_self _ _
        rw [markedWith_cons, markPresent, if_pos rfl, if_neg (not_not.mpr inSchema)]
        by_cases repeated : elem.attr.ckType ∈ seen
        · simp [repeated]
        · simp [repeated, restAgrees]
      · have inSchemaIff : typ ∈ schemaIds (elem :: rest) ↔ typ ∈ schemaIds rest := by
          simp [schemaIds, same]
        have headAgrees : decide (elem.attr.ckType ∈ typ :: seen) =
            decide (elem.attr.ckType ∈ seen) := by
          simp [Ne.symm same]
        rw [markedWith_cons, markPresent, if_neg same, inductionHypothesis distinct.2]
        simp only [inSchemaIff, markedWith_cons, headAgrees]
        split_ifs <;> rfl

theorem markPresentAll_markedWith (attributes : List Attribute) (seen : List Nat) :
    markPresentAll attributes (markedWith seen schema) =
      match firstViolation (schemaIds schema) (attributes.map (·.ckType)) seen with
      | some code => .error code
      | none => .ok (markedWith ((attributes.map (·.ckType)).reverse ++ seen) schema) := by
  induction attributes generalizing seen with
  | nil => rfl
  | cons attr rest inductionHypothesis =>
      simp only [markPresentAll, markPresent_markedWith distinct, List.map_cons, firstViolation]
      by_cases outside : attr.ckType ∈ schemaIds schema <;>
        by_cases repeated : attr.ckType ∈ seen <;>
        simp [outside, repeated, Except.bind, inductionHypothesis]

end Marking

/-! ### The second loop -/

/-- The defaults the second loop pushes: those of the absent entries that have one, in schema
order. -/
def defaultsOf (schema : List ObjectAttr) : List Attribute :=
  schema.filterMap fun elem => if !elem.present && elem.default then some elem.attr else none

@[simp] theorem defaultsOf_cons (elem : ObjectAttr) (rest : List ObjectAttr) :
    defaultsOf (elem :: rest) =
      (if !elem.present && elem.default then [elem.attr] else []) ++ defaultsOf rest := by
  cases pushed : (!elem.present && elem.default) <;>
    simp only [defaultsOf, List.filterMap_cons, pushed, Bool.false_eq_true, ↓reduceIte,
      List.singleton_append, List.nil_append]

/-- One iteration of the second loop, with the pushed default written as an append. -/
theorem pushDefaults_cons (elem : ObjectAttr) (rest : List ObjectAttr)
    (attributes : List Attribute) :
    pushDefaults (elem :: rest) attributes =
      if elem.required && !(elem.present || elem.default) then
        (attributes ++ (if !elem.present && elem.default then [elem.attr] else []),
          CKR_TEMPLATE_INCOMPLETE)
      else pushDefaults rest
        (attributes ++ if !elem.present && elem.default then [elem.attr] else []) := by
  obtain ⟨attr, required, present, default⟩ := elem
  cases present <;> cases default <;> simp [pushDefaults]

theorem pushDefaults_ok {schema : List ObjectAttr}
    (satisfied : ∀ elem ∈ schema, elem.required = true → (elem.present || elem.default) = true)
    (attributes : List Attribute) :
    pushDefaults schema attributes = (attributes ++ defaultsOf schema, CKR_OK) := by
  induction schema generalizing attributes with
  | nil => simp [pushDefaults, defaultsOf]
  | cons elem rest inductionHypothesis =>
      have continues : (elem.required && !(elem.present || elem.default)) = false := by
        have headSatisfied := satisfied elem (List.mem_cons_self _ _)
        revert headSatisfied
        cases elem.required <;> cases elem.present <;> cases elem.default <;> decide
      simp only [pushDefaults_cons, continues, Bool.false_eq_true, ↓reduceIte, defaultsOf_cons,
        inductionHypothesis fun other member => satisfied other (List.mem_cons_of_mem _ member),
        List.append_assoc]

theorem pushDefaults_incomplete {schema : List ObjectAttr}
    (unsatisfied : ¬∀ elem ∈ schema, elem.required = true → (elem.present || elem.default) = true)
    (attributes : List Attribute) :
    (pushDefaults schema attributes).2 = CKR_TEMPLATE_INCOMPLETE := by
  induction schema generalizing attributes with
  | nil => simp at unsatisfied
  | cons elem rest inductionHypothesis =>
      rw [pushDefaults_cons]
      by_cases stops : (elem.required && !(elem.present || elem.default)) = true
      · rw [if_pos stops]
      · rw [if_neg stops]
        refine inductionHypothesis (fun restSatisfied => unsatisfied fun other member => ?_) _
        rcases List.mem_cons.mp member with rfl | inRest
        · revert stops
          cases other.required <;> cases other.present <;> cases other.default <;> decide
        · exact restSatisfied other inRest

/-- On a schema with the template's ids marked, the defaults pushed are the schema's defaults for
the ids not seen. -/
theorem defaultsOf_markedWith (seen : List Nat) (schema : List ObjectAttr) :
    defaultsOf (markedWith seen schema) =
      (schema.filterMap fun elem => if elem.default then some elem.attr else none).filter
        (·.ckType ∉ seen) := by
  induction schema with
  | nil => rfl
  | cons elem rest inductionHypothesis =>
      obtain ⟨attr, required, present, default⟩ := elem
      rw [markedWith_cons, defaultsOf_cons, inductionHypothesis]
      by_cases seenBefore : attr.ckType ∈ seen <;> cases default <;>
        simp [seenBefore, List.filter_cons]

/-! ### The data-object factory, as the spec describes it -/

/-- The data-object schema ids, in schema order. -/
def dataObjectIds : List Nat :=
  [CKA_CLASS, CKA_TOKEN, CKA_PRIVATE, CKA_MODIFIABLE, CKA_LABEL, CKA_COPYABLE, CKA_DESTROYABLE,
    CKA_UNIQUE_ID, CKA_APPLICATION, CKA_OBJECT_ID, CKA_VALUE]

/-- The defaults a data object receives for the storage attributes it omits, in schema order. -/
def dataObjectDefaults : List Attribute :=
  [Attribute.fromBool CKA_TOKEN false, Attribute.fromBool CKA_PRIVATE false,
    Attribute.fromBool CKA_MODIFIABLE true, Attribute.fromBool CKA_COPYABLE true,
    Attribute.fromBool CKA_DESTROYABLE true]

theorem dataObjectDefaults_ne_uuid : ∀ attr ∈ dataObjectDefaults, attr.ckType ≠ CKA_UNIQUE_ID := by
  decide

/-- The class `create` reads from a decoded template: its first `CKA_CLASS` entry, as a Num. -/
def templateClass (attrs : List Attribute) : Option Nat :=
  ((⟨0, attrs⟩ : Object).getAttrAsUlong CKA_CLASS).toOption

/-- The code a decoded template is rejected with: a missing or non-numeric class, then a class
other than `CKO_DATA`, then the first id outside the schema or repeated (the generated
`CKA_UNIQUE_ID` counting as the first id), then a missing required attribute. -/
def dataObjectError (attrs : List Attribute) : Nat :=
  match templateClass attrs with
  | none => CKR_TEMPLATE_INCOMPLETE
  | some objectClass =>
    if objectClass ≠ CKO_DATA then CKR_ATTRIBUTE_VALUE_INVALID
    else (firstViolation dataObjectIds (CKA_UNIQUE_ID :: attrs.map (·.ckType)) []).getD
      CKR_TEMPLATE_INCOMPLETE

theorem firstViolation_ne_ok {schema ids seen : List Nat} {code : Nat}
    (violation : firstViolation schema ids seen = some code) : code ≠ CKR_OK := by
  induction ids generalizing seen with
  | nil => cases violation
  | cons id rest inductionHypothesis =>
      unfold firstViolation at violation
      by_cases inSchema : id ∈ schema
      · rw [if_neg (not_not.mpr inSchema)] at violation
        by_cases repeated : id ∈ seen
        · rw [if_pos repeated] at violation
          cases violation
          decide
        · rw [if_neg repeated] at violation
          exact inductionHypothesis violation
      · rw [if_pos inSchema] at violation
        cases violation
        decide

theorem dataObjectTemplate_ids : schemaIds getDataObjectTemplate = dataObjectIds := rfl

theorem dataObjectTemplate_unmarked : markedWith [] getDataObjectTemplate = getDataObjectTemplate :=
  rfl

theorem dataObjectTemplate_satisfied_iff (seen : List Nat) :
    (∀ elem ∈ markedWith seen getDataObjectTemplate,
        elem.required = true → (elem.present || elem.default) = true) ↔
      CKA_CLASS ∈ seen ∧ CKA_UNIQUE_ID ∈ seen ∧ CKA_APPLICATION ∈ seen ∧ CKA_VALUE ∈ seen := by
  simp [markedWith, getDataObjectTemplate, lazyInitDataObjectTemplate, lazyInitCommonObjectAttrs,
    lazyInitCommonStorageAttrs, lazyInitDataObjectAttrs, attrElement]

theorem dataObjectTemplate_defaults (seen : List Nat) :
    defaultsOf (markedWith seen getDataObjectTemplate) =
      dataObjectDefaults.filter (·.ckType ∉ seen) := by
  rw [defaultsOf_markedWith]
  rfl

theorem decodeTemplate_ids {decoder : AttributeDecoder} {template : List CK_ATTRIBUTE}
    {attrs : List Attribute} (decoded : decodeTemplate decoder template = .ok attrs) :
    attrs.map (·.ckType) = template.map (·.type_) := by
  induction template generalizing attrs with
  | nil => cases decoded; rfl
  | cons entry rest inductionHypothesis =>
      simp only [decodeTemplate, bind, Except.bind] at decoded
      split at decoded
      · cases decoded
      · split at decoded
        · cases decoded
        · cases decoded
          simp [decoder.toAttribute_type _ _ ‹_›, inductionHypothesis ‹_›]

/-- The decode loop of `create` is the template's entries decoded in place and in order, up to
the first entry that fails. -/
theorem decodeTemplate_eq_mapM (decoder : AttributeDecoder) (template : List CK_ATTRIBUTE) :
    decodeTemplate decoder template = template.mapM decoder.toAttribute := by
  induction template with
  | nil => rfl
  | cons entry rest inductionHypothesis => rw [decodeTemplate, List.mapM_cons, inductionHypothesis]

theorem getAttrAsUlong_class_after_uuid (handle : Nat) (uuid : List UInt8)
    (attrs : List Attribute) :
    (⟨handle, Attribute.fromString CKA_UNIQUE_ID uuid :: attrs⟩ : Object).getAttrAsUlong CKA_CLASS =
      (⟨0, attrs⟩ : Object).getAttrAsUlong CKA_CLASS := by
  simp [Object.getAttrAsUlong, Object.attrAsType, Object.findAttr, CKA_UNIQUE_ID, CKA_CLASS]

/-- `create_data_object`: the first id outside the schema or repeated is rejected; otherwise the
object is complete when the required ids are present, and then receives the omitted defaults. -/
theorem createDataObject_eq (obj : Object) :
    createDataObject obj =
      match firstViolation dataObjectIds (obj.attributes.map (·.ckType)) [] with
      | some code => errRv code
      | none =>
        if CKA_CLASS ∈ obj.attributes.map (·.ckType) ∧
            CKA_UNIQUE_ID ∈ obj.attributes.map (·.ckType) ∧ CKA_APPLICATION ∈ obj.attributes.map (·.ckType) ∧
            CKA_VALUE ∈ obj.attributes.map (·.ckType) then
          .ok { obj with
            attributes := obj.attributes ++
              dataObjectDefaults.filter (·.ckType ∉ obj.attributes.map (·.ckType)) }
        else errRv CKR_TEMPLATE_INCOMPLETE := by
  unfold createDataObject basicObjectAttrsChecks
  rw [← dataObjectTemplate_unmarked, markPresentAll_markedWith (by decide), dataObjectTemplate_ids]
  cases violation : firstViolation dataObjectIds (obj.attributes.map (·.ckType)) [] with
  | some code => simp [firstViolation_ne_ok violation]
  | none =>
      dsimp only
      by_cases complete : CKA_CLASS ∈ obj.attributes.map (·.ckType) ∧
          CKA_UNIQUE_ID ∈ obj.attributes.map (·.ckType) ∧
          CKA_APPLICATION ∈ obj.attributes.map (·.ckType) ∧
          CKA_VALUE ∈ obj.attributes.map (·.ckType)
      · have satisfied := (dataObjectTemplate_satisfied_iff
          ((obj.attributes.map (·.ckType)).reverse ++ [])).mpr
            (by simpa only [List.append_nil, List.mem_reverse] using complete)
        rw [pushDefaults_ok satisfied, dataObjectTemplate_defaults]
        simp only [List.append_nil, List.mem_reverse]
        rw [if_pos complete]
        rfl
      · rw [pushDefaults_incomplete (mt (dataObjectTemplate_satisfied_iff _).mp
            (by simpa only [List.append_nil, List.mem_reverse] using complete)),
          if_neg complete, if_pos (by decide)]

/-- `create` on a template that decodes to `attrs`: the new object is the generated
`CKA_UNIQUE_ID`, the template's attributes in order, then the omitted defaults; every other
template gets `dataObjectError`. -/
theorem create_of_decoded {decoder : AttributeDecoder} {template : List CK_ATTRIBUTE}
    {attrs : List Attribute} (uuid : List UInt8) (handle : Nat)
    (decoded : decodeTemplate decoder template = .ok attrs) :
    create decoder uuid handle template =
      if templateClass attrs = some CKO_DATA ∧
          firstViolation dataObjectIds (CKA_UNIQUE_ID :: attrs.map (·.ckType)) [] = none ∧
          CKA_APPLICATION ∈ attrs.map (·.ckType) ∧ CKA_VALUE ∈ attrs.map (·.ckType) then
        .ok ⟨handle, Attribute.fromString CKA_UNIQUE_ID uuid :: attrs ++
          dataObjectDefaults.filter (·.ckType ∉ attrs.map (·.ckType))⟩
      else errRv (dataObjectError attrs) := by
  unfold create
  rw [decoded]
  simp only [getAttrAsUlong_class_after_uuid]
  cases reading : (⟨0, attrs⟩ : Object).getAttrAsUlong CKA_CLASS with
  | error e =>
      have noClass : templateClass attrs = none := by
        simp [templateClass, reading, Except.toOption]
      simp [noClass, dataObjectError]
  | ok objectClass =>
      have someClass : templateClass attrs = some objectClass := by
        simp [templateClass, reading, Except.toOption]
      by_cases isData : objectClass = CKO_DATA
      · subst isData
        have classPresent : CKA_CLASS ∈ attrs.map (·.ckType) := by
          obtain ⟨attr, found, -, -⟩ := Object.attrAsType_ok reading
          exact List.mem_map.mpr ⟨attr, List.mem_of_find?_eq_some found,
            by simpa using List.find?_some found⟩
        have defaultsAgree : dataObjectDefaults.filter
              (·.ckType ∉ CKA_UNIQUE_ID :: attrs.map (·.ckType)) =
            dataObjectDefaults.filter (·.ckType ∉ attrs.map (·.ckType)) :=
          List.filter_congr fun attr member => by simp [dataObjectDefaults_ne_uuid attr member]
        have otherIds : CKA_APPLICATION ≠ CKA_UNIQUE_ID ∧ CKA_VALUE ≠ CKA_UNIQUE_ID := by decide
        rw [createDataObject_eq]
        simp only [List.map_cons, Attribute.fromString_ckType, defaultsAgree]
        cases violation :
            firstViolation dataObjectIds (CKA_UNIQUE_ID :: attrs.map (·.ckType)) [] with
        | some code => simp [someClass, dataObjectError, violation]
        | none => simp [someClass, dataObjectError, violation, classPresent, otherIds]
      · simp [isData, someClass, dataObjectError]

theorem firstViolation_uuid_eq_none_iff (ids : List Nat) :
    firstViolation dataObjectIds (CKA_UNIQUE_ID :: ids) [] = none ↔
      ids.Nodup ∧ CKA_UNIQUE_ID ∉ ids ∧ ∀ id ∈ ids, id ∈ dataObjectIds := by
  have uuidInSchema : CKA_UNIQUE_ID ∈ dataObjectIds := by decide
  simp only [firstViolation_eq_none_iff, List.mem_cons, forall_eq_or_imp, List.nodup_cons,
    List.not_mem_nil, not_false_eq_true, implies_true, and_true]
  tauto

/-- Exactly what `create` decides, stated over the caller's template: the error of the first
entry that does not decode is passed through; otherwise, with `attrs` the entries decoded one by
one in order, the call succeeds when the class is `CKO_DATA`, the ids are distinct, none is
`CKA_UNIQUE_ID`, all are schema ids and the required ones are given, and the new object is then
the generated `CKA_UNIQUE_ID`, `attrs` and the defaults the template omits; every other template
is rejected with `dataObjectError`. -/
theorem create_data_object_factory (decoder : AttributeDecoder) (uuid : List UInt8) (handle : Nat)
    (template : List CK_ATTRIBUTE) :
    (∀ e, template.mapM decoder.toAttribute = .error e →
      create decoder uuid handle template = .error e) ∧
    ∀ attrs, template.mapM decoder.toAttribute = .ok attrs →
      ((∃ o, create decoder uuid handle template = .ok o) ↔
          templateClass attrs = some CKO_DATA ∧ (template.map (·.type_)).Nodup ∧
          CKA_UNIQUE_ID ∉ template.map (·.type_) ∧
          (∀ id ∈ template.map (·.type_), id ∈ dataObjectIds) ∧
          CKA_APPLICATION ∈ template.map (·.type_) ∧ CKA_VALUE ∈ template.map (·.type_)) ∧
      (∀ o, create decoder uuid handle template = .ok o →
        o = ⟨handle, Attribute.fromString CKA_UNIQUE_ID uuid :: attrs ++
          dataObjectDefaults.filter (·.ckType ∉ template.map (·.type_))⟩) ∧
      (∀ e, create decoder uuid handle template = .error e →
        e = .rvError (dataObjectError attrs)) := by
  rw [← decodeTemplate_eq_mapM]
  refine ⟨fun e failed => by simp [create, failed], fun attrs decoded => ?_⟩
  rw [create_of_decoded uuid handle decoded, ← decodeTemplate_ids decoded]
  simp only [firstViolation_uuid_eq_none_iff]
  split_ifs with accepted
  · simp only [Except.ok.injEq, exists_eq', true_iff, forall_eq', reduceCtorEq, false_implies,
      implies_true, and_true]
    tauto
  · simp only [errRv, reduceCtorEq, exists_false, false_iff, false_implies, implies_true,
      Except.error.injEq, forall_eq', and_true]
    tauto

/-- Every object `create` returns has one attribute per id: the generated `CKA_UNIQUE_ID`, the
template's distinct ids, and defaults only for ids the template omits. -/
theorem create_distinctIds {decoder : AttributeDecoder} {uuid : List UInt8} {handle : Nat}
    {template : List CK_ATTRIBUTE} {o : Object}
    (created : create decoder uuid handle template = .ok o) :
    DistinctIds o.attributes := by
  cases decoding : decodeTemplate decoder template with
  | error e => simp [create, decoding] at created
  | ok attrs =>
      rw [create_of_decoded uuid handle decoding] at created
      split_ifs at created with accepted
      · obtain ⟨-, fresh, -, -⟩ := accepted
        rw [firstViolation_uuid_eq_none_iff] at fresh
        obtain ⟨nodup, uuidFresh, -⟩ := fresh
        cases created
        have defaultsNodup : ((dataObjectDefaults.filter
            (·.ckType ∉ attrs.map (·.ckType))).map (·.ckType)).Nodup :=
          ((List.filter_sublist _).map _).nodup (by decide)
        simp only [DistinctIds, List.map_append, List.map_cons, List.cons_append, List.nodup_cons,
          List.mem_append, Attribute.fromString_ckType]
        refine ⟨not_or.mpr ⟨uuidFresh, fun inDefaults => ?_⟩, nodup.append defaultsNodup ?_⟩
        · obtain ⟨attr, member, same⟩ := List.mem_map.mp inDefaults
          exact dataObjectDefaults_ne_uuid attr (List.mem_filter.mp member).1 same
        · intro id inTemplate inDefaults
          obtain ⟨attr, member, rfl⟩ := List.mem_map.mp inDefaults
          exact of_decide_eq_true (List.mem_filter.mp member).2 inTemplate
      · simp [errRv] at created

end Kryoptic
