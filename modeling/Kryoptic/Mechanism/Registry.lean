import Kryoptic.Hmac
import Kryoptic.Ec.Montgomery

/-!
Contract: the mechanism registry of `mechanism.rs`, and the registrations of `hmac.rs` and
`ec/montgomery.rs` that fill it.

Owns: `Mechanisms`, the `BTreeMap<CK_MECHANISM_TYPE, Box<dyn Mechanism>>`, as its entries in
strict key order, with `new`, `add_mechanism`, `len`, `list`, `info` and `get`; `MechanismImpl`,
the `Box<dyn Mechanism>` values the sources register, whose constructors dispatch to each one's
`impl Mechanism` or to the trait's default body; and `Registration`, a `register` call run as
its `add_mechanism` calls.

Proved here: `add_mechanism` keeps the key order, a field of `Mechanisms`, and answers `get`
with what it added and every other key as before; a registry is determined by its lookups
(`Mechanisms.ext_lookup`). From these, over every sequence of registrations: the registry built
depends only on which registrations ran, not on their order or repetition; and in a registry
built from `new` the `info()` flags of every mechanism agree with its constructors
(`registerAll_flagsAgree`).

Does not own: the operations the constructors build, which are `Kryoptic.Hmac` and
`Kryoptic.Ec.Montgomery`, and the object factories `register` also installs
(`Montgomery.register`).
-/

namespace Kryoptic

/-! ### The `BTreeMap` -/

/-- Strict key order: the order a `BTreeMap` keeps its entries in. -/
def KeysSorted {μ : Type} (tree : List (Nat × μ)) : Prop := tree.Pairwise fun a b => a.1 < b.1

/-- `BTreeMap::insert` on the entries in key order: an absent key goes in its place, a present
one has its value replaced. -/
def treeInsert {μ : Type} (key : Nat) (value : μ) : List (Nat × μ) → List (Nat × μ)
  | [] => [(key, value)]
  | entry :: rest =>
      if key < entry.1 then (key, value) :: entry :: rest
      else if key = entry.1 then (key, value) :: rest
      else entry :: treeInsert key value rest

section Tree

variable {μ : Type}

/-- A key below every key of a map is absent from it. -/
theorem lookup_eq_none_of_lt {tree : List (Nat × μ)} {t : Nat} (below : ∀ e ∈ tree, t < e.1) :
    tree.lookup t = none :=
  List.lookup_eq_none_iff.mpr fun e member => bne_iff_ne.mpr (Nat.ne_of_lt (below e member))

variable (key : Nat) (value : μ)

/-- A bound every key of a map and the new key meet holds of every key after the insert. -/
theorem forall_treeInsert (p : Nat → Prop) {tree : List (Nat × μ)} (holds : p key)
    (all : ∀ e ∈ tree, p e.1) : ∀ e ∈ treeInsert key value tree, p e.1 := by
  induction tree with
  | nil => simpa [treeInsert] using holds
  | cons entry rest inductionHypothesis =>
      rw [List.forall_mem_cons] at all
      unfold treeInsert
      split_ifs
      · exact List.forall_mem_cons.mpr ⟨holds, List.forall_mem_cons.mpr all⟩
      · exact List.forall_mem_cons.mpr ⟨holds, all.2⟩
      · exact List.forall_mem_cons.mpr ⟨all.1, inductionHypothesis all.2⟩

theorem treeInsert_sorted {tree : List (Nat × μ)} (sorted : KeysSorted tree) :
    KeysSorted (treeInsert key value tree) := by
  induction tree with
  | nil => exact List.pairwise_singleton _ _
  | cons entry rest inductionHypothesis =>
      rw [KeysSorted, List.pairwise_cons] at sorted
      unfold treeInsert
      split_ifs with before same
      · exact .cons (List.forall_mem_cons.mpr ⟨before, fun e member =>
          before.trans (sorted.1 e member)⟩) (.cons sorted.1 sorted.2)
      · exact .cons (fun e member => same ▸ sorted.1 e member) sorted.2
      · exact .cons (forall_treeInsert key value (entry.1 < ·) (by omega) sorted.1)
          (inductionHypothesis sorted.2)

/-- `get` after `insert`: the inserted value under its key, every other key as before. -/
theorem lookup_treeInsert (tree : List (Nat × μ)) (t : Nat) :
    (treeInsert key value tree).lookup t = if t = key then some value else tree.lookup t := by
  induction tree with
  | nil => simp [treeInsert, lookup_cons_ite]
  | cons entry rest inductionHypothesis =>
      obtain ⟨k, v⟩ := entry
      unfold treeInsert
      split_ifs with before same <;>
        simp only [lookup_cons_ite, inductionHypothesis] <;> split_ifs <;> simp_all

/-- Two maps in strict key order with the same lookups are the same map. -/
theorem eq_of_lookup {tree tree' : List (Nat × μ)} (sorted : KeysSorted tree)
    (sorted' : KeysSorted tree') (same : ∀ t, tree.lookup t = tree'.lookup t) : tree = tree' := by
  induction tree generalizing tree' with
  | nil =>
      cases tree' with
      | nil => rfl
      | cons entry _ =>
          obtain ⟨k, v⟩ := entry
          simpa [lookup_cons_ite] using same k
  | cons entry rest inductionHypothesis =>
      obtain ⟨k, v⟩ := entry
      cases tree' with
      | nil => simpa [lookup_cons_ite] using (same k).symm
      | cons entry' rest' =>
          obtain ⟨k', v'⟩ := entry'
          rw [KeysSorted, List.pairwise_cons] at sorted sorted'
          have keys : k = k' := by
            rcases lt_trichotomy k k' with less | equal | greater
            · have absent := lookup_eq_none_of_lt fun e member => less.trans (sorted'.1 e member)
              simpa [lookup_cons_ite, less.ne, absent] using same k
            · exact equal
            · have absent := lookup_eq_none_of_lt fun e member => greater.trans (sorted.1 e member)
              simpa [lookup_cons_ite, greater.ne, absent] using (same k').symm
          subst keys
          have values : v = v' := by simpa [lookup_cons_ite] using same k
          have rests : ∀ t, rest.lookup t = rest'.lookup t := fun t => by
            by_cases atKey : t = k
            · subst atKey
              rw [lookup_eq_none_of_lt sorted.1, lookup_eq_none_of_lt sorted'.1]
            · simpa [lookup_cons_ite, atKey] using same t
          rw [values, inductionHypothesis sorted.2 sorted'.2 rests]

end Tree

/-! ### The registered mechanisms -/

/-- The `Box<dyn Mechanism>` values the sources register, one constructor per `impl Mechanism`. -/
inductive MechanismImpl where
  | hmac (mech : HMACMechanism)
  | ecMontgomery (mech : ECMontgomeryMechanism)
deriving DecidableEq, Repr

namespace MechanismImpl

def info : MechanismImpl → CK_MECHANISM_INFO
  | .hmac mech => mech.info
  | .ecMontgomery mech => mech.info

/-- The body of every constructor of the `Mechanism` trait that an `impl` leaves as it is. -/
def unsupported {α : Type} : KResult α := errRv CKR_MECHANISM_INVALID

/-! The constructors neither `impl` overrides, over the operation type `α` they would build. -/

def encryptionNew {α : Type} : MechanismImpl → CK_MECHANISM → Object → KResult α
  | .hmac _, _, _ => unsupported
  | .ecMontgomery _, _, _ => unsupported

def decryptionNew {α : Type} : MechanismImpl → CK_MECHANISM → Object → KResult α
  | .hmac _, _, _ => unsupported
  | .ecMontgomery _, _, _ => unsupported

def digestNew {α : Type} : MechanismImpl → CK_MECHANISM → KResult α
  | .hmac _, _ => unsupported
  | .ecMontgomery _, _ => unsupported

def generateKey : MechanismImpl → CK_MECHANISM → List CK_ATTRIBUTE → KResult Object
  | .hmac _, _, _ => unsupported
  | .ecMontgomery _, _, _ => unsupported

/-! The constructors an `impl` overrides: `sign_new` and `verify_new` of `HMACMechanism`, whose
operations are the only `Sign` and `Verify` the registered mechanisms build, and
`generate_keypair` of `ECMontgomeryMechanism`. -/

def signNew {σ : Type} (D : DigestOps σ) :
    MechanismImpl → CK_MECHANISM → Object → KResult (HMACOperation σ)
  | .hmac mech, param, keyobj => mech.signNew D param keyobj
  | .ecMontgomery _, _, _ => unsupported

def verifyNew {σ : Type} (D : DigestOps σ) :
    MechanismImpl → CK_MECHANISM → Object → KResult (HMACOperation σ)
  | .hmac mech, param, keyobj => mech.verifyNew D param keyobj
  | .ecMontgomery _, _, _ => unsupported

def generateKeypair (B : MontgomeryBackend) :
    MechanismImpl → CK_MECHANISM → List CK_ATTRIBUTE → List CK_ATTRIBUTE →
      KResult (Object × Object)
  | .hmac _, _, _, _ => unsupported
  | .ecMontgomery _, mech, pubkeyTemplate, prikeyTemplate =>
      ECMontgomeryMechanism.generateKeypair B mech pubkeyTemplate prikeyTemplate

/-- What `info()` announces of a mechanism, as PKCS #11 reads its flags: a constructor that
succeeds has its `CKF_*` flag set, and the constructors that always fail have theirs clear. -/
structure FlagsAgree (impl : MechanismImpl) : Prop where
  sign : ∀ {σ : Type} (D : DigestOps σ) mech keyobj op, impl.signNew D mech keyobj = .ok op →
    impl.info.flags &&& CKF_SIGN = CKF_SIGN
  verify : ∀ {σ : Type} (D : DigestOps σ) mech keyobj op, impl.verifyNew D mech keyobj = .ok op →
    impl.info.flags &&& CKF_VERIFY = CKF_VERIFY
  generateKeypair : ∀ B mech pubkeyTemplate prikeyTemplate keys,
    impl.generateKeypair B mech pubkeyTemplate prikeyTemplate = .ok keys →
      impl.info.flags &&& CKF_GENERATE_KEY_PAIR = CKF_GENERATE_KEY_PAIR
  unsupported : ∀ {α : Type} mech keyobj template,
    (impl.encryptionNew mech keyobj : KResult α) = errRv CKR_MECHANISM_INVALID ∧
      (impl.decryptionNew mech keyobj : KResult α) = errRv CKR_MECHANISM_INVALID ∧
      (impl.digestNew mech : KResult α) = errRv CKR_MECHANISM_INVALID ∧
      impl.generateKey mech template = errRv CKR_MECHANISM_INVALID
  unsupportedFlags :
    impl.info.flags &&& (CKF_ENCRYPT ||| CKF_DECRYPT ||| CKF_DIGEST ||| CKF_GENERATE) = 0

end MechanismImpl

/-- `sign_new` and `verify_new` check their flag first. -/
theorem HMACMechanism.operationNew_flag {σ : Type} {D : DigestOps σ} {flag : Nat}
    {self : HMACMechanism} {mech : CK_MECHANISM} {keyobj : Object} {op : HMACOperation σ}
    (built : self.operationNew D flag mech keyobj = .ok op) : self.info.flags &&& flag = flag := by
  unfold HMACMechanism.operationNew at built
  split_ifs at built with unflagged
  · cases built
  · exact not_not.mp unflagged

/-- An HMAC mechanism announcing exactly signing and verifying, as `register` adds them. -/
theorem MechanismImpl.flagsAgree_hmac {mech : HMACMechanism}
    (flags : mech.info.flags = CKF_SIGN ||| CKF_VERIFY) : (MechanismImpl.hmac mech).FlagsAgree where
  sign _ _ _ _ built := HMACMechanism.operationNew_flag built
  verify _ _ _ _ built := HMACMechanism.operationNew_flag built
  generateKeypair _ _ _ _ _ built := by cases built
  unsupported _ _ _ := ⟨rfl, rfl, rfl, rfl⟩
  unsupportedFlags := by simp only [info, flags]; decide

/-- A Montgomery mechanism announcing exactly key-pair generation, as `register_mechanisms`
adds it. -/
theorem MechanismImpl.flagsAgree_ecMontgomery {mech : ECMontgomeryMechanism}
    (flags : mech.info.flags = CKF_GENERATE_KEY_PAIR) :
    (MechanismImpl.ecMontgomery mech).FlagsAgree where
  sign _ _ _ _ built := by cases built
  verify _ _ _ _ built := by cases built
  generateKeypair _ _ _ _ _ _ := by simp only [info, flags]; decide
  unsupported _ _ _ := ⟨rfl, rfl, rfl, rfl⟩
  unsupportedFlags := by simp only [info, flags]; decide

/-! ### `Mechanisms` -/

/-- The registry's `BTreeMap`, as its entries in strict key order. -/
structure Mechanisms where
  tree : List (Nat × MechanismImpl)
  sorted : KeysSorted tree

namespace Mechanisms

def new : Mechanisms := ⟨[], List.Pairwise.nil⟩

def addMechanism (self : Mechanisms) (typ : Nat) (info : MechanismImpl) : Mechanisms :=
  ⟨treeInsert typ info self.tree, treeInsert_sorted typ info self.sorted⟩

def len (self : Mechanisms) : Nat := self.tree.length

def list (self : Mechanisms) : List Nat := self.tree.map (·.1)

def info (self : Mechanisms) (typ : Nat) : Option CK_MECHANISM_INFO :=
  match self.tree.lookup typ with
  | some m => some m.info
  | none => none

def get (self : Mechanisms) (typ : Nat) : KResult MechanismImpl :=
  match self.tree.lookup typ with
  | some m => .ok m
  | none => errRv CKR_MECHANISM_INVALID

/-- A registry is determined by what its map answers. -/
theorem ext_lookup {m m' : Mechanisms} (same : ∀ t, m.tree.lookup t = m'.tree.lookup t) :
    m = m' := by
  obtain ⟨tree, sorted⟩ := m
  obtain ⟨tree', sorted'⟩ := m'
  obtain rfl := eq_of_lookup sorted sorted' same
  rfl

theorem lookup_addMechanism (self : Mechanisms) (typ : Nat) (info : MechanismImpl) (t : Nat) :
    (self.addMechanism typ info).tree.lookup t =
      if t = typ then some info else self.tree.lookup t :=
  lookup_treeInsert typ info self.tree t

/-- `add_mechanism` calls over distinct types: a type one of them adds answers with what it
added, every other type as before. -/
theorem lookup_foldl_addMechanism {entries : List (Nat × MechanismImpl)}
    (distinct : (entries.map (·.1)).Nodup) (self : Mechanisms) (t : Nat) :
    (entries.foldl (fun mechs entry => mechs.addMechanism entry.1 entry.2) self).tree.lookup t =
      (entries.lookup t).or (self.tree.lookup t) := by
  induction entries generalizing self with
  | nil => rfl
  | cons entry rest inductionHypothesis =>
      obtain ⟨k, v⟩ := entry
      rw [List.map_cons, List.nodup_cons] at distinct
      rw [List.foldl_cons, inductionHypothesis distinct.2, lookup_addMechanism, lookup_cons_ite]
      by_cases same : t = k
      · subst same
        have absent : rest.lookup t = none :=
          List.lookup_eq_none_iff.mpr fun e member => bne_iff_ne.mpr fun hit =>
            distinct.1 (List.mem_map.mpr ⟨e, member, hit.symm⟩)
        simp [absent]
      · simp [same]

/-- `get` fails exactly for the types `list` does not name, and `info` answers for a type
`get` finds with that mechanism's `info()`. -/
theorem get_eq_error_iff (self : Mechanisms) (typ : Nat) :
    self.get typ = errRv CKR_MECHANISM_INVALID ↔ typ ∉ self.list := by
  have named : typ ∈ self.list ↔ (self.tree.lookup typ).isSome := by
    simp only [list, List.lookup_isSome_iff, List.mem_map, beq_iff_eq]
    exact ⟨fun ⟨e, member, hit⟩ => ⟨e, member, hit.symm⟩,
      fun ⟨e, member, hit⟩ => ⟨e, member, hit.symm⟩⟩
  rw [named, get]
  split <;> simp [*, errRv]

theorem info_of_get {self : Mechanisms} {typ : Nat} {impl : MechanismImpl}
    (got : self.get typ = .ok impl) : self.info typ = some impl.info := by
  unfold get at got
  unfold info
  split at got <;> cases got
  simp [*]

end Mechanisms

/-! ### Registrations -/

/-- The `register` functions that fill the registry: `hmac::register`, and
`ec::montgomery::register`, whose mechanisms are those of `register_mechanisms`. -/
inductive Registration where
  | hmac
  | ecMontgomery
deriving DecidableEq, Repr

namespace Registration

/-- The `add_mechanism` calls a registration makes, in its order. -/
def entries : Registration → List (Nat × MechanismImpl)
  | .hmac => register.map fun entry => (entry.1, .hmac entry.2)
  | .ecMontgomery =>
      ECMontgomeryMechanism.registerMechanisms.map fun entry => (entry.1, .ecMontgomery entry.2)

/-- A registration run on a registry: its `add_mechanism` calls one after another. -/
def run (self : Registration) (mechs : Mechanisms) : Mechanisms :=
  self.entries.foldl (fun mechs entry => mechs.addMechanism entry.1 entry.2) mechs

theorem entries_distinct (self : Registration) : (self.entries.map (·.1)).Nodup := by
  cases self <;> decide

theorem lookup_run (self : Registration) (mechs : Mechanisms) (t : Nat) :
    (self.run mechs).tree.lookup t = (self.entries.lookup t).or (mechs.tree.lookup t) :=
  Mechanisms.lookup_foldl_addMechanism self.entries_distinct mechs t

/-- The two registrations add disjoint sets of types, so at most one of them answers for a type. -/
theorem exists_cover (t : Nat) :
    ∃ r : Registration, ∀ r', (r'.entries.lookup t).isSome → r' = r := by
  by_cases montgomery : t = CKM_EC_MONTGOMERY_KEY_PAIR_GEN
  · refine ⟨.ecMontgomery, fun r' found => ?_⟩
    cases r'
    · subst montgomery
      exact absurd found (by decide)
    · rfl
  · refine ⟨.hmac, fun r' found => ?_⟩
    cases r'
    · rfl
    · simp [entries, ECMontgomeryMechanism.registerMechanisms, lookup_cons_ite, montgomery] at found

/-- Every mechanism a registration adds announces what its constructors do. -/
theorem entries_flagsAgree (self : Registration) : ∀ e ∈ self.entries, e.2.FlagsAgree := by
  cases self
  · have flags : ∀ e ∈ register, e.2.info.flags = CKF_SIGN ||| CKF_VERIFY := by decide
    simp only [entries, List.mem_map]
    rintro _ ⟨e, member, rfl⟩
    exact MechanismImpl.flagsAgree_hmac (flags e member)
  · simp only [entries, ECMontgomeryMechanism.registerMechanisms, List.map_cons, List.map_nil,
      List.mem_singleton]
    rintro _ rfl
    exact MechanismImpl.flagsAgree_ecMontgomery rfl

end Registration

/-- Registrations one after another. -/
def registerAll (regs : List Registration) (mechs : Mechanisms) : Mechanisms :=
  regs.foldl (fun mechs r => r.run mechs) mechs

/-- After a sequence of registrations, a type answers with what the registration covering it
adds, if that registration ran, and as before otherwise. -/
theorem lookup_registerAll (regs : List Registration) (mechs : Mechanisms) (t : Nat)
    (r : Registration) (covers : ∀ r', (r'.entries.lookup t).isSome → r' = r) :
    (registerAll regs mechs).tree.lookup t =
      (if r ∈ regs then r.entries.lookup t else none).or (mechs.tree.lookup t) := by
  induction regs generalizing mechs with
  | nil => rfl
  | cons first rest inductionHypothesis =>
      rw [registerAll, List.foldl_cons, ← registerAll, inductionHypothesis,
        Registration.lookup_run]
      by_cases same : first = r
      · subst same
        by_cases later : first ∈ rest <;> cases first.entries.lookup t <;> simp [later]
      · have silent : first.entries.lookup t = none :=
          Option.not_isSome_iff_eq_none.mp fun found => same (covers first found)
        simp [silent, List.mem_cons, Ne.symm same]

/-- **The registry depends only on which registrations ran.** From any registry, two sequences
of registrations that make the same registrations, in any order and any number of times, build
the same registry: the registrations add disjoint sets of types, and `add_mechanism` of a type
already present replaces its entry with the same one. -/
theorem registry_order_independent (regs regs' : List Registration) (mechs : Mechanisms)
    (same : ∀ r, r ∈ regs ↔ r ∈ regs') : registerAll regs mechs = registerAll regs' mechs :=
  Mechanisms.ext_lookup fun t => by
    obtain ⟨r, covers⟩ := Registration.exists_cover t
    rw [lookup_registerAll regs mechs t r covers, lookup_registerAll regs' mechs t r covers,
      if_congr (same r) rfl rfl]

theorem registry_order_independent_sample :
    (∀ r, r ∈ [Registration.hmac, .ecMontgomery, .hmac] ↔ r ∈ [Registration.ecMontgomery, .hmac]) ∧
      registerAll [.hmac, .ecMontgomery, .hmac] Mechanisms.new =
        registerAll [.ecMontgomery, .hmac] Mechanisms.new :=
  have same : ∀ r, r ∈ [Registration.hmac, .ecMontgomery, .hmac] ↔
      r ∈ [Registration.ecMontgomery, .hmac] := fun r => by cases r <;> decide
  ⟨same, registry_order_independent _ _ _ same⟩

/-- A mechanism found in a registry that registrations built from `new` is one a registration
added. -/
theorem mem_entries_of_get {regs : List Registration} {typ : Nat} {impl : MechanismImpl}
    (got : (registerAll regs Mechanisms.new).get typ = .ok impl) :
    ∃ r : Registration, (typ, impl) ∈ r.entries := by
  obtain ⟨r, covers⟩ := Registration.exists_cover typ
  have found : (registerAll regs Mechanisms.new).tree.lookup typ = some impl := by
    unfold Mechanisms.get at got
    split at got <;> cases got
    assumption
  rw [lookup_registerAll regs _ typ r covers] at found
  refine ⟨r, ?_⟩
  split_ifs at found
  · have own : r.entries.lookup typ = some impl := by simpa [Mechanisms.new] using found
    obtain ⟨before, after, split, -⟩ := List.lookup_eq_some_iff.mp own
    rw [split]
    exact List.mem_append_right _ (List.mem_cons_self _ _)
  · simp [Mechanisms.new] at found

/-- In a registry the registrations build from `new`, `get` fails exactly for the types `list`
does not name, and a mechanism it finds has the `info()` that `info` answers with and announces
what its constructors do. -/
theorem registerAll_flagsAgree (regs : List Registration) (typ : Nat) :
    ((registerAll regs Mechanisms.new).get typ = errRv CKR_MECHANISM_INVALID ↔
        typ ∉ (registerAll regs Mechanisms.new).list) ∧
      ∀ impl, (registerAll regs Mechanisms.new).get typ = .ok impl →
        (registerAll regs Mechanisms.new).info typ = some impl.info ∧ impl.FlagsAgree := by
  refine ⟨Mechanisms.get_eq_error_iff _ typ, fun impl got => ⟨Mechanisms.info_of_get got, ?_⟩⟩
  obtain ⟨r, member⟩ := mem_entries_of_get got
  exact r.entries_flagsAgree _ member

end Kryoptic
