import Kryoptic.Interface

/-!
Contract: the operation traits of `mechanism.rs` and the lifecycle every operation follows.

Owns: `OpM`, the form of a `&mut self` method returning `KResult`, with the frame predicates
`Steps`, `Keeps` and `Returns` and one lemma for each construct a method is written with (bind,
`pure`, the guards, `modify`, `if`); the calls of `Sign`, `Verify`,
`Encryption` and `Decryption`; the abstract machine of the operation lifecycle (`Phase`,
`Transition.Allowed`, `Path`); and `OperationMachine`, an operation driven by its caller, with the
refinement theorem `trace_path`: a machine whose every step is allowed runs along a path of the
abstract machine, from whatever state it starts.

The abstract machine is the spec's own statement of the lifecycle (§4.5): `Fresh`, `Running`
and `Done` from the two flags `in_use` and `finalized`; no call moves an operation back; every
call made in `Done` fails; a one-shot call succeeds only from `Fresh`, an update only from the
phases its mechanism admits, leaving `Running`, a final only from `Running`, leaving `Done`.

Does not own: the operations themselves, which are `Kryoptic.Hmac` and `Kryoptic.Fips.Rsa`.
-/

namespace Kryoptic

/-- A method on `&mut self` returning `KResult<α>`: on an error the state keeps every change
made before the `?` or `return`, as in Rust. -/
abbrev OpM (δ α : Type) := EStateM KError δ α

section OpM

variable {δ α β : Type}

/-- The state after a call, whatever the call returned. -/
def resultState {ε : Type} : EStateM.Result ε δ α → δ
  | .ok _ s => s
  | .error _ s => s

/-- Whether a call returned `Ok`. -/
def succeeded {ε : Type} : EStateM.Result ε δ α → Bool
  | .ok _ _ => true
  | .error _ _ => false

@[simp] theorem resultState_ok {ε : Type} (a : α) (s : δ) :
    resultState (EStateM.Result.ok a s : EStateM.Result ε δ α) = s := rfl
@[simp] theorem resultState_error {ε : Type} (e : ε) (s : δ) :
    resultState (EStateM.Result.error e s : EStateM.Result ε δ α) = s := rfl
@[simp] theorem succeeded_ok {ε : Type} (a : α) (s : δ) :
    succeeded (EStateM.Result.ok a s : EStateM.Result ε δ α) = true := rfl
@[simp] theorem succeeded_error {ε : Type} (e : ε) (s : δ) :
    succeeded (EStateM.Result.error e s : EStateM.Result ε δ α) = false := rfl

/-- `if c { return err_rv!(rv); }`. -/
def guardRv (c : Bool) (rv : Nat) : OpM δ Unit := fun s =>
  if c then .error (.rvError rv) s else .ok () s

/-- `match x { Err(e) => { <handle>; return Err(e); } Ok(v) => v }`: `handle` changes the state
on the error path only. -/
def onErr (x : OpM δ α) (handle : δ → δ) : OpM δ α := fun s =>
  match x s with
  | .ok a s' => .ok a s'
  | .error e s' => .error e (handle s')

/-! The program steps, one lemma each, so that a method unfolds to its control flow. -/

@[simp] theorem bind_apply (x : OpM δ α) (f : α → OpM δ β) (s : δ) :
    (x >>= f) s = match x s with
      | .ok a s' => f a s'
      | .error e s' => .error e s' := by
  show EStateM.bind x f s = _
  unfold EStateM.bind
  cases x s <;> rfl

@[simp] theorem pure_apply (a : α) (s : δ) : (pure a : OpM δ α) s = .ok a s := rfl

@[simp] theorem throw_apply (e : KError) (s : δ) : (throw e : OpM δ α) s = .error e s := rfl

@[simp] theorem get_apply (s : δ) : (get : OpM δ δ) s = .ok s s := rfl

@[simp] theorem modify_apply (f : δ → δ) (s : δ) : (modify f : OpM δ Unit) s = .ok () (f s) := rfl

@[simp] theorem guardRv_false (rv : Nat) (s : δ) : (guardRv false rv : OpM δ Unit) s = .ok () s :=
  rfl

@[simp] theorem guardRv_true (rv : Nat) (s : δ) :
    (guardRv true rv : OpM δ Unit) s = .error (.rvError rv) s := rfl

@[simp] theorem guardRv_false_bind (rv : Nat) (rest : Unit → OpM δ α) (s : δ) :
    (guardRv false rv >>= rest) s = rest () s := rfl

@[simp] theorem guardRv_true_bind (rv : Nat) (rest : Unit → OpM δ α) (s : δ) :
    (guardRv true rv >>= rest) s = .error (.rvError rv) s := rfl

/-! #### Frames -/

/-- Every call of `x` ends in a state that `rel` relates to the one it started from, whatever it
returns. -/
def Steps (rel : δ → δ → Prop) (x : OpM δ α) : Prop := ∀ s, rel s (resultState (x s))

namespace Steps

variable {rel : δ → δ → Prop}

theorem bind (trans : ∀ a b c, rel a b → rel b c → rel a c) {x : OpM δ α}
    {g : α → OpM δ β} (first : Steps rel x) (rest : ∀ a, Steps rel (g a)) :
    Steps rel (x >>= g) := fun s => by
  have stepped := first s
  rw [bind_apply]
  cases result : x s with
  | ok a s' => rw [result] at stepped; exact trans _ _ _ stepped (rest a s')
  | error e s' => rw [result] at stepped; exact stepped

theorem pure (refl : ∀ s, rel s s) (a : α) : Steps rel (Pure.pure a : OpM δ α) := refl

theorem get (refl : ∀ s, rel s s) : Steps rel (MonadState.get : OpM δ δ) := refl

theorem throw (refl : ∀ s, rel s s) (e : KError) : Steps rel (MonadExcept.throw e : OpM δ α) :=
  refl

theorem guardRv (refl : ∀ s, rel s s) (c : Bool) (rv : Nat) :
    Steps rel (Kryoptic.guardRv c rv : OpM δ Unit) := fun s => by
  cases c
  · exact refl s
  · exact refl s

theorem ofModify {g : δ → δ} (step : ∀ s, rel s (g s)) : Steps rel (modify g : OpM δ Unit) :=
  step

theorem ite {c : Prop} [Decidable c] {x y : OpM δ α} (stepsThen : Steps rel x)
    (stepsElse : Steps rel y) : Steps rel (if c then x else y) := by
  split
  · exact stepsThen
  · exact stepsElse

theorem map {x : OpM δ β} (steps : Steps rel x) (f : β → α) : Steps rel (f <$> x) := fun s => by
  have stepped := steps s
  show rel s (resultState (EStateM.map f x s))
  unfold EStateM.map
  cases result : x s with
  | ok a s' => rw [result] at stepped; exact stepped
  | error e s' => rw [result] at stepped; exact stepped

/-- What follows `modify g` ends related to the modified state. -/
theorem modify_bind {g : δ → δ} {rest : PUnit → OpM δ α} (steps : ∀ u, Steps rel (rest u))
    (s : δ) : rel (g s) (resultState ((modify g >>= rest) s)) := by
  rw [bind_apply, modify_apply]
  exact steps _ (g s)

end Steps

/-- `x` leaves `f` of the state as it was, whatever it returns. -/
def Keeps {γ : Type} (f : δ → γ) (x : OpM δ α) : Prop := Steps (fun s s' => f s' = f s) x

namespace Keeps

variable {γ : Type} {f : δ → γ}

theorem bind {x : OpM δ α} {g : α → OpM δ β} (first : Keeps f x) (rest : ∀ a, Keeps f (g a)) :
    Keeps f (x >>= g) := Steps.bind (fun _ _ _ kept kept' => kept'.trans kept) first rest

theorem pure (a : α) : Keeps f (Pure.pure a : OpM δ α) := fun _ => rfl

theorem get : Keeps f (MonadState.get : OpM δ δ) := fun _ => rfl

theorem throw (e : KError) : Keeps f (MonadExcept.throw e : OpM δ α) := fun _ => rfl

theorem guardRv (c : Bool) (rv : Nat) : Keeps f (Kryoptic.guardRv c rv : OpM δ Unit) :=
  fun _ => by cases c <;> rfl

theorem ofModify {g : δ → δ} (unchanged : ∀ s, f (g s) = f s) :
    Keeps f (modify g : OpM δ Unit) := unchanged

theorem ite {c : Prop} [Decidable c] {x y : OpM δ α} (keptThen : Keeps f x)
    (keptElse : Keeps f y) : Keeps f (if c then x else y) := Steps.ite keptThen keptElse

/-- What follows `x` and keeps `f` leaves `f` as `x` left it. -/
theorem bind_right {x : OpM δ α} {g : α → OpM δ β} (kept : ∀ a, Keeps f (g a)) (s : δ) :
    f (resultState ((x >>= g) s)) = f (resultState (x s)) := by
  rw [bind_apply]
  cases x s with
  | ok a s' => exact kept a s'
  | error e s' => rfl

/-- What follows `modify g` leaves `f` of the modified state. -/
theorem modify_bind {g : δ → δ} {rest : PUnit → OpM δ α} (kept : ∀ u, Keeps f (rest u))
    (s : δ) : f (resultState ((modify g >>= rest) s)) = f (g s) :=
  bind_right kept s

/-- A program that keeps `f` of the state steps by every reflexive relation read on `f`. -/
theorem steps {r : γ → γ → Prop} (refl : ∀ a, r a a) {x : OpM δ α} (kept : Keeps f x) :
    Steps (fun s s' => r (f s) (f s')) x := fun s => by
  have same : f (resultState (x s)) = f s := kept s
  show r (f s) (f (resultState (x s)))
  rw [same]
  exact refl _

end Keeps

/-- Every value `x` returns satisfies `p`. -/
def Returns (p : α → Prop) (x : OpM δ α) : Prop := ∀ s a s', x s = .ok a s' → p a

namespace Returns

variable {p : α → Prop}

/-- A bind whose continuation may use what the first program returned. -/
theorem bind_of {q : β → Prop} {x : OpM δ β} {g : β → OpM δ α} (first : Returns q x)
    (rest : ∀ b, q b → Returns p (g b)) : Returns p (x >>= g) := fun s a s' returned => by
  rw [bind_apply] at returned
  cases result : x s with
  | ok b s'' => rw [result] at returned; exact rest b (first s b s'' result) s'' a s' returned
  | error e s'' => rw [result] at returned; cases returned

theorem bind {x : OpM δ β} {g : β → OpM δ α} (rest : ∀ b, Returns p (g b)) :
    Returns p (x >>= g) :=
  bind_of (fun _ _ _ _ => trivial) fun b _ => rest b

theorem pure {a : α} (holds : p a) : Returns p (Pure.pure a : OpM δ α) := fun _ _ _ returned => by
  cases returned
  exact holds

theorem ite {c : Prop} [Decidable c] {x y : OpM δ α} (returnsThen : Returns p x)
    (returnsElse : Returns p y) : Returns p (if c then x else y) := by
  split
  · exact returnsThen
  · exact returnsElse

theorem imp {q : α → Prop} {x : OpM δ α} (holds : Returns p x) (weaken : ∀ a, p a → q a) :
    Returns q x := fun s a s' returned => weaken a (holds s a s' returned)

end Returns

/-- Every error `x` raises satisfies `p`. -/
def Raises (p : KError → Prop) (x : OpM δ α) : Prop := ∀ s e s', x s = .error e s' → p e

namespace Raises

variable {p : KError → Prop}

theorem bind {x : OpM δ β} {g : β → OpM δ α} (first : Raises p x) (rest : ∀ b, Raises p (g b)) :
    Raises p (x >>= g) := fun s e s' raised => by
  rw [bind_apply] at raised
  cases result : x s with
  | ok b mid => rw [result] at raised; exact rest b mid e s' raised
  | error _ _ =>
      rw [result] at raised
      cases raised
      exact first s _ _ result

theorem pure {a : α} : Raises p (Pure.pure a : OpM δ α) := fun _ _ _ raised => by
  cases raised

theorem guardRv {c : Bool} {rv : Nat} (holds : p (.rvError rv)) :
    Raises p (Kryoptic.guardRv c rv : OpM δ Unit) := fun _ _ _ raised => by
  cases c
  · cases raised
  · cases raised
    exact holds

theorem ofModify {g : δ → δ} : Raises p (modify g : OpM δ Unit) := fun _ _ _ raised => by
  cases raised

end Raises

end OpM

/-! ### The calls of the operation traits -/

/-- The three kinds of call every operation trait has. -/
inductive CallKind where
  | oneShot
  | update
  | final
deriving DecidableEq, Repr

/-- A call on a `Sign` operation; a signature buffer is given by its length. -/
inductive SignCall where
  | sign (data : List UInt8) (signature : Nat)
  | signUpdate (data : List UInt8)
  | signFinal (signature : Nat)
deriving DecidableEq, Repr

/-- A call on a `Verify` operation. -/
inductive VerifyCall where
  | verify (data signature : List UInt8)
  | verifyUpdate (data : List UInt8)
  | verifyFinal (signature : List UInt8)
deriving DecidableEq, Repr

/-- A call on an `Encryption` or a `Decryption` operation, whose methods take the same
arguments: the input, and an output given as a `CK_BYTE_PTR` with its `CK_ULONG_PTR` length,
`none` for a null pointer (a length query) and `some len` for a buffer of `len` bytes. -/
inductive CipherCall where
  | oneShot (input : List UInt8) (output : Option Nat)
  | update (input : List UInt8) (output : Option Nat)
  | final (output : Option Nat)
deriving DecidableEq, Repr

def SignCall.kind : SignCall → CallKind
  | sign .. => .oneShot
  | signUpdate .. => .update
  | signFinal .. => .final

def VerifyCall.kind : VerifyCall → CallKind
  | verify .. => .oneShot
  | verifyUpdate .. => .update
  | verifyFinal .. => .final

def CipherCall.kind : CipherCall → CallKind
  | oneShot .. => .oneShot
  | update .. => .update
  | final .. => .final

/-- `trait Sign` over the operation's state `δ`: each method returns the bytes it writes into
the signature buffer. -/
structure Sign (δ : Type) where
  sign : List UInt8 → Nat → OpM δ (List UInt8)
  signUpdate : List UInt8 → OpM δ Unit
  signFinal : Nat → OpM δ (List UInt8)

/-- `trait Verify` over the operation's state `δ`. -/
structure Verify (δ : Type) where
  verify : List UInt8 → List UInt8 → OpM δ Unit
  verifyUpdate : List UInt8 → OpM δ Unit
  verifyFinal : List UInt8 → OpM δ Unit

/-- `trait Encryption` and `trait Decryption` over the operation's state `δ`: each method returns
the bytes it writes into the output buffer and the length it stores through the length
pointer. -/
structure Cipher (δ : Type) where
  oneShot : List UInt8 → Option Nat → OpM δ (List UInt8 × Nat)
  update : List UInt8 → Option Nat → OpM δ (List UInt8 × Nat)
  final : Option Nat → OpM δ (List UInt8 × Nat)

/-! ### The abstract lifecycle -/

/-- The phase of an operation, spec §4.5. -/
inductive Phase where
  | fresh
  | running
  | done
deriving DecidableEq, Repr

/-- The phase of `MechOperation::in_use` and `MechOperation::finalized`. -/
def phaseOf (inUse finalized : Bool) : Phase :=
  if finalized then .done else if inUse then .running else .fresh

/-- The order in which an operation goes through its phases. -/
def Phase.rank : Phase → Nat
  | fresh => 0
  | running => 1
  | done => 2

theorem Phase.rank_le_done (phase : Phase) : phase.rank ≤ Phase.done.rank := by
  cases phase <;> decide

@[simp] theorem phaseOf_finalized (inUse : Bool) : phaseOf inUse true = .done := rfl

@[simp] theorem phaseOf_eq_fresh_iff (inUse finalized : Bool) :
    phaseOf inUse finalized = .fresh ↔ inUse = false ∧ finalized = false := by
  cases inUse <;> cases finalized <;> decide

@[simp] theorem phaseOf_eq_running_iff (inUse finalized : Bool) :
    phaseOf inUse finalized = .running ↔ inUse = true ∧ finalized = false := by
  cases inUse <;> cases finalized <;> decide

@[simp] theorem phaseOf_eq_done_iff (inUse finalized : Bool) :
    phaseOf inUse finalized = .done ↔ finalized = true := by
  cases inUse <;> cases finalized <;> decide

/-- Which `*_update` calls may succeed: from `Fresh` and `Running`; only from `Running`, for a
single-shot mechanism that rejects a first update (spec §4.5); or none. -/
inductive UpdatePolicy where
  | streaming
  | afterFirst
  | never
deriving DecidableEq, Repr

def UpdatePolicy.admits : UpdatePolicy → Phase → Bool
  | streaming, phase => phase != .done
  | afterFirst, phase => phase == .running
  | never, _ => false

/-- One call as the abstract machine sees it. -/
structure Transition where
  kind : CallKind
  before : Phase
  succeeded : Bool
  after : Phase
deriving DecidableEq, Repr

/-- The transitions the lifecycle of spec §4.5 allows. -/
structure Transition.Allowed (policy : UpdatePolicy) (t : Transition) : Prop where
  forward : t.before.rank ≤ t.after.rank
  doneFails : t.before = .done → t.succeeded = false
  oneShot : t.kind = .oneShot → t.succeeded = true → t.before = .fresh ∧ t.after ≠ .running
  update : t.kind = .update → t.succeeded = true → policy.admits t.before ∧ t.after = .running
  final : t.kind = .final → t.succeeded = true → t.before = .running ∧ t.after = .done

instance (policy : UpdatePolicy) (t : Transition) : Decidable (t.Allowed policy) :=
  decidable_of_iff (t.before.rank ≤ t.after.rank ∧ (t.before = .done → t.succeeded = false) ∧
      (t.kind = .oneShot → t.succeeded = true → t.before = .fresh ∧ t.after ≠ .running) ∧
      (t.kind = .update → t.succeeded = true → policy.admits t.before ∧ t.after = .running) ∧
      (t.kind = .final → t.succeeded = true → t.before = .running ∧ t.after = .done))
    ⟨fun ⟨forward, doneFails, oneShot, update, final⟩ =>
        ⟨forward, doneFails, oneShot, update, final⟩,
      fun ⟨forward, doneFails, oneShot, update, final⟩ =>
        ⟨forward, doneFails, oneShot, update, final⟩⟩

/-- A failed call that moves no operation back is allowed from every phase but `Done`, where it
must stay. -/
theorem Transition.allowed_of_failed {policy : UpdatePolicy} {t : Transition}
    (failed : t.succeeded = false) (forward : t.before.rank ≤ t.after.rank) :
    t.Allowed policy :=
  ⟨forward, fun _ => failed, by simp [failed], by simp [failed], by simp [failed]⟩

namespace Transition

variable {policy : UpdatePolicy}

/-- The transition of a call from `s` that returned `result`. -/
def ofResult {δ α : Type} (kind : CallKind) (phase : δ → Phase) (s : δ)
    (result : EStateM.Result KError δ α) : Transition :=
  ⟨kind, phase s, Kryoptic.succeeded result, phase (resultState result)⟩

@[simp] theorem ofResult_error {δ α : Type} (kind : CallKind) (phase : δ → Phase) (s : δ)
    (e : KError) :
    ofResult kind phase s (EStateM.Result.error e s : EStateM.Result KError δ α) =
      ⟨kind, phase s, false, phase s⟩ := rfl

/-! The four shapes of allowed transition the operations take. -/

theorem allowed_unchanged (kind : CallKind) (phase : Phase) :
    (⟨kind, phase, false, phase⟩ : Transition).Allowed policy :=
  allowed_of_failed rfl le_rfl

theorem allowed_oneShot (ok : Bool) {after : Phase} (notRunning : ok = true → after ≠ .running) :
    (⟨.oneShot, .fresh, ok, after⟩ : Transition).Allowed policy := by
  revert notRunning
  cases policy <;> cases after <;> cases ok <;> decide

/-- A call that failed and left the state as it was. -/
theorem allowed_ofResult_error {δ α : Type} {kind : CallKind} {phase : δ → Phase} {s : δ}
    {result : EStateM.Result KError δ α} {e : KError} (failed : result = .error e s) :
    (ofResult kind phase s result).Allowed policy := by
  rw [failed, ofResult_error]
  exact allowed_unchanged _ _

theorem allowed_update (ok : Bool) {before : Phase} (admitted : policy.admits before = true) :
    (⟨.update, before, ok, .running⟩ : Transition).Allowed policy := by
  revert admitted
  cases policy <;> cases before <;> cases ok <;> decide

theorem allowed_final (ok : Bool) :
    (⟨.final, .running, ok, .done⟩ : Transition).Allowed policy := by
  cases policy <;> cases ok <;> decide

end Transition

/-- The runs of the abstract machine from a phase: consecutive calls meet, and each is
allowed. -/
inductive Path (policy : UpdatePolicy) : Phase → List Transition → Prop where
  | nil (phase : Phase) : Path policy phase []
  | cons {t : Transition} {rest : List Transition} (allowed : t.Allowed policy)
      (next : Path policy t.after rest) : Path policy t.before (t :: rest)

/-! ### Operations driven by their caller -/

/-- An operation as its caller drives it: the kind of each call, what a call does to the
state and whether it returns `Ok`, and the phase of a state. -/
structure OperationMachine (δ Call : Type) where
  kind : Call → CallKind
  step : Call → δ → δ × Bool
  phase : δ → Phase

/-- The step of a method: the state after it and whether it returned `Ok`. -/
def outcome {δ α : Type} (method : OpM δ α) (s : δ) : δ × Bool :=
  (resultState (method s), succeeded (method s))

namespace OperationMachine

variable {δ Call : Type} (m : OperationMachine δ Call)

/-- One call from `s`, as the abstract machine sees it. -/
def transition (call : Call) (s : δ) : Transition :=
  ⟨m.kind call, m.phase s, (m.step call s).2, m.phase (m.step call s).1⟩

/-- The transitions of a sequence of calls from `s`. -/
def trace : List Call → δ → List Transition
  | [], _ => []
  | call :: rest, s => m.transition call s :: trace rest (m.step call s).1

/-- The machine refines the abstract lifecycle under the update policy of its state, which no
call changes. -/
structure Refines (policy : δ → UpdatePolicy) : Prop where
  allowed : ∀ call s, (m.transition call s).Allowed (policy s)
  policy_step : ∀ call s, policy (m.step call s).1 = policy s

/-- Refinement of the abstract machine: from any state, every run of a refining machine is a
path of the lifecycle. -/
theorem trace_path {policy : δ → UpdatePolicy} (refines : m.Refines policy) (calls : List Call)
    (s : δ) : Path (policy s) (m.phase s) (m.trace calls s) := by
  induction calls generalizing s with
  | nil => exact .nil _
  | cons call rest inductionHypothesis =>
      have next := inductionHypothesis (m.step call s).1
      rw [refines.policy_step] at next
      exact .cons (refines.allowed call s) next

/-- From a `Fresh` state, every run of a refining machine is a path of the lifecycle from
`Fresh`. -/
theorem path_of_fresh {policy : δ → UpdatePolicy} (refines : m.Refines policy) {s : δ}
    (fresh : m.phase s = .fresh) (calls : List Call) : Path (policy s) .fresh (m.trace calls s) :=
  fresh ▸ m.trace_path refines calls s

end OperationMachine

/-- An operation used as a `Sign`. -/
def Sign.machine {δ : Type} (ops : Sign δ) (phase : δ → Phase) : OperationMachine δ SignCall where
  kind := SignCall.kind
  step
    | .sign data signature => outcome (ops.sign data signature)
    | .signUpdate data => outcome (ops.signUpdate data)
    | .signFinal signature => outcome (ops.signFinal signature)
  phase := phase

/-- An operation used as a `Verify`. -/
def Verify.machine {δ : Type} (ops : Verify δ) (phase : δ → Phase) :
    OperationMachine δ VerifyCall where
  kind := VerifyCall.kind
  step
    | .verify data signature => outcome (ops.verify data signature)
    | .verifyUpdate data => outcome (ops.verifyUpdate data)
    | .verifyFinal signature => outcome (ops.verifyFinal signature)
  phase := phase

/-- An operation used as an `Encryption` or a `Decryption`. -/
def Cipher.machine {δ : Type} (ops : Cipher δ) (phase : δ → Phase) :
    OperationMachine δ CipherCall where
  kind := CipherCall.kind
  step
    | .oneShot input output => outcome (ops.oneShot input output)
    | .update input output => outcome (ops.update input output)
    | .final output => outcome (ops.final output)
  phase := phase

/-! Each trait's operation refines the lifecycle when each of its three methods does. -/

section TraitRefinement

variable {δ : Type} {phase : δ → Phase} {policy : δ → UpdatePolicy}

theorem Sign.machine_refines {ops : Sign δ}
    (sign : ∀ data signature s,
      (Transition.ofResult .oneShot phase s (ops.sign data signature s)).Allowed (policy s))
    (signUpdate : ∀ data s,
      (Transition.ofResult .update phase s (ops.signUpdate data s)).Allowed (policy s))
    (signFinal : ∀ signature s,
      (Transition.ofResult .final phase s (ops.signFinal signature s)).Allowed (policy s))
    (stable : ∀ call s, policy ((ops.machine phase).step call s).1 = policy s) :
    (ops.machine phase).Refines policy :=
  ⟨fun call s => match call with
    | .sign data signature => sign data signature s
    | .signUpdate data => signUpdate data s
    | .signFinal signature => signFinal signature s, stable⟩

theorem Verify.machine_refines {ops : Verify δ}
    (verify : ∀ data signature s,
      (Transition.ofResult .oneShot phase s (ops.verify data signature s)).Allowed (policy s))
    (verifyUpdate : ∀ data s,
      (Transition.ofResult .update phase s (ops.verifyUpdate data s)).Allowed (policy s))
    (verifyFinal : ∀ signature s,
      (Transition.ofResult .final phase s (ops.verifyFinal signature s)).Allowed (policy s))
    (stable : ∀ call s, policy ((ops.machine phase).step call s).1 = policy s) :
    (ops.machine phase).Refines policy :=
  ⟨fun call s => match call with
    | .verify data signature => verify data signature s
    | .verifyUpdate data => verifyUpdate data s
    | .verifyFinal signature => verifyFinal signature s, stable⟩

theorem Cipher.machine_refines {ops : Cipher δ}
    (oneShot : ∀ input output s,
      (Transition.ofResult .oneShot phase s (ops.oneShot input output s)).Allowed (policy s))
    (update : ∀ input output s,
      (Transition.ofResult .update phase s (ops.update input output s)).Allowed (policy s))
    (final : ∀ output s,
      (Transition.ofResult .final phase s (ops.final output s)).Allowed (policy s))
    (stable : ∀ call s, policy ((ops.machine phase).step call s).1 = policy s) :
    (ops.machine phase).Refines policy :=
  ⟨fun call s => match call with
    | .oneShot input output => oneShot input output s
    | .update input output => update input output s
    | .final output => final output s, stable⟩

end TraitRefinement

end Kryoptic
