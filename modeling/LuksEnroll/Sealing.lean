import LuksEnroll.UnsealOrder

/-!
# What opens a sealed secret

`seal` has the TPM work out a policy in a trial session and seals the secret to its digest; years
later `try_unseal_token` loads the blob, replays the policy in a session of its own and asks for the
secret.  The two meet only through the token on the volume.  That they replay the same policy, over
the same registers and with the PIN exactly when there was one, is the code's doing; the rest is the
TPM's.

The TPM answers from a state of sessions and loaded objects, and the environment settles at every
command whether it fails, which handle it hands out and what the registers hold.  Its cryptography is
a parameter: a hash, a digest of policies, and a wrapping that this TPM can undo.

`sealed_token_unseals_iff`: what was sealed for a token comes out of it again if and only if every
selected register holds what it held, and the PIN is the one it was sealed with, if any.

Every function of the source has one specification (`…_spec`) in terms of the state of the TPM, with
the failures of the environment named (`TpmFaulty`), so that a failure is never mistaken for a wrong
register or a wrong PIN.
-/

namespace LuksEnroll

open Library

/-! ## The TPM

A state of sessions and loaded objects, and what each command does to it.  Return codes are those
that the source tells apart.
-/

/-- What the registers hold, bank by bank, each named by the bit that selects it. -/
abbrev Registers := HashingAlgorithm → ℕ → Bytes

/-- The selected registers with what they hold, in the TPM's order. -/
def Registers.selected (R : Registers) (pcrs : PcrSelection) : List (ℕ × Bytes) :=
  (pcrs.slots.insertionSort (· ≤ ·)).map fun slot => (slot, R pcrs.bank slot)

/-- A policy command, with what it binds. -/
inductive PolicyStep : Type
  | pcr (bank : HashingAlgorithm) (registers : List (ℕ × Bytes))
  | authValue
  deriving DecidableEq

/-- A sealed object. -/
structure SealedObject where
  secret : Bytes
  auth : Bytes
  policy : Bytes

/-- The cryptography of a TPM, and of the library in front of it. -/
structure TpmCrypto where
  /-- The digest that a policy session has after these commands. -/
  digest : List PolicyStep → Bytes
  sha256 : Bytes → Bytes
  /-- The private and the public part of an object, under the storage key of this TPM. -/
  wrap : Bytes → SealedObject → Bytes × Bytes
  marshalPrivate : Bytes → Bytes
  marshalPublic : Bytes → Bytes
  /-- The object in a marshaled blob, if it was wrapped by this TPM. -/
  unwrap : Bytes → Option SealedObject

/-- The auth value of an object: `SHA-256(pin)`, or empty. -/
def TpmCrypto.authOf (K : TpmCrypto) (pin : String) : Bytes :=
  if pin = "" then [] else K.sha256 (asBytes pin)

/-- What the documentation promises. -/
structure TpmCrypto.Documented (K : TpmCrypto) : Prop where
  sha256_length : ∀ bytes, (K.sha256 bytes).length = 32
  unwrap_wrap : ∀ nonce object,
    K.unwrap (K.marshalPrivate (K.wrap nonce object).1 ++ K.marshalPublic (K.wrap nonce object).2)
      = some object

/-- A TPM with the context in front of it. -/
structure Tpm where
  /-- The handle of the persistent storage key, if it has one. -/
  srk : Option ℕ
  objects : ℕ → Option SealedObject
  /-- The auth values that the context holds for objects. -/
  auths : ℕ → Bytes
  sessions : ℕ → Option (ℕ × List PolicyStep)

/-- What the environment settles at a command. -/
structure TpmInput where
  rc : ℕ := 0
  handle : ℕ := 0
  nonce : Bytes := []
  built : Except String Unit := Except.ok ()
  registers : Registers

namespace Tpm

/-- `TPM_RC_HANDLE`. -/
def rcHandle : ℕ := 0x18B

/-- `TPM_RC_POLICY_FAIL`. -/
def rcPolicyFail : ℕ := 0x99D

/-- `TPM_RC_INTEGRITY`. -/
def rcIntegrity : ℕ := 0x1DF

/-- A session starts, with no policy in it. -/
def start (s : Tpm) (session sessionType : ℕ) : Tpm :=
  { s with sessions := Function.update s.sessions session (some (sessionType, [])) }

/-- The policy of a session grows. -/
def extend (s : Tpm) (session sessionType : ℕ) (steps : List PolicyStep) : Tpm :=
  { s with sessions := Function.update s.sessions session (some (sessionType, steps)) }

/-- An object is loaded under a handle, and without a PIN. -/
def place (s : Tpm) (handle : ℕ) (object : SealedObject) : Tpm :=
  { s with
    objects := Function.update s.objects handle (some object)
    auths := Function.update s.auths handle [] }

/-- The PIN for a handle is set. -/
def setAuth (s : Tpm) (handle : ℕ) (auth : Bytes) : Tpm :=
  { s with auths := Function.update s.auths handle auth }

/-- A handle is forgotten. -/
def flush (s : Tpm) (handle : ℕ) : Tpm :=
  { s with
    objects := Function.update s.objects handle none
    sessions := Function.update s.sessions handle none }

/-- A policy command on a session. -/
def policyCommand (s : Tpm) (rc session : ℕ) (step : PolicyStep) : ℕ × Tpm :=
  if rc ≠ 0 then (rc, s)
  else
    match s.sessions session with
    | some (sessionType, steps) => (0, s.extend session sessionType (steps ++ [step]))
    | none => (rcHandle, s)

/-- May this session have the object's secret? -/
def authorises (K : TpmCrypto) (s : Tpm) (handle session : ℕ) (object : SealedObject) : Bool :=
  match s.sessions session with
  | some (sessionType, steps) =>
      decide (sessionType = tpm2SePolicy) && decide (K.digest steps = object.policy)
        && (!decide (PolicyStep.authValue ∈ steps) || decide (s.auths handle = object.auth))
  | none => false

end Tpm

/-- The answer to a command, and the state after it. -/
def tpm (K : TpmCrypto) : Handler EsysCmd EsysReply TpmInput Tpm
  | EsysCmd.tctiInitialize _, i, s => (i.rc, s)
  | EsysCmd.esysInitialize, i, s => (i.rc, s)
  | EsysCmd.esysFinalize, _, s => ((), s)
  | EsysCmd.tctiFinalize, _, s => ((), s)
  | EsysCmd.trFromTpmPublic _, i, s =>
      (match s.srk with
        | some handle => (i.rc, handle)
        | none => (if i.rc = 0 then Tpm.rcHandle else i.rc, 0), s)
  | EsysCmd.trSerialize _, i, s => ((i.rc, i.nonce), s)
  | EsysCmd.trSetOwnerAuth, _, s => ((), s)
  | EsysCmd.trSetAuth handle pin, i, s =>
      ((), if i.rc = 0 then s.setAuth handle (K.authOf pin) else s)
  | EsysCmd.build _, i, s => (i.built, s)
  | EsysCmd.createPrimary, i, s => ((i.rc, i.handle), s)
  | EsysCmd.startAuthSession sessionType, i, s =>
      ((i.rc, i.handle), if i.rc = 0 then s.start i.handle sessionType else s)
  | EsysCmd.policyPcr session pcrs, i, s =>
      s.policyCommand i.rc session (PolicyStep.pcr pcrs.bank (i.registers.selected pcrs))
  | EsysCmd.policyAuthValue session, i, s => s.policyCommand i.rc session PolicyStep.authValue
  | EsysCmd.policyGetDigest session, i, s =>
      (match s.sessions session with
        | some (_, steps) => (i.rc, K.digest steps)
        | none => (if i.rc = 0 then Tpm.rcHandle else i.rc, []), s)
  | EsysCmd.create _ secret pin authPolicy, i, s =>
      ((i.rc, K.wrap i.nonce ⟨secret, K.authOf pin, authPolicy⟩), s)
  | EsysCmd.marshalPrivate outPrivate, i, s => ((i.rc, K.marshalPrivate outPrivate), s)
  | EsysCmd.marshalPublic outPublic, i, s => ((i.rc, K.marshalPublic outPublic), s)
  | EsysCmd.unmarshalPrivate _, i, s => (i.rc, s)
  | EsysCmd.unmarshalPublic _, i, s => (i.rc, s)
  | EsysCmd.load _ blob, i, s =>
      match K.unwrap blob with
      | some object => ((i.rc, i.handle), if i.rc = 0 then s.place i.handle object else s)
      | none => ((if i.rc = 0 then Tpm.rcIntegrity else i.rc, 0), s)
  | EsysCmd.unseal handle session, i, s =>
      (match s.objects handle with
        | some object =>
            if i.rc ≠ 0 then (i.rc, [])
            else if s.authorises K handle session object then (0, object.secret)
            else (Tpm.rcPolicyFail, [])
        | none => (if i.rc = 0 then Tpm.rcHandle else i.rc, []), s)
  | EsysCmd.flushContext handle, _, s => ((), s.flush handle)

/-! ## Rules for one call

A command that fails by the environment is told apart from one that fails by the state.
-/

/-- The environment may make a call fail. -/
def TpmFaulty (A : TpmInput → Prop) : Prop := ∃ i, A i ∧ (i.rc ≠ 0 ∨ i.built ≠ Except.ok ())

/-- The state is as before, and a failure is the environment's doing. -/
def Untouched {α : Type} (A : TpmInput → Prop) (s : Tpm) (x : Except String α) (v : Tpm) : Prop :=
  v = s ∧ ∀ e, x = Except.error e → TpmFaulty A

section Calls

variable {K : TpmCrypto} {A : TpmInput → Prop} {s : Tpm} {α β ε : Type}

/-- A step that succeeds and leaves the TPM as it was. -/
lemma untouched_ok {a : α} : Untouched A s (Except.ok a) s := ⟨rfl, fun _ he => by cases he⟩

/-- A step that fails by the environment and leaves the TPM as it was. -/
lemma untouched_error {e : String} (hf : TpmFaulty A) :
    Untouched A s (Except.error e : Except String α) s := ⟨rfl, fun _ _ => hf⟩

/-- What leaves the state untouched, and more. -/
lemma wp_untouched {p : Esys String α} {k : α → Esys String β} {Q : Except String β → Tpm → Prop}
    (hp : p.wp (tpm K) A (Untouched A s) s) (hok : ∀ a, (k a).wp (tpm K) A Q s)
    (herr : ∀ e, TpmFaulty A → Q (Except.error e) s) : (p.bind k).wp (tpm K) A Q s := by
  refine Prog.wp_bind (Prog.wp_mono (fun x v hx => ?_) hp)
  obtain ⟨rfl, hx⟩ := hx
  cases x with
  | ok a => exact hok a
  | error e => exact herr e (hx e rfl)

/-- Return code zero goes on; any other code ends the step. -/
lemma wp_tssOk {rc : ℕ} {step : String} {k : Unit → Esys String β}
    {Q : Except String β → Tpm → Prop} (hok : rc = 0 → (k ()).wp (tpm K) A Q s)
    (herr : ∀ e, rc ≠ 0 → Q (Except.error e) s) : ((tssOk rc step).bind k).wp (tpm K) A Q s := by
  rw [tssOk]
  split_ifs with hrc
  · exact herr _ hrc
  · exact hok (not_not.mp hrc)

lemma wp_perform {c : EsysCmd} {k : EsysReply c → Esys String β} {Q : Except String β → Tpm → Prop}
    (h : ∀ i, A i → (k (tpm K c i s).1).wp (tpm K) A Q (tpm K c i s).2) :
    ((Prog.perform c : Esys String _).bind k).wp (tpm K) A Q s := h

lemma wp_call {c : EsysCmd} (code : EsysReply c → ℕ) {step : String}
    {k : EsysReply c → Unit → Esys String β} {Q : Except String β → Tpm → Prop}
    (hok : ∀ i, A i → code (tpm K c i s).1 = 0 →
      (k (tpm K c i s).1 ()).wp (tpm K) A Q (tpm K c i s).2)
    (herr : ∀ i e, A i → code (tpm K c i s).1 ≠ 0 → Q (Except.error e) (tpm K c i s).2) :
    ((Prog.perform c : Esys String _).bind fun reply => (tssOk (code reply) step).bind (k reply)).wp
      (tpm K) A Q s :=
  fun i hi => wp_tssOk (hok i hi) fun e => herr i e hi

/-! ## The pieces

The functions that make no policy, each with its specification.
-/

/-- Building a part of a template leaves the TPM as it was. -/
lemma build_spec (part : TemplatePart) : (build part).wp (tpm K) A (Untouched A s) s := by
  intro i hi
  have hreply : tpm K (EsysCmd.build part) i s = (i.built, s) := rfl
  simp only [Prog.bind_ret, hreply]
  cases hb : i.built with
  | ok u => exact untouched_ok
  | error e => exact untouched_error ⟨i, hi, Or.inr (by simp [hb])⟩

lemma eccSrkTemplate_spec : eccSrkTemplate.wp (tpm K) A (Untouched A s) s :=
  wp_untouched (build_spec _) (fun _ => wp_untouched (build_spec _) (fun _ => build_spec _)
    fun _ => untouched_error) fun _ => untouched_error

lemma sealTemplate_spec : sealTemplate.wp (tpm K) A (Untouched A s) s :=
  wp_untouched (build_spec _) (fun _ => wp_untouched (build_spec _) (fun _ => build_spec _)
    fun _ => untouched_error) fun _ => untouched_error

/-- Serializing a handle leaves the TPM as it was. -/
lemma trSerialize_spec (handle : ℕ) : (trSerialize handle).wp (tpm K) A (Untouched A s) s := by
  refine wp_call (c := EsysCmd.trSerialize handle) Prod.fst (fun i _ _ => ?_) fun i e hi hrc => ?_
  · exact untouched_ok
  · exact untouched_error ⟨i, hi, Or.inl hrc⟩

lemma getSrk_spec : getSrk.wp (tpm K) A (Untouched A s) s := by
  refine wp_perform fun i _ => ?_
  show Prog.wp (tpm K) A (Untouched A s)
    (if ((tpm K (EsysCmd.trFromTpmPublic tpm2PersistentSrk) i s).1).1 = 0 then _ else _) s
  split_ifs
  · exact wp_untouched (trSerialize_spec _) (fun _ => untouched_ok) fun _ => untouched_error
  · refine wp_perform fun i _ => ?_
    refine wp_untouched eccSrkTemplate_spec (fun _ => ?_) fun _ => untouched_error
    refine wp_untouched (build_spec _) (fun _ => ?_) fun _ => untouched_error
    refine wp_call (c := EsysCmd.createPrimary) Prod.fst (fun i _ _ => ?_) fun i e hi hrc => ?_
    · exact wp_untouched (trSerialize_spec _) (fun _ => untouched_ok) fun _ => untouched_error
    · exact untouched_error ⟨i, hi, Or.inl hrc⟩

/-! ## Policies

A session replays commands.  What it has replayed is the policy, a list of steps, and two sessions
agree when their lists do.
-/

/-- The policy that is replayed over these registers, with the PIN or without. -/
def policyOf (R : Registers) (pcrs : PcrSelection) (pin : Bool) : List PolicyStep :=
  PolicyStep.pcr pcrs.bank (R.selected pcrs) :: if pin then [PolicyStep.authValue] else []

/-- A session that starts has an empty policy. -/
lemma startSession_spec (sessionType : ℕ) (kind : String) :
    (startSession sessionType kind).wp (tpm K) A (fun x v => match x with
      | Except.ok session => v = s.start session sessionType
      | Except.error _ => TpmFaulty A) s := by
  refine wp_call (c := EsysCmd.startAuthSession sessionType) Prod.fst (fun i _ hrc => ?_)
    fun i e hi hrc => ⟨i, hi, Or.inl hrc⟩
  show (if i.rc = 0 then s.start i.handle sessionType else s) = s.start i.handle sessionType
  rw [if_pos (show i.rc = 0 from hrc)]

/-- A policy command on a session extends what it has bound. -/
lemma policyCommand_cases {session sessionType : ℕ} {steps : List PolicyStep}
    (hs : s.sessions session = some (sessionType, steps)) (rc : ℕ) (step : PolicyStep) :
    s.policyCommand rc session step
      = if rc ≠ 0 then (rc, s) else (0, s.extend session sessionType (steps ++ [step])) := by
  rw [Tpm.policyCommand, hs]

/-- The policy of a session is the one it was extended to. -/
lemma extend_sessions (s : Tpm) (session sessionType : ℕ) (steps : List PolicyStep) :
    (s.extend session sessionType steps).sessions session = some (sessionType, steps) :=
  Function.update_self _ _ _

/-- The session has bound these steps, and the rest of the state is as before. -/
def Bound (s : Tpm) (session sessionType : ℕ) (steps : List PolicyStep) (v : Tpm) : Prop :=
  v.sessions session = some (sessionType, steps) ∧ v.objects = s.objects ∧ v.auths = s.auths

lemma wp_policy {c : EsysCmd} (code : EsysReply c → ℕ) {label : String} {session sessionType : ℕ}
    {steps : List PolicyStep} {step : PolicyStep} {v : Tpm} (hv : Bound s session sessionType steps v)
    (hc : ∀ i, A i → (code (tpm K c i v).1, (tpm K c i v).2) = v.policyCommand i.rc session step)
    {k : Esys String β} {Q : Except String β → Tpm → Prop}
    (hok : ∀ v', Bound s session sessionType (steps ++ [step]) v' → k.wp (tpm K) A Q v')
    (herr : ∀ e v', TpmFaulty A → Q (Except.error e) v') :
    (((Prog.perform c : Esys String _).bind fun reply => tssOk (code reply) label).bind
      fun _ => k).wp (tpm K) A Q v := by
  rw [Prog.bind_assoc]
  refine wp_call (c := c) code (fun i hi hrc => ?_) fun i e hi hrc => herr e _ ⟨i, hi, Or.inl ?_⟩
  · have hstep := hc i hi
    rw [policyCommand_cases hv.1] at hstep
    split_ifs at hstep with hfail
    · exact absurd ((Prod.mk.inj hstep).1.symm.trans hrc) hfail
    · rw [(Prod.mk.inj hstep).2]
      exact hok _ ⟨extend_sessions _ _ _ _, hv.2⟩
  · have hstep := hc i hi
    rw [policyCommand_cases hv.1] at hstep
    split_ifs at hstep with hfail
    · exact hfail
    · exact absurd (Prod.mk.inj hstep).1 hrc

/-- **The policy is replayed**: the registers, and the PIN if there is to be one. -/
lemma wp_replay {R : Registers} (hA : ∀ i, A i → i.registers = R) {session sessionType : ℕ}
    {pcrs : PcrSelection} {p : Prop} [Decidable p] {k : Esys String β}
    {Q : Except String β → Tpm → Prop} {v : Tpm} (hv : Bound s session sessionType [] v)
    (hok : ∀ v', Bound s session sessionType (policyOf R pcrs (decide p)) v' →
      k.wp (tpm K) A Q v')
    (herr : ∀ e v', TpmFaulty A → Q (Except.error e) v') :
    ((policyPcr session pcrs).bind fun _ =>
      if p then (policyAuthValue session).bind fun _ => k else k).wp (tpm K) A Q v := by
  have hpcr : ∀ i, A i → ((tpm K (EsysCmd.policyPcr session pcrs) i v).1,
      (tpm K (EsysCmd.policyPcr session pcrs) i v).2)
        = v.policyCommand i.rc session (PolicyStep.pcr pcrs.bank (R.selected pcrs)) := by
    intro i hi
    rw [← hA i hi]
    rfl
  refine wp_policy (c := EsysCmd.policyPcr session pcrs) id hv hpcr (fun v' hv' => ?_) herr
  by_cases hp : p
  · rw [if_pos hp]
    refine wp_policy (c := EsysCmd.policyAuthValue session) id hv' (fun i _ => rfl)
      (fun v'' hv'' => hok v'' ?_) herr
    simpa [policyOf, hp] using hv''
  · rw [if_neg hp]
    refine hok v' ?_
    simpa [policyOf, hp] using hv'

/-! ## Sealing -/

/-- In the trial session the digest is that of the registers as they are, and of the PIN if there is
one. -/
lemma trialDigest_spec {R : Registers} (hA : ∀ i, A i → i.registers = R) {session : ℕ}
    {pcrs : PcrSelection} {pin : String} (hs : s.sessions session = some (tpm2SeTrial, [])) :
    (trialDigest session pcrs pin).wp (tpm K) A (fun x _ => ∀ d, x = Except.ok d →
      d = K.digest (policyOf R pcrs (decide (pin ≠ "")))) s := by
  have hbound : Bound s session tpm2SeTrial [] s := ⟨hs, rfl, rfl⟩
  refine wp_replay (p := pin ≠ "") hA hbound (fun v hv => ?_) ?_
  · refine wp_call (c := EsysCmd.policyGetDigest session) Prod.fst (fun i hi hrc d hd => ?_) ?_
    · have hreply : (tpm K (EsysCmd.policyGetDigest session) i v).1
          = (i.rc, K.digest (policyOf R pcrs (decide (pin ≠ "")))) := by
        show (match v.sessions session with
          | some (_, steps) => (i.rc, K.digest steps)
          | none => _) = _
        rw [hv.1]
      rw [← Except.ok.inj hd, hreply]
    · rintro i e hi hrc d ⟨⟩
  · rintro e v hf d ⟨⟩

/-- The secret fits or does not fit, and that is all that can go wrong. -/
lemma buildSensitiveCreate_spec (secret : Bytes) : (buildSensitiveCreate secret).wp (tpm K) A
    (fun x v => v = s ∧ (x = Except.ok () ↔ secret.length ≤ sensitiveDataMax)) s := by
  rw [buildSensitiveCreate]
  split_ifs with hlen
  · exact ⟨rfl, fun h => (by cases h), fun h => absurd h (by omega)⟩
  · exact ⟨rfl, fun _ => not_lt.mp hlen, fun _ => rfl⟩

/-- What was sealed unwraps to the secret, the PIN and the digest. -/
lemma sealBlob_spec (hK : K.Documented) (srk : ℕ) (secret policyHash : Bytes) (pin : String) :
    (sealBlob srk secret policyHash pin).wp (tpm K) A (fun x _ => ∀ blob, x = Except.ok blob →
      K.unwrap blob = some ⟨secret, K.authOf pin, policyHash⟩) s := by
  have hfail : ∀ (e : String) (P : Bytes → Prop) (blob : Bytes),
      (Except.error e : Except String Bytes) = Except.ok blob → P blob := fun e P blob h => by cases h
  refine wp_untouched sealTemplate_spec (fun _ => ?_) fun e _ => hfail e _
  refine wp_untouched (build_spec _) (fun _ => ?_) fun e _ => hfail e _
  refine Prog.wp_bind (Prog.wp_mono ?_ (buildSensitiveCreate_spec secret))
  rintro (e | u) v -
  · exact hfail e _
  refine wp_call (c := EsysCmd.create srk secret pin policyHash) Prod.fst (fun i _ _ => ?_)
    fun _ e _ _ => hfail e _
  refine wp_call (c := EsysCmd.marshalPrivate _) Prod.fst (fun j _ _ => ?_) fun _ e _ _ => hfail e _
  refine wp_call (c := EsysCmd.marshalPublic _) Prod.fst (fun j' _ _ => ?_) fun _ e _ _ => hfail e _
  intro blob hblob
  rw [← Except.ok.inj hblob]
  exact hK.unwrap_wrap i.nonce ⟨secret, K.authOf pin, policyHash⟩

/-! ## Unsealing

The object is loaded, its PIN is set, and the session is built that its policy asks for.
-/

/-- What a token opens to on a TPM with these registers. -/
def TpmCrypto.opened (K : TpmCrypto) (R : Registers) (token : Tpm2TokenRef) (pin : String) :
    Option Bytes := do
  let pcrs ← (unsealSelection token).toOption
  let object ← K.unwrap token.blob
  if object.policy = K.digest (policyOf R pcrs token.pinRequired)
      ∧ (token.pinRequired = true → object.auth = K.authOf pin) then
    some object.secret
  else none

/-- A blob that loads is one that this TPM can unwrap. -/
lemma loadSealed_spec (srk : ℕ) (token : Tpm2TokenRef) :
    (loadSealed srk token).wp (tpm K) A (fun x v => match x with
      | Except.ok loaded => ∃ object, K.unwrap token.blob = some object ∧ v = s.place loaded object
      | Except.error _ => TpmFaulty A ∨ K.unwrap token.blob = none) s := by
  refine wp_call (c := EsysCmd.unmarshalPrivate token.blob) id (fun i _ _ => ?_)
    fun i e hi hrc => Or.inl ⟨i, hi, Or.inl hrc⟩
  refine wp_call (c := EsysCmd.unmarshalPublic token.blob) id (fun i _ _ => ?_)
    fun i e hi hrc => Or.inl ⟨i, hi, Or.inl hrc⟩
  show Prog.wp (tpm K) A _ _ s
  have hload : ∀ i, tpm K (EsysCmd.load srk token.blob) i s = match K.unwrap token.blob with
      | some object => ((i.rc, i.handle), if i.rc = 0 then s.place i.handle object else s)
      | none => ((if i.rc = 0 then Tpm.rcIntegrity else i.rc, 0), s) := fun i => rfl
  refine wp_call (c := EsysCmd.load srk token.blob) Prod.fst (fun i hi hrc => ?_) fun i e hi hrc => ?_
  · rw [hload] at hrc ⊢
    cases hobject : K.unwrap token.blob with
    | none =>
        rw [hobject] at hrc
        by_cases hzero : i.rc = 0
        · simp [hzero, Tpm.rcIntegrity] at hrc
        · simp [hzero] at hrc
    | some object =>
        rw [hobject] at hrc
        exact ⟨object, rfl, if_pos hrc⟩
  · rw [hload] at hrc
    cases hobject : K.unwrap token.blob with
    | none => exact Or.inr rfl
    | some object =>
        rw [hobject] at hrc
        exact Or.inl ⟨i, hi, Or.inl hrc⟩

/-- The PIN that the loaded object gets. -/
def presented (token : Tpm2TokenRef) (pin : String) : String := if token.pinRequired then pin else ""

/-- Afterwards the object has that PIN for its auth value, or none at all. -/
lemma setPin_spec {loaded : ℕ} (token : Tpm2TokenRef) (pin : String) (hauth : s.auths loaded = []) :
    (setPin loaded token pin).wp (tpm K) A (fun x v => x = Except.ok () ∧ v.objects = s.objects
      ∧ (v.auths loaded = K.authOf (presented token pin) ∨ TpmFaulty A ∧ v.auths loaded = [])) s := by
  rw [setPin]
  split_ifs with hpin
  · intro i hi
    have hset : (tpm K (EsysCmd.trSetAuth loaded pin) i s).2
        = if i.rc = 0 then s.setAuth loaded (K.authOf pin) else s := rfl
    rw [hset]
    split_ifs with hrc
    · refine ⟨rfl, rfl, Or.inl ?_⟩
      rw [presented, if_pos hpin.1]
      exact Function.update_self _ _ _
    · exact ⟨rfl, rfl, Or.inr ⟨⟨i, hi, Or.inl hrc⟩, hauth⟩⟩
  · refine ⟨rfl, rfl, Or.inl ?_⟩
    have hnone : presented token pin = "" := by
      rw [presented]
      split_ifs with hreq
      · exact not_not.mp fun hne => hpin ⟨hreq, hne⟩
      · rfl
    rw [hnone, hauth, TpmCrypto.authOf, if_pos rfl]

/-- The policy is met, and with the policy the auth value if it asks for it. -/
abbrev Met (K : TpmCrypto) (R : Registers) (token : Tpm2TokenRef) (pcrs : PcrSelection)
    (object : SealedObject) (auth : Bytes) : Prop :=
  object.policy = K.digest (policyOf R pcrs token.pinRequired)
    ∧ (token.pinRequired = true → object.auth = auth)

/-- The TPM authorises what meets the policy of the object. -/
lemma authorises_iff {R : Registers} {token : Tpm2TokenRef} {pcrs : PcrSelection}
    {loaded session : ℕ} {object : SealedObject}
    (hs : s.sessions session = some (tpm2SePolicy, policyOf R pcrs token.pinRequired)) :
    s.authorises K loaded session object = true ↔ Met K R token pcrs object (s.auths loaded) := by
  have hmem : PolicyStep.authValue ∈ policyOf R pcrs token.pinRequired ↔ token.pinRequired = true := by
    cases token.pinRequired <;> simp [policyOf]
  rw [Tpm.authorises, hs, Met]
  simp only [Bool.and_eq_true, Bool.or_eq_true, Bool.not_eq_true', decide_eq_true_eq,
    decide_eq_false_iff_not, hmem]
  constructor
  · rintro ⟨⟨-, hpolicy⟩, hauth⟩
    exact ⟨hpolicy.symm, fun hreq => (hauth.resolve_left (not_not.mpr hreq)).symm⟩
  · rintro ⟨hpolicy, hauth⟩
    exact ⟨⟨trivial, hpolicy.symm⟩, or_iff_not_imp_left.mpr fun h => (hauth (not_not.mp h)).symm⟩

/-- The session replays the policy, and the secret comes out if the object is content with it. -/
lemma unsealWith_spec {R : Registers} (hA : ∀ i, A i → i.registers = R) {loaded session : ℕ}
    (token : Tpm2TokenRef) (pcrs : PcrSelection) {object : SealedObject}
    (hobject : s.objects loaded = some object)
    (hs : s.sessions session = some (tpm2SePolicy, [])) :
    (unsealWith loaded session token pcrs).wp (tpm K) A (fun x _ => match x with
      | Except.ok out => out = object.secret ∧ Met K R token pcrs object (s.auths loaded)
      | Except.error _ => TpmFaulty A ∨ ¬Met K R token pcrs object (s.auths loaded)) s := by
  have hbound : Bound s session tpm2SePolicy [] s := ⟨hs, rfl, rfl⟩
  refine wp_replay (p := token.pinRequired = true) hA hbound (fun v hv => ?_) ?_
  · rw [Bool.decide_eq_true] at hv
    have hunseal : ∀ i, (tpm K (EsysCmd.unseal loaded session) i v).1
        = if i.rc ≠ 0 then (i.rc, [])
          else if v.authorises K loaded session object then (0, object.secret)
          else (Tpm.rcPolicyFail, []) := by
      intro i
      show (match v.objects loaded with
        | some object => _
        | none => _) = _
      rw [hv.2.1, hobject]
    have hmet := @authorises_iff K v R token pcrs loaded session object hv.1
    rw [hv.2.2] at hmet
    refine wp_call (c := EsysCmd.unseal loaded session) Prod.fst (fun i hi hrc => ?_)
      fun i e hi hrc => ?_
    · rw [hunseal] at hrc ⊢
      split_ifs at hrc ⊢ with hfail hauth
      · exact absurd hrc hfail
      · exact ⟨rfl, hmet.mp hauth⟩
      · exact absurd hrc (by decide)
    · rw [hunseal] at hrc
      split_ifs at hrc with hfail hauth
      · exact Or.inl ⟨i, hi, Or.inl hfail⟩
      · exact absurd rfl hrc
      · exact Or.inr fun h => hauth (hmet.mpr h)
  · intro e v hf
    exact Or.inl hf

/-- A token opens to the secret of an object whose policy is met. -/
lemma opened_eq {R : Registers} {token : Tpm2TokenRef} {pcrs : PcrSelection} {pin : String}
    (hpcrs : unsealSelection token = Except.ok pcrs) {out : Bytes} :
    K.opened R token pin = some out ↔ ∃ object, K.unwrap token.blob = some object
      ∧ Met K R token pcrs object (K.authOf pin) ∧ out = object.secret := by
  rw [TpmCrypto.opened, hpcrs]
  cases K.unwrap token.blob with
  | none => simp [Except.toOption]
  | some object =>
      show (if Met K R token pcrs object (K.authOf pin) then some object.secret else none) = some out
        ↔ _
      split_ifs with hmet
      · rw [Option.some_inj]
        exact ⟨fun hout => ⟨object, rfl, hmet, hout.symm⟩, by rintro ⟨_, ⟨⟩, -, hout⟩; exact hout.symm⟩
      · exact ⟨fun h => (by cases h), by rintro ⟨_, ⟨⟩, h, -⟩; exact absurd h hmet⟩

/-- What an attempt at a token comes to.  Should the TPM fail to take the PIN, the object is asked for
without one. -/
def UnsealOutcome (K : TpmCrypto) (A : TpmInput → Prop) (R : Registers) (token : Tpm2TokenRef)
    (pin : String) : Except String Bytes → Prop
  | Except.ok out => K.opened R token pin = some out ∨ TpmFaulty A ∧ K.opened R token "" = some out
  | Except.error _ => TpmFaulty A ∨ K.opened R token pin = none

/-- Whether the policy is met does not depend on a PIN that the token does not ask for. -/
lemma met_presented {R : Registers} {token : Tpm2TokenRef} {pcrs : PcrSelection}
    {object : SealedObject} {pin : String} :
    Met K R token pcrs object (K.authOf (presented token pin))
      ↔ Met K R token pcrs object (K.authOf pin) := by
  refine and_congr_right fun _ => forall_congr' fun hreq => ?_
  rw [presented, if_pos hreq]

/-- Naming the handles that are held changes nothing in the TPM. -/
lemma wp_holding {handles : List ℕ} {p : Esys String α}
    {Q : Except (String × List ℕ) α → Tpm → Prop}
    (hp : p.wp (tpm K) A (fun x v => Q (x.mapError fun e => (e, handles)) v) s) :
    (holding handles p).wp (tpm K) A Q s := Prog.wp_mapErr hp

/-- Loading, replaying and unsealing open the token, as `opened` says. -/
lemma unsealInner_spec {R : Registers} (hA : ∀ i, A i → i.registers = R) {token : Tpm2TokenRef}
    {pcrs : PcrSelection} (hpcrs : unsealSelection token = Except.ok pcrs) (pin : String) :
    (unsealInner token pcrs pin).wp (tpm K) A
      (fun x _ => UnsealOutcome K A R token pin (resultOf x)) s := by
  refine Prog.wp_bind (wp_holding (Prog.wp_mono ?_ getSrk_spec))
  rintro (e | srk) v ⟨rfl, hfault⟩
  · exact Or.inl (hfault e rfl)
  refine Prog.wp_bind (wp_holding (Prog.wp_mono ?_ (loadSealed_spec srk.1 token)))
  rintro (e | loaded) v hload
  · refine hload.imp_right fun hnone => ?_
    rw [Option.eq_none_iff_forall_ne_some]
    rintro out hout
    obtain ⟨object, hobject, -⟩ := (opened_eq hpcrs).mp hout
    rw [hnone] at hobject
    cases hobject
  obtain ⟨object, hobject, rfl⟩ := hload
  have hauth : (v.place loaded object).auths loaded = [] := Function.update_self _ _ _
  refine Prog.wp_bind (wp_holding (Prog.wp_mono ?_ (setPin_spec token pin hauth)))
  rintro x v' ⟨rfl, hobjects, hset⟩
  refine Prog.wp_bind (wp_holding (Prog.wp_mono ?_ (startSession_spec tpm2SePolicy "policy")))
  rintro (e | session) v'' hstart
  · exact Or.inl hstart
  have hsession : (v'.start session tpm2SePolicy).sessions session = some (tpm2SePolicy, []) :=
    Function.update_self _ _ _
  have hloaded : (v'.start session tpm2SePolicy).objects loaded = some object :=
    (congrFun hobjects loaded).trans (Function.update_self _ _ _)
  rw [show v'' = v'.start session tpm2SePolicy from hstart]
  refine Prog.wp_bind (wp_holding (Prog.wp_mono ?_ (unsealWith_spec hA token pcrs hloaded hsession)))
  rintro (e | out) w hunseal
  · rcases hset with hset | ⟨hf, -⟩
    · refine hunseal.imp_right fun hnot => ?_
      rw [show (v'.start session tpm2SePolicy).auths loaded = _ from hset, met_presented] at hnot
      rw [Option.eq_none_iff_forall_ne_some]
      rintro out hout
      obtain ⟨object', hobject', hmet, -⟩ := (opened_eq hpcrs).mp hout
      rw [hobject, Option.some_inj] at hobject'
      exact hnot (hobject' ▸ hmet)
    · exact Or.inl hf
  · obtain ⟨rfl, hmet⟩ := hunseal
    rcases hset with hset | ⟨hf, hset⟩
    · rw [show (v'.start session tpm2SePolicy).auths loaded = _ from hset, met_presented] at hmet
      exact Or.inl ((opened_eq hpcrs).mpr ⟨object, hobject, hmet, rfl⟩)
    · have hnone : (v'.start session tpm2SePolicy).auths loaded = K.authOf "" := hset
      rw [hnone] at hmet
      exact Or.inr ⟨hf, (opened_eq hpcrs).mpr ⟨object, hobject, hmet, rfl⟩⟩

/-! ## The context around it

A context is made for each token and finalized, and what it holds is flushed.
-/

lemma wp_flushNow {handles : List ℕ} {handle : ℕ} {k : List ℕ → Esys ε β}
    {Q : Except ε β → Tpm → Prop}
    (h : (k (handles.filter (· ≠ handle))).wp (tpm K) A Q (s.flush handle)) :
    ((flushNow handles handle : Esys ε _).bind k).wp (tpm K) A Q s := fun _ _ => h

/-- Flushing the rest changes nothing that is asked about. -/
lemma flushAll_spec (handles : List ℕ) {P : Prop} (hP : P) :
    (flushAll handles : Esys ε Unit).wp (tpm K) A (fun x _ => x = Except.ok () ∧ P) s := by
  induction handles generalizing s with
  | nil => exact ⟨rfl, hP⟩
  | cons handle handles ih => exact fun i _ => ih

lemma wp_withFlusher {body : Esys (String × List ℕ) (α × List ℕ)} {P : Except String α → Prop}
    (h : body.wp (tpm K) A (fun x _ => P (resultOf x)) s) :
    (withFlusher body).wp (tpm K) A (fun x _ => P x) s := by
  refine Prog.wp_bind (Prog.wp_attempt (Prog.wp_mono (fun x v hx => ?_) h))
  refine Prog.wp_bind (Prog.wp_mono ?_ (flushAll_spec (held x) hx))
  rintro y v' ⟨rfl, hP⟩
  show Prog.wp (tpm K) A (fun x _ => P x) (Prog.ofExcept (resultOf x)) v'
  cases hr : resultOf x with
  | ok a => rwa [hr] at hP
  | error e => rwa [hr] at hP

/-- The configuration of the TCTI can be passed on. -/
def TctiUsable (var : String → Option String) : Prop := '\x00' ∉ (tctiConf var).toList

/-- A context is made when the TCTI can be used and the environment does not fail it. -/
lemma esysContextNew_spec (var : String → Option String) :
    (esysContextNew var).wp (tpm K) A (fun x v => v = s ∧
      ∀ e, x = Except.error e → TpmFaulty A ∨ ¬TctiUsable var) s := by
  rw [esysContextNew]
  split_ifs with hnul
  · exact ⟨rfl, fun e _ => Or.inr (not_not.mpr hnul)⟩
  · refine wp_call (c := EsysCmd.tctiInitialize (tctiConf var)) id (fun i _ _ => ?_)
      fun i e hi hrc => ⟨rfl, fun _ _ => Or.inl ⟨i, hi, Or.inl hrc⟩⟩
    intro i hi
    have hreply : tpm K EsysCmd.esysInitialize i s = (i.rc, s) := rfl
    simp only [Prog.bind_ret]
    show Prog.wp (tpm K) A _ (if (tpm K EsysCmd.esysInitialize i s).1 ≠ 0 then _ else _) s
    rw [hreply]
    split_ifs with hrc
    · exact fun _ _ => ⟨rfl, fun _ _ => Or.inl ⟨i, hi, Or.inl hrc⟩⟩
    · exact ⟨rfl, fun e he => by cases he⟩

lemma wp_withContext {var : String → Option String} {body : Esys String α}
    {P : Except String α → Prop} (h : body.wp (tpm K) A (fun x _ => P x) s)
    (herr : ∀ e, TpmFaulty A ∨ ¬TctiUsable var → P (Except.error e)) :
    (withContext var body).wp (tpm K) A (fun x _ => P x) s := by
  refine Prog.wp_bind (Prog.wp_mono ?_ (esysContextNew_spec var))
  rintro (e | u) v ⟨rfl, hfault⟩
  · exact herr e (hfault e rfl)
  refine Prog.wp_bind (Prog.wp_attempt (Prog.wp_mono (fun x v' hx => ?_) h))
  intro i _ j _
  cases x with
  | ok a => exact hx
  | error e => exact hx

/-! ## A list of tokens

The tokens are tried one after another, each in a context of its own.
-/

/-- The attempts at a list of tokens. -/
structure AttemptedAll (K : TpmCrypto) (A : TpmInput → Prop) (var : String → Option String)
    (R : Registers) (tokens : List Tpm2TokenRef) (pin : String) (x : Except String Bytes) : Prop where
  /-- What is handed over came out of one of them. -/
  sound : ∀ out, x = Except.ok out →
    ∃ t ∈ tokens, K.opened R t pin = some out ∨ K.opened R t "" = some out
  /-- When nothing fails it is the first that opens. -/
  exact : ¬TpmFaulty A → TctiUsable var → x.toOption = tokens.findSome? fun t => K.opened R t pin

/-- One token, tried in a context of its own. -/
lemma tryUnsealToken_spec (var : String → Option String) {R : Registers}
    (hA : ∀ i, A i → i.registers = R) (token : Tpm2TokenRef) (pin : String) :
    (tryUnsealToken var token pin).wp (tpm K) A
      (fun x _ => AttemptedAll K A var R [token] pin x) s := by
  have hnone : ∀ e, unsealSelection token = Except.error e → ∀ pin, K.opened R token pin = none := by
    intro e he pin
    rw [TpmCrypto.opened, he]
    rfl
  rw [tryUnsealToken]
  cases hpcrs : buildPcrSelectionList (pcrBankToAlg token.pcrBank) token.pcrs with
  | error e =>
      refine ⟨fun out h => (by cases h), fun _ _ => ?_⟩
      simp [hnone e hpcrs, Except.toOption]
  | ok pcrs =>
      refine wp_withContext (wp_withFlusher (Prog.wp_mono (fun x v hx => ?_)
        (unsealInner_spec hA hpcrs pin))) fun e he => ?_
      · cases hr : resultOf x with
        | ok out =>
            rw [hr] at hx
            refine ⟨?_, fun hf _ => ?_⟩
            · rintro _ ⟨⟩
              exact ⟨token, by simp, hx.imp_right And.right⟩
            · have hout := hx.resolve_right fun h => hf h.1
              simp [hout, Except.toOption]
        | error e =>
            rw [hr] at hx
            refine ⟨fun out h => (by cases h), fun hf _ => ?_⟩
            have hout := hx.resolve_left hf
            simp [hout, Except.toOption]
      · refine ⟨fun out h => (by cases h), fun hf hv => ?_⟩
        exact (he.elim hf fun h => h hv).elim

/-- **The tokens in their order**, until the first that opens. -/
lemma unsealOnTpm_spec (var : String → Option String) {R : Registers}
    (hA : ∀ i, A i → i.registers = R) (tokens : List Tpm2TokenRef) (pin : String) :
    (unsealOnTpm var tokens pin).wp (tpm K) A
      (fun x _ => AttemptedAll K A var R (attemptOrder tokens pin) pin x) s := by
  have hloop : ∀ (candidates : List Tpm2TokenRef) (lastError : String) (s : Tpm),
      ((tryCandidateTokens pin candidates lastError).interp (attemptOnTpm var)).wp (tpm K) A
        (fun x _ => AttemptedAll K A var R candidates pin x) s := by
    intro candidates
    induction candidates with
    | nil => exact fun _ _ => ⟨fun out h => (by cases h), fun _ _ => rfl⟩
    | cons token rest ih =>
        intro lastError s
        refine Prog.wp_bind (Prog.wp_attempt (Prog.wp_mono ?_ (tryUnsealToken_spec var hA token pin)))
        rintro (e | out) v hx
        · refine Prog.wp_mono (fun y _ hy => ?_) (ih _ v)
          refine ⟨fun out hout => ?_, fun hf hv => ?_⟩
          · obtain ⟨t, ht, hopened⟩ := hy.sound out hout
            exact ⟨t, List.mem_cons_of_mem _ ht, hopened⟩
          · have hclosed := hx.exact hf hv
            rw [List.findSome?_cons]
            cases hopened : K.opened R token pin with
            | none => exact hy.exact hf hv
            | some out => simp [hopened, Except.toOption] at hclosed
        · refine ⟨fun out' hout => ?_, fun hf hv => ?_⟩
          · obtain ⟨t, ht, hopened⟩ := hx.sound out' hout
            obtain rfl := List.mem_singleton.mp ht
            exact ⟨t, by simp, hopened⟩
          · have hopened := hx.exact hf hv
            rw [List.findSome?_cons] at hopened ⊢
            cases ho : K.opened R token pin with
            | none => simp [ho, Except.toOption] at hopened
            | some out' => simpa [ho] using hopened
  rw [unsealOnTpm, unsealAttempts]
  split_ifs with hempty
  · rw [List.isEmpty_iff] at hempty
    refine ⟨fun out h => (by cases h), fun _ _ => ?_⟩
    simp [hempty, attemptOrder, Except.toOption]
  · rw [← candidateTokens_eq]
    exact hloop _ _ _

/-! ## Sealing -/

/-- What is sealed is wrapped with the policy over the registers at that time. -/
lemma sealInner_spec (hK : K.Documented) {R : Registers} (hA : ∀ i, A i → i.registers = R)
    (secret : Bytes) (pcrs : PcrSelection) (pin : String) :
    (sealInner secret pcrs pin).wp (tpm K) A (fun x _ => ∀ r, resultOf x = Except.ok r →
      K.unwrap r.blob = some ⟨secret, K.authOf pin, K.digest (policyOf R pcrs (decide (pin ≠ "")))⟩)
      s := by
  refine Prog.wp_bind (wp_holding (Prog.wp_mono ?_ getSrk_spec))
  rintro (e | srk) v -
  · rintro r ⟨⟩
  refine Prog.wp_bind (wp_holding (Prog.wp_mono ?_ (startSession_spec tpm2SeTrial "trial")))
  rintro (e | session) v' hstart
  · rintro r ⟨⟩
  have hsession : v'.sessions session = some (tpm2SeTrial, []) := by
    rw [show v' = v.start session tpm2SeTrial from hstart]
    exact Function.update_self _ _ _
  refine Prog.wp_bind (wp_holding (Prog.wp_mono ?_ (trialDigest_spec hA hsession)))
  rintro (e | policyHash) w hdigest
  · rintro r ⟨⟩
  obtain rfl := hdigest policyHash rfl
  refine wp_flushNow ?_
  refine Prog.wp_bind (wp_holding (Prog.wp_mono ?_ (sealBlob_spec hK srk.1 secret _ pin)))
  rintro (e | blob) w' hblob
  · rintro r ⟨⟩
  have hunwrap := hblob blob rfl
  show Prog.wp (tpm K) A _ (Prog.bind (if srk.2.1 = true then _ else _) _) w'
  split_ifs
  · rintro j - r ⟨⟩
    exact hunwrap
  · rintro r ⟨⟩
    exact hunwrap

end Calls

/-! ## What was sealed

Years later: other registers, another PIN, the same TPM.
-/

/-- Nothing fails. -/
def TpmUndisturbed (is : ℕ → TpmInput) : Prop := ∀ n, (is n).rc = 0 ∧ (is n).built = Except.ok ()

/-- The selected registers hold the same. -/
def SameRegisters (sel : PcrSelection) (R R' : Registers) : Prop :=
  ∀ slot ∈ sel.slots, R sel.bank slot = R' sel.bank slot

/-- Two readings of the selected registers agree exactly when every selected register does. -/
lemma selected_eq_iff {sel : PcrSelection} {R R' : Registers} :
    R.selected sel = R'.selected sel ↔ SameRegisters sel R R' := by
  rw [Registers.selected, Registers.selected, List.map_inj_left]
  simp only [List.mem_insertionSort, Prod.mk.injEq, true_and, SameRegisters]

lemma policyOf_eq_iff {sel : PcrSelection} {R R' : Registers} {pin : Bool} :
    policyOf R sel pin = policyOf R' sel pin ↔ SameRegisters sel R R' := by
  rw [← selected_eq_iff, policyOf, policyOf]
  cases pin <;> simp

/-- What `seal` answers unwraps to its secret, under the policy of the registers as they were. -/
lemma sealSecret_ok {K : TpmCrypto} (hK : K.Documented) {var : String → Option String}
    {secret : Bytes} {pcrs pin : String} {sel : PcrSelection}
    (hsel : sealSelection pcrs = Except.ok sel) {R : Registers} {is : ℕ → TpmInput}
    (his : ∀ n, (is n).registers = R) {s : Tpm} {r : SealResult}
    (hseal : ((sealSecret var secret pcrs pin).run (tpm K) is s).1 = Except.ok r) :
    K.unwrap r.blob
      = some ⟨secret, K.authOf pin, K.digest (policyOf R sel (decide (pin ≠ "")))⟩ := by
  have hspec : (sealSecret var secret pcrs pin).wp (tpm K) (fun i => i.registers = R)
      (fun x _ => ∀ r, x = Except.ok r → K.unwrap r.blob
        = some ⟨secret, K.authOf pin, K.digest (policyOf R sel (decide (pin ≠ "")))⟩) s := by
    rw [sealSecret, show buildPcrSelectionList HashingAlgorithm.sha256 pcrs = Except.ok sel from hsel]
    refine wp_withContext (P := fun x : Except String SealResult => ∀ r, x = Except.ok r → K.unwrap r.blob = _)
      (wp_withFlusher (sealInner_spec hK (fun i hi => hi) secret sel pin)) ?_
    rintro e - r ⟨⟩
  exact Prog.wp_sound hspec is his r hseal

/-- Only the empty PIN is no authorisation at all. -/
lemma authOf_eq_nil_iff {K : TpmCrypto} (hK : K.Documented) {pin : String} :
    K.authOf pin = [] ↔ pin = "" := by
  rw [TpmCrypto.authOf]
  split_ifs with hpin
  · exact ⟨fun _ => hpin, fun _ => rfl⟩
  · refine ⟨fun h => ?_, fun h => absurd h hpin⟩
    have hlen := hK.sha256_length (asBytes pin)
    rw [h] at hlen
    exact absurd hlen (by decide)

/-- What a sealed token opens to, and when. -/
lemma opened_sealed_iff {K : TpmCrypto} {R R' : Registers} {sel : PcrSelection} {ref : Tpm2TokenRef}
    {secret : Bytes} {pin : String} (hunseal : unsealSelection ref = Except.ok sel)
    (hrequired : ref.pinRequired = decide (pin ≠ ""))
    (hunwrap : K.unwrap ref.blob
      = some ⟨secret, K.authOf pin, K.digest (policyOf R sel (decide (pin ≠ "")))⟩)
    (hdigest : Set.InjOn K.digest
      {policyOf R sel (decide (pin ≠ "")), policyOf R' sel (decide (pin ≠ ""))})
    (p : String) (out : Bytes) :
    K.opened R' ref p = some out ↔ out = secret ∧ SameRegisters sel R R'
      ∧ (pin = "" ∨ K.authOf pin = K.authOf p) := by
  have hpolicy : K.digest (policyOf R sel (decide (pin ≠ "")))
      = K.digest (policyOf R' sel (decide (pin ≠ ""))) ↔ SameRegisters sel R R' := by
    rw [hdigest.eq_iff (by simp) (by simp), policyOf_eq_iff]
  rw [opened_eq hunseal]
  constructor
  · rintro ⟨object, hobject, ⟨hdig, hauth⟩, rfl⟩
    obtain rfl := Option.some_inj.mp (hunwrap.symm.trans hobject)
    rw [hrequired] at hdig hauth
    refine ⟨rfl, hpolicy.mp hdig, ?_⟩
    by_cases hpin : pin = ""
    · exact Or.inl hpin
    · exact Or.inr (hauth (decide_eq_true hpin))
  · rintro ⟨hout, hregs, hpin⟩
    refine ⟨_, hunwrap, ⟨?_, ?_⟩, hout⟩
    · rw [hrequired]
      exact hpolicy.mpr hregs
    · rw [hrequired]
      intro hreq
      exact hpin.resolve_left (of_decide_eq_true hreq)

/-- A token is tried, unless it wants a PIN and there is none. -/
lemma attemptOrder_singleton (t : Tpm2TokenRef) (pin : String) :
    attemptOrder [t] pin = if t.pinRequired = true ∧ pin = "" then [] else [t] := by
  rw [attemptOrder]
  by_cases hpin : pin = ""
  · cases ht : t.pinRequired <;> simp [hpin, ht]
  · cases ht : t.pinRequired <;> simp [hpin, ht]

/-- **What was sealed comes out again** exactly under the conditions it was sealed under.  A secret is
sealed to registers and possibly a PIN, its token is written into the metadata and read back, possibly
by another process on a TPM in another state.  Whatever fails then, what comes out of the token is
that secret, and only if the registers agree and the PIN is the same or there was none; when nothing
fails, then always.  Neither the two policies nor the two PINs may collide under the hash. -/
theorem sealed_token_unseals_iff (K : TpmCrypto) (hK : K.Documented) (var var' : String → Option String)
    (secret : Bytes) (pcrs pin pin' tid : String) (keyslot : ℕ) (hkeyslot : keyslot < keyslotsMax)
    (sel : PcrSelection) (hsel : sealSelection pcrs = Except.ok sel)
    (list : List ℤ) (hlist : pcrList pcrs = Except.ok list)
    (R R' : Registers) (is is' : ℕ → TpmInput) (his : ∀ n, (is n).registers = R)
    (his' : ∀ n, (is' n).registers = R') (s s' : Tpm) (r : SealResult)
    (hseal : ((sealSecret var secret pcrs pin).run (tpm K) is s).1 = Except.ok r)
    (hdigest : Set.InjOn K.digest
      {policyOf R sel (decide (pin ≠ "")), policyOf R' sel (decide (pin ≠ ""))})
    (hpins : Set.InjOn K.authOf {pin, pin'}) :
    ∃ refs, tpm2RefsFromMeta (soleToken tid
          (withKeyslot (tpm2TokenJson r list (decide (pin ≠ ""))) keyslot)) = Except.ok refs
      ∧ (∀ out, ((unsealOnTpm var' refs pin').run (tpm K) is' s').1 = Except.ok out →
          out = secret ∧ SameRegisters sel R R' ∧ (pin = "" ∨ pin' = pin))
      ∧ (TpmUndisturbed is' → TctiUsable var' →
          ((∃ out, ((unsealOnTpm var' refs pin').run (tpm K) is' s').1 = Except.ok out)
            ↔ SameRegisters sel R R' ∧ (pin = "" ∨ pin' = pin))) := by
  have hunwrap := sealSecret_ok hK hsel his hseal
  obtain ⟨indices, hindices⟩ : ∃ indices, parsePcrIndices pcrs = Except.ok indices := by
    cases h : parsePcrIndices pcrs with
    | error e => simp [sealSelection, buildPcrSelectionList, h, bind, Except.bind] at hsel
    | ok indices => exact ⟨indices, rfl⟩
  obtain ⟨list', hlist', hback⟩ := tpm2_read_back hindices r (decide (pin ≠ "")) hkeyslot
  obtain rfl : list = list' := Except.ok.inj (hlist.symm.trans hlist')
  obtain ⟨text, hrefs, -, hunseal⟩ := hback.refs tid
  set ref : Tpm2TokenRef := ⟨tid, r.blob, text, "sha256", decide (pin ≠ "")⟩
  rw [hsel] at hunseal
  have hopened := opened_sealed_iff (hunseal : unsealSelection ref = Except.ok sel) rfl hunwrap hdigest
  have hsame : K.authOf pin = K.authOf pin' ↔ pin' = pin := by
    rw [hpins.eq_iff (by simp) (by simp), eq_comm]
  have hrun := unsealOnTpm_spec (K := K) (s := s') var' (A := fun i => ∃ n, i = is' n)
    (R := R') (by rintro i ⟨n, rfl⟩; exact his' n) [ref] pin'
  have hall := Prog.wp_sound hrun is' fun n => ⟨n, rfl⟩
  refine ⟨[ref], hrefs, fun out hout => ?_, fun hquiet hvar => ?_⟩
  · obtain ⟨t, ht, hout⟩ := hall.sound out hout
    rw [attemptOrder_singleton] at ht
    split_ifs at ht with hleft
    · cases ht
    obtain rfl : t = ref := List.mem_singleton.mp ht
    rcases hout with hout | hout
    · obtain ⟨rfl, hregs, hpin⟩ := (hopened pin' out).mp hout
      exact ⟨rfl, hregs, hpin.imp_right hsame.mp⟩
    · obtain ⟨rfl, hregs, hpin⟩ := (hopened "" out).mp hout
      refine ⟨rfl, hregs, Or.inl (hpin.elim id fun h => ?_)⟩
      rw [← authOf_eq_nil_iff hK, h, authOf_eq_nil_iff hK]
  · have hfault : ¬TpmFaulty fun i => ∃ n, i = is' n := by
      rintro ⟨i, ⟨n, rfl⟩, hrc | hbuilt⟩
      · exact hrc (hquiet n).1
      · exact hbuilt (hquiet n).2
    have hexact := hall.exact hfault hvar
    have hreturns : (∃ out, ((unsealOnTpm var' [ref] pin').run (tpm K) is' s').1 = Except.ok out)
        ↔ ∃ out, (attemptOrder [ref] pin').findSome? (fun t => K.opened R' t pin') = some out := by
      rw [← hexact]
      cases ((unsealOnTpm var' [ref] pin').run (tpm K) is' s').1 <;> simp [Except.toOption]
    rw [hreturns, attemptOrder_singleton]
    split_ifs with hleft
    · -- without a PIN the token is left out
      have hpin : pin ≠ "" := of_decide_eq_true hleft.1
      constructor
      · rintro ⟨out, hout⟩
        cases hout
      · rintro ⟨-, hmeets⟩
        exact absurd (hmeets.elim id fun h => h.symm.trans hleft.2) hpin
    · simp only [List.findSome?_cons, List.findSome?_nil]
      rw [← hsame]
      constructor
      · rintro ⟨out, hout⟩
        cases ho : K.opened R' ref pin' with
        | none => simp [ho] at hout
        | some out' => exact ((hopened pin' out').mp ho).2
      · intro hmeets
        refine ⟨secret, ?_⟩
        rw [(hopened pin' secret).mpr ⟨rfl, hmeets⟩]

/-! ### On a TPM that hides nothing

A wrapping that only puts the parts of an object behind one another, and a digest that is the policy
itself.  It keeps the promises, and runs on it can be evaluated.
-/

/-- Bytes that tell where they end. -/
def delimited : Bytes → Bytes
  | [] => [0]
  | b :: bs => 1 :: b :: delimited bs

/-- A string up to the byte that ends it, and what follows. -/
def readDelimited : Bytes → Option (Bytes × Bytes)
  | [] => none
  | [b] => if b = 0 then some ([], []) else none
  | b :: b' :: rest =>
      if b = 0 then some ([], b' :: rest) else (readDelimited rest).map fun x => (b' :: x.1, x.2)

/-- Reading takes off what `delimited` puts on. -/
lemma readDelimited_append (bs rest : Bytes) :
    readDelimited (delimited bs ++ rest) = some (bs, rest) := by
  induction bs with
  | nil => cases rest <;> simp [delimited, readDelimited]
  | cons b bs ih =>
      show readDelimited (1 :: b :: (delimited bs ++ rest)) = _
      simp [readDelimited, ih]

/-- The cryptography of a TPM that keeps its objects in the clear. -/
def plainTpm : TpmCrypto where
  digest steps := steps.flatMap fun
    | PolicyStep.pcr _ registers => 1 :: registers.flatMap fun x => delimited x.2
    | PolicyStep.authValue => [2]
  sha256 bytes := (bytes ++ List.replicate 32 0).take 32
  wrap _ object := (delimited object.secret, delimited object.auth ++ delimited object.policy)
  marshalPrivate := id
  marshalPublic := id
  unwrap blob := do
    let (secret, rest) ← readDelimited blob
    let (auth, rest) ← readDelimited rest
    let (policy, _) ← readDelimited rest
    return ⟨secret, auth, policy⟩

/-- The plain TPM is one that the theorem is about. -/
lemma plainTpm_documented : plainTpm.Documented where
  sha256_length bytes := by simp [plainTpm]
  unwrap_wrap nonce object := by
    have hpolicy := readDelimited_append object.policy []
    rw [List.append_nil] at hpolicy
    simp [plainTpm, readDelimited_append, hpolicy]

/-- A TPM with no session and no object. -/
def emptyTpm : Tpm where
  srk := none
  objects _ := none
  auths _ := []
  sessions _ := none

/-- Nothing fails, and register 7 holds two bytes. -/
def quietInputs (n : ℕ) : TpmInput where
  handle := 0x80000000 + n
  registers _ slot := if slot = 1 <<< 7 then [0xAB, 0xCD] else []

/-- **Witness:** a secret sealed with a PIN comes out again. -/
theorem pinned_secret_unseals : ∃ r refs,
    ((sealSecret (fun _ => none) [42] "7" "1234").run (tpm plainTpm) quietInputs emptyTpm).1
        = Except.ok r
      ∧ tpm2RefsFromMeta (soleToken "0" (withKeyslot (tpm2TokenJson r [7] true) 1)) = Except.ok refs
      ∧ ((unsealOnTpm (fun _ => none) refs "1234").run (tpm plainTpm) quietInputs emptyTpm).1
        = Except.ok [42] := by
  have hindices : parsePcrIndices "7" = Except.ok [7] := by decide +kernel
  have hsel : sealSelection "7" = Except.ok ⟨HashingAlgorithm.sha256, [1 <<< 7]⟩ := by
    rw [sealSelection, buildPcrSelectionList, hindices]
    rfl
  obtain ⟨r, hr⟩ : ∃ r, ((sealSecret (fun _ => none) [42] "7" "1234").run (tpm plainTpm) quietInputs
      emptyTpm).1 = Except.ok r := by
    cases h : ((sealSecret (fun _ => none) [42] "7" "1234").run (tpm plainTpm) quietInputs emptyTpm).1
      with
    | ok r => exact ⟨r, rfl⟩
    | error e =>
        have hok : ((sealSecret (fun _ => none) [42] "7" "1234").run (tpm plainTpm) quietInputs
          emptyTpm).1.toOption.isSome = true := by decide +kernel
        rw [h] at hok
        cases hok
  obtain ⟨refs, hrefs, hsound, hiff⟩ := sealed_token_unseals_iff plainTpm plainTpm_documented
    (fun _ => none) (fun _ => none) [42] "7" "1234" "1234" "0" 1 (by decide)
    ⟨HashingAlgorithm.sha256, [1 <<< 7]⟩ hsel [7] (by decide +kernel)
    _ _ quietInputs quietInputs (fun _ => rfl) (fun _ => rfl) emptyTpm emptyTpm r hr
    (by simp) (by simp)
  obtain ⟨out, hout⟩ := (hiff (fun _ => ⟨rfl, rfl⟩) (by rw [TctiUsable]; decide +kernel)).mpr
    ⟨fun _ _ => rfl, Or.inr rfl⟩
  exact ⟨r, refs, hr, hrefs, (hsound out hout).1 ▸ hout⟩

end LuksEnroll
