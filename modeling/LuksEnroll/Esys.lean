import LuksEnroll.Library.Answering
import LuksEnroll.Tokens
import Mathlib.Data.List.Perm.Basic

/-!
# TPM handles

`seal` and `try_unseal_token` talk to the TPM through a context that they make and finalize.  In
between they create a primary key, load an object, start sessions; each of these calls hands out a
handle that must be flushed.  A `HandleFlusher` "tracks ESYS transient handles and flushes any still
held when dropped, so seal/unseal free their handles on success and on every error path".

That is true of every handle but one.  `get_srk` creates a transient storage key and then serializes
it; its caller begins to track the key when `get_srk` returns.  If the serialization fails it does
not return, and nothing flushes the key: `handles_released_iff`, `srk_left_behind`.

Every call answers arbitrarily.  An error path carries what the flusher holds at that point:
`sealInner` and `unsealInner` fail with a text *and* the handles that are still tracked.

The count is kept by `Tally`: what was created, which of it is a primary key, what became persistent,
what was flushed, and the storage keys whose serialization failed.  Most calls are quiet, which means
that they touch none of these; for the others there is one lemma each, and a run is counted by the
rules for its parts.
-/

namespace LuksEnroll

open Library
open Prog (AllCalls Tells)

/-! ## The calls

One command for each ESYS call, answered by a return code and what the call hands out.  Building a
template is a single command for each part, which can fail.
-/

/-- What tss-esapi builds or converts. -/
inductive TemplatePart
  | srkAttributes
  | srkEccParameters
  | srkTemplate
  | srkConversion
  | sealAttributes
  | policyDigest
  | sealTemplate
  | sealConversion

/-- The calls of libtss2, and of the builders of its templates. -/
inductive EsysCmd
  | tctiInitialize (conf : String)
  | esysInitialize
  | esysFinalize
  | tctiFinalize
  | trFromTpmPublic (tpmHandle : ℕ)
  | trSerialize (handle : ℕ)
  | trSetOwnerAuth
  | trSetAuth (handle : ℕ) (pin : String)
  | build (part : TemplatePart)
  | createPrimary
  | startAuthSession (sessionType : ℕ)
  | policyPcr (session : ℕ) (pcrs : PcrSelection)
  | policyAuthValue (session : ℕ)
  | policyGetDigest (session : ℕ)
  | create (srk : ℕ) (secret : Bytes) (pin : String) (authPolicy : Bytes)
  | marshalPrivate (outPrivate : Bytes)
  | marshalPublic (outPublic : Bytes)
  | unmarshalPrivate (blob : Bytes)
  | unmarshalPublic (blob : Bytes)
  | load (srk : ℕ) (blob : Bytes)
  | unseal (object session : ℕ)
  | flushContext (handle : ℕ)

/-- A return code, with the handle or the bytes that come with it.  Where the code ignores what a call
returns, it returns nothing. -/
abbrev EsysReply : EsysCmd → Type
  | EsysCmd.tctiInitialize _ => ℕ
  | EsysCmd.esysInitialize => ℕ
  | EsysCmd.esysFinalize => Unit
  | EsysCmd.tctiFinalize => Unit
  | EsysCmd.trFromTpmPublic _ => ℕ × ℕ
  | EsysCmd.trSerialize _ => ℕ × Bytes
  | EsysCmd.trSetOwnerAuth => Unit
  | EsysCmd.trSetAuth _ _ => Unit
  | EsysCmd.build _ => Except String Unit
  | EsysCmd.createPrimary => ℕ × ℕ
  | EsysCmd.startAuthSession _ => ℕ × ℕ
  | EsysCmd.policyPcr _ _ => ℕ
  | EsysCmd.policyAuthValue _ => ℕ
  | EsysCmd.policyGetDigest _ => ℕ × Bytes
  | EsysCmd.create _ _ _ _ => ℕ × Bytes × Bytes
  | EsysCmd.marshalPrivate _ => ℕ × Bytes
  | EsysCmd.marshalPublic _ => ℕ × Bytes
  | EsysCmd.unmarshalPrivate _ => ℕ
  | EsysCmd.unmarshalPublic _ => ℕ
  | EsysCmd.load _ _ => ℕ × ℕ
  | EsysCmd.unseal _ _ => ℕ × Bytes
  | EsysCmd.flushContext _ => Unit

/-- A computation that calls the TPM. -/
abbrev Esys (ε : Type) := Prog EsysCmd EsysReply ε

/-! ## The code

`tpm2.rs`, one definition for each function, with its texts.
-/

def tpm2SePolicy : ℕ := 0x01
def tpm2SeTrial : ℕ := 0x03
def tpm2PersistentSrk : ℕ := 0x81000001

/-- What fits into a `TPM2B_SENSITIVE_DATA`. -/
def sensitiveDataMax : ℕ := 256

/-- `{rc:08x}`. -/
def hex08 (rc : ℕ) : String :=
  String.ofList (List.replicate (8 - (Nat.toDigits 16 rc).length) '0' ++ Nat.toDigits 16 rc)

/-- `tss_ok`. -/
def tssOk (rc : ℕ) (step : String) : Esys String Unit :=
  if rc ≠ 0 then Prog.fail (step ++ " failed: 0x" ++ hex08 rc) else Prog.ret ()

/-- What the error of a builder is reported with. -/
def TemplatePart.message : TemplatePart → String
  | TemplatePart.srkAttributes => "SRK attributes build failed: "
  | TemplatePart.srkEccParameters => "SRK ECC parameters build failed: "
  | TemplatePart.srkTemplate => "SRK template build failed: "
  | TemplatePart.srkConversion => "SRK template conversion failed: "
  | TemplatePart.sealAttributes => "Seal attributes build failed: "
  | TemplatePart.policyDigest => "Policy digest conversion failed: "
  | TemplatePart.sealTemplate => "Seal template build failed: "
  | TemplatePart.sealConversion => "Seal template conversion failed: "

/-- A part of a template is built, or the step fails under its own text. -/
def build (part : TemplatePart) : Esys String Unit := do
  match ← Prog.perform (EsysCmd.build part) with
  | Except.ok () => return ()
  | Except.error e => Prog.fail (part.message ++ e)

/-- The template of the storage key, from its three parts. -/
def eccSrkTemplate : Esys String Unit := do
  build TemplatePart.srkAttributes
  build TemplatePart.srkEccParameters
  build TemplatePart.srkTemplate

/-- The template of the sealed object, from its three parts. -/
def sealTemplate : Esys String Unit := do
  build TemplatePart.sealAttributes
  build TemplatePart.policyDigest
  build TemplatePart.sealTemplate

/-- `Esys_TR_Serialize`: the bytes of a handle, or the step fails under its name. -/
def trSerialize (handle : ℕ) : Esys String Bytes := do
  let reply ← Prog.perform (EsysCmd.trSerialize handle)
  tssOk reply.1 "Esys_TR_Serialize"
  return reply.2

/-- `get_srk`: the handle, whether the caller must flush it, and the serialized key. -/
def getSrk : Esys String (ℕ × Bool × Bytes) := do
  let found ← Prog.perform (EsysCmd.trFromTpmPublic tpm2PersistentSrk)
  if found.1 = 0 then
    let srkBlob ← trSerialize found.2
    return (found.2, false, srkBlob)
  else
    Prog.perform EsysCmd.trSetOwnerAuth
    eccSrkTemplate
    build TemplatePart.srkConversion
    let created ← Prog.perform EsysCmd.createPrimary
    tssOk created.1 "Esys_CreatePrimary"
    let srkBlob ← trSerialize created.2
    return (created.2, true, srkBlob)

/-- `start_session`: a session of the given type, named in the text of its failure. -/
def startSession (sessionType : ℕ) (kind : String) : Esys String ℕ := do
  let reply ← Prog.perform (EsysCmd.startAuthSession sessionType)
  tssOk reply.1 ("Esys_StartAuthSession (" ++ kind ++ ")")
  return reply.2

/-- `Esys_PolicyPCR` in a session. -/
def policyPcr (session : ℕ) (pcrList : PcrSelection) : Esys String Unit := do
  tssOk (← Prog.perform (EsysCmd.policyPcr session pcrList)) "Esys_PolicyPCR"

/-- `Esys_PolicyAuthValue` in a session. -/
def policyAuthValue (session : ℕ) : Esys String Unit := do
  tssOk (← Prog.perform (EsysCmd.policyAuthValue session)) "Esys_PolicyAuthValue"

/-- `Esys_PolicyGetDigest` of a session. -/
def policyGetDigest (session : ℕ) : Esys String Bytes := do
  let reply ← Prog.perform (EsysCmd.policyGetDigest session)
  tssOk reply.1 "Esys_PolicyGetDigest"
  return reply.2

/-- The policy digest by way of the trial session. -/
def trialDigest (session : ℕ) (pcrList : PcrSelection) (pin : String) : Esys String Bytes := do
  policyPcr session pcrList
  if pin ≠ "" then policyAuthValue session
  policyGetDigest session

/-- `build_sensitive_create`. -/
def buildSensitiveCreate (secret : Bytes) : Esys String Unit :=
  if secret.length > sensitiveDataMax then
    Prog.fail ("Secret too large to seal (" ++ toString secret.length ++ " > "
      ++ toString sensitiveDataMax ++ " bytes)")
  else Prog.ret ()

/-- The part of `seal_inner` that seals the secret under the storage key. -/
def sealBlob (srk : ℕ) (secret policyHash : Bytes) (pin : String) : Esys String Bytes := do
  sealTemplate
  build TemplatePart.sealConversion
  buildSensitiveCreate secret
  let reply ← Prog.perform (EsysCmd.create srk secret pin policyHash)
  tssOk reply.1 "Esys_Create (seal)"
  let outPrivate ← Prog.perform (EsysCmd.marshalPrivate reply.2.1)
  tssOk outPrivate.1 "Marshal"
  let outPublic ← Prog.perform (EsysCmd.marshalPublic reply.2.2)
  tssOk outPublic.1 "Marshal"
  return outPrivate.2 ++ outPublic.2

/-! ## The flusher

Rust drops a `HandleFlusher` at the end of its scope.  Here a computation hands its tracked handles
on, also when it fails, and `withFlusher` flushes them at the end.
-/

/-- A step on which the flusher holds these handles. -/
def holding {α : Type} (handles : List ℕ) (step : Esys String α) : Esys (String × List ℕ) α :=
  step.mapErr fun e => (e, handles)

/-- `HandleFlusher::flush_now`. -/
def flushNow {ε : Type} (handles : List ℕ) (handle : ℕ) : Esys ε (List ℕ) := do
  Prog.perform (EsysCmd.flushContext handle)
  return handles.filter (· ≠ handle)

/-- `HandleFlusher::drop`. -/
def flushAll {ε : Type} : List ℕ → Esys ε Unit
  | [] => return ()
  | handle :: handles => do
      Prog.perform (EsysCmd.flushContext handle)
      flushAll handles

/-- What the flusher holds when a function returns. -/
def held {α : Type} : Except (String × List ℕ) (α × List ℕ) → List ℕ
  | Except.ok x => x.2
  | Except.error x => x.2

/-- The result without the flusher. -/
def resultOf {α : Type} : Except (String × List ℕ) (α × List ℕ) → Except String α
  | Except.ok x => Except.ok x.1
  | Except.error x => Except.error x.1

/-- A flusher is made, used and dropped. -/
def withFlusher {α : Type} (body : Esys (String × List ℕ) (α × List ℕ)) : Esys String α := do
  let result ← body.attempt
  flushAll (held result)
  Prog.ofExcept (resultOf result)

/-- `tcti_conf`: the first of three variables that is set and not empty. -/
def tctiConf (var : String → Option String) : String :=
  match (["TPM2TOOLS_TCTI", "TCTI", "TEST_TCTI"].filterMap var).find? (· ≠ "") with
  | some value => value
  | none => "device:/dev/tpmrm0"

/-- `EsysContext::new`. -/
def esysContextNew (var : String → Option String) : Esys String Unit := do
  if '\x00' ∈ (tctiConf var).toList then
    Prog.fail "TCTI configuration contains a NUL byte"
  else
    tssOk (← Prog.perform (EsysCmd.tctiInitialize (tctiConf var))) "Tss2_TctiLdr_Initialize"
    let rc ← Prog.perform EsysCmd.esysInitialize
    if rc ≠ 0 then
      Prog.perform EsysCmd.tctiFinalize
      Prog.fail ("Esys_Initialize failed: 0x" ++ hex08 rc)
    else return ()

/-- A context is made, used and dropped. -/
def withContext {α : Type} (var : String → Option String) (body : Esys String α) :
    Esys String α := do
  esysContextNew var
  let result ← body.attempt
  Prog.perform EsysCmd.esysFinalize
  Prog.perform EsysCmd.tctiFinalize
  Prog.ofExcept result

/-! ## Sealing and unsealing

The two functions in the order of their calls, and their wrappers.
-/

/-- `seal_inner`: a trial session works out the digest, and the secret is sealed to it. -/
def sealInner (secret : Bytes) (pcrList : PcrSelection) (pin : String) :
    Esys (String × List ℕ) (SealResult × List ℕ) := do
  let srk ← holding [] getSrk
  let tracked := if srk.2.1 then [srk.1] else []
  let trialSession ← holding tracked (startSession tpm2SeTrial "trial")
  let policyHash ← holding (tracked ++ [trialSession]) (trialDigest trialSession pcrList pin)
  let tracked ← flushNow (tracked ++ [trialSession]) trialSession
  let blob ← holding tracked (sealBlob srk.1 secret policyHash pin)
  let tracked ← (if srk.2.1 then flushNow tracked srk.1 else Prog.ret tracked)
  return (⟨blob, policyHash, "ecc", srk.2.2⟩, tracked)

/-- `seal`. -/
def sealSecret (var : String → Option String) (secret : Bytes) (pcrs pin : String) :
    Esys String SealResult := do
  let pcrList ← Prog.ofExcept (buildPcrSelectionList HashingAlgorithm.sha256 pcrs)
  withContext var (withFlusher (sealInner secret pcrList pin))

/-- The sealed object is read from the blob and loaded under the storage key. -/
def loadSealed (srk : ℕ) (token : Tpm2TokenRef) : Esys String ℕ := do
  tssOk (← Prog.perform (EsysCmd.unmarshalPrivate token.blob)) "Unmarshal TPM2B_PRIVATE"
  tssOk (← Prog.perform (EsysCmd.unmarshalPublic token.blob)) "Unmarshal TPM2B_PUBLIC"
  let reply ← Prog.perform (EsysCmd.load srk token.blob)
  tssOk reply.1 "Esys_Load"
  return reply.2

/-- The loaded object gets its auth value, whose return code is ignored. -/
def setPin (loaded : ℕ) (token : Tpm2TokenRef) (pin : String) : Esys String Unit :=
  if token.pinRequired ∧ pin ≠ "" then Prog.perform (EsysCmd.trSetAuth loaded pin) else Prog.ret ()

/-- The policy is replayed and the object unsealed. -/
def unsealWith (loaded session : ℕ) (token : Tpm2TokenRef) (pcrList : PcrSelection) :
    Esys String Bytes := do
  policyPcr session pcrList
  if token.pinRequired then policyAuthValue session
  let reply ← Prog.perform (EsysCmd.unseal loaded session)
  tssOk reply.1 "Esys_Unseal"
  return reply.2

/-- `unseal_inner`: the blob is loaded, the policy replayed, and the secret asked for. -/
def unsealInner (token : Tpm2TokenRef) (pcrList : PcrSelection) (pin : String) :
    Esys (String × List ℕ) (Bytes × List ℕ) := do
  let srk ← holding [] getSrk
  let tracked := if srk.2.1 then [srk.1] else []
  let loaded ← holding tracked (loadSealed srk.1 token)
  holding (tracked ++ [loaded]) (setPin loaded token pin)
  let policySession ← holding (tracked ++ [loaded]) (startSession tpm2SePolicy "policy")
  let secret ← holding (tracked ++ [loaded, policySession])
    (unsealWith loaded policySession token pcrList)
  return (secret, tracked ++ [loaded, policySession])

/-- `try_unseal_token`: one token, in a context of its own. -/
def tryUnsealToken (var : String → Option String) (token : Tpm2TokenRef) (pin : String) :
    Esys String Bytes := do
  let pcrList ← Prog.ofExcept (buildPcrSelectionList (pcrBankToAlg token.pcrBank) token.pcrs)
  withContext var (withFlusher (unsealInner token pcrList pin))

/-! ## What happens to the handles

A run is looked at by its log: which handles were handed out and which were flushed.  The lemmas go
through the functions once, with a count that most calls leave alone.
-/

/-- The calls of a run with their answers. -/
abbrev EsysLog := List (Answered EsysCmd EsysReply)

/-- The handle that a call answered with, if it succeeded. -/
def handleOf (reply : ℕ × ℕ) : List ℕ := if reply.1 = 0 then [reply.2] else []

/-- The transient objects and the sessions that were created. -/
def created (log : EsysLog) : List ℕ := log.flatMap fun
  | ⟨EsysCmd.createPrimary, reply⟩ => handleOf reply
  | ⟨EsysCmd.startAuthSession _, reply⟩ => handleOf reply
  | ⟨EsysCmd.load _ _, reply⟩ => handleOf reply
  | _ => []

/-- The transient storage keys. -/
def primaries (log : EsysLog) : List ℕ := log.flatMap fun
  | ⟨EsysCmd.createPrimary, reply⟩ => handleOf reply
  | _ => []

/-- The handles that stand for the persistent storage key. -/
def persistent (log : EsysLog) : List ℕ := log.flatMap fun
  | ⟨EsysCmd.trFromTpmPublic _, reply⟩ => handleOf reply
  | _ => []

/-- The handles that were flushed, in order. -/
def flushed (log : EsysLog) : List ℕ := log.flatMap fun
  | ⟨EsysCmd.flushContext handle, _⟩ => [handle]
  | _ => []

/-- The handles whose serialization failed. -/
def unserialized (log : EsysLog) : List ℕ := log.flatMap fun
  | ⟨EsysCmd.trSerialize handle, reply⟩ => if reply.1 ≠ 0 then [handle] else []
  | _ => []

/-- Every object of a context has a handle of its own. -/
def DistinctHandles (log : EsysLog) : Prop := (persistent log ++ created log).Nodup

/-- **Every handle is given back**: what was created is flushed once before the context is finalized,
and the persistent key never is. -/
structure HandlesReleased (log : EsysLog) : Prop where
  once : ∀ handle ∈ created log, ∃ earlier later,
    log = earlier ++ ⟨EsysCmd.esysFinalize, ()⟩ :: later
      ∧ (flushed earlier).count handle = 1 ∧ handle ∉ flushed later
  persistent_kept : ∀ handle ∈ persistent log, handle ∉ flushed log

/-- A transient storage key was created and could not be serialized. -/
def SrkUnserialized (log : EsysLog) : Prop := ∃ srk ∈ primaries log, srk ∈ unserialized log

/-- A call that has nothing to do with handles. -/
def EsysCmd.Quiet : EsysCmd → Prop
  | EsysCmd.createPrimary => False
  | EsysCmd.startAuthSession _ => False
  | EsysCmd.load _ _ => False
  | EsysCmd.trFromTpmPublic _ => False
  | EsysCmd.trSerialize _ => False
  | EsysCmd.flushContext _ => False
  | EsysCmd.esysFinalize => False
  | _ => True

/-- The accounts of a history. -/
structure Tally where
  created : List ℕ
  primaries : List ℕ
  persistent : List ℕ
  flushed : List ℕ
  unserialized : List ℕ

/-- Everything that the theorem counts, at once. -/
def tally (log : EsysLog) : Tally :=
  ⟨created log, primaries log, persistent log, flushed log, unserialized log⟩

/-- A call that hands out and flushes nothing changes no count. -/
lemma tally_quiet {c : EsysCmd} (hc : c.Quiet) (r : EsysReply c) (past : EsysLog) :
    tally (⟨c, r⟩ :: past) = tally past := by
  cases c <;> first | exact hc.elim | rfl

/-- A primary key is counted among the handles, and as a primary. -/
lemma tally_createPrimary (reply : ℕ × ℕ) (past : EsysLog) :
    tally (⟨EsysCmd.createPrimary, reply⟩ :: past) = { tally past with
      created := handleOf reply ++ (tally past).created
      primaries := handleOf reply ++ (tally past).primaries } := rfl

/-- A session that started is counted among the handles. -/
lemma tally_startAuthSession (sessionType : ℕ) (reply : ℕ × ℕ) (past : EsysLog) :
    tally (⟨EsysCmd.startAuthSession sessionType, reply⟩ :: past)
      = { tally past with created := handleOf reply ++ (tally past).created } := rfl

/-- An object that was loaded is counted among the handles. -/
lemma tally_load (srk : ℕ) (blob : Bytes) (reply : ℕ × ℕ) (past : EsysLog) :
    tally (⟨EsysCmd.load srk blob, reply⟩ :: past)
      = { tally past with created := handleOf reply ++ (tally past).created } := rfl

lemma tally_flushContext (handle : ℕ) (past : EsysLog) :
    tally (⟨EsysCmd.flushContext handle, ()⟩ :: past)
      = { tally past with flushed := handle :: (tally past).flushed } := rfl

/-- A quiet program changes none of the accounts. -/
lemma tells_quiet {ε α : Type} {p : Esys ε α} (hp : p.AllCalls EsysCmd.Quiet) (past : EsysLog) :
    p.Tells (fun _ _ => True) (fun _ past' => tally past' = tally past) past :=
  Tells.keeps (fun _ r past' hc h => (tally_quiet hc r past').trans h) hp rfl

/-- A quiet step, and then the rest with the accounts as they were. -/
lemma tells_quiet_bind {ε α β : Type} {p : Esys ε α} {f : α → Esys ε β} {past : EsysLog}
    {Q : Except ε β → EsysLog → Prop} (hp : p.AllCalls EsysCmd.Quiet)
    (hf : ∀ a past', tally past' = tally past → (f a).Tells (fun _ _ => True) Q past')
    (herr : ∀ e past', tally past' = tally past → Q (Except.error e) past') :
    (p.bind f).Tells (fun _ _ => True) Q past := by
  refine Tells.bind (Tells.mono ?_ (tells_quiet hp past))
  rintro (e | a) past' hpast'
  · exact herr e past' hpast'
  · exact hf a past' hpast'

/-- Building a part of a template hands out nothing. -/
lemma build_quiet (part : TemplatePart) : (build part).AllCalls EsysCmd.Quiet := by
  refine ⟨trivial, fun r => ?_⟩
  cases r <;> trivial

lemma perform_quiet {ε : Type} {c : EsysCmd} (hc : c.Quiet) :
    (Prog.perform c : Esys ε (EsysReply c)).AllCalls EsysCmd.Quiet := ⟨hc, fun _ => trivial⟩

lemma tssOk_quiet (rc : ℕ) (step : String) : (tssOk rc step).AllCalls EsysCmd.Quiet := by
  rw [tssOk]
  split_ifs <;> trivial

/-- The template of the storage key hands out nothing. -/
lemma eccSrkTemplate_quiet : eccSrkTemplate.AllCalls EsysCmd.Quiet :=
  AllCalls.bind (build_quiet _) fun _ => AllCalls.bind (build_quiet _) fun _ => build_quiet _

/-- A handle is serialized, or is counted as one that was not. -/
lemma tells_trSerialize (handle : ℕ) (past : EsysLog) :
    (trSerialize handle).Tells (fun _ _ => True) (fun x past' =>
      (∀ b, x = Except.ok b → tally past' = tally past)
        ∧ ∀ e, x = Except.error e → tally past'
          = { tally past with unserialized := handle :: (tally past).unserialized }) past := by
  refine ⟨trivial, fun reply => ?_⟩
  show Tells _ _ ((tssOk reply.1 "Esys_TR_Serialize").bind fun _ => Prog.ret reply.2) _
  rw [tssOk]
  split_ifs with hrc
  · refine ⟨fun b hb => (by cases hb), fun e _ => ?_⟩
    simp [tally, created, primaries, persistent, flushed, unserialized, hrc]
  · refine ⟨fun b _ => ?_, fun e he => (by cases he)⟩
    simp [tally, created, primaries, persistent, flushed, unserialized, hrc]

/-- How `get_srk` leaves the accounts: with a persistent key, with a transient one that the caller
must flush, or with an error — then possibly with a key that nobody knows of. -/
def SrkEnd : Except String (ℕ × Bool × Bytes) → EsysLog → Prop
  | Except.ok (srk, true, _), past => tally past = ⟨[srk], [srk], [], [], []⟩
  | Except.ok (srk, false, _), past => tally past = ⟨[], [], [srk], [], []⟩
  | Except.error _, past => tally past = ⟨[], [], [], [], []⟩
      ∨ (∃ srk, tally past = ⟨[], [], [srk], [], [srk]⟩) ∨ ∃ srk, tally past = ⟨[srk], [srk], [], [], [srk]⟩

/-- What `get_srk` leaves behind, whichever way it ends. -/
lemma getSrk_tells : getSrk.Tells (fun _ _ => True) SrkEnd [] := by
  refine ⟨trivial, fun found => ?_⟩
  show Tells _ _ (if found.1 = 0 then _ else _) _
  split_ifs with hfound
  · have hstart : tally [⟨EsysCmd.trFromTpmPublic tpm2PersistentSrk, found⟩]
        = ⟨[], [], [found.2], [], []⟩ := by
      simp [tally, created, primaries, persistent, flushed, unserialized, handleOf, hfound]
    refine Tells.bind (Tells.mono ?_ (tells_trSerialize found.2 _))
    rintro (e | srkBlob) past ⟨hok, herr⟩
    · exact Or.inr (Or.inl ⟨found.2, (herr e rfl).trans (by rw [hstart])⟩)
    · exact (hok srkBlob rfl).trans hstart
  · have hstart : tally [⟨EsysCmd.trFromTpmPublic tpm2PersistentSrk, found⟩]
        = ⟨[], [], [], [], []⟩ := by
      simp [tally, created, primaries, persistent, flushed, unserialized, handleOf, hfound]
    refine tells_quiet_bind ⟨trivial, fun _ => trivial⟩ (fun _ past₁ h₁ => ?_)
      fun e past' h => Or.inl (h.trans hstart)
    rw [hstart] at h₁
    refine tells_quiet_bind eccSrkTemplate_quiet (fun _ past₂ h₂ => ?_)
      fun e past' h => Or.inl (h.trans h₁)
    rw [h₁] at h₂
    refine tells_quiet_bind (build_quiet _) (fun _ past₃ h₃ => ?_)
      fun e past' h => Or.inl (h.trans h₂)
    rw [h₂] at h₃
    refine ⟨trivial, fun made => ?_⟩
    show Tells _ _ ((tssOk made.1 "Esys_CreatePrimary").bind fun _ =>
      (trSerialize made.2).bind fun srkBlob => Prog.ret (made.2, true, srkBlob)) _
    have hmade := tally_createPrimary made past₃
    rw [h₃] at hmade
    rw [tssOk]
    split_ifs with hrc
    · rw [handleOf, if_neg hrc] at hmade
      exact Or.inl hmade
    · rw [handleOf, if_pos (not_not.mp hrc)] at hmade
      rw [Prog.bind_ret]
      refine Tells.bind (Tells.mono ?_ (tells_trSerialize made.2 _))
      rintro (e | srkBlob) past ⟨hok, herr⟩
      · exact Or.inr (Or.inr ⟨made.2, (herr e rfl).trans (by rw [hmade]; rfl)⟩)
      · exact (hok srkBlob rfl).trans hmade

/-- The accounts are settled, given what the flusher still holds: every handle is held or flushed,
or the storage key is left behind. -/
def Tally.Settles (t : Tally) (handles : List ℕ) : Prop :=
  (t.persistent ++ t.created).Nodup →
    ((¬ ∃ srk ∈ t.primaries, srk ∈ t.unserialized) ∧ t.created.Perm (handles ++ t.flushed))
      ∨ ((∃ srk ∈ t.primaries, srk ∈ t.unserialized) ∧ t.created ≠ [] ∧ handles ++ t.flushed = [])

/-- What was handed out is what is held and what was flushed. -/
lemma settles_of_perm {t : Tally} {handles : List ℕ} (hun : t.unserialized = [])
    (hperm : t.created.Perm (handles ++ t.flushed)) : t.Settles handles := by
  intro _
  refine Or.inl ⟨?_, hperm⟩
  simp [hun]

section Inner

variable {α β : Type} {handles : List ℕ} {past : EsysLog}
  {Q : Except (String × List ℕ) β → EsysLog → Prop}

lemma tells_holding_bind {p : Esys String α} {f : α → Esys (String × List ℕ) β}
    {S : Except String α → EsysLog → Prop} (hp : p.Tells (fun _ _ => True) S past)
    (hf : ∀ a past', S (Except.ok a) past' → (f a).Tells (fun _ _ => True) Q past')
    (herr : ∀ e past', S (Except.error e) past' → Q (Except.error (e, handles)) past') :
    ((holding handles p).bind f).Tells (fun _ _ => True) Q past := by
  refine Tells.bind (Tells.mapErr (Tells.mono ?_ hp))
  rintro (e | a) past' hpast'
  · exact herr e past' hpast'
  · exact hf a past' hpast'

end Inner

/-- A step that hands out one handle: it is new in the accounts, or nothing is. -/
def HandsOut (past : EsysLog) (x : Except String ℕ) (past' : EsysLog) : Prop :=
  (∀ handle, x = Except.ok handle →
      tally past' = { tally past with created := handle :: (tally past).created })
    ∧ ∀ e, x = Except.error e → tally past' = tally past

/-- A call that answers with one handle has handed out that handle. -/
lemma handsOut_of_reply {past past' : EsysLog} {reply : ℕ × ℕ} (step : String)
    (h : tally past' = { tally past with created := handleOf reply ++ (tally past).created }) :
    ((tssOk reply.1 step).bind fun _ => (Prog.ret reply.2 : Esys String ℕ)).Tells
      (fun _ _ => True) (HandsOut past) past' := by
  rw [tssOk]
  split_ifs with hrc
  · rw [handleOf, if_neg hrc] at h
    exact ⟨fun _ heq => (by cases heq), fun _ _ => h⟩
  · rw [handleOf, if_pos (not_not.mp hrc)] at h
    refine ⟨fun handle heq => ?_, fun _ heq => (by cases heq)⟩
    rw [← Except.ok.inj heq]
    exact h

/-- A session hands out its handle when it starts. -/
lemma startSession_tells (sessionType : ℕ) (kind : String) (past : EsysLog) :
    (startSession sessionType kind).Tells (fun _ _ => True) (HandsOut past) past :=
  ⟨trivial, fun reply => handsOut_of_reply _ (tally_startAuthSession sessionType reply past)⟩

/-- Loading hands out the handle of the object when it succeeds. -/
lemma loadSealed_tells (srk : ℕ) (token : Tpm2TokenRef) (past : EsysLog) :
    (loadSealed srk token).Tells (fun _ _ => True) (HandsOut past) past := by
  have hstop : ∀ (e : String) (past' : EsysLog), tally past' = tally past →
      HandsOut past (Except.error e) past' :=
    fun e past' h => ⟨fun _ heq => (by cases heq), fun _ _ => h⟩
  have hunmarshal : ((Prog.perform (EsysCmd.unmarshalPrivate token.blob)).bind fun rc =>
      tssOk rc "Unmarshal TPM2B_PRIVATE").AllCalls EsysCmd.Quiet :=
    AllCalls.bind (perform_quiet trivial) fun rc => tssOk_quiet rc _
  have hunmarshal' : ((Prog.perform (EsysCmd.unmarshalPublic token.blob)).bind fun rc =>
      tssOk rc "Unmarshal TPM2B_PUBLIC").AllCalls EsysCmd.Quiet :=
    AllCalls.bind (perform_quiet trivial) fun rc => tssOk_quiet rc _
  rw [loadSealed]
  simp only [Prog.bind_def]
  rw [← Prog.bind_assoc]
  refine tells_quiet_bind hunmarshal (fun _ past₁ h₁ => ?_) hstop
  rw [← Prog.bind_assoc]
  refine tells_quiet_bind hunmarshal' (fun _ past₂ h₂ => ?_)
    fun e past' h => hstop e past' (h.trans h₁)
  refine ⟨trivial, fun reply => handsOut_of_reply _ ?_⟩
  have hload := tally_load srk token.blob reply past₂
  rw [show tally past₂ = tally past from h₂.trans h₁] at hload
  exact hload

/-- The policy of the registers hands out nothing. -/
lemma policyPcr_quiet (session : ℕ) (pcrList : PcrSelection) :
    (policyPcr session pcrList).AllCalls EsysCmd.Quiet := ⟨trivial, fun rc => tssOk_quiet rc _⟩

lemma policyAuthValue_quiet (session : ℕ) : (policyAuthValue session).AllCalls EsysCmd.Quiet :=
  ⟨trivial, fun rc => tssOk_quiet rc _⟩

/-- The digest is worked out in a session that is there already. -/
lemma trialDigest_quiet (session : ℕ) (pcrList : PcrSelection) (pin : String) :
    (trialDigest session pcrList pin).AllCalls EsysCmd.Quiet := by
  have hdigest : (policyGetDigest session).AllCalls EsysCmd.Quiet :=
    AllCalls.bind (perform_quiet trivial) fun reply =>
      AllCalls.bind (tssOk_quiet reply.1 _) fun _ => trivial
  refine AllCalls.bind (policyPcr_quiet session pcrList) fun _ => ?_
  split_ifs
  · exact AllCalls.bind (policyAuthValue_quiet session) fun _ => hdigest
  · exact hdigest

/-- Creating the blob hands out nothing: it is not loaded. -/
lemma sealBlob_quiet (srk : ℕ) (secret policyHash : Bytes) (pin : String) :
    (sealBlob srk secret policyHash pin).AllCalls EsysCmd.Quiet := by
  have htemplate : sealTemplate.AllCalls EsysCmd.Quiet :=
    AllCalls.bind (build_quiet _) fun _ => AllCalls.bind (build_quiet _) fun _ => build_quiet _
  have hsensitive : (buildSensitiveCreate secret).AllCalls EsysCmd.Quiet := by
    rw [buildSensitiveCreate]
    split_ifs <;> trivial
  refine AllCalls.bind htemplate fun _ => AllCalls.bind (build_quiet _) fun _ =>
    AllCalls.bind hsensitive fun _ => AllCalls.bind (perform_quiet trivial) fun reply =>
      AllCalls.bind (tssOk_quiet _ _) fun _ => ?_
  refine AllCalls.bind (perform_quiet trivial) fun outPrivate =>
    AllCalls.bind (tssOk_quiet _ _) fun _ => ?_
  exact AllCalls.bind (perform_quiet trivial) fun outPublic =>
    AllCalls.bind (tssOk_quiet _ _) fun _ => trivial

lemma setPin_quiet (loaded : ℕ) (token : Tpm2TokenRef) (pin : String) :
    (setPin loaded token pin).AllCalls EsysCmd.Quiet := by
  rw [setPin]
  split_ifs
  · exact ⟨trivial, fun _ => trivial⟩
  · trivial

lemma unsealWith_quiet (loaded session : ℕ) (token : Tpm2TokenRef) (pcrList : PcrSelection) :
    (unsealWith loaded session token pcrList).AllCalls EsysCmd.Quiet := by
  have hunseal : ((Prog.perform (EsysCmd.unseal loaded session)).bind fun reply =>
      (tssOk reply.1 "Esys_Unseal").bind fun _ => (Prog.ret reply.2 : Esys String Bytes)).AllCalls
      EsysCmd.Quiet :=
    AllCalls.bind (perform_quiet trivial) fun reply =>
      AllCalls.bind (tssOk_quiet reply.1 _) fun _ => trivial
  refine AllCalls.bind (policyPcr_quiet session pcrList) fun _ => ?_
  split_ifs
  · exact AllCalls.bind (policyAuthValue_quiet session) fun _ => hunseal
  · exact hunseal

/-- What the callers of `get_srk` begin with: the handles they track, as they are in the accounts. -/
def Begun (tracked : List ℕ) (past : EsysLog) : Prop :=
  ∃ kept, tally past = ⟨tracked, tracked, kept, [], []⟩

/-- `get_srk` under the flusher, and then the rest. -/
lemma tells_getSrk_bind {α : Type} {f : ℕ × Bool × Bytes → Esys (String × List ℕ) (α × List ℕ)}
    (hf : ∀ srk past, Begun (if srk.2.1 then [srk.1] else []) past →
      (f srk).Tells (fun _ _ => True) (fun x past' => (tally past').Settles (held x)) past) :
    ((holding [] getSrk).bind f).Tells (fun _ _ => True)
      (fun x past' => (tally past').Settles (held x)) [] := by
  refine tells_holding_bind getSrk_tells ?_ ?_
  · rintro ⟨srk, needFlush, srkBlob⟩ past hpast
    cases needFlush with
    | true => exact hf _ past ⟨[], hpast⟩
    | false => exact hf _ past ⟨[srk], hpast⟩
  · rintro e past (hpast | ⟨srk, hpast⟩ | ⟨srk, hpast⟩)
    · rw [hpast]
      exact settles_of_perm rfl (List.Perm.refl _)
    · rw [hpast]
      exact fun _ => Or.inl ⟨by simp, List.Perm.refl _⟩
    · rw [hpast]
      exact fun _ => Or.inr ⟨by simp, by simp, rfl⟩

/-- A step that the accounts do not see, under the flusher. -/
lemma tells_holding_quiet_bind {α β : Type} {handles : List ℕ} {past : EsysLog} {p : Esys String α}
    {f : α → Esys (String × List ℕ) (β × List ℕ)} (hp : p.AllCalls EsysCmd.Quiet)
    (hsettled : (tally past).Settles handles)
    (hf : ∀ a past', tally past' = tally past →
      (f a).Tells (fun _ _ => True) (fun x past' => (tally past').Settles (held x)) past') :
    ((holding handles p).bind f).Tells (fun _ _ => True)
      (fun x past' => (tally past').Settles (held x)) past := by
  refine tells_holding_bind (tells_quiet hp past) hf fun e past' hpast' => ?_
  rw [hpast']
  exact hsettled

/-- A step that hands out a handle, under the flusher. -/
lemma tells_holding_handsOut_bind {β : Type} {handles : List ℕ} {past : EsysLog} {p : Esys String ℕ}
    {f : ℕ → Esys (String × List ℕ) (β × List ℕ)}
    (hp : p.Tells (fun _ _ => True) (HandsOut past) past) (hsettled : (tally past).Settles handles)
    (hf : ∀ handle past',
      tally past' = { tally past with created := handle :: (tally past).created } →
        (f handle).Tells (fun _ _ => True) (fun x past' => (tally past').Settles (held x)) past') :
    ((holding handles p).bind f).Tells (fun _ _ => True)
      (fun x past' => (tally past').Settles (held x)) past := by
  refine tells_holding_bind hp (fun handle past' h => hf handle past' (h.1 handle rfl)) ?_
  intro e past' h
  rw [h.2 e rfl]
  exact hsettled

/-- However `unseal_inner` ends, every handle is tracked, but for a key that could not be
serialized. -/
lemma unsealInner_tells (token : Tpm2TokenRef) (pcrList : PcrSelection) (pin : String) :
    (unsealInner token pcrList pin).Tells (fun _ _ => True)
      (fun x past => (tally past).Settles (held x)) [] := by
  refine tells_getSrk_bind fun srk past hbegun => ?_
  generalize (if srk.2.1 then [srk.1] else []) = tracked at hbegun ⊢
  obtain ⟨kept, hpast⟩ := hbegun
  refine tells_holding_handsOut_bind (loadSealed_tells srk.1 token past) ?_ fun loaded past₁ h₁ => ?_
  · rw [hpast]
    exact settles_of_perm rfl (by simp)
  rw [hpast] at h₁
  refine tells_holding_quiet_bind (setPin_quiet loaded token pin) ?_ fun _ past₂ h₂ => ?_
  · rw [h₁]
    exact settles_of_perm rfl (by simpa using (List.perm_append_singleton loaded tracked).symm)
  rw [h₁] at h₂
  refine tells_holding_handsOut_bind (startSession_tells _ _ past₂) ?_ fun session past₃ h₃ => ?_
  · rw [h₂]
    exact settles_of_perm rfl (by simpa using (List.perm_append_singleton loaded tracked).symm)
  rw [h₂] at h₃
  have hend : (tally past₃).Settles (tracked ++ [loaded, session]) := by
    rw [h₃]
    refine settles_of_perm rfl ?_
    rw [List.append_nil]
    exact (List.Perm.swap loaded session tracked).trans
      (@List.perm_append_comm _ [loaded, session] tracked)
  refine tells_holding_quiet_bind (unsealWith_quiet loaded session token pcrList) hend ?_
  intro secret past₄ h₄
  show (tally past₄).Settles (tracked ++ [loaded, session])
  rw [h₄]
  exact hend

/-- What is left of the tracked handles when the trial session is flushed. -/
lemma filter_trial {tracked : List ℕ} {trial : ℕ} (h : trial ∉ tracked) :
    (tracked ++ [trial]).filter (· ≠ trial) = tracked := by
  rw [List.filter_append]
  have hkeep : tracked.filter (· ≠ trial) = tracked := by
    rw [List.filter_eq_self]
    intro handle hmem
    simpa using fun heq : handle = trial => h (heq ▸ hmem)
  rw [hkeep]
  simp

/-- When sealing ends, what was handed out is tracked or was flushed. -/
lemma sealInner_tells (secret : Bytes) (pcrList : PcrSelection) (pin : String) :
    (sealInner secret pcrList pin).Tells (fun _ _ => True)
      (fun x past => (tally past).Settles (held x)) [] := by
  refine tells_getSrk_bind fun srk past hbegun => ?_
  obtain ⟨kept, hpast⟩ := hbegun
  generalize htracked : (if srk.2.1 then [srk.1] else []) = tracked at hpast ⊢
  refine tells_holding_handsOut_bind (startSession_tells _ _ past) ?_ fun trial past₁ h₁ => ?_
  · rw [hpast]
    exact settles_of_perm rfl (by simp)
  rw [hpast] at h₁
  refine tells_holding_quiet_bind (trialDigest_quiet trial pcrList pin) ?_ fun policyHash past₂ h₂ => ?_
  · rw [h₁]
    exact settles_of_perm rfl (by simpa using (List.perm_append_singleton trial tracked).symm)
  rw [h₁] at h₂
  -- the trial session is flushed; the rest is still tracked if the handles differ
  refine ⟨trivial, fun _ => ?_⟩
  have h₃ := tally_flushContext trial past₂
  rw [h₂] at h₃
  refine tells_holding_quiet_bind (sealBlob_quiet srk.1 secret policyHash pin) ?_ fun blob past₄ h₄ => ?_
  · rw [h₃]
    intro hdistinct
    have hnew : trial ∉ tracked := (List.nodup_cons.mp (List.nodup_append.mp hdistinct).2.1).1
    rw [filter_trial hnew]
    exact Or.inl ⟨by simp, (List.perm_append_singleton trial tracked).symm⟩
  rw [h₃] at h₄
  split_ifs with hflush
  · refine ⟨trivial, fun _ => ?_⟩
    rw [if_pos hflush] at htracked
    subst htracked
    show (tally (⟨EsysCmd.flushContext srk.1, ()⟩ :: past₄)).Settles
      ((([srk.1] ++ [trial]).filter (· ≠ trial)).filter (· ≠ srk.1))
    rw [tally_flushContext, h₄]
    intro hdistinct
    have hnew : trial ∉ [srk.1] := (List.nodup_cons.mp (List.nodup_append.mp hdistinct).2.1).1
    rw [filter_trial hnew]
    refine Or.inl ⟨by simp, ?_⟩
    simpa using List.Perm.swap srk.1 trial []
  · rw [if_neg hflush] at htracked
    subst htracked
    show (tally past₄).Settles (([] ++ [trial]).filter (· ≠ trial))
    rw [h₄]
    exact settles_of_perm rfl (by simp)

/-! ## The whole calls

The flusher flushes what is tracked when the function ends.  What was not tracked is the storage key
whose serialization failed.
-/

/-- The flusher flushes all that it holds, whatever the calls answer. -/
lemma flushAll_tells {ε : Type} (handles : List ℕ) (past : EsysLog) :
    (flushAll handles : Esys ε Unit).Tells (fun _ _ => True) (fun x past' => x = Except.ok ()
      ∧ tally past' = { tally past with flushed := handles.reverse ++ (tally past).flushed }) past := by
  induction handles generalizing past with
  | nil => exact ⟨rfl, rfl⟩
  | cons handle handles ih =>
      refine ⟨trivial, fun _ => Tells.mono ?_ (ih (⟨EsysCmd.flushContext handle, ()⟩ :: past))⟩
      rintro x past' ⟨hx, hpast'⟩
      refine ⟨hx, hpast'.trans ?_⟩
      rw [tally_flushContext, List.reverse_cons, List.append_assoc]
      rfl

/-- Once the flusher is dropped, everything is flushed, or the storage key is left behind. -/
lemma withFlusher_tells {α : Type} {body : Esys (String × List ℕ) (α × List ℕ)}
    (hbody : body.Tells (fun _ _ => True) (fun x past => (tally past).Settles (held x)) []) :
    (withFlusher body).Tells (fun _ _ => True) (fun _ past => (tally past).Settles []) [] := by
  refine Tells.bind (Tells.attempt (Tells.mono (fun x past hx => ?_) hbody))
  refine Tells.bind (Tells.mono ?_ (flushAll_tells (held x) past))
  rintro y past' ⟨rfl, hpast'⟩
  have hend : (tally past').Settles [] := by
    rw [hpast']
    intro hdistinct
    rcases hx hdistinct with ⟨hsrk, hperm⟩ | ⟨hsrk, hne, hnone⟩
    · refine Or.inl ⟨hsrk, hperm.trans ?_⟩
      exact (List.reverse_perm (held x)).symm.append_right _
    · refine Or.inr ⟨hsrk, hne, ?_⟩
      rw [List.append_eq_nil_iff] at hnone
      simp [hnone.1, hnone.2]
  cases resultOf x <;> exact hend

/-- What the calls of a program say of the handles, in the order of the calls. -/
def Settled (log : EsysLog) : Prop :=
  DistinctHandles log →
    (¬ SrkUnserialized log ∧ (created log).Perm (flushed log))
      ∨ (SrkUnserialized log ∧ created log ≠ [] ∧ flushed log = [])

/-- No handle is left when the counts settle with nothing held. -/
lemma settled_of_tally {log : EsysLog} (h : (tally log.reverse).Settles []) : Settled log := by
  have hcreated : (created log.reverse).Perm (created log) := (List.reverse_perm log).flatMap_right _
  have hprimaries : (primaries log.reverse).Perm (primaries log) :=
    (List.reverse_perm log).flatMap_right _
  have hpersistent : (persistent log.reverse).Perm (persistent log) :=
    (List.reverse_perm log).flatMap_right _
  have hflushed : (flushed log.reverse).Perm (flushed log) := (List.reverse_perm log).flatMap_right _
  have hunserialized : (unserialized log.reverse).Perm (unserialized log) :=
    (List.reverse_perm log).flatMap_right _
  have hsrk : (∃ srk ∈ primaries log.reverse, srk ∈ unserialized log.reverse)
      ↔ SrkUnserialized log := by
    simp only [SrkUnserialized, hprimaries.mem_iff, hunserialized.mem_iff]
  intro hdistinct
  rcases h ((hpersistent.append hcreated).nodup_iff.mpr hdistinct) with ⟨hno, hperm⟩ | ⟨hyes, hne, hnone⟩
  · exact Or.inl ⟨mt hsrk.mpr hno, hcreated.symm.trans (hperm.trans hflushed)⟩
  · refine Or.inr ⟨hsrk.mp hyes, fun hnil => hne ?_, ?_⟩
    · exact (hnil ▸ hcreated).eq_nil
    · exact (show (flushed log.reverse) = [] from hnone) ▸ hflushed.symm |>.eq_nil

/-- Arbitrary answers of libtss2, one table for every call. -/
abbrev TpmAnswers := ℕ → (c : EsysCmd) → EsysReply c

lemma esysContextNew_quiet (var : String → Option String) :
    (esysContextNew var).AllCalls EsysCmd.Quiet := by
  rw [esysContextNew]
  split_ifs
  · trivial
  refine AllCalls.bind (perform_quiet trivial) fun rc => AllCalls.bind (tssOk_quiet rc _) fun _ =>
    AllCalls.bind (perform_quiet trivial) fun rc' => ?_
  split_ifs
  · exact AllCalls.bind (perform_quiet trivial) fun _ => trivial
  · trivial

lemma tally_of_quiet {log : EsysLog} (h : ∀ e ∈ log, e.1.Quiet) : tally log = tally [] := by
  induction log with
  | nil => rfl
  | cons e log ih =>
      rw [List.forall_mem_cons] at h
      exact (tally_quiet h.1 e.2 log).trans (ih h.2)

/-- The calls of a context: it could not be made, or they are those of the body between the
initialization and the finalization. -/
lemma withContext_answers {α : Type} (var : String → Option String) (body : Esys String α)
    (os : TpmAnswers) :
    tally ((withContext var body).answers Prog.free os ()) = tally []
      ∨ ∃ opening os', tally opening = tally []
        ∧ (withContext var body).answers Prog.free os () = opening ++ body.answers Prog.free os' ()
          ++ [⟨EsysCmd.esysFinalize, ()⟩, ⟨EsysCmd.tctiFinalize, ()⟩] := by
  have hquiet : tally ((esysContextNew var).answers Prog.free os ()) = tally [] :=
    tally_of_quiet (esysContextNew_quiet var).of_mem_answers
  have hclose : ∀ (result : Except String α) (os : TpmAnswers),
      (((Prog.perform EsysCmd.esysFinalize : Esys String Unit).bind fun _ =>
        (Prog.perform EsysCmd.tctiFinalize).bind fun _ => Prog.ofExcept result).answers Prog.free os ())
        = [⟨EsysCmd.esysFinalize, ()⟩, ⟨EsysCmd.tctiFinalize, ()⟩] := by
    intro result os
    cases result <;> rfl
  rw [withContext]
  rw [Prog.bind_def]
  cases hnew : ((esysContextNew var).run Prog.free os ()).1 with
  | error e =>
      rw [Prog.answers_bind_error (Prod.ext hnew rfl)]
      exact Or.inl hquiet
  | ok u =>
      refine Or.inr ⟨_, Prog.after ((esysContextNew var).steps Prog.free os ()) os, hquiet, ?_⟩
      rw [Prog.answers_bind_ok (Prod.ext hnew rfl), Prog.bind_def,
        Prog.answers_bind_ok (Prog.run_attempt Prog.free body _ _), Prog.answers_attempt,
        List.append_assoc]
      exact congrArg _ (congrArg _ (hclose _ _))

/-- The two requests that talk to the TPM. -/
inductive TpmRequest
  | sealing (secret : Bytes) (pcrs pin : String)
  | unsealing (token : Tpm2TokenRef) (pin : String)

/-- The calls of `seal` or of `try_unseal_token`, with their answers. -/
def TpmRequest.log (var : String → Option String) (os : TpmAnswers) : TpmRequest → EsysLog
  | TpmRequest.sealing secret pcrs pin => (sealSecret var secret pcrs pin).answers Prog.free os ()
  | TpmRequest.unsealing token pin => (tryUnsealToken var token pin).answers Prog.free os ()

/-- The calls of a request have nothing to do with handles, or they are settled and stand before the
finalization. -/
lemma log_cases (r : TpmRequest) (var : String → Option String) (os : TpmAnswers) :
    tally (r.log var os) = tally []
      ∨ ∃ opening calls, tally opening = tally [] ∧ Settled calls
        ∧ r.log var os
          = opening ++ calls ++ [⟨EsysCmd.esysFinalize, ()⟩, ⟨EsysCmd.tctiFinalize, ()⟩] := by
  have hwith : ∀ {α : Type} (body : Esys (String × List ℕ) (α × List ℕ)),
      body.Tells (fun _ _ => True) (fun x past => (tally past).Settles (held x)) [] →
      tally ((withContext var (withFlusher body)).answers Prog.free os ()) = tally []
        ∨ ∃ opening calls, tally opening = tally [] ∧ Settled calls
          ∧ (withContext var (withFlusher body)).answers Prog.free os ()
            = opening ++ calls ++ [⟨EsysCmd.esysFinalize, ()⟩, ⟨EsysCmd.tctiFinalize, ()⟩] := by
    intro α body hbody
    rcases withContext_answers var (withFlusher body) os with hnone | ⟨opening, os', hopening, hlog⟩
    · exact Or.inl hnone
    · have hend := (withFlusher_tells hbody).of_run Prog.free os' ()
      rw [List.append_nil] at hend
      exact Or.inr ⟨opening, _, hopening, settled_of_tally hend, hlog⟩
  cases r with
  | sealing secret pcrs pin =>
      show tally ((sealSecret var secret pcrs pin).answers Prog.free os ()) = _ ∨ _
      cases hlist : buildPcrSelectionList HashingAlgorithm.sha256 pcrs with
      | error e =>
          refine Or.inl ?_
          rw [sealSecret, hlist]
          rfl
      | ok pcrList =>
          have hseal := hwith _ (sealInner_tells secret pcrList pin)
          rw [TpmRequest.log, sealSecret, hlist]
          exact hseal
  | unsealing token pin =>
      show tally ((tryUnsealToken var token pin).answers Prog.free os ()) = _ ∨ _
      cases hlist : buildPcrSelectionList (pcrBankToAlg token.pcrBank) token.pcrs with
      | error e =>
          refine Or.inl ?_
          rw [tryUnsealToken, hlist]
          rfl
      | ok pcrList =>
          have hunseal := hwith _ (unsealInner_tells token pcrList pin)
          rw [TpmRequest.log, tryUnsealToken, hlist]
          exact hunseal

lemma tally_append (log log' : EsysLog) : tally (log ++ log') = ⟨created log ++ created log',
    primaries log ++ primaries log', persistent log ++ persistent log', flushed log ++ flushed log',
    unserialized log ++ unserialized log'⟩ := by
  simp [tally, created, primaries, persistent, flushed, unserialized]

/-- Calls that have nothing to do with handles, before and after. -/
lemma tally_between {opening closing : EsysLog} (hopening : tally opening = tally [])
    (hclosing : tally closing = tally []) (calls : EsysLog) :
    tally (opening ++ calls ++ closing) = tally calls := by
  simp only [tally, Tally.mk.injEq] at hopening hclosing
  obtain ⟨h₁, h₂, h₃, h₄, h₅⟩ := hopening
  obtain ⟨k₁, k₂, k₃, k₄, k₅⟩ := hclosing
  rw [List.append_assoc, tally_append]
  have hcalls := tally_append calls closing
  simp only [tally, Tally.mk.injEq] at hcalls ⊢
  obtain ⟨c₁, c₂, c₃, c₄, c₅⟩ := hcalls
  rw [c₁, c₂, c₃, c₄, c₅, h₁, h₂, h₃, h₄, h₅, k₁, k₂, k₃, k₄, k₅]
  simp [created, primaries, persistent, flushed, unserialized]

/-- **The handles are given back exactly when no storage key is left behind.**  For every request and
every sequence of results: what was created is flushed once before the context is finalized, and the
persistent key never is, unless a transient storage key was created and its serialization failed. -/
theorem handles_released_iff (r : TpmRequest) (var : String → Option String) (os : TpmAnswers)
    (hdistinct : DistinctHandles (r.log var os)) :
    HandlesReleased (r.log var os) ↔ ¬ SrkUnserialized (r.log var os) := by
  rcases log_cases r var os with hnone | ⟨opening, calls, hopening, hsettled, hlog⟩
  · -- no context was made, and no handle
    simp only [tally, Tally.mk.injEq] at hnone
    obtain ⟨hcreated, hprimaries, hpersistent, -, -⟩ := hnone
    refine ⟨fun _ => ?_, fun _ => ⟨?_, ?_⟩⟩
    · rintro ⟨srk, hsrk, -⟩
      rw [hprimaries] at hsrk
      simp [primaries] at hsrk
    · rw [hcreated]
      simp [created]
    · rw [hpersistent]
      simp [persistent]
  -- the accounts are those of the calls in between
  have hclosing : tally [⟨EsysCmd.esysFinalize, ()⟩, ⟨EsysCmd.tctiFinalize, ()⟩] = tally [] := rfl
  have htally : tally (r.log var os) = tally calls := hlog ▸ tally_between hopening hclosing calls
  have hearlier : tally (opening ++ calls) = tally calls := by
    have hnil := tally_between hopening (rfl : tally [] = tally []) calls
    rwa [List.append_nil] at hnil
  simp only [tally, Tally.mk.injEq] at htally hearlier
  obtain ⟨hcreated, hprimaries, hpersistent, hflushed, hunserialized⟩ := htally
  have hsrk : SrkUnserialized (r.log var os) ↔ SrkUnserialized calls := by
    simp only [SrkUnserialized, hprimaries, hunserialized]
  rw [DistinctHandles, hcreated, hpersistent] at hdistinct
  rcases hsettled hdistinct with ⟨hno, hperm⟩ | ⟨hyes, hne, hnone⟩
  · refine iff_of_true ⟨fun handle hmem => ?_, fun handle hmem hmem' => ?_⟩ (mt hsrk.mp hno)
    · rw [hcreated] at hmem
      refine ⟨opening ++ calls, [⟨EsysCmd.tctiFinalize, ()⟩], hlog, ?_, by simp [flushed]⟩
      rw [hearlier.2.2.2.1, ← hperm.count_eq]
      exact List.count_eq_one_of_mem (List.nodup_append.mp hdistinct).2.1 hmem
    · rw [hpersistent] at hmem
      rw [hflushed, ← hperm.mem_iff] at hmem'
      exact (List.nodup_append.mp hdistinct).2.2 handle hmem handle hmem' rfl
  · refine iff_of_false (fun hreleased => ?_) (not_not.mpr (hsrk.mpr hyes))
    obtain ⟨handle, hmem⟩ := List.exists_mem_of_ne_nil _ hne
    obtain ⟨earlier, later, hsplit, hcount, -⟩ := hreleased.once handle (hcreated ▸ hmem)
    have hflush : handle ∈ flushed (r.log var os) := by
      have hin : handle ∈ flushed earlier := List.count_pos_iff.mp (by omega)
      rw [hsplit, flushed, List.flatMap_append]
      exact List.mem_append_left _ hin
    rw [hflushed, hnone] at hflush
    simp at hflush

/-- A TPM without a persistent storage key, on which everything works but, perhaps, the
serialization. -/
def bareTpm (serializeRc : ℕ) : TpmAnswers := fun _ c =>
  match c with
  | EsysCmd.tctiInitialize _ => 0
  | EsysCmd.esysInitialize => 0
  | EsysCmd.esysFinalize => ()
  | EsysCmd.tctiFinalize => ()
  | EsysCmd.trFromTpmPublic _ => (0x18B, 0)
  | EsysCmd.trSerialize _ => (serializeRc, [7])
  | EsysCmd.trSetOwnerAuth => ()
  | EsysCmd.trSetAuth _ _ => ()
  | EsysCmd.build _ => Except.ok ()
  | EsysCmd.createPrimary => (0, 0x40418000)
  | EsysCmd.startAuthSession _ => (0, 0x40418001)
  | EsysCmd.policyPcr _ _ => 0
  | EsysCmd.policyAuthValue _ => 0
  | EsysCmd.policyGetDigest _ => (0, [1])
  | EsysCmd.create _ _ _ _ => (0, [2], [3])
  | EsysCmd.marshalPrivate b => (0, b)
  | EsysCmd.marshalPublic b => (0, b)
  | EsysCmd.unmarshalPrivate _ => 0
  | EsysCmd.unmarshalPublic _ => 0
  | EsysCmd.load _ _ => (0, 0x40418002)
  | EsysCmd.unseal _ _ => (0, [42])
  | EsysCmd.flushContext _ => ()

instance (log : EsysLog) : Decidable (DistinctHandles log) :=
  inferInstanceAs (Decidable (persistent log ++ created log).Nodup)

instance (log : EsysLog) : Decidable (SrkUnserialized log) :=
  inferInstanceAs (Decidable (∃ srk ∈ primaries log, srk ∈ unserialized log))

/-- Where the serialization works, a sealing gives back the storage key and the trial session. -/
theorem sealing_gives_back :
    created ((TpmRequest.sealing [42] "7" "").log (fun _ => none) (bareTpm 0))
        = [0x40418000, 0x40418001]
      ∧ HandlesReleased ((TpmRequest.sealing [42] "7" "").log (fun _ => none) (bareTpm 0)) := by
  refine ⟨by decide +kernel, (handles_released_iff _ _ _ ?_).mpr ?_⟩ <;> decide +kernel

/-- Where it fails, the storage key is not flushed at all. -/
theorem srk_left_behind :
    DistinctHandles ((TpmRequest.sealing [42] "7" "").log (fun _ => none) (bareTpm 0x70005))
      ∧ created ((TpmRequest.sealing [42] "7" "").log (fun _ => none) (bareTpm 0x70005)) = [0x40418000]
      ∧ flushed ((TpmRequest.sealing [42] "7" "").log (fun _ => none) (bareTpm 0x70005)) = []
      ∧ ¬ HandlesReleased ((TpmRequest.sealing [42] "7" "").log (fun _ => none) (bareTpm 0x70005)) := by
  have hcreated : created ((TpmRequest.sealing [42] "7" "").log (fun _ => none) (bareTpm 0x70005))
      = [0x40418000] := by decide +kernel
  have hflushed : flushed ((TpmRequest.sealing [42] "7" "").log (fun _ => none) (bareTpm 0x70005))
      = [] := by decide +kernel
  refine ⟨by decide +kernel, hcreated, hflushed, fun hreleased => ?_⟩
  obtain ⟨earlier, later, hsplit, hcount, -⟩ := hreleased.once 0x40418000 (by rw [hcreated]; simp)
  rw [hsplit, flushed, List.flatMap_append, List.append_eq_nil_iff] at hflushed
  rw [flushed, hflushed.1] at hcount
  simp at hcount

end LuksEnroll
