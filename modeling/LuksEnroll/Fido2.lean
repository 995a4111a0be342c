import LuksEnroll.Library.Answering
import LuksEnroll.Metadata
import Mathlib.Data.List.Nodup
import Mathlib.Data.List.NodupEquivFin

/-!
# Unlocking with a FIDO2 token

`unlock_from_tokens` works "in three phases to avoid burning PIN retries on the wrong token": it
opens every connected device and probes it without a PIN for every token of the header, it lets the
user touch one when several are left, and only then it sends the PIN.

libfido2 is on the other side of every call and its answers are arbitrary.  A device stands for the
position of its path in the manifest.  A command also says which call it is (the token an assertion
is for, the round and the position of a poll), so that no call is made twice and a table of answers
is as good as answers that change: `unlockFromTokens_fresh`.

The calls are numbered by stage: listing, opening, probing, touching, and last the assertions with a
PIN.  For every function of the source there are two lemmas: which calls it makes (`…_calls`), and
that it makes none of them twice (`…_fresh`), from the calls of its parts; what it hands back
(`…_returns`) is needed where a later loop runs over it.

The number of rounds that `touch_select` polls is a parameter, since the source polls until a clock
runs out; the theorems about PINs hold for every number of rounds.
-/

namespace LuksEnroll

open Library

/-! ## libfido2

The codes, the options and the calls that the source uses, as the header of libfido2 has them.
-/

/-- `FIDO_OK`. -/
def fidoOk : ℤ := 0

/-- `FIDO_ERR_NO_CREDENTIALS`, the one answer to a probe that excludes a token. -/
def fidoErrNoCredentials : ℤ := 0x2E

/-- `FIDO_ERR_PIN_INVALID`. -/
def fidoErrPinInvalid : ℤ := 0x31

/-- `FIDO_ERR_PIN_NOT_SET`. -/
def fidoErrPinNotSet : ℤ := 0x35

/-- `FIDO_ERR_PIN_REQUIRED`: the credential is there, and wants the PIN. -/
def fidoErrPinRequired : ℤ := 0x36

/-- `FIDO_ERR_UP_REQUIRED`: the credential is there, and wants a touch. -/
def fidoErrUpRequired : ℤ := 0x3B

/-- `fido_opt_t`. -/
inductive FidoOpt
  | omit
  | no
  | yes
  deriving DecidableEq

/-- What is set on a `fido_assert_t` before it is used. -/
structure Assertion where
  /-- Which token it is made for. -/
  token : ℕ
  rp : String
  clientdataHash : Bytes
  hmacSalt : Option Bytes
  allowCred : Bytes
  up : FidoOpt
  uv : FidoOpt
  deriving DecidableEq

/-- The calls of libfido2.  `assertNew` names the device and the assertion it is for. -/
inductive FidoCmd
  | devInfoNew
  | devInfoManifest
  | devNew (dev : ℕ)
  | devOpen (dev : ℕ) (path : String)
  | assertNew (dev : ℕ) (a : Assertion)
  | getAssert (dev : ℕ) (a : Assertion) (pin : Option String)
  | getTouchBegin (dev : ℕ)
  | getTouchStatus (round pos dev : ℕ)
  | cancel (dev : ℕ)
  | setTimeout (dev ms : ℕ)
  deriving DecidableEq

/-- A null pointer is `false` or `none`.  An assertion answers with its code and the hmac-secret,
which is empty when there is none. -/
abbrev FidoReply : FidoCmd → Type
  | FidoCmd.devInfoNew => Bool
  | FidoCmd.devInfoManifest => ℤ × List (Option String)
  | FidoCmd.devNew _ => Bool
  | FidoCmd.devOpen _ _ => ℤ
  | FidoCmd.assertNew _ _ => Bool
  | FidoCmd.getAssert _ _ _ => ℤ × Bytes
  | FidoCmd.getTouchBegin _ => Unit
  | FidoCmd.getTouchStatus _ _ _ => ℤ × ℤ
  | FidoCmd.cancel _ => Unit
  | FidoCmd.setTimeout _ _ => Unit

/-- A computation that calls libfido2 and fails with a text. -/
abbrev Fido := Prog FidoCmd FidoReply String

/-- One answer for every call. -/
abbrev Authenticators := (c : FidoCmd) → FidoReply c

/-! ## The code

The functions of `fido2.rs` that an unlock uses, in the order of its three phases.  A loop of the
source is a recursion over the list it goes through.
-/

/-- The relying party that `systemd-cryptenroll` registers its credentials under. -/
def fido2RpId : String := "io.systemd.cryptsetup"

/-- `setup_assert_common`, for the token at this position. -/
def setupAssertCommon (ti : ℕ) (credId : Bytes) : Assertion where
  token := ti
  rp := fido2RpId
  clientdataHash := List.replicate 32 0
  hmacSalt := none
  allowCred := credId
  up := FidoOpt.omit
  uv := FidoOpt.omit

/-- The assertion of `probe_credential`: no touch, no hmac-secret. -/
def probeAssertion (ti : ℕ) (credId : Bytes) : Assertion :=
  { setupAssertCommon ti credId with up := FidoOpt.no, uv := FidoOpt.omit }

/-- The assertion of `get_hmac_secret`. -/
def hmacAssertion (ti : ℕ) (credId salt : Bytes) : Assertion :=
  { setupAssertCommon ti credId with hmacSalt := some salt, up := FidoOpt.yes, uv := FidoOpt.no }

/-- `classify_probe_ret`: absent, present, or ambiguous. -/
def classifyProbeRet (ret : ℤ) : Option Bool :=
  if ret = fidoErrNoCredentials then some false
  else if ret = fidoOk ∨ ret = fidoErrUpRequired ∨ ret = fidoErrPinNotSet
      ∨ ret = fidoErrPinRequired ∨ ret = fidoErrPinInvalid then some true
  else none

/-- `probe_credential`: one assertion without a PIN and without a touch, and what its code says. -/
def probeCredential (dev ti : ℕ) (credId : Bytes) : Fido (Option Bool) := do
  if ← Prog.perform (FidoCmd.assertNew dev (probeAssertion ti credId)) then
    let reply ← Prog.perform (FidoCmd.getAssert dev (probeAssertion ti credId) none)
    return classifyProbeRet reply.1
  else return none

/-- `pin_cstring`: an empty PIN is no PIN, and one with a NUL byte cannot be sent. -/
def pinCstring : Option String → Except String (Option String)
  | some p =>
      if p = "" then Except.ok none
      else if '\x00' ∈ p.toList then Except.error "PIN contains a NUL byte"
      else Except.ok (some p)
  | none => Except.ok none

/-- `get_hmac_secret`: the assertion that the user touches for, with the PIN if one is sent. -/
def getHmacSecret (dev ti : ℕ) (credId salt : Bytes) (pin : Option String) : Fido Bytes := do
  if ← Prog.perform (FidoCmd.assertNew dev (hmacAssertion ti credId salt)) then
    let pinC ← Prog.ofExcept (pinCstring pin)
    let reply ← Prog.perform (FidoCmd.getAssert dev (hmacAssertion ti credId salt) pinC)
    if reply.1 ≠ fidoOk then Prog.fail ("fido_dev_get_assert failed: " ++ toString reply.1)
    else if reply.2 = [] then Prog.fail "hmac-secret output is empty"
    else return reply.2
  else Prog.fail "fido_assert_new failed"

/-- `list_devices`: the paths of the manifest that can be read, at least one. -/
def listDevices : Fido (List String) := do
  if ← Prog.perform FidoCmd.devInfoNew then
    let found ← Prog.perform FidoCmd.devInfoManifest
    if found.1 ≠ fidoOk ∨ found.2 = [] then Prog.fail "No FIDO2 device found"
    else if found.2.filterMap id = [] then Prog.fail "No FIDO2 device found"
    else return found.2.filterMap id
  else Prog.fail "fido_dev_info_new failed"

/-- One turn of the loop that opens the devices. -/
def openDevice (path : String) (dev : ℕ) : Fido (Option ℕ) := do
  if ← Prog.perform (FidoCmd.devNew dev) then
    let ret ← Prog.perform (FidoCmd.devOpen dev path)
    if ret = fidoOk then return some dev else return none
  else return none

/-- The devices that open, of the paths with their positions. -/
def openDevices (paths : List (String × ℕ)) : Fido (List ℕ) :=
  Prog.gather (fun x => openDevice x.1 x.2) paths

/-- The filter of the first phase: a token stays unless it is absent for certain. -/
def matchToken (dev : ℕ) (tok : Fido2TokenRef) (ti : ℕ) : Fido (Option ℕ) := do
  let probe ← probeCredential dev ti tok.credId
  if probe ≠ some false then return some ti else return none

/-- The positions of the tokens that a device does not exclude. -/
def matchingTokens (tokens : List Fido2TokenRef) (dev : ℕ) : Fido (List ℕ) :=
  Prog.gather (fun x => matchToken dev x.1 x.2) tokens.zipIdx

/-- The tokens of the header that a device holds a credential for, under the position of the device. -/
def probeDevice (tokens : List Fido2TokenRef) (dev di : ℕ) : Fido (Option (ℕ × List ℕ)) := do
  let matching ← matchingTokens tokens dev
  if matching.isEmpty then return none else return some (di, matching)

/-- The devices that are left, by their position among the open ones, each with its tokens. -/
def probeDevices (tokens : List Fido2TokenRef) (openDevs : List ℕ) :
    Fido (List (ℕ × List ℕ)) :=
  Prog.gather (fun x => probeDevice tokens x.1 x.2) openDevs.zipIdx

/-- `xs[i]`, which panics beyond the end. -/
def atIndex {α : Type} (xs : List α) (i : ℕ) : Fido α :=
  match xs[i]? with
  | some a => Prog.ret a
  | none => Prog.fail "index out of bounds"

/-- The first loop of `touch_select`: every candidate begins to wait for a touch. -/
def touchBegin (devs : List ℕ) : List (ℕ × List ℕ) → Fido Unit
  | [] => return ()
  | (di, _) :: rest => do
      Prog.perform (FidoCmd.getTouchBegin (← atIndex devs di))
      touchBegin devs rest

/-- One round of polls: the position and the device of the first that was touched. -/
def pollRound (devs : List ℕ) (round : ℕ) : List ((ℕ × List ℕ) × ℕ) → Fido (Option (ℕ × ℕ))
  | [] => return none
  | ((di, _), pos) :: rest => do
      let status ← Prog.perform (FidoCmd.getTouchStatus round pos (← atIndex devs di))
      if status.1 = fidoOk ∧ status.2 ≠ 0 then return some (pos, di)
      else pollRound devs round rest

/-- The last loop of `touch_select`: the other candidates stop waiting. -/
def cancelOthers (devs : List ℕ) (di : ℕ) : List (ℕ × List ℕ) → Fido Unit
  | [] => return ()
  | (other, _) :: rest => do
      if other ≠ di then Prog.perform (FidoCmd.cancel (← atIndex devs other))
      cancelOthers devs di rest

/-- The loop of `touch_select`, cut off after a number of rounds. -/
def pollRounds (devs : List ℕ) (candidates : List (ℕ × List ℕ)) : ℕ → ℕ → Fido (Option ℕ)
  | 0, _ => return none
  | rounds + 1, round => do
      match ← pollRound devs round candidates.zipIdx with
      | some (pos, di) =>
          cancelOthers devs di candidates
          return some pos
      | none => pollRounds devs candidates rounds (round + 1)

/-- `touch_select`; `none` when there was no touch in so many rounds. -/
def touchSelect (rounds : ℕ) (devs : List ℕ) (candidates : List (ℕ × List ℕ)) :
    Fido (Option ℕ) := do
  touchBegin devs candidates
  pollRounds devs candidates rounds 0

/-- The second phase: the device, and the tokens that are left on it. -/
def chooseDevice (rounds : ℕ) (openDevs : List ℕ) (devCreds : List (ℕ × List ℕ)) :
    Fido (Option (ℕ × List ℕ)) := do
  let selected ← (if devCreds.length = 1 then Prog.ret (some 0)
    else touchSelect rounds openDevs devCreds)
  match selected with
  | none => return none
  | some pos =>
      let devCred ← atIndex devCreds pos
      let dev ← atIndex openDevs devCred.1
      return some (dev, devCred.2)

/-- The first two phases, on the devices that are open. -/
def selectAmong (rounds : ℕ) (tokens : List Fido2TokenRef) (openDevs : List ℕ) :
    Fido (Option (ℕ × List ℕ)) := do
  if openDevs.isEmpty then Prog.fail "No FIDO2 device could be opened"
  else
    let devCreds ← probeDevices tokens openDevs
    if devCreds.isEmpty then Prog.fail "No matching FIDO2 device/credential found"
    else chooseDevice rounds openDevs devCreds

/-- Phases one and two: the device that gets the PIN, and the tokens it is tried for. -/
def selectDevice (rounds : ℕ) (tokens : List Fido2TokenRef) : Fido (Option (ℕ × List ℕ)) := do
  let devPaths ← listDevices
  let openDevs ← openDevices devPaths.zipIdx
  selectAmong rounds tokens openDevs

/-- The loop of the third phase. -/
def unlockWith (dev : ℕ) (tokens : List Fido2TokenRef) (pin : Option String) :
    List ℕ → Option String → Fido Bytes
  | [], lastErr =>
      Prog.fail ("FIDO2 unlock failed on selected device: " ++ lastErr.getD "unknown error")
  | ti :: rest, _ => do
      let tok ← atIndex tokens ti
      match ← (getHmacSecret dev ti tok.credId tok.salt pin).attempt with
      | Except.ok secret => return secret
      | Except.error e => unlockWith dev tokens pin rest (some e)

/-- The PIN of the third phase: an empty one is none. -/
def sentPin (pin : String) : Option String := if pin = "" then none else some pin

/-- `unlock_from_tokens`; `none` while it is still polling. -/
def unlockFromTokens (rounds : ℕ) (tokens : List Fido2TokenRef) (pin : String) :
    Fido (Option Bytes) := do
  if tokens.isEmpty then Prog.fail "No systemd-fido2 token found"
  else
    match ← selectDevice rounds tokens with
    | none => return none
    | some (dev, tokenIdxs) =>
        Prog.perform (FidoCmd.setTimeout dev 30000)
        let secret ← unlockWith dev tokens (sentPin pin) tokenIdxs none
        return some secret

/-! ## No call is made twice

For every function, its calls and that they differ.  Stages keep the functions apart, and positions
keep the rounds of one loop apart.
-/

/-- The calls in the order of the stages that make them. -/
def FidoCmd.stage : FidoCmd → ℕ
  | FidoCmd.devInfoNew => 0
  | FidoCmd.devInfoManifest => 1
  | FidoCmd.devNew _ => 2
  | FidoCmd.devOpen _ _ => 2
  | FidoCmd.assertNew _ a => if a.hmacSalt.isNone then 3 else 6
  | FidoCmd.getAssert _ a pin => if a.hmacSalt.isNone && pin.isNone then 3 else 6
  | FidoCmd.getTouchBegin _ => 4
  | FidoCmd.getTouchStatus _ _ _ => 4
  | FidoCmd.cancel _ => 4
  | FidoCmd.setTimeout _ _ => 5

/-- The calls of the probe for a token. -/
def Probing (dev : ℕ) (tok : Fido2TokenRef) (ti : ℕ) (c : FidoCmd) : Prop :=
  c = FidoCmd.assertNew dev (probeAssertion ti tok.credId)
    ∨ c = FidoCmd.getAssert dev (probeAssertion ti tok.credId) none

/-- The calls of the hmac-secret assertion for a token. -/
def Asserting (dev : ℕ) (pin : Option String) (tok : Fido2TokenRef) (ti : ℕ) (c : FidoCmd) : Prop :=
  c = FidoCmd.assertNew dev (hmacAssertion ti tok.credId tok.salt)
    ∨ c = FidoCmd.getAssert dev (hmacAssertion ti tok.credId tok.salt) pin

lemma Probing.stage {dev ti : ℕ} {tok : Fido2TokenRef} {c : FidoCmd} (h : Probing dev tok ti c) :
    c.stage = 3 := by
  rcases h with rfl | rfl <;> rfl

/-- Assertions with a PIN belong to the sixth. -/
lemma Asserting.stage {dev ti : ℕ} {pin : Option String} {tok : Fido2TokenRef} {c : FidoCmd}
    (h : Asserting dev pin tok ti c) : c.stage = 6 := by
  rcases h with rfl | rfl <;> rfl

/-- Probes of different devices, or for different tokens, are different calls. -/
lemma Probing.ne {dev ti dev' ti' : ℕ} {tok tok' : Fido2TokenRef} {c : FidoCmd}
    (hne : dev ≠ dev' ∨ ti ≠ ti') (h : Probing dev tok ti c) : ¬ Probing dev' tok' ti' c := by
  rintro (rfl | rfl) <;> rcases h with h | h <;>
    simp_all [probeAssertion, setupAssertCommon]

/-- Assertions for different tokens are different calls. -/
lemma Asserting.ne {dev ti ti' : ℕ} {pin : Option String} {tok tok' : Fido2TokenRef} {c : FidoCmd}
    (hne : ti ≠ ti') (h : Asserting dev pin tok ti c) : ¬ Asserting dev pin tok' ti' c := by
  rintro (rfl | rfl) <;> rcases h with h | h <;>
    simp_all [hmacAssertion, setupAssertCommon]

/-- Listing the devices makes calls of the first two stages only. -/
lemma listDevices_calls : listDevices.AllCalls fun c => c.stage ≤ 1 := by
  refine ⟨by decide, fun ok => ?_⟩
  cases ok with
  | false => trivial
  | true =>
      refine ⟨by decide, fun found => ?_⟩
      dsimp only [Prog.bind_ret]
      split_ifs <;> trivial

lemma listDevices_fresh : listDevices.Fresh := by
  intro ok
  cases ok with
  | false => exact ⟨trivial, trivial⟩
  | true =>
      refine ⟨⟨by simp, fun found => ?_⟩, fun found => ⟨?_, ?_⟩⟩ <;>
        (dsimp only [Prog.bind_ret]; split_ifs <;> trivial)

/-- Opening a device makes the two calls for its position. -/
lemma openDevice_calls (path : String) (dev : ℕ) : (openDevice path dev).AllCalls fun c =>
    c = FidoCmd.devNew dev ∨ c = FidoCmd.devOpen dev path := by
  refine ⟨Or.inl rfl, fun ok => ?_⟩
  cases ok with
  | false => trivial
  | true =>
      refine ⟨Or.inr rfl, fun ret => ?_⟩
      dsimp only [Prog.bind_ret]
      split_ifs <;> trivial

lemma openDevice_fresh (path : String) (dev : ℕ) : (openDevice path dev).Fresh := by
  intro ok
  cases ok with
  | false => exact ⟨trivial, trivial⟩
  | true =>
      refine ⟨⟨by simp, fun ret => ?_⟩, fun ret => ⟨?_, ?_⟩⟩ <;>
        (dsimp only [Prog.bind_ret]; split_ifs <;> trivial)

/-- A probe makes calls for its own device and token. -/
lemma probeCredential_calls (dev ti : ℕ) (tok : Fido2TokenRef) :
    (probeCredential dev ti tok.credId).AllCalls (Probing dev tok ti) := by
  refine ⟨Or.inl rfl, fun ok => ?_⟩
  cases ok with
  | false => trivial
  | true => exact ⟨Or.inr rfl, fun reply => trivial⟩

lemma probeCredential_fresh (dev ti : ℕ) (credId : Bytes) :
    (probeCredential dev ti credId).Fresh := by
  intro ok
  cases ok with
  | false => exact ⟨trivial, trivial⟩
  | true => exact ⟨⟨by simp, fun reply => trivial⟩, fun reply => ⟨trivial, trivial⟩⟩

/-- Matching a token makes the calls of its probe. -/
lemma matchToken_calls (dev ti : ℕ) (tok : Fido2TokenRef) :
    (matchToken dev tok ti).AllCalls (Probing dev tok ti) := by
  refine Prog.AllCalls.bind (probeCredential_calls dev ti tok) fun probe => ?_
  split_ifs <;> trivial

lemma matchToken_fresh (dev ti : ℕ) (tok : Fido2TokenRef) : (matchToken dev tok ti).Fresh := by
  refine Prog.Fresh.bind_silent (probeCredential_fresh dev ti tok.credId) fun probe => ?_
  split_ifs <;> trivial

/-- A token that matches is handed back by its position. -/
lemma matchToken_returns (dev ti : ℕ) (tok : Fido2TokenRef) :
    (matchToken dev tok ti).Returns fun o => o = none ∨ o = some ti := by
  refine Prog.Returns.bind (Prog.returns_of_forall (fun probe => ?_) _)
  split_ifs
  · exact Or.inr rfl
  · exact Or.inl rfl

/-- The positions of a list are all different. -/
lemma pairwise_zipIdx_ne {α : Type} (xs : List α) :
    xs.zipIdx.Pairwise fun x y => x.2 ≠ y.2 := by
  rw [← List.pairwise_map (f := Prod.snd) (R := (· ≠ ·)), List.zipIdx_map_snd]
  exact List.nodup_range'

/-- The tokens are matched by probes of the one device. -/
lemma matchingTokens_calls (tokens : List Fido2TokenRef) (dev : ℕ) :
    (matchingTokens tokens dev).AllCalls fun c => ∃ x ∈ tokens.zipIdx, Probing dev x.1 x.2 c :=
  Prog.gather_allCalls fun x hx =>
    Prog.AllCalls.mono (fun _ hc => ⟨x, hx, hc⟩) (matchToken_calls dev x.2 x.1)

lemma matchingTokens_fresh (tokens : List Fido2TokenRef) (dev : ℕ) :
    (matchingTokens tokens dev).Fresh := by
  refine Prog.gather_fresh (K := fun x => Probing dev x.1 x.2)
    (fun x _ => ⟨matchToken_fresh dev x.2 x.1, matchToken_calls dev x.2 x.1⟩) ?_
  exact (pairwise_zipIdx_ne tokens).imp fun hne c hc => hc.ne (Or.inr hne)

/-- The positions of the matching tokens are all different. -/
lemma matchingTokens_returns (tokens : List Fido2TokenRef) (dev : ℕ) :
    (matchingTokens tokens dev).Returns List.Nodup := by
  refine Prog.Returns.mono (fun tis htis => ?_)
    (Prog.gather_returns_sublist (g := Prod.snd) fun x _ => matchToken_returns dev x.2 x.1)
  rw [List.zipIdx_map_snd] at htis
  exact htis.nodup List.nodup_range'

/-- The devices that open stand at different positions. -/
lemma openDevices_returns (paths : List String) :
    (openDevices paths.zipIdx).Returns List.Nodup := by
  refine Prog.Returns.mono (fun devs hdevs => ?_) (Prog.gather_returns_sublist (g := Prod.snd) ?_)
  · rw [List.zipIdx_map_snd] at hdevs
    exact hdevs.nodup List.nodup_range'
  · intro x _ ok
    cases ok with
    | false => exact Or.inl rfl
    | true =>
        intro ret
        dsimp only [Prog.bind_ret]
        split_ifs
        · exact Or.inr rfl
        · exact Or.inl rfl

/-- Opening the devices makes the two calls for each position. -/
lemma openDevices_calls (paths : List (String × ℕ)) : (openDevices paths).AllCalls fun c =>
    ∃ x ∈ paths, c = FidoCmd.devNew x.2 ∨ c = FidoCmd.devOpen x.2 x.1 :=
  Prog.gather_allCalls fun x hx =>
    Prog.AllCalls.mono (fun _ hc => ⟨x, hx, hc⟩) (openDevice_calls x.1 x.2)

lemma openDevices_fresh (paths : List String) : (openDevices paths.zipIdx).Fresh := by
  refine Prog.gather_fresh
    (K := fun x c => c = FidoCmd.devNew x.2 ∨ c = FidoCmd.devOpen x.2 x.1)
    (fun x _ => ⟨openDevice_fresh x.1 x.2, openDevice_calls x.1 x.2⟩) ?_
  refine (pairwise_zipIdx_ne paths).imp fun hne c hc => ?_
  rcases hc with rfl | rfl <;> simp [hne]

/-- Probing a device makes probes of that device. -/
lemma probeDevice_calls (tokens : List Fido2TokenRef) (dev di : ℕ) :
    (probeDevice tokens dev di).AllCalls fun c => ∃ x ∈ tokens.zipIdx, Probing dev x.1 x.2 c := by
  refine Prog.AllCalls.bind (matchingTokens_calls tokens dev) fun tis => ?_
  split_ifs <;> trivial

lemma probeDevice_fresh (tokens : List Fido2TokenRef) (dev di : ℕ) :
    (probeDevice tokens dev di).Fresh := by
  refine Prog.Fresh.bind_silent (matchingTokens_fresh tokens dev) fun tis => ?_
  split_ifs <;> trivial

/-- Probing all devices makes probes of those devices. -/
lemma probeDevices_calls (tokens : List Fido2TokenRef) (openDevs : List ℕ) :
    (probeDevices tokens openDevs).AllCalls fun c =>
      ∃ d ∈ openDevs.zipIdx, ∃ x ∈ tokens.zipIdx, Probing d.1 x.1 x.2 c :=
  Prog.gather_allCalls fun d hd =>
    Prog.AllCalls.mono (fun _ hc => ⟨d, hd, hc⟩) (probeDevice_calls tokens d.1 d.2)

lemma probeDevices_fresh (tokens : List Fido2TokenRef) {openDevs : List ℕ}
    (hdevs : openDevs.Nodup) : (probeDevices tokens openDevs).Fresh := by
  refine Prog.gather_fresh (K := fun d c => ∃ x ∈ tokens.zipIdx, Probing d.1 x.1 x.2 c)
    (fun d _ => ⟨probeDevice_fresh tokens d.1 d.2, probeDevice_calls tokens d.1 d.2⟩) ?_
  have hne : openDevs.zipIdx.Pairwise fun d d' => d.1 ≠ d'.1 := by
    rw [← List.pairwise_map (f := Prod.fst) (R := (· ≠ ·)), List.zipIdx_map_fst]
    exact hdevs
  refine hne.imp fun hne c => ?_
  rintro ⟨x, -, hx⟩ ⟨x', -, hx'⟩
  exact hx.ne (Or.inl hne) hx'

/-- Every device comes with different tokens. -/
lemma probeDevices_returns (tokens : List Fido2TokenRef) (openDevs : List ℕ) :
    (probeDevices tokens openDevs).Returns fun devCreds => ∀ x ∈ devCreds, x.2.Nodup := by
  refine Prog.gather_returns fun d _ => Prog.Returns.bind
    (Prog.Returns.mono (fun tis htis => ?_) (matchingTokens_returns tokens d.1))
  split_ifs
  · simp [Prog.Returns]
  · simpa [Prog.Returns] using htis

lemma atIndex_calls {α : Type} (xs : List α) (i : ℕ) : (atIndex xs i).AllCalls fun _ => False := by
  rw [atIndex]
  split <;> trivial

/-- The first loop begins touches and does nothing else. -/
lemma touchBegin_calls (devs : List ℕ) (candidates : List (ℕ × List ℕ)) :
    (touchBegin devs candidates).AllCalls fun c => ∃ dev, c = FidoCmd.getTouchBegin dev := by
  induction candidates with
  | nil => trivial
  | cons x rest ih =>
      refine Prog.AllCalls.bind (Prog.AllCalls.mono (fun _ h => h.elim) (atIndex_calls devs x.1)) ?_
      exact fun dev => ⟨⟨dev, rfl⟩, fun _ => ih⟩

/-- The last loop cancels and does nothing else. -/
lemma cancelOthers_calls (devs : List ℕ) (di : ℕ) (candidates : List (ℕ × List ℕ)) :
    (cancelOthers devs di candidates).AllCalls fun c => ∃ dev, c = FidoCmd.cancel dev := by
  induction candidates with
  | nil => trivial
  | cons x rest ih =>
      rw [cancelOthers]
      split_ifs with hdi
      · refine Prog.AllCalls.bind (Prog.AllCalls.mono (fun _ h => h.elim) (atIndex_calls devs x.1)) ?_
        exact fun dev => ⟨⟨dev, rfl⟩, fun _ => ih⟩
      · exact ih

/-- A round polls its own candidates, under its own number. -/
lemma pollRound_calls (devs : List ℕ) (round : ℕ) (candidates : List ((ℕ × List ℕ) × ℕ)) :
    (pollRound devs round candidates).AllCalls fun c =>
      ∃ x ∈ candidates, ∃ dev, c = FidoCmd.getTouchStatus round x.2 dev := by
  induction candidates with
  | nil => trivial
  | cons x rest ih =>
      refine Prog.AllCalls.bind (Prog.AllCalls.mono (fun _ h => h.elim) (atIndex_calls devs x.1.1)) ?_
      intro dev
      refine ⟨⟨x, List.mem_cons_self .., dev, rfl⟩, fun status => ?_⟩
      dsimp only [Prog.bind_ret]
      split_ifs
      · trivial
      · refine Prog.AllCalls.mono (fun c hc => ?_) ih
        obtain ⟨y, hy, hc⟩ := hc
        exact ⟨y, List.mem_cons_of_mem _ hy, hc⟩

lemma pollRound_fresh (devs : List ℕ) (round : ℕ) {candidates : List ((ℕ × List ℕ) × ℕ)}
    (hpos : candidates.Pairwise fun x y => x.2 ≠ y.2) :
    (pollRound devs round candidates).Fresh := by
  induction candidates with
  | nil => trivial
  | cons x rest ih =>
      rw [List.pairwise_cons] at hpos
      rw [pollRound, Prog.bind_def, atIndex]
      split
      · next dev _ =>
          intro status
          dsimp only [Prog.bind_ret]
          split_ifs
          · exact ⟨trivial, trivial⟩
          · refine ⟨Prog.AllCalls.mono (fun c hc heq => ?_) (pollRound_calls devs round rest), ih hpos.2⟩
            obtain ⟨y, hy, dev', rfl⟩ := hc
            simp only [FidoCmd.getTouchStatus.injEq] at heq
            exact absurd heq.2.1.symm (hpos.1 y hy)
      · trivial

/-- Polls of this round or a later one, and cancellations. -/
lemma pollRounds_calls (devs : List ℕ) (candidates : List (ℕ × List ℕ)) (rounds round : ℕ) :
    (pollRounds devs candidates rounds round).AllCalls fun c =>
      (∃ r pos dev, round ≤ r ∧ c = FidoCmd.getTouchStatus r pos dev)
        ∨ ∃ dev, c = FidoCmd.cancel dev := by
  induction rounds generalizing round with
  | zero => trivial
  | succ n ih =>
      refine Prog.AllCalls.bind (Prog.AllCalls.mono ?_ (pollRound_calls devs round _)) fun found => ?_
      · rintro c ⟨x, -, dev, rfl⟩
        exact Or.inl ⟨round, x.2, dev, le_rfl, rfl⟩
      cases found with
      | none =>
          refine Prog.AllCalls.mono ?_ (ih (round + 1))
          rintro c (⟨r, pos, dev, hr, rfl⟩ | hc)
          · exact Or.inl ⟨r, pos, dev, by omega, rfl⟩
          · exact Or.inr hc
      | some x =>
          refine Prog.AllCalls.bind ?_ fun _ => trivial
          exact Prog.AllCalls.mono (fun c hc => Or.inr hc) (cancelOthers_calls devs x.2 candidates)

/-- A number names the round, so that no call of one round is made in another. -/
lemma pollRounds_fresh (devs : List ℕ) (candidates : List (ℕ × List ℕ)) (rounds round : ℕ) :
    (pollRounds devs candidates rounds round).Fresh := by
  induction rounds generalizing round with
  | zero => trivial
  | succ n ih =>
      refine Prog.Fresh.bind (K := fun c => ∃ pos dev, c = FidoCmd.getTouchStatus round pos dev)
        (L := fun c => (∃ r pos dev, round + 1 ≤ r ∧ c = FidoCmd.getTouchStatus r pos dev)
          ∨ ∃ dev, c = FidoCmd.cancel dev) ?_ (pollRound_fresh devs round (pairwise_zipIdx_ne _))
        (Prog.AllCalls.mono ?_ (pollRound_calls devs round _))
        (Prog.returns_of_forall (fun found => ?_) _)
      · rintro c ⟨pos, dev, rfl⟩ (⟨r, pos', dev', hr, heq⟩ | ⟨dev', heq⟩)
        · simp only [FidoCmd.getTouchStatus.injEq] at heq
          omega
        · cases heq
      · rintro c ⟨x, -, dev, rfl⟩
        exact ⟨x.2, dev, rfl⟩
      · cases found with
        | none => exact ⟨ih (round + 1), pollRounds_calls devs candidates n (round + 1)⟩
        | some x =>
            have hcancel := cancelOthers_calls devs x.2 candidates
            refine ⟨Prog.Fresh.bind_silent (Prog.fresh_of_subsingleton ?_) fun _ => trivial,
              Prog.AllCalls.bind (Prog.AllCalls.mono (fun c hc => Or.inr hc) hcancel) fun _ => trivial⟩
            refine Prog.AllCalls.mono ?_ hcancel
            rintro c ⟨dev, rfl⟩
            exact instSubsingletonPUnit

/-- Choosing by touch makes calls of the fourth stage only. -/
lemma touchSelect_calls (rounds : ℕ) (devs : List ℕ) (candidates : List (ℕ × List ℕ)) :
    (touchSelect rounds devs candidates).AllCalls fun c => c.stage = 4 := by
  refine Prog.AllCalls.bind (Prog.AllCalls.mono ?_ (touchBegin_calls devs candidates)) fun _ =>
    Prog.AllCalls.mono ?_ (pollRounds_calls devs candidates rounds 0)
  · rintro c ⟨dev, rfl⟩
    rfl
  · rintro c (⟨r, pos, dev, -, rfl⟩ | ⟨dev, rfl⟩) <;> rfl

lemma touchSelect_fresh (rounds : ℕ) (devs : List ℕ) (candidates : List (ℕ × List ℕ)) :
    (touchSelect rounds devs candidates).Fresh := by
  refine Prog.Fresh.bind (L := fun c => (∃ r pos dev, 0 ≤ r ∧ c = FidoCmd.getTouchStatus r pos dev)
    ∨ ∃ dev, c = FidoCmd.cancel dev) ?_ (Prog.fresh_of_subsingleton ?_)
    (touchBegin_calls devs candidates) (Prog.returns_of_forall (fun _ =>
      ⟨pollRounds_fresh devs candidates rounds 0, pollRounds_calls devs candidates rounds 0⟩) _)
  · rintro c ⟨dev, rfl⟩
    simp
  · refine Prog.AllCalls.mono ?_ (touchBegin_calls devs candidates)
    rintro c ⟨dev, rfl⟩
    exact instSubsingletonPUnit

/-- An assertion sends the PIN it was given, for its own device and token. -/
lemma getHmacSecret_calls (dev ti : ℕ) (tok : Fido2TokenRef) {pin : Option String}
    (hpin : pin ≠ some "") :
    (getHmacSecret dev ti tok.credId tok.salt pin).AllCalls (Asserting dev pin tok ti) := by
  refine ⟨Or.inl rfl, fun ok => ?_⟩
  cases ok with
  | false => trivial
  | true =>
      cases pin with
      | none =>
          refine ⟨Or.inr rfl, fun reply => ?_⟩
          dsimp only [Prog.bind_ret]
          split_ifs <;> trivial
      | some p =>
          have hp : p ≠ "" := fun h => hpin (h ▸ rfl)
          dsimp only [Prog.bind_ret]
          rw [if_pos rfl, pinCstring, if_neg hp]
          split_ifs
          · trivial
          · refine ⟨Or.inr rfl, fun reply => ?_⟩
            dsimp only [Prog.bind_ret]
            split_ifs <;> trivial

lemma getHmacSecret_fresh (dev ti : ℕ) (credId salt : Bytes) (pin : Option String) :
    (getHmacSecret dev ti credId salt pin).Fresh := by
  intro ok
  cases ok with
  | false => exact ⟨trivial, trivial⟩
  | true =>
      dsimp only [Prog.bind_ret]
      rw [if_pos rfl]
      cases pinCstring pin with
      | error e => exact ⟨trivial, trivial⟩
      | ok pinC =>
          refine ⟨⟨by simp, fun reply => ?_⟩, fun reply => ⟨?_, ?_⟩⟩ <;>
            (dsimp only [Prog.bind_ret]; split_ifs <;> trivial)

/-- The calls of the third phase are for the tokens it is given, at their positions. -/
lemma unlockWith_calls (dev : ℕ) (tokens : List Fido2TokenRef) {pin : Option String}
    (hpin : pin ≠ some "") (tis : List ℕ) (lastErr : Option String) :
    (unlockWith dev tokens pin tis lastErr).AllCalls fun c =>
      ∃ ti ∈ tis, ∃ tok, tokens[ti]? = some tok ∧ Asserting dev pin tok ti c := by
  induction tis generalizing lastErr with
  | nil => trivial
  | cons ti rest ih =>
      rw [unlockWith, Prog.bind_def, atIndex]
      split
      · next tok htok =>
          rw [Prog.bind_ret]
          refine Prog.AllCalls.bind (Prog.AllCalls.attempt (Prog.AllCalls.mono ?_
            (getHmacSecret_calls dev ti tok hpin))) fun result => ?_
          · exact fun c hc => ⟨ti, List.mem_cons_self .., tok, htok, hc⟩
          cases result with
          | ok secret => trivial
          | error e =>
              refine Prog.AllCalls.mono ?_ (ih (some e))
              rintro c ⟨ti', hti', hc⟩
              exact ⟨ti', List.mem_cons_of_mem _ hti', hc⟩
      · trivial

/-- The tokens of a device are tried one after another, none twice. -/
lemma unlockWith_fresh (dev : ℕ) (tokens : List Fido2TokenRef) {pin : Option String}
    (hpin : pin ≠ some "") {tis : List ℕ} (htis : tis.Nodup) (lastErr : Option String) :
    (unlockWith dev tokens pin tis lastErr).Fresh := by
  induction tis generalizing lastErr with
  | nil => trivial
  | cons ti rest ih =>
      rw [List.nodup_cons] at htis
      rw [unlockWith, Prog.bind_def, atIndex]
      split
      · next tok htok =>
          rw [Prog.bind_ret]
          refine Prog.Fresh.bind (L := fun c => ∃ ti ∈ rest, ∃ tok, tokens[ti]? = some tok
              ∧ Asserting dev pin tok ti c) ?_
            (Prog.Fresh.attempt (getHmacSecret_fresh dev ti tok.credId tok.salt pin))
            (Prog.AllCalls.attempt (getHmacSecret_calls dev ti tok hpin))
            (Prog.returns_of_forall (fun result => ?_) _)
          · rintro c hc ⟨ti', hti', tok', -, hc'⟩
            have hne : ti ≠ ti' := fun h => htis.1 (h ▸ hti')
            exact hc.ne hne hc'
          cases result with
          | ok secret => exact ⟨trivial, trivial⟩
          | error e => exact ⟨ih htis.2 (some e), unlockWith_calls dev tokens hpin rest (some e)⟩
      · trivial

/-- Choosing among the devices makes calls of the fourth stage only. -/
lemma chooseDevice_calls (rounds : ℕ) (openDevs : List ℕ) (devCreds : List (ℕ × List ℕ)) :
    (chooseDevice rounds openDevs devCreds).AllCalls fun c => c.stage = 4 := by
  refine Prog.AllCalls.bind ?_ fun selected => ?_
  · split_ifs
    · trivial
    · exact touchSelect_calls rounds openDevs devCreds
  · cases selected with
    | none => trivial
    | some pos =>
        refine Prog.AllCalls.bind (Prog.AllCalls.mono (fun _ h => h.elim) (atIndex_calls ..)) ?_
        intro devCred
        refine Prog.AllCalls.bind (Prog.AllCalls.mono (fun _ h => h.elim) (atIndex_calls ..)) ?_
        exact fun dev => trivial

/-- Choosing among the devices makes no call twice. -/
lemma chooseDevice_fresh (rounds : ℕ) (openDevs : List ℕ) (devCreds : List (ℕ × List ℕ)) :
    (chooseDevice rounds openDevs devCreds).Fresh := by
  refine Prog.Fresh.bind_silent ?_ fun selected => ?_
  · split_ifs
    · trivial
    · exact touchSelect_fresh rounds openDevs devCreds
  · cases selected with
    | none => trivial
    | some pos =>
        exact Prog.AllCalls.bind (atIndex_calls devCreds pos) fun devCred =>
          Prog.AllCalls.bind (atIndex_calls openDevs devCred.1) fun dev => trivial

/-- A position of the list leads to an element of it. -/
lemma atIndex_returns {α : Type} (xs : List α) (i : ℕ) : (atIndex xs i).Returns (· ∈ xs) := by
  rw [atIndex]
  split
  · next a ha => exact List.mem_of_getElem? ha
  · trivial

/-- The device chosen was one of those that were offered. -/
lemma chooseDevice_returns (rounds : ℕ) (openDevs : List ℕ) {devCreds : List (ℕ × List ℕ)}
    (hcreds : ∀ x ∈ devCreds, x.2.Nodup) :
    (chooseDevice rounds openDevs devCreds).Returns fun o => ∀ x ∈ o, x.2.Nodup := by
  refine Prog.Returns.bind (Prog.returns_of_forall (fun selected => ?_) _)
  cases selected with
  | none => simp [Prog.Returns]
  | some pos =>
      refine Prog.Returns.bind (Prog.Returns.mono (fun devCred hmem => ?_)
        (atIndex_returns devCreds pos))
      refine Prog.Returns.bind (Prog.returns_of_forall (fun dev => ?_) _)
      simpa [Prog.Returns] using hcreds devCred hmem

/-- Phases one and two make probes and choose. -/
lemma selectAmong_calls (rounds : ℕ) (tokens : List Fido2TokenRef) (openDevs : List ℕ) :
    (selectAmong rounds tokens openDevs).AllCalls fun c => c.stage = 3 ∨ c.stage = 4 := by
  rw [selectAmong]
  split_ifs
  · trivial
  refine Prog.AllCalls.bind (Prog.AllCalls.mono ?_ (probeDevices_calls tokens openDevs)) ?_
  · rintro c ⟨d, -, x, -, hc⟩
    exact Or.inl hc.stage
  intro devCreds
  split_ifs
  · trivial
  · exact Prog.AllCalls.mono (fun c hc => Or.inr hc) (chooseDevice_calls rounds openDevs devCreds)

lemma selectAmong_fresh (rounds : ℕ) (tokens : List Fido2TokenRef) {openDevs : List ℕ}
    (hdevs : openDevs.Nodup) : (selectAmong rounds tokens openDevs).Fresh := by
  rw [selectAmong]
  split_ifs
  · trivial
  refine Prog.Fresh.bind (L := fun c => c.stage = 4) ?_ (probeDevices_fresh tokens hdevs)
    (probeDevices_calls tokens openDevs) (Prog.returns_of_forall (fun devCreds => ?_) _)
  · rintro c ⟨d, -, x, -, hc⟩
    rw [hc.stage]
    omega
  · split_ifs
    · exact ⟨trivial, trivial⟩
    · exact ⟨chooseDevice_fresh .., chooseDevice_calls ..⟩

/-- The tokens of the device selected are all different. -/
lemma selectAmong_returns (rounds : ℕ) (tokens : List Fido2TokenRef) (openDevs : List ℕ) :
    (selectAmong rounds tokens openDevs).Returns fun o => ∀ x ∈ o, x.2.Nodup := by
  rw [selectAmong]
  split_ifs
  · trivial
  refine Prog.Returns.bind (Prog.Returns.mono (fun devCreds hcreds => ?_)
    (probeDevices_returns tokens openDevs))
  split_ifs
  · trivial
  · exact chooseDevice_returns rounds openDevs hcreds

/-- Selecting the device sends no PIN: its calls come before the sixth stage. -/
lemma selectDevice_calls (rounds : ℕ) (tokens : List Fido2TokenRef) :
    (selectDevice rounds tokens).AllCalls fun c => c.stage ≤ 4 := by
  refine Prog.AllCalls.bind (Prog.AllCalls.mono (fun c hc => ?_) listDevices_calls) fun paths =>
    Prog.AllCalls.bind (Prog.AllCalls.mono ?_ (openDevices_calls _)) fun openDevs =>
      Prog.AllCalls.mono (fun c hc => ?_) (selectAmong_calls rounds tokens openDevs)
  · omega
  · rintro c ⟨x, -, rfl | rfl⟩ <;> simp [FidoCmd.stage]
  · omega

/-- Selecting the device makes no call twice. -/
lemma selectDevice_fresh (rounds : ℕ) (tokens : List Fido2TokenRef) :
    (selectDevice rounds tokens).Fresh := by
  refine Prog.Fresh.bind (L := fun c => 2 ≤ c.stage) (fun c hc hc' => by omega) listDevices_fresh
    listDevices_calls (Prog.returns_of_forall (fun paths => ⟨?_, ?_⟩) _)
  · refine Prog.Fresh.bind (L := fun c => c.stage = 3 ∨ c.stage = 4) ?_ (openDevices_fresh paths)
      (openDevices_calls _) (Prog.Returns.mono (fun openDevs hdevs => ?_) (openDevices_returns paths))
    · rintro c ⟨x, -, rfl | rfl⟩ <;> simp [FidoCmd.stage]
    · exact ⟨selectAmong_fresh rounds tokens hdevs, selectAmong_calls rounds tokens openDevs⟩
  · refine Prog.AllCalls.bind (Prog.AllCalls.mono ?_ (openDevices_calls _)) fun openDevs =>
      Prog.AllCalls.mono (fun c hc => by omega) (selectAmong_calls rounds tokens openDevs)
    rintro c ⟨x, -, rfl | rfl⟩ <;> simp [FidoCmd.stage]

lemma sentPin_ne_empty (pin : String) : sentPin pin ≠ some "" := by
  rw [sentPin]
  split_ifs with hpin
  · simp
  · simpa using hpin

lemma thirdPhase_calls (dev : ℕ) (tokens : List Fido2TokenRef) (pin : String) (tis : List ℕ) :
    ((unlockWith dev tokens (sentPin pin) tis none).bind fun secret =>
      (Prog.ret (some secret) : Fido (Option Bytes))).AllCalls fun c => c.stage = 6 := by
  refine Prog.AllCalls.bind (Prog.AllCalls.mono ?_
    (unlockWith_calls dev tokens (sentPin_ne_empty pin) tis none)) fun _ => trivial
  rintro c ⟨ti, -, tok, -, hc⟩
  exact hc.stage

/-- **No call is made twice**, so that a table of answers is general enough. -/
theorem unlockFromTokens_fresh (rounds : ℕ) (tokens : List Fido2TokenRef) (pin : String) :
    (unlockFromTokens rounds tokens pin).Fresh := by
  rw [unlockFromTokens]
  split_ifs
  · trivial
  refine Prog.Fresh.bind (L := fun c => 5 ≤ c.stage) (fun c hc hc' => by omega)
    (selectDevice_fresh rounds tokens) (selectDevice_calls rounds tokens)
    (Prog.Returns.bind (Prog.returns_of_forall (fun paths => ?_) _))
  refine Prog.Returns.bind (Prog.returns_of_forall (fun openDevs => ?_) _)
  refine Prog.Returns.mono (fun o ho => ?_) (selectAmong_returns rounds tokens openDevs)
  cases o with
  | none => exact ⟨trivial, trivial⟩
  | some x =>
      have hcalls := thirdPhase_calls x.1 tokens pin x.2
      refine ⟨fun _ => ⟨Prog.AllCalls.mono (fun c hc heq => ?_) hcalls, ?_⟩,
        Nat.le_refl 5, fun _ => Prog.AllCalls.mono (fun c hc => by omega) hcalls⟩
      · exact instSubsingletonPUnit
      · show ((unlockWith x.1 tokens (sentPin pin) x.2 none).bind fun secret =>
          (Prog.ret (some secret) : Fido (Option Bytes))).Fresh
        exact Prog.Fresh.bind_silent (unlockWith_fresh x.1 tokens (sentPin_ne_empty pin)
          (ho x rfl) none) fun _ => trivial

end LuksEnroll
