import LuksEnroll.Duplicates
import LuksEnroll.Enrolled
import LuksEnroll.Extraction
import LuksEnroll.PinUse

/-!
# What an authenticator gives back

`unlock_from_tokens` and `enroll` meet in the authenticator: one asks for the secret of a new
credential and stores the credential and the salt, the other finds the token again among those of the
header and the device among those that are connected.

An `Authenticator` is what the FIDO2 documents promise of one device: it knows its own credentials
without being touched, and for each of them it derives one secret from a salt when the user was
verified by the PIN and another when not.  `Behind` says that the answers of libfido2 for a device are
those of an authenticator.

* `unlockFromTokens_iff`: what the three phases get out of the devices is what the chosen authenticator
  releases for the first token that it holds.
* `authenticator_unlocks_iff`: so an unlock gives the volume key if and only if that secret still opens
  a keyslot.
* `enrolled_authenticator_unlocks`: and after an enrollment it does.

The three phases were worked out over a table of answers before; here the table is one that
authenticators are behind.  What remains is that a token remains on a device when the device holds its
credential, and that the secret which a device answers is the one it derives, as long as the PIN is the
same.
-/

namespace LuksEnroll

open Library

/-! ## Authenticators

What the FIDO2 documents promise, without libfido2.  A device need not promise anything for a
credential that it does not hold.
-/

/-- An authenticator: its PIN, whether it always verifies the user, its credentials, and the secret
that goes with a credential and a salt. -/
structure Authenticator where
  pin : Option String
  alwaysUv : Bool
  holds : Bytes → Bool
  secret : (credId : Bytes) → (verified : Bool) → (salt : Bytes) → Bytes
  secret_length : ∀ credId verified salt, (secret credId verified salt).length = 32

namespace Authenticator

/-- What an assertion with this PIN gets for a token. -/
def release (a : Authenticator) (sent : Option String) (tok : Fido2TokenRef) : Option Bytes :=
  if a.holds tok.credId then
    match sent with
    | none => if a.alwaysUv then none else some (a.secret tok.credId false tok.salt)
    | some p => if a.pin = some p then some (a.secret tok.credId true tok.salt) else none
  else none

/-- What it gives for the tokens of a header and the PIN that was typed: the secret of the first token
that it holds. -/
def unlocks (a : Authenticator) (tokens : List Fido2TokenRef) (pin : String) : Option Bytes :=
  match pinCstring (sentPin pin) with
  | Except.ok sent => tokens.findSome? (a.release sent)
  | Except.error _ => none

/-- The answers of libfido2 for the device `dev` are those of this authenticator. -/
structure Behind (a : Authenticator) (table : Authenticators) (dev : ℕ) : Prop where
  memory : ∀ assertion, table (FidoCmd.assertNew dev assertion) = true
  /-- Credentials are matched before the PIN is asked for. -/
  probe : ∀ ti credId,
    classifyProbeRet (table (FidoCmd.getAssert dev (probeAssertion ti credId) none)).1
      = some (a.holds credId)
  released : ∀ ti sent tok s, a.release sent tok = some s →
    table (FidoCmd.getAssert dev (hmacAssertion ti tok.credId tok.salt) sent) = (fidoOk, s)
  refused : ∀ ti sent tok, a.release sent tok = none →
    (table (FidoCmd.getAssert dev (hmacAssertion ti tok.credId tok.salt) sent)).1 ≠ fidoOk

variable {a : Authenticator} {table : Authenticators} {dev : ℕ} {tokens : List Fido2TokenRef}

lemma release_ne_nil {sent : Option String} {tok : Fido2TokenRef} {s : Bytes}
    (h : a.release sent tok = some s) : s ≠ [] := by
  rintro rfl
  have hlen := a.secret_length tok.credId
  unfold release at h
  cases sent <;> (dsimp only at h; split_ifs at h)
  · simpa [Option.some.inj h] using hlen false tok.salt
  · simpa [Option.some.inj h] using hlen true tok.salt

/-- The probe excludes what the authenticator does not hold, and nothing else. -/
lemma Behind.excludes_eq (h : a.Behind table dev) (tok : Fido2TokenRef) (ti : ℕ) :
    excludes table dev tok ti = !a.holds tok.credId := by
  have hprobe := h.probe ti tok.credId
  rw [excludes, h.memory, Bool.true_and]
  cases hholds : a.holds tok.credId with
  | false =>
      rw [hholds, classifyProbeRet_eq_false] at hprobe
      simp [hprobe]
  | true =>
      have hne : ¬ _ = fidoErrNoCredentials := fun heq => by
        rw [classifyProbeRet_eq_false.mpr heq, hholds] at hprobe
        cases hprobe
      simpa using hne

/-- An attempt gets what is released for its token. -/
lemma Behind.attempt (h : a.Behind table dev) {pin : Option String} (hpin : pin ≠ some "")
    (x : Fido2TokenRef × ℕ) : ((hmacAttempt dev pin x).outcome table).toOption
      = if pinCstring pin = Except.ok pin then a.release pin x.1 else none := by
  have hissued := @hmacAttempt_issued table dev pin hpin x
  rw [allocates, h.memory] at hissued
  cases hout : (hmacAttempt dev pin x).outcome table with
  | ok s =>
      obtain ⟨hmem, hreply, -⟩ := (hmacAttempt_ok_iff hpin).mp hout
      rw [hissued] at hmem
      split_ifs with hsent
      · cases hrelease : a.release pin x.1 with
        | none => exact absurd (congrArg Prod.fst hreply) (h.refused x.2 pin x.1 hrelease)
        | some s' =>
            rw [h.released x.2 pin x.1 s' hrelease] at hreply
            rw [(Prod.mk.inj hreply).2]
            rfl
      · simp [hsent] at hmem
  | error e =>
      split_ifs with hsent
      · cases hrelease : a.release pin x.1 with
        | none => rfl
        | some s =>
            have hok := (@hmacAttempt_ok_iff table dev pin hpin x s).mpr
              ⟨by simp [hissued, hsent], h.released x.2 pin x.1 s hrelease, release_ne_nil hrelease⟩
            rw [hok] at hout
            cases hout
      · rfl

end Authenticator

/-! ## The three phases

What is left of `unlock_from_tokens` over a table of answers: the outcome, once a device was
selected, is that of the first token whose assertion gives a secret.
-/

section Phases

variable {table : Authenticators} {tokens : List Fido2TokenRef} {dev : ℕ}

/-- The loop of the third phase gets the first secret that an attempt gets. -/
lemma unlockWith_outcome {pin : Option String} {xs : List (Fido2TokenRef × ℕ)}
    (hxs : ∀ x ∈ xs, tokens[x.2]? = some x.1) (lastErr : Option String) :
    ((unlockWith dev tokens pin (xs.map Prod.snd) lastErr).outcome table).toOption
      = xs.findSome? fun x => ((hmacAttempt dev pin x).outcome table).toOption := by
  induction xs generalizing lastErr with
  | nil => rfl
  | cons x xs ih =>
      rw [List.forall_mem_cons] at hxs
      rw [List.map_cons, List.findSome?_cons]
      cases hattempt : (hmacAttempt dev pin x).outcome table with
      | ok s =>
          rw [(unlockWith_cons_ok (xs.map Prod.snd) lastErr hxs.1 hattempt).1]
          rfl
      | error e =>
          rw [(unlockWith_cons_error (xs.map Prod.snd) lastErr hxs.1 hattempt).1]
          exact ih hxs.2 (some e)

/-- The three phases: a device is selected, and the attempts on it get a secret. -/
lemma unlockFromTokens_ok_iff (rounds : ℕ) (pin : String) {s : Bytes} :
    (unlockFromTokens rounds tokens pin).outcome table = Except.ok (some s)
      ↔ ∃ dev, selectedDevice table tokens rounds = some dev
        ∧ ((remainingTokens table tokens dev).findSome? fun x =>
          ((hmacAttempt dev (sentPin pin) x).outcome table).toOption) = some s := by
  cases h : selectedDevice table tokens rounds with
  | none => simpa using (unlockFromTokens_unselected pin h).2 s
  | some dev =>
      obtain ⟨hout, -, hthird⟩ := unlockFromTokens_selected pin h
      have hloop := @unlockWith_outcome table tokens dev (sentPin pin)
        (remainingTokens table tokens dev) remainingTokens_getElem none
      rw [← remainingIdxs] at hloop
      simp only [Option.some.injEq, exists_eq_left']
      rw [← hloop]
      constructor
      · intro hok
        rw [hthird s hok]
        rfl
      · intro hok
        have htokens : ¬ tokens.isEmpty = true := by
          intro hempty
          rw [List.isEmpty_iff] at hempty
          subst hempty
          cases hok
        cases hend : (unlockWith dev tokens (sentPin pin) (remainingIdxs table tokens dev)
            none).outcome table with
        | error e =>
            rw [hend] at hok
            cases hok
        | ok s' =>
            rw [hend] at hok
            obtain rfl := Option.some.inj hok
            rw [unlockFromTokens, if_neg htokens, Prog.bind_def, Prog.outcome_bind_ok hout]
            show ((unlockWith dev tokens (sentPin pin) (remainingIdxs table tokens dev) none).bind
              fun secret => (Prog.ret (some secret) : Fido (Option Bytes))).outcome table = _
            rw [Prog.outcome_bind_ok hend, Prog.outcome_ret]

end Phases

/-! ## Connected authenticators

Now every device that was opened is an authenticator.  The phases then say what they are for: the
devices that are asked are those that hold a credential of the header, and the secret is what the
chosen one releases.
-/

/-- The only one of these devices, or the one that is touched first. -/
def chosenDevice (table : Authenticators) (rounds : ℕ) (devs : List ℕ) : Option ℕ :=
  if devs.length = 1 then devs.head?
  else ((List.range rounds).findSome? (touchedIn table devs.zipIdx)).map Prod.fst

/-- The open devices whose authenticator holds a credential of these tokens. -/
def enrolledDevices (auth : ℕ → Authenticator) (table : Authenticators)
    (tokens : List Fido2TokenRef) : List ℕ :=
  (openedDevices table).filter fun dev => tokens.any fun tok => (auth dev).holds tok.credId

section Connected

variable {auth : ℕ → Authenticator} {table : Authenticators} {tokens : List Fido2TokenRef}

/-- The tokens that remain on a device are those whose credentials it holds. -/
lemma remainingTokens_behind {a : Authenticator} {dev : ℕ} (h : a.Behind table dev) :
    (remainingTokens table tokens dev).map Prod.fst = tokens.filter fun tok => a.holds tok.credId := by
  have hkeep : (fun x : Fido2TokenRef × ℕ => !excludes table dev x.1 x.2)
      = (fun tok => a.holds tok.credId) ∘ Prod.fst := by
    funext x
    rw [h.excludes_eq, Bool.not_not]
    rfl
  rw [remainingTokens, hkeep, ← List.filter_map, List.zipIdx_map_fst]

/-- The candidates are the devices that hold one. -/
lemma candidateDevices_behind (hauth : ∀ dev ∈ openedDevices table, (auth dev).Behind table dev) :
    candidateDevices table tokens = enrolledDevices auth table tokens := by
  refine List.filter_congr fun dev hdev => ?_
  rw [remainingIdxs, Bool.eq_iff_iff]
  have hremaining := @remainingTokens_behind table tokens _ _ (hauth dev hdev)
  have hempty : (remainingTokens table tokens dev = [])
      ↔ tokens.filter (fun tok => (auth dev).holds tok.credId) = [] := by
    rw [← hremaining, List.map_eq_nil_iff]
  simp [hempty]

lemma mem_candidateDevices_of_selected {rounds dev : ℕ}
    (h : selectedDevice table tokens rounds = some dev) : dev ∈ candidateDevices table tokens := by
  rw [selectedDevice] at h
  split_ifs at h
  · exact List.mem_of_head? h
  · obtain ⟨x, hx, rfl⟩ := Option.map_eq_some_iff.mp h
    obtain ⟨round, -, hround⟩ := List.exists_of_findSome?_eq_some hx
    exact List.fst_mem_of_mem_zipIdx (List.mem_of_find?_eq_some hround)

/-- A token that the device does not hold gives no secret, and can be left out. -/
lemma findSome?_filter_release (a : Authenticator) (sent : Option String) :
    (tokens.filter fun tok => a.holds tok.credId).findSome? (a.release sent)
      = tokens.findSome? (a.release sent) := by
  induction tokens with
  | nil => rfl
  | cons tok tokens ih =>
      rw [List.filter_cons, List.findSome?_cons]
      cases h : a.holds tok.credId with
      | true => rw [if_pos rfl, List.findSome?_cons, ih]
      | false =>
          have hnone : a.release sent tok = none := by simp [Authenticator.release, h]
          rw [hnone, if_neg Bool.false_ne_true, ih]

/-- **What the three phases get**: with any authenticators connected, a secret comes back exactly if
one of those that hold a credential of the header is the only one or is touched, and releases a secret
to the PIN that was typed; and it is the secret of the first token that this one holds. -/
theorem unlockFromTokens_iff (hauth : ∀ dev ∈ openedDevices table, (auth dev).Behind table dev)
    (rounds : ℕ) (pin : String) (s : Bytes) :
    (unlockFromTokens rounds tokens pin).outcome table = Except.ok (some s)
      ↔ ∃ dev, chosenDevice table rounds (enrolledDevices auth table tokens) = some dev
        ∧ (auth dev).unlocks tokens pin = some s := by
  rw [unlockFromTokens_ok_iff, ← candidateDevices_behind hauth]
  refine exists_congr fun dev => and_congr_right fun hdev => ?_
  have hopen : dev ∈ openedDevices table :=
    List.mem_of_mem_filter (mem_candidateDevices_of_selected hdev)
  have hbehind := hauth dev hopen
  have hattempts : (fun x => ((hmacAttempt dev (sentPin pin) x).outcome table).toOption)
      = (fun tok => if pinCstring (sentPin pin) = Except.ok (sentPin pin)
          then (auth dev).release (sentPin pin) tok else none) ∘ Prod.fst := by
    funext x
    exact hbehind.attempt (sentPin_ne_empty pin) x
  rw [hattempts, ← List.findSome?_map, remainingTokens_behind hbehind, Authenticator.unlocks]
  rcases pinCstring_sent (sentPin_ne_empty pin) with hsent | ⟨p, e, -, -, hsent⟩
  · simp only [hsent, if_true]
    rw [findSome?_filter_release]
  · have hnone : (tokens.filter fun tok => (auth dev).holds tok.credId).findSome?
        (fun _ => (none : Option Bytes)) = none := List.findSome?_eq_none_iff.mpr fun _ _ => rfl
    simp [hsent, hnone]

end Connected

/-! ## The volume key

The secret is a passphrase of the volume once it is written in Base64.  What is between it and the
volume key is the header, so that the whole unlock is the authenticator's part and the header's.
-/

/-- What the commands of an unlock are answered, from what libfido2 answers.  While the device is still
to be touched there is no secret. -/
def unlockGrounded (rounds : ℕ) (c : Cmd) (i : Oracle × Authenticators) : Oracle :=
  match c with
  | Cmd.fido2UnlockFromTokens refs pin =>
      match (unlockFromTokens rounds refs pin).outcome i.2 with
      | Except.ok (some secret) => { i.1 with hardwareFault := none, secret := secret }
      | Except.ok none => { i.1 with hardwareFault := some "" }
      | Except.error e => { i.1 with hardwareFault := some e }
  | _ => i.1

/-- The world with the connected authenticators behind it. -/
def execFido (rounds : ℕ) : Handler Cmd Reply (Oracle × Authenticators) World :=
  fun c i w => exec none c (unlockGrounded rounds c i) w

/-! ### libfido2 with such authenticators

A table of answers for given authenticators, so that runs can be evaluated, and the volume's
operations with libfido2 behind them.
-/

/-- Authenticators at these paths, of which one is being touched. -/
def plugged (auth : ℕ → Authenticator) (paths : List String) (touched : ℕ) : Authenticators
  | FidoCmd.devInfoNew => true
  | FidoCmd.devInfoManifest => (fidoOk, paths.map some)
  | FidoCmd.devNew _ => true
  | FidoCmd.devOpen _ _ => fidoOk
  | FidoCmd.assertNew _ _ => true
  | FidoCmd.getAssert dev b sent =>
      match b.hmacSalt with
      | none => (if (auth dev).holds b.allowCred then fidoOk else fidoErrNoCredentials, [])
      | some salt =>
          match (auth dev).release sent ⟨b.allowCred, salt⟩ with
          | some s => (fidoOk, s)
          | none => (fidoErrPinInvalid, [])
  | FidoCmd.getTouchBegin _ => ()
  | FidoCmd.getTouchStatus _ _ dev => (fidoOk, if dev = touched then 1 else 0)
  | FidoCmd.cancel _ => ()
  | FidoCmd.setTimeout _ _ => ()

/-- The answers of the plugged devices are those of their authenticators. -/
lemma behind_plugged (auth : ℕ → Authenticator) (paths : List String) (touched dev : ℕ) :
    (auth dev).Behind (plugged auth paths touched) dev where
  memory _ := rfl
  probe ti credId := by
    show classifyProbeRet (if (auth dev).holds credId then fidoOk else fidoErrNoCredentials) = _
    cases (auth dev).holds credId <;> rfl
  released ti sent tok s h := by
    show (match (auth dev).release sent tok with
      | some s => (fidoOk, s)
      | none => (fidoErrPinInvalid, [])) = _
    rw [h]
  refused ti sent tok h := by
    show (match (auth dev).release sent tok with
      | some s => (fidoOk, s)
      | none => (fidoErrPinInvalid, [])).1 ≠ fidoOk
    rw [h]
    decide

/-- An authenticator with the PIN `1234` and one credential. -/
def pinnedKey (credId : Bytes) : Authenticator where
  pin := some "1234"
  alwaysUv := false
  holds c := decide (c = credId)
  secret _ verified _ := List.replicate 32 (if verified then 1 else 0)
  secret_length _ _ _ := List.length_replicate

/-- Two authenticators that both hold a credential: the second is touched. -/
example : (unlockFromTokens 1 [⟨[1], []⟩, ⟨[2], []⟩] "1234").outcome
    (plugged (fun dev => pinnedKey [dev.toUInt8 + 1]) ["/dev/hidraw0", "/dev/hidraw1"] 1)
      = Except.ok (some (List.replicate 32 1)) := by
  rfl

section VolumeKey

variable {device : String} {w : World} {h : Header}

/-- Talking to the devices is faulty only where the command is. -/
lemma unlockGrounded_fault (rounds : ℕ) (c : Cmd) (i : Oracle × Authenticators) :
    (unlockGrounded rounds c i).fault = i.1.fault := by
  rw [unlockGrounded.eq_def]
  split
  · split <;> rfl
  · rfl

/-- What an operation does when nothing fails, it does with authenticators behind it. -/
lemma wp_unlockGrounded {α : Type} {rounds : ℕ} {table : Authenticators} {p : Op α}
    {Q : Except String α → World → Prop} (hp : p.wp (exec none) (fun o => o.fault = none) Q w) :
    p.wp (execFido rounds) (fun i => i.1.fault = none ∧ i.2 = table) Q w := by
  refine Prog.wp_comap (g := unlockGrounded rounds) (fun c i hi => ?_) hp
  rw [unlockGrounded_fault]
  exact hi.1

/-- The raw secret is what the three phases get for the tokens of the header. -/
lemma rawTokenSecret_quiet (hh : w.header device = some h) (rounds : ℕ) (table : Authenticators)
    (pin : String) :
    (rawTokenSecret device tokenTypeFido2 pin).wp (execFido rounds)
      (fun i => i.1.fault = none ∧ i.2 = table)
      (fun x v => v.header device = some h ∧ ∀ s, x = Except.ok s ↔ ∃ refs,
        fido2RefsFromMeta h.dump = Except.ok refs
          ∧ (unlockFromTokens rounds refs pin).outcome table = Except.ok (some s)) w := by
  rw [rawTokenSecret, if_pos rfl, fido2TokenRefs, tokenRefs]
  refine Prog.wp_bind (Prog.wp_bind (Prog.wp_mono (fun x v hx => ?_)
    (wp_unlockGrounded (metadataJson_spec w))))
  obtain ⟨hsame, m, rfl, hm⟩ := hx
  have hv : v.header device = some h := (hsame.header device).trans hh
  obtain rfl : m = some h.dump := by
    cases m with
    | none =>
        rcases hm with hf | hnone
        · exact absurd hf not_faulty_quiet
        · simp [hh] at hnone
    | some metadata =>
        obtain ⟨h₀, hh₀, rfl⟩ := hm
        rw [Option.some.inj (hh₀.symm.trans hh)]
  dsimp only
  cases hrefs : fido2RefsFromMeta h.dump with
  | error e => exact ⟨hv, by simp⟩
  | ok refs =>
      rintro i ⟨-, rfl⟩
      have hanswer : (execFido rounds (Cmd.fido2UnlockFromTokens refs pin) i v).1
          = match (unlockFromTokens rounds refs pin).outcome i.2 with
            | Except.ok (some secret) => Except.ok secret
            | Except.ok none => Except.error ""
            | Except.error e => Except.error e := by
        show (unlockGrounded rounds _ i).unlessHardwareFault _ = _
        rw [unlockGrounded]
        rcases (unlockFromTokens rounds refs pin).outcome i.2 with e | (_ | secret) <;> rfl
      show ((orFail (execFido rounds (Cmd.fido2UnlockFromTokens refs pin) i v).1 id : Op Bytes).wp
        _ _ _ (execFido rounds (Cmd.fido2UnlockFromTokens refs pin) i v).2)
      rw [hanswer]
      rcases hout : (unlockFromTokens rounds refs pin).outcome i.2 with e | (_ | secret) <;>
        exact ⟨hv, by simp [hout]⟩

/-- The second open finds the volume key if some keyslot opens. -/
lemma extract_quiet (hh : w.header device = some h) (tokenType : String) (pw : Bytes) :
    (extractTokenVolumeKey device tokenType pw).wp (exec none) (fun o => o.fault = none)
      (fun x _ => ∀ vk, (∃ k, x = Except.ok (k, vk))
        ↔ vk = h.volumeKey ∧ ∃ k, h.opens pw k = true) w := by
  refine Prog.wp_bind (Prog.wp_mono (fun x v hx => ?_) (openLuks2_spec w))
  obtain ⟨hsame, hx⟩ := hx
  cases x with
  | error e =>
      rcases hx with hf | hnone
      · exact absurd hf not_faulty_quiet
      · simp [hh] at hnone
  | ok loaded =>
      obtain rfl : loaded = h := Option.some.inj (hx.symm.trans hh)
      intro o ho
      show ((tryCandidates loaded pw (_ ++ [none]) none).wp _ _ _ _)
      rw [candidates_eq]
      refine Prog.wp_mono (fun x v hx vk => ?_) (tryCandidates_spec (fun slot o v ho => ?_) _ none _)
      · cases hx with
        | listed hfound =>
            have hopens := List.find?_some hfound
            constructor
            · rintro ⟨k, hk⟩
              exact ⟨(Prod.mk.inj (Except.ok.inj hk)).2.symm, _, hopens⟩
            · rintro ⟨rfl, -⟩
              exact ⟨_, rfl⟩
        | other _ hopens =>
            constructor
            · rintro ⟨k, hk⟩
              exact ⟨(Prod.mk.inj (Except.ok.inj hk)).2.symm, _, hopens⟩
            · rintro ⟨rfl, -⟩
              exact ⟨_, rfl⟩
        | none hall =>
            constructor
            · rintro ⟨k, hk⟩
              cases hk
            · rintro ⟨-, k, hk⟩
              rw [hall k] at hk
              cases hk
      · show (o.unlessFault ()).bind _ = _
        rw [Oracle.unlessFault, ho]
        rfl

/-- Without the cache, the key comes out exactly when the released secret opens a keyslot. -/
lemma coldVolumeKey_quiet (hh : w.header device = some h) (rounds : ℕ) (table : Authenticators)
    (passphrase pin : String) :
    (coldVolumeKey device tokenTypeFido2 passphrase pin).wp (execFido rounds)
      (fun i => i.1.fault = none ∧ i.2 = table)
      (fun x _ => ∀ vk, x = Except.ok vk ↔ vk = h.volumeKey ∧ ∃ refs s k,
        fido2RefsFromMeta h.dump = Except.ok refs
          ∧ (unlockFromTokens rounds refs pin).outcome table = Except.ok (some s)
          ∧ h.opens (asBytes (Base64.encode s)) k = true) w := by
  rw [coldVolumeKey, if_pos (by decide), derivePassphraseFromToken]
  refine Prog.wp_bind (Prog.wp_bind (Prog.wp_mono (fun x v hx => ?_)
    (rawTokenSecret_quiet hh rounds table pin)))
  obtain ⟨hv, hx⟩ := hx
  cases x with
  | error e =>
      intro vk
      constructor
      · intro hvk
        cases hvk
      · rintro ⟨-, refs, s, k, hrefs, hout, -⟩
        exact absurd ((hx s).mpr ⟨refs, hrefs, hout⟩) (by simp)
  | ok s =>
      obtain ⟨refs, hrefs, hout⟩ := (hx s).mp rfl
      have hsame : ∀ vk, (vk = h.volumeKey ∧ ∃ k, h.opens (asBytes (Base64.encode s)) k = true) ↔
          vk = h.volumeKey ∧ ∃ refs s k, fido2RefsFromMeta h.dump = Except.ok refs
            ∧ (unlockFromTokens rounds refs pin).outcome table = Except.ok (some s)
            ∧ h.opens (asBytes (Base64.encode s)) k = true := by
        intro vk
        constructor
        · rintro ⟨hvk, k, hk⟩
          exact ⟨hvk, refs, s, k, hrefs, hout, hk⟩
        · rintro ⟨hvk, refs', s', k, hrefs', hout', hk⟩
          obtain rfl := Except.ok.inj (hrefs.symm.trans hrefs')
          obtain rfl := Option.some.inj (Except.ok.inj (hout.symm.trans hout'))
          exact ⟨hvk, k, hk⟩
      refine Prog.wp_bind (Prog.wp_mapErr (Prog.wp_mono (fun x v hx => ?_)
        (wp_unlockGrounded (extract_quiet hv tokenTypeFido2 (asBytes (Base64.encode s))))))
      simp only [hsame] at hx
      cases x with
      | error e =>
          intro vk
          rw [← hx vk]
          simp
      | ok found =>
          intro vk
          rw [← hx vk]
          constructor
          · intro hvk
            exact ⟨found.1, by rw [← Except.ok.inj hvk]⟩
          · rintro ⟨k, hk⟩
            rw [Except.ok.inj hk]

/-- A volume that is not cached is looked up in vain. -/
lemma cacheGet_cold (hcold : w.cachedKey device = none) (o : Oracle) :
    (exec none (Cmd.cacheGet device) o w).1 = none := by
  have hlater : live (w.now + o.elapsed) (w.cache (w.fs.cacheKey device)) = none := by
    cases hlive : live (w.now + o.elapsed) (w.cache (w.fs.cacheKey device)) with
    | none => rfl
    | some vk =>
        rw [World.cachedKey, live_of_later (Nat.le_add_right _ _) hlive] at hcold
        cases hcold
  show (World.cacheGet { w with now := w.now + o.elapsed } device).1 = none
  rw [World.cacheGet, World.cachedKey, hlater]

/-- The calls of an unlock that nothing disturbs, while the answers of libfido2 stay the same. -/
structure QuietInputs (table : Authenticators) (is : ℕ → Oracle × Authenticators) : Prop where
  fault : ∀ n, (is n).1.fault = none
  table : ∀ n, (is n).2 = table

lemma getVolumeKey_quiet (hh : w.header device = some h) (hcold : w.cachedKey device = none)
    (rounds : ℕ) {table : Authenticators} {is : ℕ → Oracle × Authenticators}
    (his : QuietInputs table is) (passphrase pin : String) (vk : VolumeKey) :
    ((getVolumeKey device tokenTypeFido2 passphrase pin).run (execFido rounds) is w).1 = Except.ok vk
      ↔ vk = h.volumeKey ∧ ∃ refs s k, fido2RefsFromMeta h.dump = Except.ok refs
        ∧ (unlockFromTokens rounds refs pin).outcome table = Except.ok (some s)
        ∧ h.opens (asBytes (Base64.encode s)) k = true := by
  suffices hwp : (getVolumeKey device tokenTypeFido2 passphrase pin).wp (execFido rounds)
      (fun i => i.1.fault = none ∧ i.2 = table) (fun x _ => ∀ vk, x = Except.ok vk ↔
        vk = h.volumeKey ∧ ∃ refs s k, fido2RefsFromMeta h.dump = Except.ok refs
          ∧ (unlockFromTokens rounds refs pin).outcome table = Except.ok (some s)
          ∧ h.opens (asBytes (Base64.encode s)) k = true) w from
    Prog.wp_sound hwp is (fun n => ⟨his.fault n, his.table n⟩) vk
  rw [getVolumeKey, if_pos (by decide)]
  intro i hi
  have hmiss : (execFido rounds (Cmd.cacheGet device) i w).1 = none := cacheGet_cold hcold i.1
  have hh' : (execFido rounds (Cmd.cacheGet device) i w).2.header device = some h :=
    (((@exec_readsOn device none (Cmd.cacheGet device) rfl i.1 w).header device).trans hh)
  show (Prog.bind (Prog.ret (execFido rounds (Cmd.cacheGet device) i w).1) _).wp _ _ _ _
  rw [hmiss]
  show ((coldVolumeKey device tokenTypeFido2 passphrase pin).bind _).wp _ _ _ _
  refine Prog.wp_bind (Prog.wp_mono (fun x v hx => ?_)
    (coldVolumeKey_quiet hh' rounds table passphrase pin))
  cases x with
  | error e => exact hx
  | ok vk => exact fun _ _ => hx

/-- **An unlock with an authenticator**: when the key is not cached and nothing disturbs the calls,
the volume key comes out exactly if one of the connected authenticators that hold a credential of the
volume is the only one or is touched, releases the secret of the first token that it holds to the PIN
that was typed, and that secret still opens some keyslot. -/
theorem authenticator_unlocks_iff {auth : ℕ → Authenticator} {table : Authenticators}
    (hauth : ∀ dev ∈ openedDevices table, (auth dev).Behind table dev)
    (hh : w.header device = some h) (hcold : w.cachedKey device = none) (rounds : ℕ)
    {is : ℕ → Oracle × Authenticators} (his : QuietInputs table is) (passphrase pin : String)
    (vk : VolumeKey) :
    ((getVolumeKey device tokenTypeFido2 passphrase pin).run (execFido rounds) is w).1 = Except.ok vk
      ↔ vk = h.volumeKey ∧ ∃ refs dev s k, fido2RefsFromMeta h.dump = Except.ok refs
        ∧ chosenDevice table rounds (enrolledDevices auth table refs) = some dev
        ∧ (auth dev).unlocks refs pin = some s
        ∧ h.opens (asBytes (Base64.encode s)) k = true := by
  rw [getVolumeKey_quiet hh hcold rounds his]
  refine and_congr_right fun _ => exists_congr fun refs => ?_
  simp only [unlockFromTokens_iff hauth]
  constructor
  · rintro ⟨s, k, hrefs, ⟨dev, hdev, hs⟩, hk⟩
    exact ⟨dev, s, k, hrefs, hdev, hs, hk⟩
  · rintro ⟨dev, s, k, hrefs, hdev, hs, hk⟩
    exact ⟨s, k, hrefs, ⟨dev, hdev, hs⟩, hk⟩

/-- A volume with two FIDO2 tokens, and a keyslot for what the authenticators give. -/
def twoTokenHeader : Header :=
  Header.ofEntries ⟨[7]⟩ [⟨"luks2", asBytes (Base64.encode (List.replicate 32 1)), true, none⟩]
    (["AQ==", "Ag=="].map fidoToken) (by decide) (by decide) (by simp [fidoToken])

/-- Two keys, the second of which is touched. -/
theorem touched_key_unlocks :
    ((getVolumeKey "/dev/sdb1" tokenTypeFido2 "" "1234").run (execFido 1)
        (fun _ => (Oracle.quiet, plugged (fun dev => pinnedKey [dev.toUInt8 + 1])
          ["/dev/hidraw0", "/dev/hidraw1"] 1)) (volumeWith twoTokenHeader)).1
      = Except.ok ⟨[7]⟩ :=
  (authenticator_unlocks_iff (fun dev _ => behind_plugged _ _ _ dev) (h := twoTokenHeader) rfl rfl 1
    ⟨fun _ => rfl, fun _ => rfl⟩ "" "1234" ⟨[7]⟩).mpr
    ⟨rfl, [⟨[1], [1]⟩, ⟨[2], [1]⟩], 1, List.replicate 32 1, 0, by rfl, by rfl, by rfl, by decide⟩

end VolumeKey

/-! ## Enrolling

`enroll` makes a credential, asks for its secret with a new salt, and stores both in a token.  The
authenticator has one credential more from then on, and finds it again when the token is read back.
-/

namespace Authenticator

/-- The authenticator once it has made a credential. -/
def withCredential (a : Authenticator) (credId : Bytes) : Authenticator :=
  { a with holds := fun c => a.holds c || decide (c = credId) }

/-- The device at a path is this authenticator, which is asked to make a credential. -/
structure At (a : Authenticator) (layout : String → Option OsPath) (path : String)
    (table : HidTable) : Prop where
  opens : ∃ real, (layout path).bind OsPath.cstring = some real
    ∧ table (HidCmd.devNew 0) = true ∧ table (HidCmd.devOpen 0 real) = fidoOk
  memory : ∀ assertion, table (HidCmd.fido (FidoCmd.assertNew 0 assertion)) = true
  probe : ∀ ti credId,
    classifyProbeRet (table (HidCmd.fido (FidoCmd.getAssert 0 (probeAssertion ti credId) none))).1
      = some (a.holds credId)
  /-- The assertion that follows is answered by the authenticator with the new credential. -/
  asserted : ∀ userId sent tok s, table (HidCmd.makeCred 0 userId sent) = (fidoOk, tok.credId) →
    table (HidCmd.fido (FidoCmd.getAssert 0 (hmacAssertion 0 tok.credId tok.salt) sent))
      = (fidoOk, s) → (a.withCredential tok.credId).release sent tok = some s

variable {a : Authenticator} {layout : String → Option OsPath} {path : String} {table : HidTable}

/-- A credential that was made is the one that the device answered. -/
lemma makeCredential_ok {dev : ℕ} {pin : Option String} {credId : Bytes} {table : HidTable}
    (h : (makeCredential dev pin).outcome table = Except.ok credId) :
    ∃ userId sent, pinCstring pin = Except.ok sent
      ∧ table (HidCmd.makeCred dev userId sent) = (fidoOk, credId) := by
  obtain ⟨new, -, h⟩ := Prog.exists_of_outcome_bind h
  split_ifs at h
  swap
  · cases h
  obtain ⟨userId, -, h⟩ := Prog.exists_of_outcome_bind h
  obtain ⟨sent, hsent, h⟩ := Prog.exists_of_outcome_bind h
  obtain ⟨reply, hreply, h⟩ := Prog.exists_of_outcome_bind h
  rw [Prog.outcome_ofExcept] at hsent
  refine ⟨userId, sent, hsent, (Except.ok.inj hreply).trans ?_⟩
  split_ifs at h with hpin hret
  · cases h
  · cases h
  · cases h
  · exact Prod.ext (not_not.mp hret) (Except.ok.inj h)

/-- A secret that comes back is the one that the device answered. -/
lemma getHmacSecret_ok {dev ti : ℕ} {credId salt s : Bytes} {pin sent : Option String}
    {table : Authenticators} (hsent : pinCstring pin = Except.ok sent)
    (h : (getHmacSecret dev ti credId salt pin).outcome table = Except.ok s) :
    table (FidoCmd.getAssert dev (hmacAssertion ti credId salt) sent) = (fidoOk, s) := by
  obtain ⟨new, -, h⟩ := Prog.exists_of_outcome_bind h
  split_ifs at h
  swap
  · cases h
  obtain ⟨sent', hsent', h⟩ := Prog.exists_of_outcome_bind h
  obtain ⟨reply, hreply, h⟩ := Prog.exists_of_outcome_bind h
  rw [Prog.outcome_ofExcept, hsent] at hsent'
  obtain rfl := Except.ok.inj hsent'
  refine (Except.ok.inj hreply).trans ?_
  split_ifs at h with hret
  · cases h
  · cases h
  · exact Prod.ext (not_not.mp hret) (Except.ok.inj h)

/-- What is enrolled is a credential that was just made, and the secret that it releases. -/
lemma At.enrolled (hat : a.At layout path table) {pin : Option String} {e : Fido2Enrollment}
    (h : (enroll path pin).outcome (resolving layout table) = Except.ok e) :
    ∃ userId sent, pinCstring (pin.filter fun p => decide (p ≠ "")) = Except.ok sent
      ∧ table (HidCmd.makeCred 0 userId sent) = (fidoOk, e.credId)
      ∧ (a.withCredential e.credId).release sent ⟨e.credId, e.salt⟩ = some e.hmacSecret := by
  obtain ⟨realPath, -, h⟩ := Prog.exists_of_outcome_bind h
  obtain ⟨-, -, h⟩ := Prog.exists_of_outcome_bind h
  obtain ⟨new, -, h⟩ := Prog.exists_of_outcome_bind h
  split_ifs at h
  swap
  · cases h
  obtain ⟨ret, -, h⟩ := Prog.exists_of_outcome_bind h
  split_ifs at h
  swap
  · cases h
  obtain ⟨credId, hcred, h⟩ := Prog.exists_of_outcome_bind h
  obtain ⟨salt, -, h⟩ := Prog.exists_of_outcome_bind h
  obtain ⟨s, hs, h⟩ := Prog.exists_of_outcome_bind h
  obtain rfl := Except.ok.inj h
  obtain ⟨userId, sent, hsent, hmade⟩ := makeCredential_ok hcred
  refine ⟨userId, sent, hsent, hmade, hat.asserted userId sent ⟨credId, salt⟩ s hmade ?_⟩
  rw [onDevice_outcome] at hs
  exact getHmacSecret_ok hsent hs

lemma At.confirms (hat : a.At layout path table) {credId : Bytes} (hholds : a.holds credId = true) :
    Confirms layout table path credId where
  opens := hat.opens
  probe ti := by
    rw [probeCredential, Prog.bind_def, Prog.outcome_bind_ok (Prog.outcome_perform _ _),
      if_pos (hat.memory _), Prog.bind_def, Prog.outcome_bind_ok (Prog.outcome_perform _ _),
      hat.probe, hholds]
    rfl

end Authenticator

section RoundTrip

variable {a : Authenticator} {layout : String → Option OsPath} {device fido2Device pin : String}
  {w : World} {h : Header} {is : ℕ → Oracle × HidTable}

/-- An authenticator that the check lets pass holds none of the credentials of the header. -/
lemma alreadyEnrolled_run (hh : w.header device = some h)
    (hread : (readable fun n => (is n).1) = true) (hat : ∀ n, a.At layout fido2Device (is n).2) :
    ∃ enrolled u, (alreadyEnrolled device fido2Device).run (execHid layout) is w
        = (Except.ok enrolled, u) ∧ u.header device = some h
      ∧ (enrolled = false → ∀ credId ∈ credsIn h.dump, a.holds credId = false) := by
  obtain ⟨v, hv, hsame⟩ := existingCreds_run layout is hh
  rw [hread, if_pos rfl] at hv
  have hvh : v.header device = some h := (hsame.header device).trans hh
  rw [alreadyEnrolled, Prog.bind_def, Prog.run_bind_ok hv]
  split_ifs with hnil
  · refine ⟨false, v, rfl, hvh, fun _ credId hmem => ?_⟩
    rw [hnil] at hmem
    cases hmem
  · refine ⟨_, _, rfl, hvh, fun hfalse credId hmem => ?_⟩
    by_contra hholds
    rw [Bool.not_eq_false] at hholds
    set i := Prog.after ((existingCreds device).steps (execHid layout) is w) is 0
    have hconf : Confirms layout i.2 fido2Device credId := (hat _).confirms hholds
    have hanswer : (execHid layout (Cmd.fido2EnrolledPaths [fido2Device] (credsIn h.dump)) i v).1
        = ((enrolledPaths [fido2Device] (credsIn h.dump)).outcome
          (resolving layout i.2)).toOption.getD [] := rfl
    rw [hanswer, enrolledPaths_of_confirms hconf hmem] at hfalse
    simp [Except.toOption] at hfalse

/-- What an enrollment with this authenticator has stored: a keyslot and a token for a credential that
was made on the way. -/
def StoredBy (a : Authenticator) (is : ℕ → Oracle × HidTable) (pin : String) (h h' : Header) : Prop :=
  ∃ (n : ℕ) (userId : Bytes) (sent : Option String) (e : Fido2Enrollment) (k j : ℕ) (t : Token),
    pinCstring (sentPin pin) = Except.ok sent
      ∧ (is n).2 (HidCmd.makeCred 0 userId sent) = (fidoOk, e.credId)
      ∧ (a.withCredential e.credId).release sent ⟨e.credId, e.salt⟩ = some e.hmacSecret
      ∧ h.Enrolled h' k j (Header.newKeyslot none (asBytes (Base64.encode e.hmacSecret))) t
      ∧ t.json = withKeyslot (fido2TokenJson e.credId e.salt (decide (pin ≠ ""))) k

/-- The enrollment of a key stores the credential, the salt and a keyslot for its secret. -/
lemma enrollToken_storedBy (hh : w.header device = some h)
    (hat : ∀ n, a.At layout fido2Device (is n).2) (unlockMethod unlockPin passphrase : String) :
    (enrollToken device unlockMethod unlockPin passphrase (prepareFido2 fido2Device pin)).wp
      (execHid layout) (fun i => ∃ n, i = is n)
      (fun x w' => ∀ t, x = Except.ok t → ∃ h', w'.header device = some h' ∧ StoredBy a is pin h h')
      w := by
  refine Prog.wp_bind ?_
  rintro i ⟨n, rfl⟩
  have hanswer : (execHid layout (Cmd.fido2Enroll fido2Device (optionalPin pin)) (is n) w).1
      = (enroll fido2Device (optionalPin pin)).outcome (resolving layout (is n).2) := by
    show (grounded layout _ (is n)).unlessHardwareFault _ = _
    rw [grounded]
    cases (enroll fido2Device (optionalPin pin)).outcome (resolving layout (is n).2) <;> rfl
  show ((orFail (execHid layout (Cmd.fido2Enroll fido2Device (optionalPin pin)) (is n) w).1 id).bind
    _ : Op _).wp _ _ _ _
  rw [hanswer]
  cases hout : (enroll fido2Device (optionalPin pin)).outcome (resolving layout (is n).2) with
  | error e => exact fun t ht => by cases ht
  | ok e =>
      obtain ⟨userId, sent, hsent, hmade, hrelease⟩ := (hat n).enrolled hout
      have hsent' : pinCstring (sentPin pin) = Except.ok sent := by
        rw [← hsent, sentPin, optionalPin]
        split_ifs with hpin
        · rfl
        · rw [Option.filter_some, if_pos (decide_eq_true hpin)]
      have hrest := Prog.wp_comap (g := grounded layout)
        (fun _ i (_ : ∃ n, i = is n) => trivial) (enrollRest_spec none device
          ⟨asBytes (Base64.encode e.hmacSecret), true, "",
            fido2TokenJson e.credId e.salt (decide (pin ≠ ""))⟩
          unlockMethod unlockPin passphrase
          (execHid layout (Cmd.fido2Enroll fido2Device (optionalPin pin)) (is n) w).2)
      show ((getVolumeKey device unlockMethod passphrase unlockPin).bind _).wp _ _ _ _
      refine Prog.wp_mono (fun x w' hx t ht => ?_) hrest
      obtain ⟨-, h₀, h', k, j, token, hwrote, henrolled, hjson⟩ := hx t ht
      obtain rfl : h₀ = h := Option.some.inj (hwrote.stored.symm.trans hh)
      exact ⟨h', hwrote.header, n, userId, sent, e, k, j, token, hsent', hmade, hrelease, henrolled,
        hjson⟩

/-- The tokens that an unlock reads after the enrollment. -/
lemma fido2Refs_enrolled {h' : Header} {k j : ℕ} {ks : Keyslot} {t : Token} {credId salt : Bytes}
    {required : Bool} (hall : AllWellFormed h) (he : h.Enrolled h' k j ks t)
    (hjson : t.json = withKeyslot (fido2TokenJson credId salt required) k) :
    ∃ refs, fido2RefsFromMeta h'.dump = Except.ok refs ∧ ⟨credId, salt⟩ ∈ refs
      ∧ ∀ ref ∈ refs, ref = ⟨credId, salt⟩ ∨ Carries h ref.credId := by
  have hnew : hasType tokenTypeFido2 t.json = true ∧ fido2Ref t.json = Except.ok ⟨credId, salt⟩ := by
    rw [hjson]
    refine ⟨hasType_withKeyslot k (by simp [hasType, fido2TokenJson, Json.get, Json.asStr]), ?_⟩
    simp only [fido2Ref, requireStr, withKeyslot]
    rw [Json.get_set_ne (by decide), Json.get_set_ne (by decide)]
    simp [fido2TokenJson, Json.get, Json.field, Json.asStr, decodeB64_encode, bind, Except.bind,
      pure, Except.pure]
  -- every token of the new header is the new one or one of the old
  have hcases : ∀ x ∈ (tableOf "tokens" h'.dump).filter (fun t => hasType tokenTypeFido2 t.2),
      x.2 = t.json ∨ x ∈ tableOf "tokens" h.dump ∧ hasType tokenTypeFido2 x.2 = true := by
    intro x hx
    obtain ⟨hx, htype⟩ := List.mem_filter.mp hx
    obtain ⟨i, t', hi, ht', rfl⟩ := mem_tableOf_tokens_dump.mp hx
    rw [he.tokens] at ht'
    by_cases hij : i = j
    · rw [hij, Function.update_self, Option.some.injEq] at ht'
      exact Or.inl (by rw [ht'])
    · rw [Function.update_of_ne hij] at ht'
      exact Or.inr ⟨mem_tableOf_tokens_dump.mpr ⟨i, t', hi, ht', rfl⟩, htype⟩
  have hread : ∀ x ∈ (tableOf "tokens" h'.dump).filter (fun t => hasType tokenTypeFido2 t.2),
      ∃ ref, fido2Ref x.2 = Except.ok ref := by
    intro x hx
    rcases hcases x hx with heq | ⟨hold, htype⟩
    · exact ⟨_, heq ▸ hnew.2⟩
    · exact hall x hold htype
  obtain ⟨refs, hrefs⟩ := exists_mapM_eq_ok.mpr hread
  refine ⟨refs, hrefs, ?_, fun ref href => ?_⟩
  · have hj : j < tokensMax := Header.lt_of_mem_tokenIds (h := h') (Header.mem_tokenIds.mpr (by
      rw [he.tokens, Function.update_self]
      rfl))
    have hmem : (toString j, t.json) ∈ tableOf "tokens" h'.dump := mem_tableOf_tokens_dump.mpr
      ⟨j, t, hj, by rw [he.tokens, Function.update_self], rfl⟩
    exact mem_of_mapM_eq_ok hrefs (List.mem_filter.mpr ⟨hmem, hnew.1⟩) hnew.2
  · obtain ⟨x, hx, href⟩ := (exists_mem_iff_of_forall₂
      (fun _ _ _ h₁ h₂ => Except.ok.inj (h₁.symm.trans h₂)) (mapM_eq_ok.mp hrefs)).mpr href
    rcases hcases x hx with heq | ⟨hold, htype⟩
    · rw [heq, hnew.2] at href
      exact Or.inl (Except.ok.inj href).symm
    · exact Or.inr ⟨x, hold, htype, ref.salt, href⟩

/-- The authenticator gives the secret of its new credential, whatever other tokens there are. -/
lemma unlocks_enrolled {refs : List Fido2TokenRef} {sent : Option String} {e : Fido2Enrollment}
    (hsent : pinCstring (sentPin pin) = Except.ok sent)
    (hrelease : (a.withCredential e.credId).release sent ⟨e.credId, e.salt⟩ = some e.hmacSecret)
    (hmem : ⟨e.credId, e.salt⟩ ∈ refs)
    (hothers : ∀ ref ∈ refs, ref = ⟨e.credId, e.salt⟩
      ∨ (a.withCredential e.credId).holds ref.credId = false) :
    (a.withCredential e.credId).unlocks refs pin = some e.hmacSecret := by
  rw [Authenticator.unlocks, hsent]
  show refs.findSome? ((a.withCredential e.credId).release sent) = some e.hmacSecret
  induction refs with
  | nil => cases hmem
  | cons ref refs ih =>
      rw [List.forall_mem_cons] at hothers
      rw [List.findSome?_cons]
      rcases hothers.1 with rfl | hnone
      · rw [hrelease]
      · have hrel : (a.withCredential e.credId).release sent ref = none := by
          simp [Authenticator.release, hnone]
        rw [hrel]
        refine ih ((List.mem_cons.mp hmem).resolve_left ?_) hothers.2
        rintro rfl
        simp [hrel] at hrelease

/-- An enrollment that reports success has passed the check and stored what the authenticator gave. -/
lemma opEnrollFido2_storedBy {passphrase unlockMethod unlockPin out err : String}
    (hh : w.header device = some h) (hread : (readable fun n => (is n).1) = true)
    (hat : ∀ n, a.At layout fido2Device (is n).2)
    (hok : ((opEnrollFido2 device passphrase pin fido2Device unlockMethod unlockPin).run
      (execHid layout) is w).1 = Except.ok (true, out, err)) :
    (∀ credId ∈ credsIn h.dump, a.holds credId = false) ∧ ∃ h',
      ((opEnrollFido2 device passphrase pin fido2Device unlockMethod unlockPin).run
        (execHid layout) is w).2.header device = some h' ∧ StoredBy a is pin h h' := by
  obtain ⟨enrolled, u, hu, huh, hnone⟩ := alreadyEnrolled_run hh hread hat
  rw [opEnrollFido2, runOp_run, Prog.bind_def, Prog.run_bind_ok hu] at hok ⊢
  cases enrolled with
  | true => cases hok
  | false =>
      have hwp := Prog.wp_sound
        (@enrollToken_storedBy a layout device fido2Device pin u h is huh hat unlockMethod unlockPin
          passphrase)
        (Prog.after ((alreadyEnrolled device fido2Device).steps (execHid layout) is w) is)
        fun n => ⟨_, rfl⟩
      rw [if_neg Bool.false_ne_true] at hok ⊢
      cases hx : ((enrollToken device unlockMethod unlockPin passphrase
          (prepareFido2 fido2Device pin)).run (execHid layout)
          (Prog.after ((alreadyEnrolled device fido2Device).steps (execHid layout) is w) is) u).1 with
      | error e =>
          rw [hx] at hok
          cases hok
      | ok t => exact ⟨hnone rfl, hwp t hx⟩

/-- **An authenticator that was enrolled unlocks the volume.**  Where the tokens of the header could be
read and the credential was new, after an enrollment that reports success the same authenticator with
the same PIN gets the volume key out of the header: whatever other authenticators are connected, once
it is the only one of those that hold a credential of the volume or the one that is touched, and
whatever credentials of others the volume has.

The unlock is one in which no call fails (`QuietInputs`), on a world that has no key for the device in
the cache: with a cached key no authenticator would be asked.  That the credential is new (`hfresh`) is
libfido2's promise for every credential that it makes. -/
theorem enrolled_authenticator_unlocks {passphrase unlockMethod unlockPin out err : String}
    (hh : w.header device = some h) (hall : AllWellFormed h)
    (hread : (readable fun n => (is n).1) = true) (hat : ∀ n, a.At layout fido2Device (is n).2)
    (hfresh : ∀ n userId sent credId,
      (is n).2 (HidCmd.makeCred 0 userId sent) = (fidoOk, credId) → ¬ Carries h credId)
    (hok : ((opEnrollFido2 device passphrase pin fido2Device unlockMethod unlockPin).run
      (execHid layout) is w).1 = Except.ok (true, out, err)) :
    ∃ credId h' refs, ((opEnrollFido2 device passphrase pin fido2Device unlockMethod unlockPin).run
        (execHid layout) is w).2.header device = some h'
      ∧ fido2RefsFromMeta h'.dump = Except.ok refs ∧ credId ∈ refs.map Fido2TokenRef.credId
      ∧ ¬ Carries h credId
      ∧ ∀ (v : World) (auth : ℕ → Authenticator) (table : Authenticators) (rounds dev : ℕ)
          (is' : ℕ → Oracle × Authenticators) (passphrase' : String),
        v.header device = some h' → v.cachedKey device = none → QuietInputs table is' →
        (∀ d ∈ openedDevices table, (auth d).Behind table d) →
        chosenDevice table rounds (enrolledDevices auth table refs) = some dev →
        auth dev = a.withCredential credId →
        ((getVolumeKey device tokenTypeFido2 passphrase' pin).run (execFido rounds) is' v).1
          = Except.ok h'.volumeKey := by
  obtain ⟨hnone, h', hh', n, userId, sent, e, k, j, t, hsent, hmade, hrelease, he, hjson⟩ :=
    opEnrollFido2_storedBy hh hread hat hok
  obtain ⟨refs, hrefs, hmem, hothers⟩ := fido2Refs_enrolled hall he hjson
  have hnew := hfresh n userId sent e.credId hmade
  refine ⟨e.credId, h', refs, hh', hrefs, List.mem_map_of_mem hmem, hnew, ?_⟩
  intro v auth table rounds dev is' passphrase' hv hcold his hauth hdev hsame
  have hunlocks : (auth dev).unlocks refs pin = some e.hmacSecret := by
    rw [hsame]
    refine unlocks_enrolled hsent hrelease hmem fun ref href => (hothers ref href).imp_right ?_
    intro hcarries
    have hne : ref.credId ≠ e.credId := by
      intro heq
      exact hnew (heq ▸ hcarries)
    simp [Authenticator.withCredential, hnone _ (hcarries.mem_credsIn hall), hne]
  refine (authenticator_unlocks_iff hauth hv hcold rounds his passphrase' pin h'.volumeKey).mpr
    ⟨rfl, refs, dev, e.hmacSecret, k, hrefs, hdev, hunlocks, ?_⟩
  simp [Header.opens, he.keyslots, Header.newKeyslot]

/-- An authenticator behind every path, about to make this credential. -/
def offered (a : Authenticator) (credId : Bytes) : HidTable
  | HidCmd.canonicalize path => some (OsPath.text path)
  | HidCmd.fidoInit => ()
  | HidCmd.devNew _ => true
  | HidCmd.devOpen _ _ => fidoOk
  | HidCmd.credNew _ => true
  | HidCmd.makeCred _ _ _ => (fidoOk, credId)
  | HidCmd.getrandom n => List.replicate n 0
  | HidCmd.fido (FidoCmd.getAssert dev b sent) =>
      if b.hmacSalt.isNone then plugged (fun _ => a) [] 0 (FidoCmd.getAssert dev b sent)
      else plugged (fun _ => a.withCredential credId) [] 0 (FidoCmd.getAssert dev b sent)
  | HidCmd.fido c => plugged (fun _ => a) [] 0 c

/-- The authenticator of the example is the one behind its answers. -/
lemma at_offered (credId : Bytes) : a.At oneAuthenticator fido2Device (offered a credId) where
  opens := ⟨OsPath.text "/dev/hidraw0", by simp [oneAuthenticator, OsPath.cstring], rfl, rfl⟩
  memory _ := rfl
  probe := (behind_plugged (fun _ => a) [] 0 0).probe
  asserted userId sent tok s hmade hs := by
    have htok : credId = tok.credId := (Prod.mk.inj hmade).2
    subst htok
    change (match (a.withCredential tok.credId).release sent tok with
      | some s => (fidoOk, s)
      | none => (fidoErrPinInvalid, [])) = (fidoOk, s) at hs
    cases hrelease : (a.withCredential tok.credId).release sent tok with
    | none => simp [hrelease, fidoErrPinInvalid, fidoOk] at hs
    | some s' =>
        rw [hrelease] at hs
        rw [(Prod.mk.inj hs).2]

/-- A volume with one FIDO2 token, its key in the cache, on which an authenticator with another
credential is enrolled. -/
def enrolledKey : Except String Triple × World :=
  (opEnrollFido2 "/dev/sdb1" "" "1234" "/dev/hidraw0" "passphrase" "").run
    (execHid oneAuthenticator) (fun _ => (Oracle.quiet, offered (pinnedKey [3]) [2]))
    (unlockedVolume (fidoHeader ["AQ=="] (by decide)))

/-- The key enrolled in the example unlocks, when the cache is empty. -/
theorem enrolled_key_unlocks :
    ((getVolumeKey "/dev/sdb1" tokenTypeFido2 "" "1234").run (execFido 1)
        (fun _ => (Oracle.quiet, plugged (fun _ => (pinnedKey [3]).withCredential [2])
          ["/dev/hidraw0"] 0)) { enrolledKey.2 with cache := fun _ => none }).1
      = Except.ok ⟨[7]⟩ := by
  have htokens : ∀ t ∈ tableOf "tokens" (fidoHeader ["AQ=="] (by decide)).dump,
      fido2Ref t.2 = Except.ok ⟨[1], [1]⟩ := by
    intro t ht
    obtain ⟨i, -, cred, hcred, rfl⟩ := mem_tokens_fidoHeader.mp ht
    obtain rfl : cred = "AQ==" := by simpa using List.mem_of_getElem? hcred
    rfl
  have hcarries : ∀ {c}, Carries (fidoHeader ["AQ=="] (by decide)) c → c = [1] := by
    rintro c ⟨t, ht, -, salt, hsalt⟩
    have heq := Except.ok.inj ((htokens t ht).symm.trans hsalt)
    exact (Fido2TokenRef.mk.inj heq).1.symm
  obtain ⟨credId, h', refs, hh', hrefs, hmem, hnew, hrest⟩ :=
    @enrolled_authenticator_unlocks (pinnedKey [3]) oneAuthenticator "/dev/sdb1" "/dev/hidraw0" "1234"
      (unlockedVolume (fidoHeader ["AQ=="] (by decide))) (fidoHeader ["AQ=="] (by decide))
      (fun _ => (Oracle.quiet, offered (pinnedKey [3]) [2])) "" "passphrase" "" "" ""
      unlockedVolume_header (fun t ht _ => ⟨_, htokens t ht⟩) rfl (fun _ => at_offered [2])
      (fun _ _ _ credId hmade hc => by
        rw [hcarries hc] at hmade
        exact absurd (Prod.mk.inj hmade).2 (by decide))
      (by decide +kernel : enrolledKey.1 = Except.ok (true, "", ""))
  -- the header that was stored, and what is read from it
  have hstored : (enrolledKey.2.header "/dev/sdb1").map (fun h => (h.volumeKey,
      (fido2RefsFromMeta h.dump).toOption.map fun refs => refs.map Fido2TokenRef.credId))
      = some (⟨[7]⟩, some [[1], [2]]) := by decide +kernel
  have hheader : enrolledKey.2.header "/dev/sdb1" = some h' := hh'
  rw [hheader, Option.map_some, Option.some.injEq, Prod.mk.injEq, hrefs] at hstored
  obtain ⟨hkey, hcreds⟩ := hstored
  have hcreds : refs.map Fido2TokenRef.credId = [[1], [2]] := Option.some.inj hcreds
  obtain rfl : credId = [2] := by
    rw [hcreds] at hmem
    have hone : credId ≠ [1] := by
      rintro rfl
      exact hnew ⟨_, mem_tokens_fidoHeader.mpr ⟨0, by decide, "AQ==", rfl, rfl⟩, rfl, [1], rfl⟩
    simpa [hone] using hmem
  have hholds : (refs.any fun tok => ((pinnedKey [3]).withCredential [2]).holds tok.credId) = true := by
    have hany := List.any_map (l := refs) (f := Fido2TokenRef.credId)
      (p := ((pinnedKey [3]).withCredential [2]).holds)
    rw [hcreds] at hany
    exact hany.symm.trans rfl
  rw [← hkey]
  refine hrest _ (fun _ => (pinnedKey [3]).withCredential [2]) _ 1 0 _ "" hheader rfl
    ⟨fun _ => rfl, fun _ => rfl⟩
    (fun d _ => behind_plugged (fun _ => (pinnedKey [3]).withCredential [2]) _ _ d) ?_ rfl
  have hopen : enrolledDevices (fun _ => (pinnedKey [3]).withCredential [2])
      (plugged (fun _ => (pinnedKey [3]).withCredential [2]) ["/dev/hidraw0"] 0) refs = [0] := by
    show [0].filter _ = [0]
    rw [List.filter_cons, if_pos hholds, List.filter_nil]
  rw [hopen]
  rfl

end RoundTrip

end LuksEnroll
