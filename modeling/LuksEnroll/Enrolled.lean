import LuksEnroll.Failure
import LuksEnroll.Methods
import LuksEnroll.Tokens
import Mathlib.Data.List.Sort
import Mathlib.Data.List.Perm.Basic

/-!
# What an enrollment stores, seen from every reader

An enrollment writes a keyslot and a token.  The rest of the service never sees the two writes; it
sees readers: which token belongs to a keyslot, which keyslots are plain passwords, which passphrase
a token's secret stands for.  `enrollment_stored` says what each of them makes of a successful
enrollment, over arbitrary keyslots and tokens that were there before.

**Why the readers agree.**  A token lists only keyslots that exist, so nothing listed the new
keyslot's number before; the new token lists it and nothing else.  The keyslot is found under that
token and never counts as a password.  Without a token, it does.

The metadata is a table in the order of its text, and the readers go through it in that order; two
headers with the same entries may print them differently.  So the first thing to show is that none of
the readers depends on the order (`passwordKeyslotsIn_congr`).

The secret is traced to where it came from: the authenticator's answer, the bytes that were sealed, the
recovery key, or what the user typed.
-/

namespace LuksEnroll

open Library

/-! ## Password keyslots

A password keyslot is one that no token lists.  It does not matter in which order the tables are
gone through.
-/

/-- A table has the entries it was made from, in some order. -/
lemma tableJson_perm {ids : List ℕ} (hids : ids.Nodup) (entry : ℕ → Json) :
    (OrderedMap.ofList (ids.map fun i => (toString i, entry i))).entries.Perm
      (ids.map fun i => (toString i, entry i)) := by
  have hinj : Function.Injective fun i : ℕ => (toString i, entry i) := by
    intro i j hij
    exact toString_injective (congrArg Prod.fst hij)
  have hentries : (OrderedMap.ofList (ids.map fun i => (toString i, entry i))).entries.Nodup :=
    List.Nodup.of_map Prod.fst (OrderedMap.keys_nodup _)
  rw [List.perm_ext_iff_of_nodup hentries (hids.map hinj)]
  intro x
  rw [mem_tableJson hids]
  simp [eq_comm]

/-- The keyslot numbers that the metadata of a header lists. -/
lemma keyslotNumbers_perm (h : Header) :
    ((tableOf "keyslots" h.dump).filterMap fun s => parseI32 s.1).Perm
      (h.slotIds.map (Nat.cast : ℕ → ℤ)) := by
  rw [tableOf_keyslots_dump]
  refine ((tableJson_perm h.slotIds_nodup h.keyslotJson).filterMap _).trans ?_
  rw [List.filterMap_map, List.filterMap_eq_map_iff_forall_eq_some.mpr]
  intro i hi
  exact parseI32_toString (Header.lt_of_mem_slotIds hi)

lemma mem_managed {h : Header} {i : ℕ} :
    (i : ℤ) ∈ (tableOf "tokens" h.dump).flatMap (fun t => tokenKeyslots t.2)
      ↔ ∃ j t, h.tokens j = some t ∧ i ∈ t.slots := by
  rw [List.mem_flatMap]
  constructor
  · rintro ⟨x, hx, hi⟩
    obtain ⟨j, t, -, ht, rfl⟩ := mem_tableOf_tokens_dump.mp hx
    obtain ⟨k, hk, hik⟩ := (mem_tokenKeyslots_json ht).mp hi
    obtain rfl : i = k := by omega
    exact ⟨j, t, ht, hk⟩
  · rintro ⟨j, t, ht, hi⟩
    have hj := Header.lt_of_mem_tokenIds (Header.mem_tokenIds.mpr (by rw [ht]; rfl))
    exact ⟨_, mem_tableOf_tokens_dump.mpr ⟨j, t, hj, ht, rfl⟩,
      (mem_tokenKeyslots_json ht).mpr ⟨i, hi, rfl⟩⟩

/-- **`password_keyslots` lists the keyslots that no token lists.** -/
lemma mem_passwordKeyslotsIn_dump {h : Header} {n : ℤ} : n ∈ passwordKeyslotsIn (some h.dump)
    ↔ ∃ i : ℕ, n = i ∧ (h.keyslots i).isSome ∧ ∀ j t, h.tokens j = some t → i ∉ t.slots := by
  simp only [passwordKeyslotsIn, List.mem_mergeSort, List.mem_filter, decide_eq_true_eq,
    (keyslotNumbers_perm h).mem_iff, List.mem_map]
  constructor
  · rintro ⟨⟨i, hi, rfl⟩, hn⟩
    refine ⟨i, rfl, Header.mem_slotIds.mp hi, ?_⟩
    intro j t ht hit
    exact hn (mem_managed.mpr ⟨j, t, ht, hit⟩)
  · rintro ⟨i, rfl, hi, hfree⟩
    refine ⟨⟨i, Header.mem_slotIds.mpr hi, rfl⟩, ?_⟩
    intro hmem
    obtain ⟨j, t, ht, hit⟩ := mem_managed.mp hmem
    exact hfree j t ht hit

lemma passwordKeyslotsIn_nodup (h : Header) : (passwordKeyslotsIn (some h.dump)).Nodup := by
  simp only [passwordKeyslotsIn]
  rw [(List.mergeSort_perm _ _).nodup_iff]
  refine List.Nodup.filter _ ?_
  rw [(keyslotNumbers_perm h).nodup_iff]
  exact h.slotIds_nodup.map Nat.cast_injective

/-- Two headers with the same password keyslots are read alike. -/
lemma passwordKeyslotsIn_congr {h h' : Header}
    (hmem : ∀ n, n ∈ passwordKeyslotsIn (some h'.dump) ↔ n ∈ passwordKeyslotsIn (some h.dump)) :
    passwordKeyslotsIn (some h'.dump) = passwordKeyslotsIn (some h.dump) := by
  have hperm := (List.perm_ext_iff_of_nodup (passwordKeyslotsIn_nodup h')
    (passwordKeyslotsIn_nodup h)).mpr hmem
  exact hperm.eq_of_pairwise (fun a b _ _ => le_antisymm) (passwordKeyslotsIn_sorted _)
    (passwordKeyslotsIn_sorted _)

/-! ## A keyslot and its token

One keyslot is new, and one token that lists it and no other.  The readers of the metadata find it
under its type, and the passwords are the ones that there were before.
-/

/-- One keyslot more at `k` and one token more at `j`, the token listing `k` alone; everything that
was there before is as it was. -/
structure Header.Enrolled (h h' : Header) (k j : ℕ) (ks : Keyslot) (t : Token) : Prop where
  keyslot_free : h.keyslots k = none
  keyslots : h'.keyslots = Function.update h.keyslots k (some ks)
  token_free : h.tokens j = none
  tokens : h'.tokens = Function.update h.tokens j (some t)
  listed : t.slots = [k]

/-- A number without keyslot is listed by no token. -/
lemma Header.unlisted_of_free {h : Header} {k : ℕ} (hk : h.keyslots k = none) {j : ℕ} {t : Token}
    (ht : h.tokens j = some t) : k ∉ t.slots := by
  intro hmem
  have := h.token_slots j t ht k hmem
  simp [hk] at this

section Views

variable {h h' : Header} {k j : ℕ} {ks : Keyslot} {t : Token}

/-- The tokens that list a keyslot afterwards. -/
lemma Header.Enrolled.lists_iff (he : h.Enrolled h' k j ks t) {i : ℕ} :
    (∃ n t', h'.tokens n = some t' ∧ i ∈ t'.slots)
      ↔ i = k ∨ ∃ n t', h.tokens n = some t' ∧ i ∈ t'.slots := by
  rw [he.tokens]
  constructor
  · rintro ⟨n, t', ht', hi⟩
    by_cases hn : n = j
    · rw [hn, Function.update_self, Option.some.injEq] at ht'
      subst ht'
      simp only [he.listed, List.mem_singleton] at hi
      exact Or.inl hi
    · rw [Function.update_of_ne hn] at ht'
      exact Or.inr ⟨n, t', ht', hi⟩
  · rintro (rfl | ⟨n, t', ht', hi⟩)
    · exact ⟨j, t, by simp, by simp [he.listed]⟩
    · have hn : n ≠ j := by
        rintro rfl
        simp [he.token_free] at ht'
      exact ⟨n, t', by rw [Function.update_of_ne hn, ht'], hi⟩

/-- The new token is the one found for the new keyslot. -/
lemma Header.Enrolled.token_found (he : h.Enrolled h' k j ks t) :
    tokenForKeyslotIn k (some h'.dump) = j := by
  have hj : h'.tokens j = some t := by simp [he.tokens]
  rcases tokenForKeyslotIn_dump h' k with ⟨-, hnone⟩ | ⟨i, t', hi, -, ht', k', hk', hkk⟩
  · exact absurd rfl (hnone j t hj k (by simp [he.listed]))
  · obtain rfl : k = k' := by omega
    rw [hi]
    by_cases hij : i = j
    · rw [hij]
    · rw [he.tokens, Function.update_of_ne hij] at ht'
      exact absurd hk' (Header.unlisted_of_free he.keyslot_free ht')

lemma Header.Enrolled.passwords (he : h.Enrolled h' k j ks t) :
    passwordKeyslotsIn (some h'.dump) = passwordKeyslotsIn (some h.dump) := by
  refine passwordKeyslotsIn_congr fun n => ?_
  have hlists : ∀ i, (∀ n t', h'.tokens n = some t' → i ∉ t'.slots)
      ↔ i ≠ k ∧ ∀ n t', h.tokens n = some t' → i ∉ t'.slots := by
    intro i
    have := not_congr (he.lists_iff (i := i))
    push Not at this
    exact this
  simp only [mem_passwordKeyslotsIn_dump, hlists, he.keyslots]
  constructor
  · rintro ⟨i, rfl, hi, hne, hfree⟩
    rw [Function.update_of_ne hne] at hi
    exact ⟨i, rfl, hi, hfree⟩
  · rintro ⟨i, rfl, hi, hfree⟩
    have hne : i ≠ k := by
      rintro rfl
      simp [he.keyslot_free] at hi
    exact ⟨i, rfl, by rwa [Function.update_of_ne hne], hne, hfree⟩

/-- A keyslot without token joins the passwords. -/
lemma passwords_of_keyslot (hk : h.keyslots k = none)
    (hks : h'.keyslots = Function.update h.keyslots k (some ks)) (htok : h'.tokens = h.tokens)
    (n : ℤ) : n ∈ passwordKeyslotsIn (some h'.dump)
      ↔ n = k ∨ n ∈ passwordKeyslotsIn (some h.dump) := by
  simp only [mem_passwordKeyslotsIn_dump, hks, htok]
  constructor
  · rintro ⟨i, rfl, hi, hfree⟩
    by_cases hik : i = k
    · exact Or.inl (by rw [hik])
    · rw [Function.update_of_ne hik] at hi
      exact Or.inr ⟨i, rfl, hi, hfree⟩
  · rintro (rfl | ⟨i, rfl, hi, hfree⟩)
    · refine ⟨k, rfl, by simp, ?_⟩
      intro j t ht
      exact Header.unlisted_of_free hk ht
    · have hik : i ≠ k := by
        rintro rfl
        simp [hk] at hi
      exact ⟨i, rfl, by rwa [Function.update_of_ne hik], hfree⟩

end Views

/-! ## A run of an enrollment

What is between the answer that says yes and the header: a key was there, the secret was prepared,
and both writes went through.
-/

variable {who : Option ℕ} {device : String} {w : World}

/-- From the unlock to the token: what is stored, for what was prepared. -/
lemma enrollRest_spec (who : Option ℕ) (device : String) (prepared : Prepared)
    (unlockMethod unlockPin passphrase : String) (w : World) :
    ((getVolumeKey device unlockMethod passphrase unlockPin).bind fun vk =>
      (addKeyslotByVolumeKey device vk prepared.keyslotSecret prepared.minimalPbkdf).bind fun k =>
        storeToken device prepared k).wp (exec who) (fun _ => True)
      (fun x w' => ∀ t, x = Except.ok t → t = (true, prepared.stdout, "") ∧
        ∃ h h' k j token, w.Wrote device h h' w'
          ∧ h.Enrolled h' k j (Header.newKeyslot who prepared.keyslotSecret) token
          ∧ token.json = withKeyslot prepared.token k) w := by
  refine wp_addAuthorised (fun vk o h h₁ k v₁ hadd hwrote₁ => ?_)
    (fun e v _ t ht => absurd ht (by simp))
  obtain ⟨hindex, hks, htok, -⟩ := Header.addKeyslot_spec (addByKey_addKeyslot hadd)
  refine Prog.wp_bind (Prog.wp_mono (fun x v₂ hx => ?_) (setToken_spec _ _ v₁))
  cases x with
  | error e => exact fun t ht => absurd ht (by simp)
  | ok j =>
      intro t ht
      obtain ⟨o', h₂, h', -, hset, hwrote₂⟩ := hx
      obtain rfl : h₂ = h₁ := Option.some.inj (hwrote₂.stored.symm.trans hwrote₁.header)
      have hwrote := hwrote₁.trans hwrote₂
      change h₂.jsonSet who o' (TokenInput.add (withKeyslot prepared.token k)) = _ at hset
      cases htoken : Token.ofJson who (withKeyslot prepared.token k) with
      | none => simp [Header.jsonSet, htoken] at hset
      | some token =>
          obtain ⟨hlisted, -, hjson⟩ := ofJson_stamped_inv htoken
          obtain ⟨hfree, htokens, hkeyslots, -⟩ := jsonSet_add_ok htoken hset
          refine ⟨(Except.ok.inj ht).symm, h, h', k, j, token, hwrote, ?_, hjson⟩
          rw [htok] at hfree htokens
          exact ⟨(freeIndex_some hindex).2, hkeyslots.trans hks, hfree, htokens, hlisted⟩

/-- **A token enrollment that succeeds** was prepared, and what was prepared is stored. -/
lemma enrollToken_stored {prepare : Op Prepared} (hreads : prepare.AllCalls (Cmd.ReadsOn device))
    {unlockMethod unlockPin passphrase : String} {os : ℕ → Oracle} {h : Header}
    (hh : w.header device = some h) {t : Triple} {w' : World}
    (hrun : (enrollToken device unlockMethod unlockPin passphrase prepare).run (exec who) os w
      = (Except.ok t, w')) :
    ∃ prepared v, prepare.run (exec who) os w = (Except.ok prepared, v)
      ∧ prepare.answers (exec who) os w ⊆
        (enrollToken device unlockMethod unlockPin passphrase prepare).answers (exec who) os w
      ∧ t.2.1 = prepared.stdout
      ∧ ∃ h' k j token, w'.header device = some h'
        ∧ h.Enrolled h' k j (Header.newKeyslot who prepared.keyslotSecret) token
        ∧ token.json = withKeyslot prepared.token k := by
  have hsame : w.SameDisk (prepare.run (exec who) os w).2 :=
    Prog.wp_sound (A := fun _ => True) (wp_readsOn hreads w) os fun _ => trivial
  rw [enrollToken, Prog.bind_def] at hrun ⊢
  cases hprep : (prepare.run (exec who) os w).1 with
  | error e =>
      rw [Prog.run_bind_error (Prod.ext hprep rfl)] at hrun
      cases hrun
  | ok prepared =>
      have hok : prepare.run (exec who) os w = (Except.ok prepared, _) := Prod.ext hprep rfl
      have hrest := Prog.wp_sound (enrollRest_spec who device prepared unlockMethod unlockPin
        passphrase (prepare.run (exec who) os w).2)
        (Prog.after (prepare.steps (exec who) os w) os) fun _ => trivial
      have hrun' := (Prog.run_bind_ok hok).symm.trans hrun
      simp only [Prog.bind_def] at hrun'
      obtain ⟨hx, hw'⟩ := Prod.mk.inj hrun'
      obtain ⟨ht, h₀, h', k, j, token, hwrote, henrolled, hjson⟩ := hrest t hx
      rw [hw'] at hwrote
      obtain rfl : h₀ = h := Option.some.inj
        (hwrote.stored.symm.trans ((hsame.header device).trans hh))
      refine ⟨prepared, _, hok, ?_, by rw [ht], h', k, j, token, hwrote.header, henrolled, hjson⟩
      rw [Prog.answers_bind_ok hok]
      exact List.subset_append_left _ _

/-! ### What was prepared

The four methods prepare their secrets in four ways; each is traced to the answers of the hardware
or of the random source.
-/

/-- A fallible call of a run that goes on: it was answered, and the rest ran on. -/
lemma run_ask_orFail {α β : Type} {c : Cmd} {r : Reply c → Except String α} {word : String → String}
    {k : α → Op β} {os : ℕ → Oracle} {b : β} {w' : World}
    (hrun : ((ask c).bind fun x => (orFail (r x) word).bind k).run (exec who) os w
      = (Except.ok b, w')) :
    ∃ a, r (exec who c (os 0) w).1 = Except.ok a
      ∧ (k a).run (exec who) (Prog.after 1 os) (exec who c (os 0) w).2 = (Except.ok b, w')
      ∧ ((ask c).bind fun x => (orFail (r x) word).bind k).answers (exec who) os w
        = ⟨c, (exec who c (os 0) w).1⟩ ::
          (k a).answers (exec who) (Prog.after 1 os) (exec who c (os 0) w).2 := by
  change ((orFail (r (exec who c (os 0) w).1) word).bind k).run _ _ _ = _ at hrun
  have hans : ((ask c).bind fun x => (orFail (r x) word).bind k).answers (exec who) os w
      = ⟨c, (exec who c (os 0) w).1⟩ :: ((orFail (r (exec who c (os 0) w).1) word).bind k).answers
        (exec who) (Prog.after 1 os) (exec who c (os 0) w).2 := rfl
  cases hr : r (exec who c (os 0) w).1 with
  | error e =>
      rw [hr] at hrun
      cases hrun
  | ok a =>
      rw [hr] at hrun hans
      exact ⟨a, rfl, hrun, hans⟩

lemma prepareFido2_run {fido2Device pin : String} {os : ℕ → Oracle} {prepared : Prepared}
    {v : World}
    (hrun : (prepareFido2 fido2Device pin).run (exec who) os w = (Except.ok prepared, v)) :
    ∃ enrollment : Fido2Enrollment,
      ⟨Cmd.fido2Enroll fido2Device (optionalPin pin), Except.ok enrollment⟩
          ∈ (prepareFido2 fido2Device pin).answers (exec who) os w
        ∧ prepared.keyslotSecret = asBytes (Base64.encode enrollment.hmacSecret)
        ∧ hasType tokenTypeFido2 prepared.token = true := by
  obtain ⟨enrollment, hreply, hrest, hans⟩ :=
    run_ask_orFail (c := Cmd.fido2Enroll fido2Device (optionalPin pin)) (r := id) hrun
  have hans' : (prepareFido2 fido2Device pin).answers (exec who) os w = _ := hans
  obtain rfl := Except.ok.inj (Prod.mk.inj hrest).1
  refine ⟨enrollment, ?_, rfl, by simp [hasType, fido2TokenJson, Json.get, Json.asStr]⟩
  rw [hans', ← hreply]
  exact List.mem_cons_self ..

lemma prepareTpm2_run {pcrs pin : String} {os : ℕ → Oracle} {prepared : Prepared} {v : World}
    (hrun : (prepareTpm2 pcrs pin).run (exec who) os w = (Except.ok prepared, v)) :
    ∃ (secret : Bytes) (result : SealResult),
      ⟨Cmd.tpm2Seal secret pcrs pin, Except.ok result⟩
          ∈ (prepareTpm2 pcrs pin).answers (exec who) os w
        ∧ prepared.keyslotSecret = asBytes (Base64.encode secret)
        ∧ hasType tokenTypeTpm2 prepared.token = true := by
  obtain ⟨secret, -, hrest, hans⟩ := run_ask_orFail (c := Cmd.getrandom 32) (r := id) hrun
  obtain ⟨result, hreply, hrest, hans'⟩ :=
    run_ask_orFail (c := Cmd.tpm2Seal secret pcrs pin) (r := id) hrest
  have hans₂ : (prepareTpm2 pcrs pin).answers (exec who) os w = _ :=
    hans.trans (congrArg (List.cons _) hans')
  cases hlist : pcrList pcrs with
  | error e =>
      rw [hlist] at hrest
      cases hrest
  | ok list =>
      rw [hlist] at hrest
      obtain rfl := Except.ok.inj (Prod.mk.inj hrest).1
      refine ⟨secret, result, ?_, rfl, by simp [hasType, tpm2TokenJson, Json.get, Json.asStr]⟩
      rw [hans₂, ← hreply]
      exact List.mem_cons_of_mem _ (List.mem_cons_self ..)

/-! ## The four enrollments

One statement for all of them, and a case for each.
-/

/-- `derive_passphrase_from_token` makes `secret` of the raw secret `raw`, whenever the hardware
returns `raw`. -/
def DerivedFrom (tokenType : String) (raw secret : Bytes) : Prop :=
  ∀ (who : Option ℕ) (device pin : String) (os : ℕ → Oracle) (w v : World),
    (rawTokenSecret device tokenType pin).run (exec who) os w = (Except.ok raw, v) →
      (derivePassphraseFromToken device tokenType pin).run (exec who) os w = (Except.ok secret, v)

lemma derivedFrom_encode (tokenType : String) (raw : Bytes) :
    DerivedFrom tokenType raw (asBytes (Base64.encode raw)) := by
  intro who device pin os w v hraw
  rw [derivePassphraseFromToken, Prog.bind_def, Prog.run_bind_ok hraw]
  rfl

/-- **A token enrollment as the readers see it**: one keyslot with this secret and one token of this
type more, the token found for the keyslot, the passwords unchanged. -/
def TokenEnrolled (tokenType : String) (secret : Bytes) (h h' : Header) : Prop :=
  ∃ k j ks t, h.Enrolled h' k j ks t ∧ ks.secret = secret ∧ hasType tokenType t.json = true
    ∧ tokenForKeyslotIn k (some h'.dump) = j
    ∧ passwordKeyslotsIn (some h'.dump) = passwordKeyslotsIn (some h.dump)

/-- A passphrase enrollment: one keyslot more, which joins the passwords, and no token. -/
def PassphraseEnrolled (secret : Bytes) (h h' : Header) : Prop :=
  ∃ k ks, h.keyslots k = none ∧ h'.keyslots = Function.update h.keyslots k (some ks)
    ∧ ks.secret = secret ∧ h'.tokens = h.tokens
    ∧ ∀ n, n ∈ passwordKeyslotsIn (some h'.dump) ↔ n = k ∨ n ∈ passwordKeyslotsIn (some h.dump)

/-- What a successful request has stored, given the answers it got on the way and the text it
returns. -/
def SlotRequest.Stored (answers : List ((c : Cmd) × Reply c)) (stdout : String) (h h' : Header) :
    SlotRequest → Prop
  | enrollFido2 _ _ pin fido2Device _ _ =>
      ∃ (enrollment : Fido2Enrollment) (secret : Bytes),
        ⟨Cmd.fido2Enroll fido2Device (optionalPin pin), Except.ok enrollment⟩ ∈ answers
          ∧ DerivedFrom tokenTypeFido2 enrollment.hmacSecret secret
          ∧ TokenEnrolled tokenTypeFido2 secret h h'
  | enrollTpm2 _ _ pin pcrs _ _ =>
      ∃ (sealed secret : Bytes) (result : SealResult),
        ⟨Cmd.tpm2Seal sealed pcrs pin, Except.ok result⟩ ∈ answers
          ∧ DerivedFrom tokenTypeTpm2 sealed secret
          ∧ TokenEnrolled tokenTypeTpm2 secret h h'
  | enrollRecoveryKey _ _ _ _ => TokenEnrolled tokenTypeRecovery (asBytes stdout) h h'
  | enrollPassphrase _ _ newPassphrase _ _ => PassphraseEnrolled (asBytes newPassphrase) h h'
  | wipeSlot _ _ _ _ _ => True

lemma tokenEnrolled {tokenType : String} {h h' : Header} {k j : ℕ} {ks : Keyslot} {t : Token}
    {token : Json} (he : h.Enrolled h' k j ks t) (hjson : t.json = withKeyslot token k)
    (htype : hasType tokenType token = true) : TokenEnrolled tokenType ks.secret h h' := by
  refine ⟨k, j, ks, t, he, rfl, ?_, he.token_found, he.passwords⟩
  rw [hjson]
  exact hasType_withKeyslot k htype

/-- What `run_op` reports as a success is its body's. -/
lemma runOp_run_ok {body : Op Triple} {os : ℕ → Oracle} {out err : String}
    (hok : ((runOp body).run (exec who) os w).1 = Except.ok (true, out, err)) :
    body.run (exec who) os w = (Except.ok (true, out, err), ((runOp body).run (exec who) os w).2) := by
  rw [runOp_run] at hok ⊢
  cases hx : (body.run (exec who) os w).1 with
  | error e =>
      rw [hx] at hok
      cases hok
  | ok t =>
      rw [hx] at hok
      exact Prod.ext (hx.trans hok) rfl

section Modalities

variable {os : ℕ → Oracle} {h : Header} {out err : String}

lemma enrollFido2_stored {passphrase pin fido2Device unlockMethod unlockPin : String}
    (hh : w.header device = some h)
    (hok : ((opEnrollFido2 device passphrase pin fido2Device unlockMethod unlockPin).run
      (exec who) os w).1 = Except.ok (true, out, err)) :
    ∃ h', ((opEnrollFido2 device passphrase pin fido2Device unlockMethod unlockPin).run
        (exec who) os w).2.header device = some h'
      ∧ (SlotRequest.enrollFido2 device passphrase pin fido2Device unlockMethod unlockPin).Stored
        ((opEnrollFido2 device passphrase pin fido2Device unlockMethod unlockPin).answers
          (exec who) os w) out h h' := by
  have hbody := runOp_run_ok hok
  rw [opEnrollFido2, runOp_answers]
  simp only [Prog.bind_def] at hbody ⊢
  cases hcheck : ((alreadyEnrolled device fido2Device).run (exec who) os w).1 with
  | error e =>
      rw [Prog.run_bind_error (Prod.ext hcheck rfl)] at hbody
      cases hbody
  | ok enrolled =>
      have hlooked : (alreadyEnrolled device fido2Device).run (exec who) os w
        = (Except.ok enrolled, _) := Prod.ext hcheck rfl
      have hsame : w.SameDisk ((alreadyEnrolled device fido2Device).run (exec who) os w).2 :=
        Prog.wp_sound (A := fun _ => True)
          (wp_readsOn (reads_of_looks (alreadyEnrolled_looks device fido2Device)) w) os
          fun _ => trivial
      rw [Prog.run_bind_ok hlooked] at hbody
      rw [Prog.answers_bind_ok hlooked]
      cases enrolled with
      | true => cases hbody
      | false =>
          obtain ⟨prepared, v, hprep, hsub, -, h', k, j, token, hh', he, hjson⟩ :=
            enrollToken_stored (reads_of_looks (prepareFido2_looks fido2Device pin))
              ((hsame.header device).trans hh) hbody
          obtain ⟨enrollment, hmem, hsecret, htype⟩ := prepareFido2_run hprep
          refine ⟨h', hh', enrollment, _, List.mem_append_right _ (hsub hmem),
            derivedFrom_encode _ _, ?_⟩
          rw [← hsecret]
          exact tokenEnrolled he hjson htype

lemma enrollTpm2_stored {passphrase pin pcrs unlockMethod unlockPin : String}
    (hh : w.header device = some h)
    (hok : ((opEnrollTpm2 device passphrase pin pcrs unlockMethod unlockPin).run
      (exec who) os w).1 = Except.ok (true, out, err)) :
    ∃ h', ((opEnrollTpm2 device passphrase pin pcrs unlockMethod unlockPin).run
        (exec who) os w).2.header device = some h'
      ∧ (SlotRequest.enrollTpm2 device passphrase pin pcrs unlockMethod unlockPin).Stored
        ((opEnrollTpm2 device passphrase pin pcrs unlockMethod unlockPin).answers
          (exec who) os w) out h h' := by
  have hbody := runOp_run_ok hok
  rw [opEnrollTpm2, runOp_answers]
  obtain ⟨prepared, v, hprep, hsub, -, h', k, j, token, hh', he, hjson⟩ :=
    enrollToken_stored (reads_of_looks (prepareTpm2_looks pcrs pin)) hh hbody
  obtain ⟨secret, result, hmem, hsecret, htype⟩ := prepareTpm2_run hprep
  refine ⟨h', hh', secret, _, result, hsub hmem, derivedFrom_encode _ _, ?_⟩
  rw [← hsecret]
  exact tokenEnrolled he hjson htype

lemma enrollRecoveryKey_stored {passphrase unlockMethod unlockPin : String}
    (hh : w.header device = some h)
    (hok : ((opEnrollRecoveryKey device passphrase unlockMethod unlockPin).run
      (exec who) os w).1 = Except.ok (true, out, err)) :
    out = makeRecoveryKey ((os 0).random 32)
      ∧ ∃ h', ((opEnrollRecoveryKey device passphrase unlockMethod unlockPin).run
        (exec who) os w).2.header device = some h'
      ∧ TokenEnrolled tokenTypeRecovery (asBytes out) h h' := by
  have hbody := runOp_run_ok hok
  obtain ⟨prepared, v, hprep, -, hout, h', k, j, token, hh', he, hjson⟩ :=
    enrollToken_stored (reads_of_looks prepareRecoveryKey_looks) hh hbody
  have hprepared := Except.ok.inj (Prod.mk.inj hprep).1
  have hsecret : asBytes out = prepared.keyslotSecret := by
    rw [show out = prepared.stdout from hout, ← hprepared]
  have htype : hasType tokenTypeRecovery prepared.token = true := by
    rw [← hprepared]
    simp [hasType, recoveryTokenJson, Json.get, Json.asStr]
  refine ⟨?_, h', hh', ?_⟩
  · rw [show out = prepared.stdout from hout, ← hprepared]
    rfl
  · rw [hsecret]
    exact tokenEnrolled he hjson htype

lemma enrollPassphrase_spec (who : Option ℕ)
    (device existing new unlockMethod unlockPin : String) (w : World) :
    ((getVolumeKey device unlockMethod existing unlockPin).bind fun vk =>
      (addKeyslotByVolumeKey device vk (asBytes new) false).bind fun _ =>
        (Prog.ret (true, "", "") : Op Triple)).wp (exec who) (fun _ => True)
      (fun x w' => ∀ t, x = Except.ok t → ∃ h h', w.Wrote device h h' w'
        ∧ PassphraseEnrolled (asBytes new) h h') w := by
  refine wp_addAuthorised (fun vk o h h' k v hadd hwrote t _ => ?_)
    (fun e v _ t ht => absurd ht (by simp))
  obtain ⟨hindex, hks, htok, -⟩ := Header.addKeyslot_spec (addByKey_addKeyslot hadd)
  have hfree := (freeIndex_some hindex).2
  exact ⟨h, h', hwrote, k, _, hfree, hks, rfl, htok, passwords_of_keyslot hfree hks htok⟩

lemma enrollPassphrase_stored {existing new unlockMethod unlockPin : String}
    (hh : w.header device = some h)
    (hok : ((opEnrollPassphrase device existing new unlockMethod unlockPin).run
      (exec who) os w).1 = Except.ok (true, out, err)) :
    ∃ h', ((opEnrollPassphrase device existing new unlockMethod unlockPin).run
        (exec who) os w).2.header device = some h'
      ∧ PassphraseEnrolled (asBytes new) h h' := by
  have hbody := runOp_run_ok hok
  simp only [Prog.bind_def] at hbody
  obtain ⟨h₀, h', hwrote, hstored⟩ := Prog.wp_sound
    (enrollPassphrase_spec who device existing new unlockMethod unlockPin w) os (fun _ => trivial)
    _ (congrArg Prod.fst hbody)
  obtain rfl := Option.some.inj (hwrote.stored.symm.trans hh)
  have hend : ((opEnrollPassphrase device existing new unlockMethod unlockPin).run
      (exec who) os w).2 = _ := (congrArg Prod.snd hbody).symm
  rw [hend]
  exact ⟨h', hwrote.header, hstored⟩

end Modalities

/-- **Every enrollment that reports success stores exactly what it should.**  Over arbitrary
keyslots and tokens and whatever any call answers: one new keyslot, whose passphrase is the one a
later unlock derives from the same secret (or the recovery key returned, or the passphrase given),
for the token modalities one new token of the modality's type that lists it alone and is found for
it, and nothing else changed for the readers. -/
theorem enrollment_stored (r : SlotRequest) (who : Option ℕ) (os : ℕ → Oracle) (w : World)
    {h : Header} (hh : w.header r.device = some h) {out err : String}
    (hok : (r.body.run (exec who) os w).1 = Except.ok (true, out, err)) :
    ∃ h', (r.body.run (exec who) os w).2.header r.device = some h'
      ∧ r.Stored (r.body.answers (exec who) os w) out h h' := by
  cases r with
  | enrollFido2 => exact enrollFido2_stored hh hok
  | enrollTpm2 => exact enrollTpm2_stored hh hok
  | enrollRecoveryKey => exact (enrollRecoveryKey_stored hh hok).2
  | enrollPassphrase => exact enrollPassphrase_stored hh hok
  | wipeSlot device passphrase unlockMethod pin slot =>
      obtain ⟨t, ht, heffect⟩ := @SlotRequest.run_effect who (fun _ => True)
        (SlotRequest.wipeSlot device passphrase unlockMethod pin slot) w os fun _ => trivial
      obtain rfl := Except.ok.inj (hok.symm.trans ht)
      generalize hflag : (true, out, err).1 = ok at heffect
      cases heffect with
      | nothing => cases hflag
      | enrolled hr => exact hr.elim
      | keyslotOnly hr => exact hr.elim
      | wiped _ _ hwrote => exact ⟨_, hwrote.header, trivial⟩
      | tokenOnly => cases hflag

/-- A recovery key enrolled beside a passphrase: the theorem covers the run, which succeeds. -/
theorem recovery_key_stored :
    ∃ h' out, ((opEnrollRecoveryKey "/dev/sdb1" "pw" "passphrase" "").run (exec none)
        (fun _ => Oracle.quiet) onePassphrase).1 = Except.ok (true, out, "")
      ∧ ((opEnrollRecoveryKey "/dev/sdb1" "pw" "passphrase" "").run (exec none)
        (fun _ => Oracle.quiet) onePassphrase).2.header "/dev/sdb1" = some h'
      ∧ ∃ h, onePassphrase.header "/dev/sdb1" = some h
        ∧ TokenEnrolled tokenTypeRecovery (asBytes out) h h' := by
  have hok : ((opEnrollRecoveryKey "/dev/sdb1" "pw" "passphrase" "").run (exec none)
      (fun _ => Oracle.quiet) onePassphrase).1
        = Except.ok (true, makeRecoveryKey (List.replicate 32 0), "") := by decide +kernel
  obtain ⟨h', hh', hstored⟩ := enrollment_stored
    (SlotRequest.enrollRecoveryKey "/dev/sdb1" "pw" "passphrase" "") none (fun _ => Oracle.quiet)
    onePassphrase rfl hok
  exact ⟨h', _, hok, hh', _, rfl, hstored⟩

end LuksEnroll
