import LuksEnroll.Origins
import Mathlib.Data.Fintype.Card
import Mathlib.Data.Fintype.EquivFin

/-!
# Keyslots and tokens stay paired

The service writes a keyslot and its token by two separate calls, and removes them by two more.
Run one request after the other, with no libcryptsetup call failing, the two tables nevertheless
stay in step: `Paired` is an invariant of every such run that starts from a header the service
formatted, and a header that has had a keyslot keeps one.

`Paired` speaks of requests by their numbers: the keyslot of a token was made by the request that wrote the
token.  `Header.OpenedBySecrets` says what that is worth, without the numbers: the keyslot is for the very
secret that this enrollment got, by the answers it was given in this run (`SlotRequest.Got`).

The proof of the pairing needs that an undisturbed request is never stopped between its two writes.  For a wipe
the destroyed keyslot exists because a token lists it; for an enrollment the token table has room
because every token has a keyslot of its own, and the new keyslot has none yet.

The order of the modules is that of the argument: what an undisturbed request does to a header is
`Outcomes`, what it has got by then is `Origins`; here the two are put together over the requests of a
run, one after another.  The run starts from a header that the service formatted, which has no tokens.
-/

namespace LuksEnroll

open Library

/-! ## The invariant

Every token has one keyslot, made by the request that wrote the token, and no two tokens share one.
-/

/-- Every token lists one keyslot, which exists and was created by the very request that wrote the
token, and no two tokens list the same. -/
structure Header.Paired (h : Header) : Prop where
  one : ∀ i t, h.tokens i = some t → ∃ k ks m,
    t.slots = [k] ∧ h.keyslots k = some ks ∧ ks.creator = some m ∧ t.writer = some m
  distinct : ∀ i j t t' k, h.tokens i = some t → h.tokens j = some t' → k ∈ t.slots →
    k ∈ t'.slots → i = j

/-- The header has a keyslot. -/
def Header.Nonempty (h : Header) : Prop := ∃ k, (h.keyslots k).isSome

lemma Header.paired_of_no_tokens {h : Header} (htok : ∀ i, h.tokens i = none) : h.Paired where
  one := fun i t ht => absurd ht (by simp [htok])
  distinct := fun i j t t' k ht => absurd ht (by simp [htok])

/-! ## What keeps it

One mutation of the header at a time.  A token may only be added for a keyslot that has none; and
after a wipe the keyslot must be gone with its token.
-/

/-- A keyslot that is added has no token yet, so the others are as they were. -/
lemma Header.Paired.keyslotAdded {who : Option ℕ} {h h' : Header} {i : ℕ} (hp : h.Paired)
    (hadd : h.KeyslotAdded who h' i) : h'.Paired := by
  obtain ⟨pw, -, hnone, hks, htok, -⟩ := hadd
  constructor
  · intro j t ht
    rw [htok] at ht
    obtain ⟨k, ks, m, hslots, hk, hcreator⟩ := hp.one j t ht
    refine ⟨k, ks, m, hslots, ?_, hcreator⟩
    rw [hks, Function.update_of_ne (by rintro rfl; rw [hnone] at hk; cases hk), hk]
  · intro j j' t t' k ht ht'
    rw [htok] at ht ht'
    exact hp.distinct j j' t t' k ht ht'

/-- The token of a keyslot that was just added joins the others. -/
lemma Header.Paired.enrolled {m : ℕ} {h h₁ h₂ : Header} {i : ℕ} (hp : h.Paired)
    (hadd : h.KeyslotAdded (some m) h₁ i) (htoken : h₁.TokenAdded (some m) h₂ i) : h₂.Paired := by
  have hp₁ := hp.keyslotAdded hadd
  obtain ⟨pw, -, hfree, hks, htok, -⟩ := hadd
  obtain ⟨j, t, hj, htok₂, hslots, hwriter, hks₂, -⟩ := htoken
  -- no token of `h` lists the new keyslot, since tokens list keyslots that exist
  have hunlisted : ∀ j' t', h₁.tokens j' = some t' → i ∉ t'.slots := by
    intro j' t' ht' hi
    rw [htok] at ht'
    have := h.token_slots j' t' ht' i hi
    simp [hfree] at this
  constructor
  · intro j' t' ht'
    rw [htok₂] at ht'
    by_cases hjj : j' = j
    · rw [hjj, Function.update_self, Option.some.injEq] at ht'
      subst ht'
      exact ⟨i, Header.newKeyslot (some m) pw, m, hslots, by rw [hks₂, hks, Function.update_self],
        rfl, hwriter⟩
    · rw [Function.update_of_ne hjj] at ht'
      rw [hks₂]
      exact hp₁.one j' t' ht'
  · intro j₁ j₂ t₁ t₂ k ht₁ ht₂ hk₁ hk₂
    rw [htok₂] at ht₁ ht₂
    by_cases h₁j : j₁ = j <;> by_cases h₂j : j₂ = j
    · rw [h₁j, h₂j]
    · rw [h₁j, Function.update_self, Option.some.injEq] at ht₁
      rw [Function.update_of_ne h₂j] at ht₂
      subst ht₁
      rw [hslots, List.mem_singleton] at hk₁
      exact absurd (hk₁ ▸ hk₂) (hunlisted j₂ t₂ ht₂)
    · rw [h₂j, Function.update_self, Option.some.injEq] at ht₂
      rw [Function.update_of_ne h₁j] at ht₁
      subst ht₂
      rw [hslots, List.mem_singleton] at hk₂
      exact absurd (hk₂ ▸ hk₁) (hunlisted j₁ t₁ ht₁)
    · rw [Function.update_of_ne h₁j] at ht₁
      rw [Function.update_of_ne h₂j] at ht₂
      exact hp₁.distinct j₁ j₂ t₁ t₂ k ht₁ ht₂ hk₁ hk₂

/-- A token table without free index would need a keyslot for each, and the new one besides. -/
lemma Header.Paired.tokens_not_full {who : Option ℕ} {h h₁ : Header} {i : ℕ} (hp : h.Paired)
    (hadd : h.KeyslotAdded who h₁ i) : ¬ ∀ j < tokensMax, (h₁.tokens j).isSome := by
  intro hfull
  obtain ⟨pw, hi, hfree, -, htok, -⟩ := hadd
  have hone : ∀ j : Fin tokensMax, ∃ k : Fin keyslotsMax, ∃ t, h.tokens j = some t
      ∧ t.slots = [k.val] ∧ (h.keyslots k).isSome := by
    intro j
    have hj := hfull j j.isLt
    rw [htok] at hj
    obtain ⟨t, ht⟩ := Option.isSome_iff_exists.mp hj
    obtain ⟨k, ks, -, hslots, hk, -⟩ := hp.one j t ht
    have hsome : (h.keyslots k).isSome := by rw [hk]; rfl
    exact ⟨⟨k, Header.lt_of_mem_slotIds (Header.mem_slotIds.mpr hsome)⟩, t, ht, hslots, hsome⟩
  choose f t ht hslots hsome using hone
  have hinj : Function.Injective f := by
    intro a b hab
    refine Fin.ext (hp.distinct a b (t a) (t b) (f a).val (ht a) (ht b) ?_ ?_)
    · simp [hslots a]
    · simp [hslots b, hab]
  -- as many tokens as there can be keyslots: one of them has the index that was free
  have hsurj : Function.Surjective f := hinj.surjective_of_finite (Equiv.refl _)
  obtain ⟨a, ha⟩ := hsurj ⟨i, hi⟩
  have := hsome a
  rw [ha] at this
  simp [hfree] at this

/-- Without one of its tokens a header is still paired. -/
lemma Header.Paired.tokenRemoved {h : Header} (hp : h.Paired) (j : ℕ) :
    (h.removeToken j).Paired := by
  constructor
  · intro i t ht
    exact hp.one i t (Header.removeToken_tokens ht)
  · intro i i' t t' k ht ht'
    exact hp.distinct i i' t t' k (Header.removeToken_tokens ht) (Header.removeToken_tokens ht')

/-- Destroying a keyslot that no token lists. -/
lemma Header.Paired.destroyed {h h' : Header} {s : ℕ} (hp : h.Paired)
    (hunlisted : ∀ i t, h.tokens i = some t → s ∉ t.slots)
    (hd : h.destroyKeyslot s = some h') : h'.Paired := by
  obtain ⟨-, hks, htok, -⟩ := Header.destroyKeyslot_spec hd
  have hold : ∀ i t, h'.tokens i = some t → h.tokens i = some t := by
    intro i t ht
    rw [htok, Option.map_eq_some_iff] at ht
    obtain ⟨t', ht', rfl⟩ := ht
    rw [ht', Token.drop, List.filter_eq_self.mpr]
    intro k hk
    have : k ≠ s := fun hks => hunlisted i t' ht' (hks ▸ hk)
    simpa using this
  constructor
  · intro i t ht
    obtain ⟨k, ks, m, hslots, hk, hcreator⟩ := hp.one i t (hold i t ht)
    refine ⟨k, ks, m, hslots, ?_, hcreator⟩
    have : k ≠ s := fun hks => hunlisted i t (hold i t ht) (by simp [hslots, hks])
    rw [hks, Function.update_of_ne this, hk]
  · intro i i' t t' k ht ht'
    exact hp.distinct i i' t t' k (hold i t ht) (hold i' t' ht')

/-- Once the token of a keyslot is gone no other lists it. -/
lemma Header.Paired.unlisted_of_dropped {A : Oracle → Prop} {h h₁ : Header} {slot : ℤ} {s : ℕ}
    (hA : ¬ Faulty A) (hs : slot = (s : ℤ)) (hp : h.Paired) (hdrop : h.TokenDropped A slot h₁) :
    ∀ i t, h₁.tokens i = some t → s ∉ t.slots := by
  intro i t ht hmem
  rcases hdrop with ⟨rfl, hfault | hnone⟩ | ⟨j, t', ht', hlists, rfl⟩
  · exact hA hfault
  · exact hnone i t ht ⟨s, hmem, hs⟩
  · obtain ⟨k, hk, hslot⟩ := hlists
    have hks : k = s := by omega
    by_cases hij : i = j
    · simp [Header.removeToken, hij] at ht
    · have hti : h.tokens i = some t := by
        simpa [Header.removeToken, Function.update_of_ne hij] using ht
      exact hij (hp.distinct i j t t' s hti ht' hmem (hks ▸ hk))

/-! ## The guard

A wipe is refused when it would take the last keyslot, so that a header which has one keeps one.
-/

/-- A list of more than one element has another one. -/
lemma exists_ne_of_length {α : Type} {l : List α} (hl : l.Nodup) {a : α} (ha : a ∈ l)
    (hlen : ¬ l.length ≤ 1) : ∃ b ∈ l, b ≠ a := by
  by_contra hall
  push Not at hall
  match l, hl, ha, hlen, hall with
  | [], _, ha, _, _ => exact absurd ha (by simp)
  | [_], _, _, hlen, _ => exact hlen (by simp)
  | x :: y :: l, hl, _, _, hall =>
      have hxy : x = y := (hall x (by simp)).trans (hall y (by simp)).symm
      simp [hxy] at hl

/-- A wipe that the guard lets pass leaves a keyslot, if the guard read the header it wipes. -/
lemma guardPasses_other {h : Header} {slot : ℤ} {s : ℕ} (hs : slot = (s : ℤ))
    (hguard : guardPasses slot (some h.dump)) (hexists : (h.keyslots s).isSome) :
    ∃ k, k ≠ s ∧ (h.keyslots k).isSome := by
  have hmem : slot ∈ (keyslotsIn (some h.dump)).keys := mem_keyslotsIn_dump.mpr ⟨s, hs, hexists⟩
  have hlen : ¬ (keyslotsIn (some h.dump)).keys.length ≤ 1 := by
    intro hle
    rw [OrderedMap.keys, List.length_map] at hle
    exact hguard ⟨hle, hmem⟩
  obtain ⟨n, hn, hne⟩ := exists_ne_of_length (OrderedMap.keys_nodup _) hmem hlen
  obtain ⟨k, rfl, hk⟩ := mem_keyslotsIn_dump.mp hn
  exact ⟨k, fun hks => hne (by rw [hs, hks]), hk⟩

/-- A keyslot number that a wipe destroys is the one it was given: `as u32` is exact on it. -/
lemma asU32_eq {slot : I32} {h : Header} (hexists : (h.keyslots (asU32 slot.val)).isSome) :
    slot.val = (asU32 slot.val : ℤ) := by
  have hlt := Header.lt_of_mem_slotIds (Header.mem_slotIds.mpr hexists)
  obtain ⟨n, hlo, hhi⟩ := slot
  exact eq_asU32_of_lt hlo hhi hlt

/-! ## One request

Undisturbed, a request has one of the effects of `Outcomes`, and each of them keeps the invariant.
-/

/-- **One undisturbed request** keeps the tables paired, and keeps a keyslot if there is one. -/
lemma SlotEffect.paired {A : Oracle → Prop} {m : ℕ} {w w' : World} {r : SlotRequest}
    {ok : Bool} (hA : ¬ Faulty A) (heffect : SlotEffect A (some m) w w' r ok) {i : ℕ} {h : Header}
    (hi : w.luks i = some h) (hp : h.Paired) :
    ∃ h', w'.luks i = some h' ∧ h'.Paired ∧ (h.Nonempty → h'.Nonempty) := by
  -- a write to another object does not concern this header
  have hwrote : ∀ {device : String} {h₀ h' : Header}, w.Wrote device h₀ h' w' →
      (h₀ = h → h'.Paired ∧ (h.Nonempty → h'.Nonempty)) →
      ∃ h', w'.luks i = some h' ∧ h'.Paired ∧ (h.Nonempty → h'.Nonempty) := by
    intro device h₀ h' hw hkeep
    rcases hw.luks_cases hi with ⟨-, hluks⟩ | ⟨heq, -, hluks⟩
    · exact ⟨h, hluks, hp, id⟩
    · exact ⟨h', hluks, hkeep heq⟩
  have hadded : ∀ {h₁ : Header} {k : ℕ}, h.KeyslotAdded (some m) h₁ k → h₁.Nonempty := by
    rintro h₁ k ⟨pw, -, -, hks, -⟩
    exact ⟨k, by rw [hks, Function.update_self]; rfl⟩
  cases heffect with
  | nothing hsame => exact ⟨h, by rw [hsame.luks, hi], hp, id⟩
  | enrolled hr hks htok hw =>
      refine hwrote hw fun heq => ?_
      subst heq
      refine ⟨hp.enrolled hks htok, fun _ => ?_⟩
      obtain ⟨k, hk⟩ := hadded hks
      obtain ⟨_, _, _, _, _, _, hks₂, _⟩ := htok
      exact ⟨k, by rw [hks₂]; exact hk⟩
  | keyslotOnly hr hks hw hwhy =>
      refine hwrote hw fun heq => ?_
      subst heq
      exact absurd (hwhy.resolve_left hA) (hp.tokens_not_full hks)
  | passphrase hks hw =>
      refine hwrote hw fun heq => ?_
      subst heq
      exact ⟨hp.keyslotAdded hks, fun _ => hadded hks⟩
  | @wiped _ _ _ _ slot h₀ h₁ h₂ hdrop hd hw hguard =>
      refine hwrote hw fun heq => ?_
      subst heq
      have hspec := Header.destroyKeyslot_spec hd
      have hkeyslots : h₁.keyslots = h₀.keyslots := by
        rcases hdrop with ⟨rfl, -⟩ | ⟨j, t, -, -, rfl⟩ <;> rfl
      have hslot := asU32_eq hspec.1
      have hp₁ : h₁.Paired := by
        rcases hdrop with ⟨rfl, -⟩ | ⟨j, t, -, -, rfl⟩
        · exact hp
        · exact hp.tokenRemoved j
      refine ⟨hp₁.destroyed (hp.unlisted_of_dropped hA hslot hdrop) hd, fun _ => ?_⟩
      obtain ⟨k, hne, hk⟩ := guardPasses_other hslot (hguard.resolve_left hA)
        (by rw [← hkeyslots]; exact hspec.1)
      exact ⟨k, by rw [hspec.2.1, Function.update_of_ne hne, hkeyslots]; exact hk⟩
  | @tokenOnly _ _ _ _ slot h₀ j t ht hlists hw hwhy =>
      refine hwrote hw fun heq => ?_
      subst heq
      -- the token lists a keyslot that exists, so destroying it could not fail
      obtain ⟨k, hk, hslot⟩ := hlists
      have hexists := h₀.token_slots j t ht k hk
      have hk32 : asU32 slot.val = k := by
        rw [hslot]
        have := Header.lt_of_mem_slotIds (Header.mem_slotIds.mpr hexists)
        exact asU32_natCast (lt_trans this (by decide))
      have hnone := hwhy.resolve_left hA
      rw [hk32] at hnone
      simp [Header.destroyKeyslot, Header.removeToken, hexists] at hnone

/-! ## Runs

Requests are numbered from the start of the run, and each runs to its end before the next begins.
-/

/-- No libcryptsetup call fails; the hardware may. -/
def Undisturbed (o : Oracle) : Prop := o.fault = none

lemma not_faulty_undisturbed : ¬ Faulty Undisturbed := by
  rintro ⟨o, ho, hf⟩
  rw [Undisturbed] at ho
  simp [ho] at hf

/-- Requests one after the other, numbered from `n` on. -/
def runRequests (n : ℕ) : List (SlotRequest × (ℕ → Oracle)) → World → World
  | [], w => w
  | x :: rest, w => runRequests (n + 1) rest (x.1.body.run (exec (some n)) x.2 w).2

lemma runRequests_append (n : ℕ) (xs ys : List (SlotRequest × (ℕ → Oracle))) (w : World) :
    runRequests n (xs ++ ys) w = runRequests (n + xs.length) ys (runRequests n xs w) := by
  induction xs generalizing n w with
  | nil => rfl
  | cons x xs ih =>
      rw [List.cons_append, runRequests, ih, runRequests, List.length_cons]
      congr 1
      omega

/-- **Any undisturbed run**: paired tables stay paired and a keyslot stays. -/
lemma runRequests_paired {xs : List (SlotRequest × (ℕ → Oracle))}
    (hxs : ∀ x ∈ xs, ∀ m, Undisturbed (x.2 m)) {n : ℕ} {w : World} {i : ℕ} {h : Header}
    (hi : w.luks i = some h) (hp : h.Paired) :
    ∃ h', (runRequests n xs w).luks i = some h' ∧ h'.Paired ∧ (h.Nonempty → h'.Nonempty) := by
  induction xs generalizing n w h with
  | nil => exact ⟨h, hi, hp, id⟩
  | cons x xs ih =>
      obtain ⟨t, -, heffect⟩ :=
        @SlotRequest.run_effect (some n) Undisturbed x.1 w x.2 (hxs x (by simp))
      obtain ⟨h₁, hi₁, hp₁, hne₁⟩ := heffect.paired not_faulty_undisturbed hi hp
      obtain ⟨h₂, hi₂, hp₂, hne₂⟩ := ih (fun y hy => hxs y (by simp [hy])) hi₁ hp₁
      exact ⟨h₂, hi₂, hp₂, fun hne => hne₂ (hne₁ hne)⟩

/-! ## The secrets

The numbers say which request made a keyslot; its answers say what the secret was.
-/

/-- Request number `m` of a run from `w₀` got this secret, by the answers it was given in the world that
the requests before it have left. -/
def GotInRun (xs : List (SlotRequest × (ℕ → Oracle))) (w₀ : World) (m : ℕ) (secret : Bytes) : Prop :=
  ∃ x, xs[m]? = some x ∧
    x.1.Got (x.1.body.answers (exec (some m)) x.2 (runRequests 0 (xs.take m) w₀)) secret

lemma GotInRun.append {xs : List (SlotRequest × (ℕ → Oracle))} {w₀ : World} {m : ℕ} {secret : Bytes}
    (h : GotInRun xs w₀ m secret) (ys : List (SlotRequest × (ℕ → Oracle))) :
    GotInRun (xs ++ ys) w₀ m secret := by
  obtain ⟨x, hx, hgot⟩ := h
  have hlt : m < xs.length := (List.getElem?_eq_some_iff.mp hx).1
  refine ⟨x, by rw [List.getElem?_append_left hlt, hx], ?_⟩
  rw [List.take_append_of_le_length hlt.le]
  exact hgot

/-- Every keyslot that a request made is for the secret this request got. -/
def Header.MadeForSecrets (xs : List (SlotRequest × (ℕ → Oracle))) (w₀ : World) (h : Header) : Prop :=
  ∀ k ks m, h.keyslots k = some ks → ks.creator = some m → GotInRun xs w₀ m ks.secret

/-- **Every keyslot of a run is for the secret of its request**, where none was there before. -/
lemma runRequests_madeForSecrets {w₀ : World} {i : ℕ} {h₀ : Header} (hi : w₀.luks i = some h₀)
    (hnone : ∀ k ks, h₀.keyslots k = some ks → ks.creator = none)
    (xs : List (SlotRequest × (ℕ → Oracle))) :
    ∃ h, (runRequests 0 xs w₀).luks i = some h ∧ h.MadeForSecrets xs w₀ := by
  induction xs using List.reverseRecOn with
  | nil =>
      refine ⟨h₀, hi, fun k ks m hks hcreator => ?_⟩
      rw [hnone k ks hks] at hcreator
      cases hcreator
  | append_singleton xs x ih =>
      obtain ⟨h, hh, hmade⟩ := ih
      obtain ⟨h', hh', hsource⟩ := @SlotRequest.run_sourced (some xs.length) _ x.1 i h hh x.2
      rw [runRequests_append, Nat.zero_add]
      refine ⟨h', hh', fun k ks m hks hcreator => ?_⟩
      rcases hsource k ks hks with hold | ⟨hwho, hgot⟩
      · exact (hmade k ks m hold hcreator).append [x]
      · -- the last request has made it
        obtain rfl : m = xs.length := Option.some.inj (hcreator.symm.trans hwho)
        refine ⟨x, by simp, ?_⟩
        rw [List.take_left]
        exact hgot.mono fun e he => List.mem_reverse.mp he

/-- **Every token opens its keyslot with the secret of its own enrollment**: the one keyslot that it lists
is for the secret that the request which wrote it got. -/
def Header.OpenedBySecrets (xs : List (SlotRequest × (ℕ → Oracle))) (w₀ : World) (h : Header) : Prop :=
  ∀ i t, h.tokens i = some t → ∃ k ks m, t.slots = [k] ∧ h.keyslots k = some ks
    ∧ t.writer = some m ∧ GotInRun xs w₀ m ks.secret

/-- Pairing by numbers, and what the numbers stand for, is pairing by secrets. -/
lemma Header.Paired.openedBySecrets {xs : List (SlotRequest × (ℕ → Oracle))} {w₀ : World} {h : Header}
    (hp : h.Paired) (hmade : h.MadeForSecrets xs w₀) : h.OpenedBySecrets xs w₀ := by
  intro i t ht
  obtain ⟨k, ks, m, hslots, hks, hcreator, hwriter⟩ := hp.one i t ht
  exact ⟨k, ks, m, hslots, hks, hwriter, hmade k ks m hks hcreator⟩

/-! ## From the service's own format

The run starts where the service has just formatted the volume.  Its header has no token, and a
keyslot at most for the passphrase.
-/

/-- `path` leads to a header without tokens, whose keyslots were made by `who`. -/
def TokenlessAt (who : Option ℕ) (path : String) (w : World) : Prop :=
  ∃ h, w.header path = some h ∧ (∀ j, h.tokens j = none)
    ∧ ∀ k ks, h.keyslots k = some ks → ks.creator = who

/-- What only looks does not put a token there. -/
lemma TokenlessAt.of_sameDisk {who : Option ℕ} {path : String} {w w' : World}
    (hw : TokenlessAt who path w) (hsame : w.SameDisk w') : TokenlessAt who path w' := by
  obtain ⟨h, hh, htok, hmade⟩ := hw
  exact ⟨h, by rw [hsame.header, hh], htok, hmade⟩

section Format

variable {who : Option ℕ} {A : Oracle → Prop} {path : String} {w : World}

lemma format_tokenless {o : Oracle} {vk : Option VolumeKey} {u : Unit}
    (hf : (exec who (Cmd.format path vk) o w).1 = Except.ok u) :
    TokenlessAt who path (exec who (Cmd.format path vk) o w).2 := by
  simp only [exec, answer, World.format] at hf ⊢
  cases hn : w.fs.node path with
  | none => simp [hn] at hf
  | some i =>
      cases ho : o.fault with
      | some e => simp [hn, ho] at hf
      | none =>
          exact ⟨Header.fresh (vk.getD ⟨o.random 64⟩), by simp [World.header, hn], fun _ => rfl,
            fun k ks hks => (by cases hks)⟩

lemma addByKey_tokenless {o : Oracle} {vk : Option VolumeKey} {pw : Bytes} {slot : ℕ}
    (hw : TokenlessAt who path w)
    (hf : (exec who (Cmd.addByKey path vk pw) o w).1 = Except.ok slot) :
    TokenlessAt who path (exec who (Cmd.addByKey path vk pw) o w).2 := by
  obtain ⟨h, hh, htok, hmade⟩ := hw
  simp only [exec, answer] at hf ⊢
  rcases World.update_cases { w with now := w.now + o.elapsed } path o
      (fun h => h.addByKey who o vk pw) with ⟨h₀, a, h', -, hh₀, hadd, -, hwrote⟩ | ⟨e, hres, -⟩
  · obtain rfl : h = h₀ := Option.some.inj (hh.symm.trans hh₀)
    obtain ⟨-, hks', htok', -⟩ := Header.addKeyslot_spec (addByKey_addKeyslot hadd)
    refine ⟨h', hwrote.header, fun j => by rw [htok', htok j], fun k ks hks => ?_⟩
    rw [hks'] at hks
    by_cases hka : k = a
    · rw [hka, Function.update_self, Option.some.injEq] at hks
      rw [← hks]
      rfl
    · rw [Function.update_of_ne hka] at hks
      exact hmade k ks hks
  · rw [hres] at hf
    exact absurd hf (by simp)

/-- The keyslots area is for the next format; what follows starts wherever it ends. -/
lemma wp_applyKeyslotsArea {β : Type} {area : KeyslotsArea} {f : Unit → Op β}
    {Q : Except String β → World → Prop} (hok : ∀ v, (f ()).wp (exec who) A Q v)
    (herr : ∀ e v, Q (Except.error e) v) : ((applyKeyslotsArea area).bind f).wp (exec who) A Q w := by
  refine Prog.wp_bind (Prog.wp_mono (fun x v _ => ?_)
    (wp_readsOn (reads_of_looks (applyKeyslotsArea_looks "" area)) w))
  cases x with
  | error e => exact herr e v
  | ok u => exact hok v

lemma formatLuks2_tokenless (passphrase : String) (area : KeyslotsArea) :
    (formatLuks2 path passphrase area).wp (exec who) A
      (fun x w' => ∀ slot, x = Except.ok slot → TokenlessAt who path w') w := by
  refine wp_ask_orFail (c := Cmd.init path) (r := id) (fun o _ _ _ => ?_)
    (fun o e _ _ slot h => absurd h (by simp))
  refine wp_applyKeyslotsArea (fun v => ?_) (fun e v slot h => absurd h (by simp))
  refine wp_ask_orFail (c := Cmd.format path none) (r := id) (fun o u _ hf => ?_)
    (fun o e _ _ slot h => absurd h (by simp))
  refine wp_ask_orFail_last (c := Cmd.addByKey path none (asBytes passphrase)) (r := id)
    (fun o' slot _ hadd _ _ => ?_) (fun o e _ _ slot h => absurd h (by simp))
  exact addByKey_tokenless (format_tokenless hf) hadd

lemma formatLuks2Keyless_tokenless (area : KeyslotsArea) :
    (formatLuks2Keyless path area).wp (exec who) A
      (fun x w' => ∀ u, x = Except.ok u → TokenlessAt who path w') w := by
  intro o₀ _
  refine wp_ask_orFail (c := Cmd.init path) (r := id) (fun o _ _ _ => ?_)
    (fun o e _ _ slot h => absurd h (by simp))
  refine wp_applyKeyslotsArea (fun v => ?_) (fun e v slot h => absurd h (by simp))
  refine wp_ask_orFail (c := Cmd.format path (some ⟨o₀.random 64⟩)) (r := id)
    (fun o u _ hf o' _ _ _ => ?_) (fun o e _ _ slot h => absurd h (by simp))
  exact (format_tokenless hf).of_sameDisk ⟨rfl, rfl, rfl⟩

end Format

/-- The world after a format by the service, with a passphrase or keyless, that succeeded. -/
def FormattedBy (path : String) (w₀ : World) : Prop :=
  ∃ (area : KeyslotsArea) (os : ℕ → Oracle) (w : World),
    (∃ passphrase slot, (formatLuks2 path passphrase area).run (exec none) os w
        = (Except.ok slot, w₀))
      ∨ (formatLuks2Keyless path area).run (exec none) os w = (Except.ok (), w₀)

/-- A volume that the service formatted has no tokens at first. -/
lemma FormattedBy.tokenless {path : String} {w₀ : World} (hw : FormattedBy path w₀) :
    TokenlessAt none path w₀ := by
  obtain ⟨area, os, w, ⟨passphrase, slot, hrun⟩ | hrun⟩ := hw
  · have := Prog.wp_sound (@formatLuks2_tokenless none (fun _ => True) path w passphrase area) os
      fun _ => trivial
    rw [hrun] at this
    exact this slot rfl
  · have := Prog.wp_sound (@formatLuks2Keyless_tokenless none (fun _ => True) path w area) os
      fun _ => trivial
    rw [hrun] at this
    exact this () rfl

/-- **Keyslots and tokens stay paired, and a keyslot stays.**  For a header the service formatted
and any sequence of enrollments and wipes, on that path or any other, undisturbed by failing
libcryptsetup calls: `xs` is the run so far and `ys` what follows it.  The keyslot of every token is for
the secret of the enrollment that wrote the token. -/
theorem sequential_run_paired {path : String} {w₀ : World} (hw : FormattedBy path w₀)
    (xs ys : List (SlotRequest × (ℕ → Oracle)))
    (hxs : ∀ x ∈ xs ++ ys, ∀ m, Undisturbed (x.2 m)) :
    ∃ i h h', w₀.fs.node path = some i ∧ (runRequests 0 xs w₀).luks i = some h
      ∧ (runRequests 0 (xs ++ ys) w₀).luks i = some h'
      ∧ h.Paired ∧ h'.Paired ∧ (h.Nonempty → h'.Nonempty)
      ∧ h.OpenedBySecrets xs w₀ ∧ h'.OpenedBySecrets (xs ++ ys) w₀ := by
  obtain ⟨h₀, hh₀, htok, hmade₀⟩ := hw.tokenless
  rw [World.header, Option.bind_eq_some_iff] at hh₀
  obtain ⟨i, hi, hluks⟩ := hh₀
  obtain ⟨h, hh, hp, -⟩ := @runRequests_paired xs (fun x hx => hxs x (by simp [hx])) 0 w₀ i h₀ hluks
    (Header.paired_of_no_tokens htok)
  obtain ⟨h', hh', hp', hne⟩ := @runRequests_paired ys (fun x hx => hxs x (by simp [hx]))
    (0 + xs.length) _ i h hh hp
  rw [← runRequests_append] at hh'
  have hopened : ∀ (zs : List (SlotRequest × (ℕ → Oracle))) (g : Header),
      (runRequests 0 zs w₀).luks i = some g → g.Paired → g.OpenedBySecrets zs w₀ := by
    intro zs g hg hpaired
    obtain ⟨g', hg', hmade⟩ := runRequests_madeForSecrets hluks hmade₀ zs
    obtain rfl : g = g' := Option.some.inj (hg.symm.trans hg')
    exact hpaired.openedBySecrets hmade
  exact ⟨i, h, h', hi, hh, hh', hp, hp', hne, hopened _ h hh hp, hopened _ h' hh' hp'⟩

/-- A removable partition, formatted keyless. -/
def keylessPartition : Except String Unit × World :=
  (formatLuks2Keyless "/dev/sdb1" KeyslotsArea.compact).run (exec none) (fun _ => Oracle.quiet)
    (World.start (FileSystem.ofList [("/dev/sdb1", FileKind.block "sdb" false, 0)] [])
      fun _ => none)

/-- Enroll a recovery key from the cached volume key, then a passphrase, then wipe the recovery
key's slot. -/
def enrollAndWipe : List (SlotRequest × (ℕ → Oracle)) × List (SlotRequest × (ℕ → Oracle)) :=
  ([(SlotRequest.enrollRecoveryKey "/dev/sdb1" "" "passphrase" "", fun _ => Oracle.quiet),
      (SlotRequest.enrollPassphrase "/dev/sdb1" "" "pw" "passphrase" "", fun _ => Oracle.quiet)],
    [(SlotRequest.wipeSlot "/dev/sdb1" "pw" "passphrase" "" ⟨0, i32_zero⟩, fun _ => Oracle.quiet)])

/-- Two enrollments and a wipe, on a volume that was formatted for them. -/
theorem enrollAndWipe_paired :
    ((runRequests 0 enrollAndWipe.1 keylessPartition.2).luks 0).map
        (fun h => (h.slotIds, h.tokenIds)) = some ([0, 1], [0])
      ∧ ((runRequests 0 (enrollAndWipe.1 ++ enrollAndWipe.2) keylessPartition.2).luks 0).map
        (fun h => (h.slotIds, h.tokenIds)) = some ([1], [])
      ∧ ∃ i h h', keylessPartition.2.fs.node "/dev/sdb1" = some i
        ∧ (runRequests 0 enrollAndWipe.1 keylessPartition.2).luks i = some h
        ∧ (runRequests 0 (enrollAndWipe.1 ++ enrollAndWipe.2) keylessPartition.2).luks i = some h'
        ∧ h.Paired ∧ h'.Paired ∧ (h.Nonempty → h'.Nonempty)
        ∧ h.OpenedBySecrets enrollAndWipe.1 keylessPartition.2
        ∧ h'.OpenedBySecrets (enrollAndWipe.1 ++ enrollAndWipe.2) keylessPartition.2 := by
  have hok : keylessPartition.1 = Except.ok () := by decide +kernel
  have hformatted : FormattedBy "/dev/sdb1" keylessPartition.2 :=
    ⟨KeyslotsArea.compact, _, _, Or.inr (Prod.ext hok rfl)⟩
  refine ⟨by decide +kernel, by decide +kernel, sequential_run_paired hformatted _ _ ?_⟩
  intro x hx m
  simp only [enrollAndWipe, List.cons_append, List.nil_append, List.mem_cons, List.not_mem_nil,
    or_false] at hx
  rcases hx with rfl | rfl | rfl <;> rfl

end LuksEnroll
