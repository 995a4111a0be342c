import LuksEnroll.Outcomes

/-!
# Targeted keyslots first, then all of them

`extract_token_volume_key` does not try every keyslot at once.  It reads the metadata, tries the
keyslots that tokens of the type list, and only then lets libcryptsetup try all: "correctness is
never worse than before".

`extract_iff_openAny` is that sentence, for metadata that need not fit the header in any way —
unreadable, stale, listing keyslots twice or keyslots that do not exist.  What makes it true is
that a listed keyslot which opens is also found by trying all, and that the fallback is always
tried last: `ExtractOutcome` lists the three ways an extraction can end.

`openAny` is the model that the function is compared with: the header as libcryptsetup opens it when it
is given no keyslot at all.  The metadata that the candidates come from is an arbitrary value, or was
not read.
-/

namespace LuksEnroll

open Library

/-! ## Opening at any keyslot

libcryptsetup tries all keyslots when it is given none, and takes the first that the passphrase
opens.
-/

lemma Header.mem_slotIds_of_opens {h : Header} {pw : Bytes} {i : ℕ} (hi : h.opens pw i = true) :
    i ∈ h.slotIds := by
  rw [Header.mem_slotIds]
  rw [Header.opens] at hi
  cases hks : h.keyslots i with
  | none => simp [hks] at hi
  | some ks => rfl

/-- Without a slot, `crypt_volume_key_get` opens some keyslot that opens, if there is one. -/
lemma Header.keyAt_any (h : Header) (o : Oracle) (pw : Bytes) :
    (∃ i, h.opens pw i = true ∧ h.keyAt o none pw = Except.ok (i, h.volumeKey))
      ∨ (∀ i, h.opens pw i = false) ∧ h.keyAt o none pw = Except.error o.text := by
  simp only [Header.keyAt]
  cases hfound : (o.pick.filter fun i => h.opens pw i).or
      (h.slotIds.find? fun i => h.opens pw i) with
  | some i =>
      refine Or.inl ⟨i, ?_, rfl⟩
      rcases Option.or_eq_some_iff.mp hfound with hpick | ⟨-, hfind⟩
      · exact (Option.filter_eq_some_iff.mp hpick).2
      · exact List.find?_some hfind
  | none =>
      refine Or.inr ⟨fun i => ?_, rfl⟩
      obtain ⟨-, hfind⟩ := Option.or_eq_none_iff.mp hfound
      by_contra hi
      rw [Bool.not_eq_false] at hi
      exact List.find?_eq_none.mp hfind i (Header.mem_slotIds_of_opens hi) hi

/-- libcryptsetup gives up a key for a secret that opens the keyslot it names. -/
lemma keyAt_opens {h : Header} {o : Oracle} {slot : Option ℕ} {pw : Bytes} {r : ℕ × VolumeKey}
    (hr : h.keyAt o slot pw = Except.ok r) : h.opens pw r.1 = true := by
  cases slot with
  | some i =>
      simp only [Header.keyAt] at hr
      split_ifs at hr with hopens
      obtain rfl := Except.ok.inj hr
      exact hopens
  | none =>
      rcases h.keyAt_any o pw with ⟨i, hi, hkey⟩ | ⟨-, hkey⟩
      · obtain rfl := Except.ok.inj (hkey.symm.trans hr)
        exact hi
      · cases hkey.symm.trans hr

lemma volumeKeyGet_opens {who : Option ℕ} {w : World} {loaded : Header} {slot : Option ℕ} {pw : Bytes} {o : Oracle}
    {r : ℕ × VolumeKey} (hr : (exec who (Cmd.volumeKeyGet loaded slot pw) o w).1 = Except.ok r) :
    loaded.opens pw r.1 = true := by
  cases hf : o.fault with
  | some e => simp [exec, answer, Oracle.unlessFault, hf, Except.bind] at hr
  | none =>
      refine @keyAt_opens loaded o slot pw r ?_
      simpa [exec, answer, Oracle.unlessFault, hf, Except.bind] using hr

/-! ## The loop

The candidates are tried one after another; the last is no keyslot at all, which means any of them.
-/

/-- **How an extraction ends**: at the first listed keyslot that opens, at some other keyslot when
no listed one does, or not at all when no keyslot opens. -/
inductive ExtractOutcome (loaded : Header) (pw : Bytes) (slots : List ℕ) :
    Except String (ℕ × VolumeKey) → Prop
  | listed {k : ℕ} : slots.find? (fun i => loaded.opens pw i) = some k →
      ExtractOutcome loaded pw slots (Except.ok (k, loaded.volumeKey))
  | other {i : ℕ} : slots.find? (fun i => loaded.opens pw i) = none → loaded.opens pw i = true →
      ExtractOutcome loaded pw slots (Except.ok (i, loaded.volumeKey))
  | none {e : String} : (∀ i, loaded.opens pw i = false) →
      ExtractOutcome loaded pw slots (Except.error e)

section Loop

variable {H : Handler Cmd Reply Oracle World} {A : Oracle → Prop} {loaded : Header} {pw : Bytes}

lemma tryCandidates_cons {slot : Option ℕ} {rest : List (Option ℕ)} {lastErr : Option String}
    {Q : Except String (ℕ × VolumeKey) → World → Prop} {w : World}
    (hok : ∀ o found, A o → (H (Cmd.volumeKeyGet loaded slot pw) o w).1 = Except.ok found →
      Q (Except.ok found) (H (Cmd.volumeKeyGet loaded slot pw) o w).2)
    (herr : ∀ o e, A o → (H (Cmd.volumeKeyGet loaded slot pw) o w).1 = Except.error e →
      (tryCandidates loaded pw rest (some e)).wp H A Q
        (H (Cmd.volumeKeyGet loaded slot pw) o w).2) :
    (tryCandidates loaded pw (slot :: rest) lastErr).wp H A Q w := by
  refine Prog.wp_bind (p := ask (Cmd.volumeKeyGet loaded slot pw)) fun o ho => ?_
  have hok' := fun found => hok o found ho
  have herr' := fun e => herr o e ho
  generalize (H (Cmd.volumeKeyGet loaded slot pw) o w).2 = w' at hok' herr' ⊢
  generalize (H (Cmd.volumeKeyGet loaded slot pw) o w).1 = r at hok' herr' ⊢
  cases r with
  | ok found => exact hok' found rfl
  | error e => exact herr' e rfl

/-- Under any handler that opens keyslots as the header says. -/
lemma tryCandidates_spec
    (hget : ∀ slot o w, A o → (H (Cmd.volumeKeyGet loaded slot pw) o w).1 = loaded.keyAt o slot pw)
    (slots : List ℕ) (lastErr : Option String) (w : World) :
    (tryCandidates loaded pw (slots.map some ++ [none]) lastErr).wp H A
      (fun x _ => ExtractOutcome loaded pw slots x) w := by
  induction slots generalizing lastErr w with
  | nil =>
      refine tryCandidates_cons (fun o found ho hr => ?_) (fun o e ho hr => ?_)
      · rw [hget _ _ _ ho] at hr
        rcases loaded.keyAt_any o pw with ⟨i, hi, hkey⟩ | ⟨-, hkey⟩
        · obtain rfl := Except.ok.inj (hr.symm.trans hkey)
          exact ExtractOutcome.other rfl hi
        · cases hr.symm.trans hkey
      · rw [hget _ _ _ ho] at hr
        rcases loaded.keyAt_any o pw with ⟨i, -, hkey⟩ | ⟨hall, -⟩
        · cases hr.symm.trans hkey
        · exact ExtractOutcome.none hall
  | cons k slots ih =>
      refine tryCandidates_cons (fun o found ho hr => ?_) (fun o e ho hr => ?_)
      · rw [hget _ _ _ ho] at hr
        simp only [Header.keyAt] at hr
        split_ifs at hr with hk
        obtain rfl := Except.ok.inj hr
        exact ExtractOutcome.listed (by rw [List.find?_cons_of_pos hk])
      · rw [hget _ _ _ ho] at hr
        simp only [Header.keyAt] at hr
        split_ifs at hr with hk
        have hskip : (k :: slots).find? (fun i => loaded.opens pw i)
            = slots.find? fun i => loaded.opens pw i := List.find?_cons_of_neg hk
        refine Prog.wp_mono (fun x _ hx => ?_) (ih (some e) _)
        cases hx with
        | listed hfound => exact ExtractOutcome.listed (hskip.trans hfound)
        | other hnone hi => exact ExtractOutcome.other (hskip.trans hnone) hi
        | none hall => exact ExtractOutcome.none hall

end Loop

/-! ## The whole extraction

The candidates come from the metadata, or are only the last one when the metadata cannot be read.
`openAny` is the model that the result is compared with.
-/

lemma candidates_eq (slots : List ℤ) :
    (slots.map fun s => some (asU32 s)) = (slots.map asU32).map some := by
  rw [List.map_map]
  rfl

section Extract

variable {H : Handler Cmd Reply Oracle World} {A : Oracle → Prop} {device : String}

/-- Once the device is open, an extraction ends as `ExtractOutcome` says, for the keyslots that the
metadata lists. -/
lemma extract_spec {tokenType : String} {pw : Bytes} {os : ℕ → Oracle} (hos : ∀ n, A (os n))
    {w v : World} {loaded : Header}
    (hopen : (openLuks2 device).run H os w = (Except.ok loaded, v))
    {metadata : Except String Json} (hdump : ∀ o w, A o → (H (Cmd.dumpJson loaded) o w).1 = metadata)
    (hget : ∀ slot o w, A o → (H (Cmd.volumeKeyGet loaded slot pw) o w).1 = loaded.keyAt o slot pw) :
    ExtractOutcome loaded pw
      ((tokenTypeKeyslots (metadata.toOption.getD Json.null) tokenType).map asU32)
      ((extractTokenVolumeKey device tokenType pw).run H os w).1 := by
  rw [extractTokenVolumeKey, Prog.bind_def, Prog.run_bind_ok hopen]
  set os' := Prog.after ((openLuks2 device).steps H os w) os with hos'
  have hA : ∀ n, A (os' n) := fun n => hos _
  have hread : ((ask (Cmd.dumpJson loaded)).run H os' v).1 = Except.ok metadata :=
    congrArg Except.ok (hdump (os' 0) v (hA 0))
  rw [Prog.bind_def, Prog.run_bind_ok (Prod.ext hread rfl)]
  dsimp only
  rw [candidates_eq]
  exact Prog.wp_sound (tryCandidates_spec hget _ none _) _ fun n => hA _

end Extract

/-- A keyslot opens or it does not, without a slot every keyslot is tried, and the metadata is
whatever it is. -/
def openingWith (metadata : Except String Json) : Handler Cmd Reply Oracle World
  | Cmd.dumpJson _, _, w => (metadata, w)
  | Cmd.volumeKeyGet loaded slot pw, o, w => (loaded.keyAt o slot pw, w)
  | c, o, w => exec none c o w

/-- The plain open: every keyslot is tried. -/
def openAny (device : String) (pw : Bytes) : Op (ℕ × VolumeKey) := do
  let loaded ← openLuks2 device
  orFail (← ask (Cmd.volumeKeyGet loaded none pw)) fun e => "libcryptsetup: " ++ e

/-- A plain open ends like an extraction for which no keyslot is listed. -/
lemma openAny_spec {metadata : Except String Json} {device : String} {pw : Bytes} {os : ℕ → Oracle}
    {w v : World} {loaded : Header}
    (hopen : (openLuks2 device).run (openingWith metadata) os w = (Except.ok loaded, v)) :
    ExtractOutcome loaded pw [] ((openAny device pw).run (openingWith metadata) os w).1 := by
  rw [openAny, Prog.bind_def, Prog.run_bind_ok hopen]
  show ExtractOutcome loaded pw [] ((orFail (loaded.keyAt _ none pw) _).run _ _ _).1
  rcases loaded.keyAt_any (Prog.after ((openLuks2 device).steps (openingWith metadata) os w) os 0) pw
    with ⟨i, hi, hkey⟩ | ⟨hall, hkey⟩
  · rw [hkey]
    exact ExtractOutcome.other rfl hi
  · rw [hkey]
    exact ExtractOutcome.none hall

/-- What is extracted, apart from the keyslot, does not depend on what is listed. -/
lemma ExtractOutcome.same_key {loaded : Header} {pw : Bytes} {slots slots' : List ℕ}
    {x x' : Except String (ℕ × VolumeKey)} (hx : ExtractOutcome loaded pw slots x)
    (hx' : ExtractOutcome loaded pw slots' x') {vk : VolumeKey} (hvk : ∃ s, x = Except.ok (s, vk)) :
    ∃ s, x' = Except.ok (s, vk) := by
  obtain ⟨s, rfl⟩ := hvk
  have hopens : loaded.opens pw s = true ∧ vk = loaded.volumeKey := by
    cases hx with
    | listed hfound => exact ⟨List.find?_some hfound, rfl⟩
    | other _ hs => exact ⟨hs, rfl⟩
  obtain ⟨hs, rfl⟩ := hopens
  cases hx' with
  | listed _ => exact ⟨_, rfl⟩
  | other _ _ => exact ⟨_, rfl⟩
  | none hall => exact absurd hs (by simp [hall s])

/-! ## What is listed

Keyslots that the tokens of a type list are numbers of 32 bits.
-/

/-- Every keyslot that metadata lists is an `i32`. -/
lemma tokenTypeKeyslots_bounds {metadata : Json} {tokenType : String} {s : ℤ}
    (hs : s ∈ tokenTypeKeyslots metadata tokenType) : -2147483648 ≤ s ∧ s ≤ 2147483647 := by
  obtain ⟨t, -, -, hs⟩ := mem_tokenTypeKeyslots.mp hs
  simp only [tokenKeyslots] at hs
  cases harr : (t.2.get "keyslots").bind Json.asArray with
  | none => simp [harr] at hs
  | some items =>
      rw [harr, Option.map_some, Option.getD_some, List.mem_filterMap] at hs
      obtain ⟨item, -, hitem⟩ := hs
      obtain ⟨text, -, hparse⟩ := Option.bind_eq_some_iff.mp hitem
      exact of_decide_eq_true (Option.filter_eq_some_iff.mp hparse).2

/-! ## Never worse

Trying the listed keyslots first finds a key if and only if trying all of them does.
-/

/-- **An extraction is an open at any keyslot.**  Whatever the metadata, the token type and the
passphrase, it succeeds exactly when trying every keyslot does, and with the same volume key; and
when a keyslot listed by a token of the type opens, the first such is the one reported. -/
theorem extract_iff_openAny (metadata : Except String Json) (device tokenType : String)
    (pw : Bytes) (os : ℕ → Oracle) (w : World) :
    (∀ vk, (∃ s, ((extractTokenVolumeKey device tokenType pw).run (openingWith metadata) os w).1
          = Except.ok (s, vk))
        ↔ ∃ s, ((openAny device pw).run (openingWith metadata) os w).1 = Except.ok (s, vk))
      ∧ ∀ loaded s, ((openLuks2 device).run (openingWith metadata) os w).1 = Except.ok loaded →
        (tokenTypeKeyslots (metadata.toOption.getD Json.null) tokenType).find?
          (fun s => loaded.opens pw (asU32 s)) = some s →
        ∃ k : ℕ, s = k ∧
          ((extractTokenVolumeKey device tokenType pw).run (openingWith metadata) os w).1
            = Except.ok (k, loaded.volumeKey) := by
  cases hopen : ((openLuks2 device).run (openingWith metadata) os w).1 with
  | error e =>
      refine ⟨fun vk => ?_, fun loaded s h => by cases h⟩
      rw [extractTokenVolumeKey, openAny, Prog.bind_def, Prog.bind_def,
        Prog.run_bind_error (Prod.ext hopen rfl), Prog.run_bind_error (Prod.ext hopen rfl)]
  | ok loaded =>
      have hext : ExtractOutcome loaded pw
          ((tokenTypeKeyslots (metadata.toOption.getD Json.null) tokenType).map asU32)
          ((extractTokenVolumeKey device tokenType pw).run (openingWith metadata) os w).1 :=
        extract_spec (A := fun _ => True) (fun _ => trivial) (Prod.ext hopen rfl)
          (fun _ _ _ => rfl) fun _ _ _ _ => rfl
      have hany : ExtractOutcome loaded pw [] ((openAny device pw).run (openingWith metadata) os w).1 :=
        openAny_spec (Prod.ext hopen rfl)
      refine ⟨fun vk => ⟨hext.same_key hany, hany.same_key hext⟩, ?_⟩
      intro loaded' s hloaded hs
      obtain rfl := Except.ok.inj hloaded
      have hfound : ((tokenTypeKeyslots (metadata.toOption.getD Json.null) tokenType).map
          asU32).find? (fun i => loaded.opens pw i) = some (asU32 s) := by
        rw [List.find?_map]
        exact congrArg (Option.map asU32) hs
      have hbounds := tokenTypeKeyslots_bounds (List.mem_of_find?_eq_some hs)
      have hopens : loaded.opens pw (asU32 s) = true :=
        List.find?_some (p := fun s => loaded.opens pw (asU32 s)) hs
      have hlt := Header.lt_of_mem_slotIds (Header.mem_slotIds_of_opens hopens)
      refine ⟨asU32 s, eq_asU32_of_lt hbounds.1 hbounds.2 hlt, ?_⟩
      generalize ((extractTokenVolumeKey device tokenType pw).run (openingWith metadata) os w).1 = x
        at hext ⊢
      cases hext with
      | listed hk => rw [Option.some.inj (hk.symm.trans hfound)]
      | other hnone _ => cases hnone.symm.trans hfound
      | none hall => simp [hall] at hopens

end LuksEnroll
