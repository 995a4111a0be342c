import LuksEnroll.Effects

/-!
# What enrollments and wipes leave behind

One specification for each function between a session and an operation, for an arbitrary class
`A` of environment inputs.  Where a call failed, the specification also says why: the environment
was allowed to make it fail (`Faulty A`), or the state of the header forced it.  With faults
allowed this is the account of every partial outcome; without them it is what an undisturbed
operation does.

Every specification has the same form: what the function returns, and what it has done to the disk by
then.  A success says what was written; a failure says what was written before it, and why it came.  The
functions are taken in the order in which they call each other, so that each proof uses the
specifications below it and unfolds nothing but its own function.

`SlotRequest.body_effect` puts them together for the five requests on keyslots.  It is stated for any
environment, so that the modules on failures, on pairing and on the wipe's guard start from it and add
what they know of theirs.
-/

namespace LuksEnroll

open Library

/-- The environment may make a call fail. -/
def Faulty (A : Oracle → Prop) : Prop := ∃ o, A o ∧ o.fault.isSome

lemma not_faulty_quiet : ¬ Faulty fun o : Oracle => o.fault = none := by
  rintro ⟨o, ho, hf⟩
  simp [ho] at hf

variable {who : Option ℕ} {A : Oracle → Prop} {device : String} {α β : Type} {w : World}

/-! ## Rules for one fallible call

Most calls of the service are asked for, and their failure is worded and ends the operation.  These
two rules step over such a call, in the middle of an operation and at its end.
-/

section Rules

variable {ω σ : Type} {hd : Handler Cmd Reply ω σ} {A : ω → Prop} {w : σ} {c : Cmd}
  {r : Reply c → Except String α} {word : String → String}

lemma wp_ask_orFail {k : α → Op β} {Q : Except String β → σ → Prop}
    (hok : ∀ o a, A o → r (hd c o w).1 = Except.ok a → (k a).wp hd A Q (hd c o w).2)
    (herr : ∀ o e, A o → r (hd c o w).1 = Except.error e →
      Q (Except.error (word e)) (hd c o w).2) :
    ((ask c).bind fun x => (orFail (r x) word).bind k).wp hd A Q w := by
  intro o ho
  show ((orFail (r (hd c o w).1) word).bind k).wp hd A Q (hd c o w).2
  cases hr : r (hd c o w).1 with
  | ok a => exact hok o a ho hr
  | error e => exact herr o e ho hr

lemma wp_ask_orFail_last {Q : Except String α → σ → Prop}
    (hok : ∀ o a, A o → r (hd c o w).1 = Except.ok a → Q (Except.ok a) (hd c o w).2)
    (herr : ∀ o e, A o → r (hd c o w).1 = Except.error e →
      Q (Except.error (word e)) (hd c o w).2) :
    ((ask c).bind fun x => orFail (r x) word).wp hd A Q w := by
  intro o ho
  show (orFail (r (hd c o w).1) word).wp hd A Q (hd c o w).2
  cases hr : r (hd c o w).1 with
  | ok a => exact hok o a ho hr
  | error e => exact herr o e ho hr

end Rules

/-! ## Opening a session

A session is opened by two calls, either of which can fail.  What is loaded is the header.
-/

/-- A device that cannot be opened is faulty or not there. -/
lemma init_error {o : Oracle} {e : String}
    (h : (exec who (Cmd.init device) o w).1 = Except.error e) :
    o.fault.isSome ∨ w.fs.node device = none := by
  simp only [exec, answer, FileSystem.pathExists, Oracle.unlessFault] at h
  cases hn : w.fs.node device with
  | none => exact Or.inr rfl
  | some i =>
      cases hf : o.fault with
      | none => simp [hn, hf] at h
      | some e => exact Or.inl rfl

/-- The header that is loaded is the one that is there. -/
lemma load_ok {o : Oracle} {h : Header}
    (hl : (exec who (Cmd.load device) o w).1 = Except.ok h) : w.header device = some h := by
  simp only [exec, answer, World.load] at hl
  split at hl <;> simp_all [World.header]

/-- A header that cannot be loaded is faulty or not there. -/
lemma load_error {o : Oracle} {e : String}
    (hl : (exec who (Cmd.load device) o w).1 = Except.error e) :
    o.fault.isSome ∨ w.header device = none := by
  simp only [exec, answer, World.load] at hl
  split at hl <;> simp_all [World.header]

/-- `open_luks2` returns the header, or fails because of a fault or because there is none. -/
lemma openLuks2_spec (w : World) :
    (openLuks2 device).wp (exec who) A (fun x w' => w.SameDisk w' ∧ match x with
      | Except.ok h => w.header device = some h
      | Except.error _ => Faulty A ∨ w.header device = none) w := by
  have hread : ∀ (c : Cmd) (o : Oracle) (v : World), c.ReadsOn device →
      v.SameDisk (exec who c o v).2 := fun c o v hc => exec_readsOn hc o v
  refine wp_ask_orFail (c := Cmd.init device) (r := id) (fun o _ ho _ => ?_) (fun o e ho he => ?_)
  · have hsame := hread (Cmd.init device) o w rfl
    refine wp_ask_orFail_last (c := Cmd.load device) (r := id) (fun o' h ho' hl => ?_)
      (fun o' e ho' he => ?_)
    · exact ⟨hsame.trans (hread (Cmd.load device) o' _ rfl),
        (hsame.header device).symm.trans (load_ok hl)⟩
    · refine ⟨hsame.trans (hread (Cmd.load device) o' _ rfl), ?_⟩
      rcases load_error he with hf | hn
      · exact Or.inl ⟨o', ho', hf⟩
      · exact Or.inr ((hsame.header device).symm.trans hn)
  · refine ⟨hread (Cmd.init device) o w rfl, ?_⟩
    rcases init_error he with hf | hn
    · exact Or.inl ⟨o, ho, hf⟩
    · exact Or.inr (by simp [World.header, hn])

/-! ## Writing

One write to a session: it goes through, or it failed for one of the reasons that are named, and
then nothing was written.
-/

/-- How a session that ends in the header write `f` turns out. -/
def SessionOutcome (A : Oracle → Prop) (device : String)
    (f : Oracle → Header → Except String (α × Header)) (w : World) (x : Except String α)
    (w' : World) : Prop :=
  match x with
  | Except.ok a => ∃ o h h', A o ∧ f o h = Except.ok (a, h') ∧ w.Wrote device h h' w'
  | Except.error _ => w.SameDisk w' ∧ (Faulty A ∨ w.header device = none ∨
      ∃ o h e, A o ∧ w.header device = some h ∧ f o h = Except.error e)

/-- A session: something that only reads, then one write. -/
lemma session_spec {γ : Type} {p : Op γ} {c : Cmd} {r : Reply c → Except String α}
    {word : String → String} {f : Oracle → Header → Except String (α × Header)}
    (hp : p.wp (exec who) A (fun x v => w.SameDisk v ∧
      ∀ e, x = Except.error e → Faulty A ∨ w.header device = none) w)
    (hc : ∀ o v, r (answer who c o v).1 = (v.update device o (f o)).1
      ∧ (answer who c o v).2 = (v.update device o (f o)).2) :
    (p.bind fun _ => (ask c).bind fun x => orFail (r x) word).wp (exec who) A
      (SessionOutcome A device f w) w := by
  refine Prog.wp_bind (Prog.wp_mono (fun x v hx => ?_) hp)
  obtain ⟨hsame, hreason⟩ := hx
  cases x with
  | error e => exact ⟨hsame, (hreason e rfl).imp_right Or.inl⟩
  | ok _ =>
      have hstep : ∀ o : Oracle, w.SameDisk { v with now := v.now + o.elapsed } := fun o =>
        ⟨hsame.luks, hsame.fs, hsame.mappings⟩
      refine wp_ask_orFail_last (r := r) (fun o a ho ha => ?_) (fun o e ho he => ?_)
      · rw [exec, (hc o _).1] at ha
        rw [exec, (hc o _).2]
        rcases World.update_cases { v with now := v.now + o.elapsed } device o (f o) with
          ⟨h, a', h', -, -, hf, hres, hwrote⟩ | ⟨e, hres, -⟩
        · obtain rfl : a' = a := Except.ok.inj (hres.symm.trans ha)
          exact ⟨o, h, h', ho, hf, hwrote.of_sameDisk (hstep o)⟩
        · exact absurd (congrArg Prod.fst hres |>.symm.trans ha) (by simp)
      · rw [exec, (hc o _).1] at he
        rw [exec, (hc o _).2]
        rcases World.update_cases { v with now := v.now + o.elapsed } device o (f o) with
          ⟨h, a', h', -, -, hf, hres, hwrote⟩ | ⟨e', hres, hwhy⟩
        · exact absurd (hres.symm.trans he) (by simp)
        · rw [hres]
          refine ⟨hstep o, ?_⟩
          rw [(hstep o).header device] at hwhy
          rcases hwhy with hf | hn | ⟨h, hh, hf⟩
          · exact Or.inl ⟨o, ho, hf⟩
          · exact Or.inr (Or.inl hn)
          · exact Or.inr (Or.inr ⟨o, h, e', ho, hh, hf⟩)

lemma openLuks2_reason (w : World) :
    (openLuks2 device).wp (exec who) A (fun x v => w.SameDisk v ∧
      ∀ e, x = Except.error e → Faulty A ∨ w.header device = none) w := by
  refine Prog.wp_mono (fun x v hx => ⟨hx.1, fun e he => ?_⟩) (openLuks2_spec w)
  subst he
  exact hx.2

/-- Setting a token is one session with one write. -/
lemma setToken_spec (tokenId : ℤ) (json : Option Json) (w : World) :
    (setToken device tokenId json).wp (exec who) A
      (SessionOutcome A device (fun o h => h.jsonSet who o (tokenInput tokenId json)) w) w :=
  session_spec (c := Cmd.tokenJsonSet device (tokenInput tokenId json)) (r := id)
    (openLuks2_reason w) fun _ _ => ⟨rfl, rfl⟩

/-- Destroying a keyslot is one session with one write. -/
lemma destroyKeyslot_session (slot : ℤ) (w : World) :
    (destroyKeyslot device slot).wp (exec who) A
      (SessionOutcome A device (fun o h => h.keyslotDestroy o (asU32 slot)) w) w :=
  session_spec (c := Cmd.keyslotDestroy device (asU32 slot)) (r := id)
    (openLuks2_reason w) fun _ _ => ⟨rfl, rfl⟩

/-- Choosing the key derivation writes nothing, and fails for a reason. -/
lemma choosePbkdf_reason (minimalPbkdf : Bool) {v : World} (hv : w.SameDisk v) :
    (choosePbkdf minimalPbkdf).wp (exec who) A (fun x v' => w.SameDisk v' ∧
      ∀ e, x = Except.error e → Faulty A ∨ w.header device = none) v := by
  cases minimalPbkdf with
  | false => exact ⟨hv, fun e he => absurd he (by simp)⟩
  | true =>
      refine wp_ask_orFail_last (c := Cmd.setPbkdfType) (r := id) (fun o _ _ _ => ?_)
        (fun o e ho he => ?_)
      · exact ⟨⟨hv.luks, hv.fs, hv.mappings⟩, fun e he => absurd he (by simp)⟩
      · refine ⟨⟨hv.luks, hv.fs, hv.mappings⟩, fun _ _ => Or.inl ⟨o, ho, ?_⟩⟩
        cases hf : o.fault with
        | none => simp [exec, answer, Oracle.unlessFault, hf] at he
        | some _ => rfl

/-- Adding a keyslot is one session with one write. -/
lemma addKeyslotByVolumeKey_spec (vk : VolumeKey) (pw : Bytes) (minimalPbkdf : Bool) (w : World) :
    (addKeyslotByVolumeKey device vk pw minimalPbkdf).wp (exec who) A
      (SessionOutcome A device (fun o h => h.addByKey who o (some vk) pw) w) w := by
  have hopen : ((openLuks2 device).bind fun _ => choosePbkdf minimalPbkdf).wp (exec who) A
      (fun x v => w.SameDisk v ∧
        ∀ e, x = Except.error e → Faulty A ∨ w.header device = none) w := by
    refine Prog.wp_bind (Prog.wp_mono (fun x v hx => ?_) (openLuks2_reason w))
    cases x with
    | error e => exact ⟨hx.1, fun _ _ => hx.2 e rfl⟩
    | ok _ => exact choosePbkdf_reason minimalPbkdf hx.1
  have hassoc := Prog.bind_assoc (openLuks2 device) (fun _ => choosePbkdf minimalPbkdf) fun _ =>
    (ask (Cmd.addByKey device (some vk) pw)).bind fun x =>
      orFail x fun e => "crypt_keyslot_add_by_key failed: " ++ e
  rw [addKeyslotByVolumeKey]
  simp only [Prog.bind_def]
  rw [← hassoc]
  exact session_spec (c := Cmd.addByKey device (some vk) pw) (r := id) hopen fun _ _ => ⟨rfl, rfl⟩

/-! ## Reading metadata

Metadata that cannot be read is no error of the service; the operation goes on without it.
-/

/-- The metadata that was read: the header's, or none, for a reason. -/
def MetadataOf (A : Oracle → Prop) (device : String) (w : World) : Option Json → Prop
  | none => Faulty A ∨ w.header device = none
  | some metadata => ∃ h, w.header device = some h ∧ metadata = h.dump

/-- **What a read of the metadata gives**: the dump of the header, or nothing, and then for a reason. -/
lemma metadataJson_spec (w : World) :
    (metadataJson device).wp (exec who) A (fun x v => w.SameDisk v ∧
      ∃ m, x = Except.ok m ∧ MetadataOf A device w m) w := by
  refine Prog.wp_bind (Prog.wp_attempt (Prog.wp_mono (fun x v hx => ?_) (openLuks2_spec w)))
  cases x with
  | error e => exact ⟨hx.1, none, rfl, hx.2⟩
  | ok h =>
      intro o ho
      refine ⟨⟨hx.1.luks, hx.1.fs, hx.1.mappings⟩, _, rfl, ?_⟩
      cases hf : o.fault with
      | none =>
          simp only [exec, answer, Oracle.unlessFault, hf]
          exact ⟨h, hx.2, rfl⟩
      | some e =>
          simp only [exec, answer, Oracle.unlessFault, hf]
          exact Or.inl ⟨o, ho, by simp [hf]⟩

/-! ### Runs of a read

The same for one run on given inputs, where a theorem needs to know which read it was that failed.
-/

/-- Opening a session that nothing disturbs gives the header. -/
lemma openLuks2_run (who : Option ℕ) (hA : ¬ Faulty A) {os : ℕ → Oracle} (hos : ∀ n, A (os n))
    {h : Header} (hh : w.header device = some h) :
    ∃ v, (openLuks2 device).run (exec who) os w = (Except.ok h, v) ∧ w.SameDisk v := by
  have hspec := Prog.wp_sound (@openLuks2_spec who A device w) os hos
  cases hx : ((openLuks2 device).run (exec who) os w).1 with
  | error e =>
      rw [hx] at hspec
      rcases hspec.2 with hf | hn
      · exact absurd hf hA
      · exact absurd (hn.symm.trans hh) (by simp)
  | ok loaded =>
      rw [hx] at hspec
      obtain rfl : h = loaded := Option.some.inj (hh.symm.trans hspec.2)
      exact ⟨_, Prod.ext hx rfl, hspec.1⟩

/-- The metadata that a read obtains on these inputs, `none` when it fails. -/
def metadataRead (who : Option ℕ) (device : String) (os : ℕ → Oracle) (w : World) : Option Json :=
  ((metadataJson device).run (exec who) os w).1.toOption.join

lemma metadataJson_run (who : Option ℕ) (device : String) (os : ℕ → Oracle) (w : World) :
    ∃ v, (metadataJson device).run (exec who) os w
        = (Except.ok (metadataRead who device os w), v) ∧ w.SameDisk v := by
  obtain ⟨hsame, m, hm, -⟩ := Prog.wp_sound (@metadataJson_spec who (fun _ => True) device w) os
    fun _ => trivial
  refine ⟨_, Prod.ext ?_ rfl, hsame⟩
  rw [metadataRead, hm]
  rfl

lemma metadataRead_some {os : ℕ → Oracle} {metadata : Json}
    (hm : metadataRead who device os w = some metadata) :
    ∃ h, w.header device = some h ∧ metadata = h.dump := by
  obtain ⟨-, m, hrun, hof⟩ := Prog.wp_sound (@metadataJson_spec who (fun _ => True) device w) os
    fun _ => trivial
  rw [metadataRead, hrun] at hm
  obtain rfl : m = some metadata := hm
  exact hof

/-- A read that nothing disturbs gives the header's metadata. -/
lemma metadataRead_of_not_faulty (hA : ¬ Faulty A) {os : ℕ → Oracle} (hos : ∀ n, A (os n))
    {h : Header} (hh : w.header device = some h) : metadataRead who device os w = some h.dump := by
  obtain ⟨-, m, hrun, hof⟩ := Prog.wp_sound (@metadataJson_spec who A device w) os hos
  rw [metadataRead, hrun]
  cases m with
  | none =>
      rcases hof with hf | hn
      · exact absurd hf hA
      · exact absurd (hn.symm.trans hh) (by simp)
  | some metadata =>
      obtain ⟨h', hh', rfl⟩ := hof
      obtain rfl : h = h' := Option.some.inj (hh.symm.trans hh')
      rfl

/-- Listing the keyslots gives those of what was read. -/
lemma listKeyslots_spec (w : World) :
    (listKeyslots device).wp (exec who) A (fun x v => w.SameDisk v ∧
      ∃ m, x = Except.ok (keyslotsIn m) ∧ MetadataOf A device w m) w := by
  refine Prog.wp_bind (Prog.wp_mono (fun x v hx => ?_) (metadataJson_spec w))
  obtain ⟨hsame, m, rfl, hm⟩ := hx
  exact ⟨hsame, m, rfl, hm⟩

/-- Looking for a token gives the token of what was read. -/
lemma findTokenForKeyslot_spec (slot : ℤ) (w : World) :
    (findTokenForKeyslot device slot).wp (exec who) A (fun x v => w.SameDisk v ∧
      ∃ m, x = Except.ok (tokenForKeyslotIn slot m) ∧ MetadataOf A device w m) w := by
  refine Prog.wp_bind (Prog.wp_mono (fun x v hx => ?_) (metadataJson_spec w))
  obtain ⟨hsame, m, rfl, hm⟩ := hx
  exact ⟨hsame, m, rfl, hm⟩

/-! ## Enrollment

An enrollment writes a keyslot and then a token.  Its outcomes are named by how far it got.
-/

/-- One keyslot more, at an index that was free, written on behalf of `who`. -/
def Header.KeyslotAdded (who : Option ℕ) (h h' : Header) (i : ℕ) : Prop :=
  ∃ pw, i < keyslotsMax ∧ h.keyslots i = none
    ∧ h'.keyslots = Function.update h.keyslots i (some (Header.newKeyslot who pw))
    ∧ h'.tokens = h.tokens ∧ h'.volumeKey = h.volumeKey

/-- One token more, listing keyslot `i` alone, written on behalf of `who`. -/
def Header.TokenAdded (who : Option ℕ) (h h' : Header) (i : ℕ) : Prop :=
  ∃ j t, h.tokens j = none ∧ h'.tokens = Function.update h.tokens j (some t)
    ∧ t.slots = [i] ∧ t.writer = who ∧ h'.keyslots = h.keyslots ∧ h'.volumeKey = h.volumeKey

/-- A token as the modalities prepare it: an object with a type. -/
def TokenShape (j : Json) : Prop :=
  ∃ fields s, j = Json.obj fields ∧ Json.field "type" fields = some (Json.str s)

/-- Adding by the volume key is adding a keyslot at an index that libcryptsetup picks. -/
lemma addByKey_addKeyslot {h h' : Header} {o : Oracle} {vk : Option VolumeKey} {pw : Bytes} {i : ℕ}
    (hadd : h.addByKey who o vk pw = Except.ok (i, h')) :
    h.addKeyslot o.pick (Header.newKeyslot who pw) = some (i, h') := by
  rw [Header.addByKey] at hadd
  split_ifs at hadd
  cases hk : h.addKeyslot o.pick (Header.newKeyslot who pw) with
  | none => simp [hk] at hadd
  | some r =>
      simp only [hk, Except.ok.injEq] at hadd
      rw [hadd]

lemma addByKey_ok {h h' : Header} {o : Oracle} {vk : Option VolumeKey} {pw : Bytes} {i : ℕ}
    (hadd : h.addByKey who o vk pw = Except.ok (i, h')) : h.KeyslotAdded who h' i := by
  obtain ⟨hindex, hks, htok, hvk⟩ := Header.addKeyslot_spec (addByKey_addKeyslot hadd)
  obtain ⟨hlt, hnone⟩ := freeIndex_some hindex
  exact ⟨pw, hlt, hnone, hks, htok, hvk⟩

lemma parseDigits_toString (n : ℕ) : parseDigits (toString n).toList = some n := by
  rw [Nat.toString_eq_repr, Nat.toList_repr, parseDigits_toDigits]

/-- A prepared token with its keyslot stamped in is one libcryptsetup takes. -/
lemma ofJson_stamped {j : Json} (hj : TokenShape j) (who : Option ℕ) (i : ℕ) :
    ∃ t, Token.ofJson who (j.set "keyslots" (Json.arr [Json.str (toString i)])) = some t
      ∧ t.slots = [i] ∧ t.writer = who := by
  obtain ⟨fields, s, rfl, hs⟩ := hj
  have htype := (@Json.field_filter_ne "type" "keyslots" (by decide) fields).trans hs
  rw [Json.set]
  generalize (fields.filter fun x => !decide (x.1 = "keyslots")) = rest at htype
  have hkeyslots : Json.get "keyslots" (Json.obj (("keyslots", Json.arr [Json.str (toString i)])
      :: rest)) = some (Json.arr [Json.str (toString i)]) := Json.field_cons_self _ _ _
  have htype' : Json.get "type" (Json.obj (("keyslots", Json.arr [Json.str (toString i)])
      :: rest)) = some (Json.str s) := (Json.field_cons_ne (by decide) _ _).trans htype
  refine ⟨⟨(("keyslots", Json.arr [Json.str (toString i)]) :: rest).filter fun x =>
    !decide (x.1 = "keyslots"), [i], who⟩, ?_, rfl, rfl⟩
  rw [Token.ofJson, htype', hkeyslots]
  simp only [Json.asObject, Json.asStr, Json.asArray, Option.bind_eq_bind, Option.bind_some,
    List.mapM_cons, List.mapM_nil, parseDigits_toString, Option.pure_def]

/-- A token with keyslot `i` stamped in lists `i` alone, and is stored as it is. -/
lemma ofJson_stamped_inv {j : Json} {who : Option ℕ} {i : ℕ} {t : Token}
    (ht : Token.ofJson who (j.set "keyslots" (Json.arr [Json.str (toString i)])) = some t) :
    t.slots = [i] ∧ t.writer = who ∧
      t.json = j.set "keyslots" (Json.arr [Json.str (toString i)]) := by
  cases j with
  | obj fields =>
      simp only [Token.ofJson, Json.set, Json.asObject, Option.bind_eq_bind, Option.bind_some,
        Option.bind_eq_some_iff] at ht
      obtain ⟨ty, -, name, -, items, hitems, xs, hxs, slots, hslots, ht⟩ := ht
      have hfield : items = Json.arr [Json.str (toString i)] := by
        rw [Json.get, Json.field_cons_self] at hitems
        exact (Option.some.inj hitems).symm
      subst hfield
      obtain rfl := Option.some.inj hxs
      simp only [List.mapM_cons, List.mapM_nil, Json.asStr, Option.bind_eq_bind, Option.bind_some,
        parseDigits_toString, Option.pure_def, Option.some.injEq] at hslots ht
      subst hslots ht
      refine ⟨rfl, rfl, ?_⟩
      simp [Token.json, Json.set]
  | _ => simp [Token.ofJson, Json.set, Json.asObject] at ht

/-- A token that was added is in a free place, and nothing else has changed. -/
lemma jsonSet_add_ok {h h' : Header} {o : Oracle} {json : Json} {t : Token} {j : ℕ}
    (ht : Token.ofJson who json = some t)
    (hset : h.jsonSet who o (TokenInput.add json) = Except.ok (j, h')) :
    h.tokens j = none ∧ h'.tokens = Function.update h.tokens j (some t)
      ∧ h'.keyslots = h.keyslots ∧ h'.volumeKey = h.volumeKey := by
  simp only [Header.jsonSet, ht, Option.bind_some] at hset
  cases ha : h.addToken o.pick t with
  | none => simp [ha] at hset
  | some r =>
      simp only [ha, Except.ok.injEq] at hset
      subst hset
      obtain ⟨-, hnone, -, htok, hks, hvk⟩ := Header.addToken_spec ha
      exact ⟨hnone, htok, hks, hvk⟩

/-- Setting a token leaves the keyslots and the volume key alone. -/
lemma jsonSet_keeps {h h' : Header} {o : Oracle} {input : TokenInput} {j : ℕ}
    (hset : h.jsonSet who o input = Except.ok (j, h')) :
    h'.keyslots = h.keyslots ∧ h'.volumeKey = h.volumeKey := by
  have hadd : ∀ {g : Header} {pick : Option ℕ} {json : Json} {r : ℕ × Header},
      (Token.ofJson who json).bind (g.addToken pick) = some r →
        r.2.keyslots = g.keyslots ∧ r.2.volumeKey = g.volumeKey := by
    intro g pick json r hr
    obtain ⟨t, -, ht⟩ := Option.bind_eq_some_iff.mp hr
    exact (Header.addToken_spec ht).2.2.2.2
  cases input with
  | add json =>
      simp only [Header.jsonSet] at hset
      split at hset
      · rename_i r hr
        obtain rfl := Except.ok.inj hset
        exact hadd hr
      · cases hset
  | replace id json =>
      simp only [Header.jsonSet] at hset
      split at hset
      · rename_i r hr
        split_ifs at hset
        obtain rfl := Except.ok.inj hset
        exact hadd hr
      · cases hset
  | remove id =>
      simp only [Header.jsonSet] at hset
      split_ifs at hset
      obtain ⟨-, rfl⟩ := Prod.mk.inj (Except.ok.inj hset)
      exact ⟨rfl, rfl⟩

/-- A token with keyslots that exist is refused only where there is no place. -/
lemma jsonSet_add_error {h : Header} {o : Oracle} {json : Json} {t : Token} {e : String}
    (ht : Token.ofJson who json = some t) (hs : ∀ k ∈ t.slots, (h.keyslots k).isSome)
    (hset : h.jsonSet who o (TokenInput.add json) = Except.error e) :
    ∀ j < tokensMax, (h.tokens j).isSome := by
  simp only [Header.jsonSet, ht, Option.bind_some] at hset
  cases ha : h.addToken o.pick t with
  | none => exact Header.addToken_none hs ha
  | some r => simp [ha] at hset

/-- How the tail of an enrollment turns out: one token more, or nothing, because of a fault or
because the token table is full. -/
def StoreOutcome (A : Oracle → Prop) (who : Option ℕ) (device : String) (i : ℕ) (h : Header)
    (w : World) (x : Except String Triple) (w' : World) : Prop :=
  match x with
  | Except.ok t => t.1 = true ∧ ∃ h', h.TokenAdded who h' i ∧ w.Wrote device h h' w'
  | Except.error _ => w.SameDisk w' ∧ (Faulty A ∨ ∀ j < tokensMax, (h.tokens j).isSome)

/-- **Storing a token** puts it in, for the keyslot; or fails, for a reason, and leaves the keyslot
without one. -/
lemma storeToken_spec {prepared : Prepared} (hp : TokenShape prepared.token) {i : ℕ} {h : Header}
    (hh : w.header device = some h) (hi : (h.keyslots i).isSome) :
    (storeToken device prepared i).wp (exec who) A (StoreOutcome A who device i h w) w := by
  obtain ⟨t, ht, hslots, hwriter⟩ := ofJson_stamped hp who i
  refine Prog.wp_bind (Prog.wp_mono (fun x v hx => ?_) (setToken_spec _ _ w))
  cases x with
  | ok j =>
      obtain ⟨o, h₀, h', -, hset, hwrote⟩ := hx
      obtain rfl : h₀ = h := Option.some.inj (hwrote.stored.symm.trans hh)
      obtain ⟨hnone, htok, hks, hvk⟩ := jsonSet_add_ok ht hset
      exact ⟨rfl, h', ⟨j, t, hnone, htok, hslots, hwriter, hks, hvk⟩, hwrote⟩
  | error e =>
      obtain ⟨hsame, hf | hn | ⟨o, h₀, e', -, hh₀, hset⟩⟩ := hx
      · exact ⟨hsame, Or.inl hf⟩
      · exact absurd (hn.symm.trans hh) (by simp)
      · obtain rfl : h₀ = h := Option.some.inj (hh₀.symm.trans hh)
        refine ⟨hsame, Or.inr (jsonSet_add_error ht (fun k hk => ?_) hset)⟩
        rw [hslots, List.mem_singleton] at hk
        exact hk ▸ hi

/-- How a token enrollment turns out: complete, without effect, or stopped between its two
writes. -/
def EnrollOutcome (A : Oracle → Prop) (who : Option ℕ) (device : String) (w : World)
    (x : Except String Triple) (w' : World) : Prop :=
  match x with
  | Except.ok t => t.1 = true ∧ ∃ h h₁ h₂ i, h.KeyslotAdded who h₁ i ∧ h₁.TokenAdded who h₂ i
      ∧ w.Wrote device h h₂ w'
  | Except.error _ => w.SameDisk w' ∨ ∃ h h₁ i, h.KeyslotAdded who h₁ i ∧ w.Wrote device h h₁ w'
      ∧ (Faulty A ∨ ∀ j < tokensMax, (h₁.tokens j).isSome)

/-- Two writes to one header, one after the other, are one. -/
lemma World.Wrote.trans {u v w : World} {h h₁ h₂ : Header} (huv : u.Wrote device h h₁ v)
    (hvw : v.Wrote device h₁ h₂ w) : u.Wrote device h h₂ w where
  stored := huv.stored
  luks := fun i hi => by
    rw [hvw.luks i (by rw [huv.fs]; exact hi), huv.luks i hi, Function.update_idem]
  fs := hvw.fs.trans huv.fs
  mappings := hvw.mappings.trans huv.mappings

/-- A volume key, a keyslot for it, and more: nothing has changed, or the keyslot is there. -/
lemma wp_addAuthorised {unlockMethod passphrase pin : String} {secret : Bytes} {minimalPbkdf : Bool}
    {k : ℕ → Op β} {Q : Except String β → World → Prop}
    (hok : ∀ vk o h h' i v, h.addByKey who o (some vk) secret = Except.ok (i, h') →
      w.Wrote device h h' v → (k i).wp (exec who) A Q v)
    (herr : ∀ e v, w.SameDisk v → Q (Except.error e) v) :
    ((getVolumeKey device unlockMethod passphrase pin).bind fun vk =>
      (addKeyslotByVolumeKey device vk secret minimalPbkdf).bind k).wp (exec who) A Q w := by
  refine Prog.wp_bind (Prog.wp_mono (fun x v hsame => ?_)
    (wp_readsOn (getVolumeKey_reads device unlockMethod passphrase pin) w))
  cases x with
  | error e => exact herr e v hsame
  | ok vk =>
      refine Prog.wp_bind (Prog.wp_mono (fun x v' hx => ?_) (addKeyslotByVolumeKey_spec vk _ _ v))
      cases x with
      | error e => exact herr e v' (hsame.trans hx.1)
      | ok i =>
          obtain ⟨o, h, h', -, hadd, hwrote⟩ := hx
          exact hok vk o h h' i v' hadd (hwrote.of_sameDisk hsame)

/-- **An enrollment with a token**: both writes are made, or none, or the keyslot's only, and then the
second failed for a reason. -/
lemma enrollToken_spec {prepare : Op Prepared} (hreads : prepare.AllCalls (Cmd.ReadsOn device))
    (hshape : ∀ v, prepare.wp (exec who) A
      (fun x _ => ∀ p, x = Except.ok p → TokenShape p.token) v)
    (unlockMethod unlockPin passphrase : String) (w : World) :
    (enrollToken device unlockMethod unlockPin passphrase prepare).wp (exec who) A
      (EnrollOutcome A who device w) w := by
  have hprep := Prog.wp_and (wp_readsOn hreads w) (hshape w)
  refine Prog.wp_bind (Prog.wp_mono (fun x v hx => ?_) hprep)
  obtain ⟨hsame, hshape'⟩ := hx
  cases x with
  | error e => exact Or.inl hsame
  | ok prepared =>
      refine wp_addAuthorised (fun vk o h h₁ i v₁ hadd hwrote => ?_)
        (fun e v₁ hsame₁ => Or.inl (hsame.trans hsame₁))
      have hadded := addByKey_ok hadd
      have hi : (h₁.keyslots i).isSome := by
        obtain ⟨pw, -, -, hks, -⟩ := hadded
        simp [hks]
      refine Prog.wp_mono (fun x v₂ hx => ?_)
        (storeToken_spec (hshape' prepared rfl) hwrote.header hi)
      have hwrote' := hwrote.of_sameDisk hsame
      cases x with
      | ok t =>
          obtain ⟨ht, h₂, htok, hw₂⟩ := hx
          exact ⟨ht, h, h₁, h₂, i, hadded, htok, hwrote'.trans hw₂⟩
      | error e => exact Or.inr ⟨h, h₁, i, hadded, hwrote'.then_sameDisk hx.1, hx.2⟩

/-! ## Wiping

A wipe removes a token, if its lookup finds one, and then destroys the keyslot.  Its outcomes are
named in the same way.
-/

/-- Does a token list this keyslot? -/
def Token.Lists (t : Token) (slot : ℤ) : Prop := ∃ k ∈ t.slots, slot = (k : ℤ)

/-- What the first write of a wipe made of the header: a token that lists the keyslot was removed,
or none was, because none lists it or because the read failed. -/
def Header.TokenDropped (A : Oracle → Prop) (slot : ℤ) (h h₁ : Header) : Prop :=
  (h₁ = h ∧ (Faulty A ∨ ∀ j t, h.tokens j = some t → ¬ t.Lists slot))
    ∨ ∃ j t, h.tokens j = some t ∧ t.Lists slot ∧ h₁ = h.removeToken j

/-- The last-keyslot guard lets a wipe of `slot` pass. -/
def guardPasses (slot : ℤ) (m : Option Json) : Prop :=
  ¬ ((keyslotsIn m).entries.length ≤ 1 ∧ slot ∈ (keyslotsIn m).keys)

/-- How the tail of a wipe turns out. -/
def RestOutcome (A : Oracle → Prop) (device : String) (slot : ℤ) (w : World)
    (x : Except String Triple) (w' : World) : Prop :=
  match x with
  | Except.ok t => t.1 = true ∧ ∃ h h₁ h₂, h.TokenDropped A slot h₁
      ∧ h₁.destroyKeyslot (asU32 slot) = some h₂ ∧ w.Wrote device h h₂ w'
  | Except.error _ => w.SameDisk w' ∨ ∃ h j t, h.tokens j = some t ∧ t.Lists slot
      ∧ w.Wrote device h (h.removeToken j) w'
      ∧ (Faulty A ∨ (h.removeToken j).destroyKeyslot (asU32 slot) = none)

/-- A number below the bound is the same as an unsigned one. -/
lemma asU32_natCast {n : ℕ} (hn : n < 4294967296) : asU32 (n : ℤ) = n := by
  rw [asU32]
  omega

/-- A small number is what `as u32` was applied to. -/
lemma eq_asU32_of_lt {s : ℤ} (hlo : -2147483648 ≤ s) (hhi : s ≤ 2147483647)
    (hlt : asU32 s < keyslotsMax) : s = (asU32 s : ℤ) := by
  unfold asU32 keyslotsMax at *
  omega

lemma keyslotDestroy_ok {h h' : Header} {o : Oracle} {s : ℕ} {u : Unit}
    (hd : h.keyslotDestroy o s = Except.ok (u, h')) : h.destroyKeyslot s = some h' := by
  rw [Header.keyslotDestroy] at hd
  cases hk : h.destroyKeyslot s with
  | none => simp [hk] at hd
  | some h₂ => simp_all

/-- A keyslot that is not destroyed did not exist, if nothing was faulty. -/
lemma keyslotDestroy_error {h : Header} {o : Oracle} {s : ℕ} {e : String}
    (hd : h.keyslotDestroy o s = Except.error e) : h.destroyKeyslot s = none := by
  rw [Header.keyslotDestroy] at hd
  cases hk : h.destroyKeyslot s with
  | none => rfl
  | some h₂ => simp [hk] at hd

/-- The last step of a wipe, after the token has been dealt with. -/
lemma wipeDestroy_spec {slot : ℤ} {v : World} (hstart : (w.SameDisk v ∧ ∀ h, w.header device = some h →
      h.TokenDropped A slot h) ∨ ∃ h j t, h.tokens j = some t ∧ t.Lists slot
        ∧ w.Wrote device h (h.removeToken j) v) :
    ((destroyKeyslot device slot).bind fun _ => (Prog.ret (true, "", "") : Op Triple)).wp (exec who)
      A (RestOutcome A device slot w) v := by
  refine Prog.wp_bind (Prog.wp_mono (fun x v' hx => ?_) (destroyKeyslot_session slot v))
  rcases hstart with ⟨hsame, hdrop⟩ | ⟨h, j, t, ht, hlists, hwrote⟩
  · cases x with
    | error e => exact Or.inl (hsame.trans hx.1)
    | ok u =>
        obtain ⟨o, h, h₂, -, hd, hw⟩ := hx
        have hw' := hw.of_sameDisk hsame
        exact ⟨rfl, h, h, h₂, hdrop h hw'.stored, keyslotDestroy_ok hd, hw'⟩
  · cases x with
    | ok u =>
        obtain ⟨o, h₁, h₂, -, hd, hw⟩ := hx
        obtain rfl : h₁ = h.removeToken j := Option.some.inj (hw.stored.symm.trans hwrote.header)
        exact ⟨rfl, h, _, h₂, Or.inr ⟨j, t, ht, hlists, rfl⟩, keyslotDestroy_ok hd,
          hwrote.trans hw⟩
    | error e =>
        refine Or.inr ⟨h, j, t, ht, hlists, hwrote.then_sameDisk hx.1, ?_⟩
        rcases hx.2 with hf | hn | ⟨o, h₁, e', -, hh, hd⟩
        · exact Or.inl hf
        · exact absurd (hn.symm.trans hwrote.header) (by simp)
        · obtain rfl : h₁ = h.removeToken j := Option.some.inj (hh.symm.trans hwrote.header)
          exact Or.inr (keyslotDestroy_error hd)

/-- **The rest of a wipe**, once the guard has let it pass: the token goes first, then the keyslot. -/
lemma wipeRest_spec (slot : ℤ) (w : World) :
    (wipeRest device slot).wp (exec who) A (RestOutcome A device slot w) w := by
  refine Prog.wp_bind (Prog.wp_mono (fun x v hx => ?_) (findTokenForKeyslot_spec slot w))
  obtain ⟨hsame, m, rfl, hm⟩ := hx
  -- the token found, if any, with the header it was found in
  have hfound : (tokenForKeyslotIn slot m < 0 ∧ ∀ h, w.header device = some h →
        h.TokenDropped A slot h) ∨ ∃ (j : ℕ) (t : Token) (h : Header),
        tokenForKeyslotIn slot m = j ∧ j < tokensMax ∧ w.header device = some h
        ∧ h.tokens j = some t ∧ t.Lists slot := by
    cases m with
    | none =>
        refine Or.inl ⟨by simp [tokenForKeyslotIn], fun h hh => Or.inl ⟨rfl, Or.inl ?_⟩⟩
        exact hm.resolve_right (by simp [hh])
    | some metadata =>
        obtain ⟨h, hh, rfl⟩ := hm
        rcases tokenForKeyslotIn_dump h slot with ⟨hneg, hall⟩ | ⟨j, t, hj, hlt, ht, hlists⟩
        · refine Or.inl ⟨by omega, fun h' hh' => Or.inl ⟨rfl, Or.inr fun j t ht hl => ?_⟩⟩
          obtain rfl : h = h' := Option.some.inj (hh.symm.trans hh')
          obtain ⟨k, hk, hslot⟩ := hl
          exact hall j t ht k hk hslot
        · exact Or.inr ⟨j, t, h, hj, hlt, hh, ht, hlists⟩
  rcases hfound with ⟨hneg, hdrop⟩ | ⟨j, t, h, hj, hlt, hh, ht, hlists⟩
  · show ((if 0 ≤ tokenForKeyslotIn slot m then _ else _ : Op Unit).bind _).wp _ _ _ _
    rw [if_neg (by omega)]
    exact wipeDestroy_spec (Or.inl ⟨hsame, hdrop⟩)
  · show ((if 0 ≤ tokenForKeyslotIn slot m then _ else _ : Op Unit).bind _).wp _ _ _ _
    rw [if_pos (by omega), hj]
    refine Prog.wp_bind (Prog.wp_bind (Prog.wp_mono (fun x v' hx => ?_) (setToken_spec _ _ v)))
    cases x with
    | error e => exact Or.inl (hsame.trans hx.1)
    | ok n =>
        obtain ⟨o, h', h₁, -, hset, hw⟩ := hx
        have hw' := hw.of_sameDisk hsame
        obtain rfl : h' = h := Option.some.inj (hw'.stored.symm.trans hh)
        have hj32 : asU32 (j : ℤ) = j := asU32_natCast (lt_trans hlt (by decide))
        simp only [tokenInput, hj32, Header.jsonSet, if_pos hlt, Except.ok.injEq,
          Prod.mk.injEq] at hset
        obtain ⟨-, rfl⟩ := hset
        exact wipeDestroy_spec (Or.inr ⟨h', j, t, ht, hlists, hw'⟩)

/-- How a wipe turns out, before `run_op`: refused by the guard, or the outcome of its tail with
the guard passed. -/
def WipeOutcome (A : Oracle → Prop) (device : String) (slot : ℤ) (w : World)
    (x : Except String Triple) (w' : World) : Prop :=
  (w.SameDisk w' ∧ ∀ t, x = Except.ok t → t.1 = false)
    ∨ (RestOutcome A device slot w x w'
      ∧ ∀ h, w.header device = some h → Faulty A ∨ guardPasses slot (some h.dump))

/-- What came before and changed nothing can be left out. -/
lemma RestOutcome.of_sameDisk {slot : ℤ} {u v : World} {x : Except String Triple}
    (huv : u.SameDisk v) (hx : RestOutcome A device slot v x w) :
    RestOutcome A device slot u x w := by
  cases x with
  | ok t =>
      obtain ⟨ht, h, h₁, h₂, hdrop, hd, hw⟩ := hx
      exact ⟨ht, h, h₁, h₂, hdrop, hd, hw.of_sameDisk huv⟩
  | error e =>
      rcases hx with hsame | ⟨h, j, t, ht, hl, hw, hwhy⟩
      · exact Or.inl (huv.trans hsame)
      · exact Or.inr ⟨h, j, t, ht, hl, hw.of_sameDisk huv, hwhy⟩

/-- **A wipe**: the guard read what it read, and either refused or let the rest run. -/
lemma wipeBody_spec (passphrase unlockMethod pin : String) (slot : I32) (w : World) :
    ((getVolumeKey device unlockMethod passphrase pin).bind fun _ =>
      (listKeyslots device).bind fun slots =>
        if slots.entries.length ≤ 1 ∧ slot.val ∈ slots.keys then Prog.ret lastKeyslot
        else wipeRest device slot.val).wp (exec who) A (WipeOutcome A device slot.val w) w := by
  refine Prog.wp_bind (Prog.wp_mono (fun x v hsame => ?_)
    (wp_readsOn (getVolumeKey_reads device unlockMethod passphrase pin) w))
  cases x with
  | error e => exact Or.inl ⟨hsame, fun t ht => absurd ht (by simp)⟩
  | ok vk =>
      refine Prog.wp_bind (Prog.wp_mono (fun x v' hx => ?_) (listKeyslots_spec v))
      obtain ⟨hsame', m, rfl, hm⟩ := hx
      have hsame'' := hsame.trans hsame'
      show (if _ ∧ _ then _ else _ : Op Triple).wp _ _ _ _
      split_ifs with hguard
      · exact Or.inl ⟨hsame'', fun t ht => by rw [← Except.ok.inj ht]; rfl⟩
      · refine Prog.wp_mono (fun x v'' hx => Or.inr ⟨?_, fun h hh => ?_⟩) (wipeRest_spec slot.val v')
        · exact RestOutcome.of_sameDisk hsame'' hx
        · cases m with
          | none => exact Or.inl (hm.resolve_right (by simp [hsame.header, hh]))
          | some metadata =>
              obtain ⟨h', hh', rfl⟩ := hm
              rw [hsame.header, hh] at hh'
              obtain rfl := Option.some.inj hh'
              exact Or.inr hguard

/-- `run_op` turns a failure into the generic triple. -/
lemma runOp_spec {body : Op Triple} {Q : Except String Triple → World → Prop}
    (hb : body.wp (exec who) A (fun x v => match x with
      | Except.ok t => Q (Except.ok t) v
      | Except.error _ => Q (Except.ok opFailed) v) w) :
    (runOp body).wp (exec who) A Q w := by
  refine Prog.wp_bind (Prog.wp_attempt (Prog.wp_mono (fun x v hx => ?_) hb))
  cases x with
  | ok t => exact hx
  | error e => exact hx

/-- What `run_op` returns for an outcome of its body. -/
def reported : Except String Triple → Triple
  | Except.ok t => t
  | Except.error _ => opFailed

/-- The answer of an operation is its triple, or the generic failure. -/
lemma runOp_run {ω : Type} {hd : Handler Cmd Reply ω World} (body : Op Triple) (os : ℕ → ω)
    (w : World) :
    (runOp body).run hd os w
      = (Except.ok (reported (body.run hd os w).1), (body.run hd os w).2) := by
  have hattempt := Prog.run_attempt (δ := String) hd body os w
  rw [runOp, Prog.bind_def, Prog.run_bind_ok hattempt]
  cases (body.run hd os w).1 <;> rfl

/-- It was answered what its body was answered. -/
lemma runOp_answers (body : Op Triple) (os : ℕ → Oracle) (w : World) :
    (runOp body).answers (exec who) os w = body.answers (exec who) os w := by
  have hattempt := Prog.run_attempt (δ := String) (exec who) body os w
  rw [runOp, Prog.bind_def, Prog.answers_bind_ok hattempt, Prog.answers_attempt]
  cases (body.run (exec who) os w).1 <;> simp [Prog.answers]

/-! ## The five requests

The effects of all of them in one type, for every input of the environment.
-/

/-- **What a request can have done**, with the `ok` it reports: nothing, all of it, or the first
of its two writes. -/
inductive SlotEffect (A : Oracle → Prop) (who : Option ℕ) (w w' : World) : SlotRequest → Bool → Prop
  | nothing {r : SlotRequest} : w.SameDisk w' → SlotEffect A who w w' r false
  | enrolled {r : SlotRequest} {h h₁ h₂ : Header} {i : ℕ} : r.EnrollsToken →
      h.KeyslotAdded who h₁ i → h₁.TokenAdded who h₂ i → w.Wrote r.device h h₂ w' →
      SlotEffect A who w w' r true
  | keyslotOnly {r : SlotRequest} {h h₁ : Header} {i : ℕ} : r.EnrollsToken →
      h.KeyslotAdded who h₁ i → w.Wrote r.device h h₁ w' →
      (Faulty A ∨ ∀ j < tokensMax, (h₁.tokens j).isSome) → SlotEffect A who w w' r false
  | passphrase {device existing new unlockMethod unlockPin : String} {h h₁ : Header} {i : ℕ} :
      h.KeyslotAdded who h₁ i → w.Wrote device h h₁ w' →
      SlotEffect A who w w'
        (SlotRequest.enrollPassphrase device existing new unlockMethod unlockPin) true
  | wiped {device passphrase unlockMethod pin : String} {slot : I32} {h h₁ h₂ : Header} :
      h.TokenDropped A slot.val h₁ → h₁.destroyKeyslot (asU32 slot.val) = some h₂ →
      w.Wrote device h h₂ w' → (Faulty A ∨ guardPasses slot.val (some h.dump)) →
      SlotEffect A who w w' (SlotRequest.wipeSlot device passphrase unlockMethod pin slot) true
  | tokenOnly {device passphrase unlockMethod pin : String} {slot : I32} {h : Header} {j : ℕ}
      {t : Token} : h.tokens j = some t → t.Lists slot.val →
      w.Wrote device h (h.removeToken j) w' →
      (Faulty A ∨ (h.removeToken j).destroyKeyslot (asU32 slot.val) = none) →
      SlotEffect A who w w' (SlotRequest.wipeSlot device passphrase unlockMethod pin slot) false

/-- The effect of a body, which `run_op` will report as failed where it fails. -/
def BodyEffect (A : Oracle → Prop) (who : Option ℕ) (w : World) (r : SlotRequest)
    (x : Except String Triple) (w' : World) : Prop :=
  match x with
  | Except.ok t => SlotEffect A who w w' r t.1
  | Except.error _ => SlotEffect A who w w' r false

/-- What came before and changed nothing can be left out. -/
lemma EnrollOutcome.of_sameDisk {u v : World} {x : Except String Triple} (huv : u.SameDisk v)
    (hx : EnrollOutcome A who device v x w) : EnrollOutcome A who device u x w := by
  cases x with
  | ok t =>
      obtain ⟨ht, h, h₁, h₂, i, hks, htok, hw⟩ := hx
      exact ⟨ht, h, h₁, h₂, i, hks, htok, hw.of_sameDisk huv⟩
  | error e =>
      rcases hx with hsame | ⟨h, h₁, i, hks, hw, hwhy⟩
      · exact Or.inl (huv.trans hsame)
      · exact Or.inr ⟨h, h₁, i, hks, hw.of_sameDisk huv, hwhy⟩

/-- What an enrollment with a token leaves behind, in the terms of all requests. -/
lemma EnrollOutcome.effect {r : SlotRequest} (hr : r.EnrollsToken) {w' : World}
    {x : Except String Triple} (hx : EnrollOutcome A who r.device w x w') :
    BodyEffect A who w r x w' := by
  cases x with
  | ok t =>
      obtain ⟨ht, h, h₁, h₂, i, hks, htok, hw⟩ := hx
      show SlotEffect A who w w' r t.1
      rw [ht]
      exact SlotEffect.enrolled hr hks htok hw
  | error e =>
      rcases hx with hsame | ⟨h, h₁, i, hks, hw, hwhy⟩
      · exact SlotEffect.nothing hsame
      · exact SlotEffect.keyslotOnly hr hks hw hwhy

/-- A body with these outcomes, wrapped in `run_op`, has the effect. -/
lemma runOp_effect {r : SlotRequest} {body : Op Triple}
    (hb : body.wp (exec who) A (BodyEffect A who w r) w) :
    (runOp body).wp (exec who) A
      (fun x v => ∃ t, x = Except.ok t ∧ SlotEffect A who w v r t.1) w := by
  refine runOp_spec (Prog.wp_mono (fun x v hx => ?_) hb)
  cases x with
  | ok t => exact ⟨t, rfl, hx⟩
  | error e => exact ⟨opFailed, rfl, hx⟩

lemma tokenShape_obj {s : String} {fields : List (String × Json)} :
    TokenShape (Json.obj (("type", Json.str s) :: fields)) :=
  ⟨_, s, rfl, Json.field_cons_self _ _ _⟩

lemma prepareFido2_shape (fido2Device pin : String) (v : World) :
    (prepareFido2 fido2Device pin).wp (exec who) A
      (fun x _ => ∀ p, x = Except.ok p → TokenShape p.token) v := by
  refine wp_ask_orFail (c := Cmd.fido2Enroll fido2Device (optionalPin pin)) (r := id)
    (fun o a _ _ p hp => ?_) (fun o e _ _ p hp => absurd hp (by simp))
  rw [← Except.ok.inj hp]
  exact tokenShape_obj

lemma prepareTpm2_shape (pcrs pin : String) (v : World) :
    (prepareTpm2 pcrs pin).wp (exec who) A
      (fun x _ => ∀ p, x = Except.ok p → TokenShape p.token) v := by
  refine wp_ask_orFail (c := Cmd.getrandom 32) (r := id) (fun o secret _ _ => ?_)
    (fun o e _ _ p hp => absurd hp (by simp))
  refine wp_ask_orFail (c := Cmd.tpm2Seal secret pcrs pin) (r := id) (fun o result _ _ => ?_)
    (fun o e _ _ p hp => absurd hp (by simp))
  show ((Prog.ofExcept (pcrList pcrs)).bind _).wp _ _ _ _
  cases pcrList pcrs with
  | error e => exact fun p hp => absurd hp (by simp)
  | ok list =>
      intro p hp
      rw [← Except.ok.inj hp]
      exact tokenShape_obj

lemma prepareRecoveryKey_shape (v : World) :
    prepareRecoveryKey.wp (exec who) A
      (fun x _ => ∀ p, x = Except.ok p → TokenShape p.token) v := by
  intro o _ p hp
  rw [← Except.ok.inj hp]
  exact tokenShape_obj

/-- **The account of every run of a request**, undisturbed or not. -/
theorem SlotRequest.body_effect (r : SlotRequest) (w : World) :
    r.body.wp (exec who) A (fun x v => ∃ t, x = Except.ok t ∧ SlotEffect A who w v r t.1) w := by
  cases r with
  | enrollFido2 device passphrase pin fido2Device unlockMethod unlockPin =>
      refine runOp_effect (Prog.wp_bind (Prog.wp_mono (fun x v hsame => ?_)
        (wp_readsOn (reads_of_looks (alreadyEnrolled_looks device fido2Device)) w)))
      cases x with
      | error e => exact SlotEffect.nothing hsame
      | ok enrolled =>
          cases enrolled with
          | true => exact SlotEffect.nothing hsame
          | false =>
              refine Prog.wp_mono (fun x v' hx => ?_) (enrollToken_spec
                (reads_of_looks (prepareFido2_looks _ _)) (prepareFido2_shape fido2Device pin)
                unlockMethod unlockPin passphrase v)
              exact (hx.of_sameDisk hsame).effect (r := SlotRequest.enrollFido2 _ _ _ _ _ _) trivial
  | enrollTpm2 device passphrase pin pcrs unlockMethod unlockPin =>
      refine runOp_effect (Prog.wp_mono (fun x v hx => ?_) (enrollToken_spec
        (reads_of_looks (prepareTpm2_looks _ _)) (prepareTpm2_shape pcrs pin) unlockMethod unlockPin
        passphrase w))
      exact hx.effect (r := SlotRequest.enrollTpm2 _ _ _ _ _ _) trivial
  | enrollRecoveryKey device passphrase unlockMethod unlockPin =>
      refine runOp_effect (Prog.wp_mono (fun x v hx => ?_) (enrollToken_spec
        (reads_of_looks prepareRecoveryKey_looks) prepareRecoveryKey_shape unlockMethod unlockPin
        passphrase w))
      exact hx.effect (r := SlotRequest.enrollRecoveryKey _ _ _ _) trivial
  | enrollPassphrase device existing new unlockMethod unlockPin =>
      refine runOp_effect (wp_addAuthorised (fun vk o h h' i v hadd hwrote => ?_)
        (fun e v hsame => SlotEffect.nothing hsame))
      exact SlotEffect.passphrase (addByKey_ok hadd) hwrote
  | wipeSlot device passphrase unlockMethod pin slot =>
      refine runOp_effect (Prog.wp_mono (fun x v hx => ?_)
        (wipeBody_spec passphrase unlockMethod pin slot w))
      rcases hx with ⟨hsame, hfalse⟩ | ⟨hrest, hguard⟩
      · cases x with
        | ok t =>
            show SlotEffect A who w v _ t.1
            rw [hfalse t rfl]
            exact SlotEffect.nothing hsame
        | error e => exact SlotEffect.nothing hsame
      · cases x with
        | ok t =>
            obtain ⟨ht, h, h₁, h₂, hdrop, hd, hw⟩ := hrest
            show SlotEffect A who w v _ t.1
            rw [ht]
            exact SlotEffect.wiped hdrop hd hw (hguard h hw.stored)
        | error e =>
            rcases hrest with hsame | ⟨h, j, t, ht, hl, hw, hwhy⟩
            · exact SlotEffect.nothing hsame
            · exact SlotEffect.tokenOnly ht hl hw hwhy

/-- A run on allowed inputs returns a triple and has the effect its `ok` goes with. -/
lemma SlotRequest.run_effect (r : SlotRequest) (w : World) {os : ℕ → Oracle}
    (hos : ∀ n, A (os n)) :
    ∃ t, (r.body.run (exec who) os w).1 = Except.ok t
      ∧ SlotEffect A who w (r.body.run (exec who) os w).2 r t.1 :=
  Prog.wp_sound (r.body_effect w) os hos

end LuksEnroll
