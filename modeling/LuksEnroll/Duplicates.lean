import LuksEnroll.ClientPaths
import LuksEnroll.Library.Traversal

/-!
# Enrolling an authenticator a second time

An enrollment with an authenticator first asks whether the authenticator is enrolled already: it reads
the credentials of the FIDO2 tokens of the header and probes the authenticator for each.  If one is
confirmed, the request is refused.

The credentials are read by the parser that serves an unlock, which gives up at the first malformed
token, and a failure to read them counts as no credentials.  `duplicate_refused_iff` says when an
enrolled authenticator is refused for certain: if the header can be read and every FIDO2 token in it is
well-formed, or if no keyslot is free, so that an enrollment fails in any case.

`Confirms` says what the authenticator answers, call by call, and nothing of the other devices.  The
proof goes through the request in its order: the credentials are read, the path of the client is probed
for them, and what is left of an enrollment that was not refused is worked out for the headers that let
it through.

The runs at the end are the two sides of the condition: with one sound token the second enrollment is
refused, and with a malformed one beside it the same authenticator is enrolled twice.
-/

namespace LuksEnroll

open Library

/-! ## Statements

What a duplicate is: the authenticator confirms a credential of a token that is on the volume.  A
request is refused when it comes back without having added anything and says so.
-/

/-- A well-formed FIDO2 token of the header carries this credential. -/
def Carries (h : Header) (credId : Bytes) : Prop :=
  ∃ t ∈ tableOf "tokens" h.dump, hasType tokenTypeFido2 t.2 = true
    ∧ ∃ salt, fido2Ref t.2 = Except.ok { credId := credId, salt := salt }

/-- Every FIDO2 token of the header is well-formed. -/
def AllWellFormed (h : Header) : Prop :=
  ∀ t ∈ tableOf "tokens" h.dump, hasType tokenTypeFido2 t.2 = true →
    ∃ ref, fido2Ref t.2 = Except.ok ref

/-- No keyslot is free. -/
def Header.Full (h : Header) : Prop := ∀ i < keyslotsMax, (h.keyslots i).isSome

/-- The three calls that read the metadata of a header succeed. -/
def readable (os : ℕ → Oracle) : Bool := (List.range 3).all fun n => (os n).fault.isNone

/-- The authenticator at a path can be opened and confirms the probe of a credential, in whatever place
it is probed. -/
structure Confirms (layout : String → Option OsPath) (table : HidTable) (path : String)
    (credId : Bytes) : Prop where
  opens : ∃ real, (layout path).bind OsPath.cstring = some real
    ∧ table (HidCmd.devNew 0) = true ∧ table (HidCmd.devOpen 0 real) = fidoOk
  probe : ∀ ti, (probeCredential 0 ti credId).outcome (fun c => table (HidCmd.fido c))
    = Except.ok (some true)

/-- **A second enrollment is refused**: on a volume with this header, and whatever else the request
says, an enrollment with an authenticator that confirms the credential reports failure and leaves the
header as it is.  `read` says whether the header can be read when the credentials are looked for. -/
def RefusesDuplicate (h : Header) (credId : Bytes) (read : Bool) : Prop :=
  ∀ (layout : String → Option OsPath) (is : ℕ → Oracle × HidTable) (w : World)
    (device passphrase pin fido2Device unlockMethod unlockPin : String),
    w.header device = some h → (readable fun n => (is n).1) = read →
    (∀ n, Confirms layout (is n).2 fido2Device credId) →
    ∃ out err v, (opEnrollFido2 device passphrase pin fido2Device unlockMethod unlockPin).run
      (execHid layout) is w = (Except.ok (false, out, err), v) ∧ v.header device = some h

/-! ## Reading the credentials

The credentials are read in a session of their own.  One malformed token makes the whole list empty.
-/

section

variable {device : String} {w : World} {h : Header} {credId : Bytes}

/-- The metadata is there when the three calls succeed. -/
lemma metadataRead_eq (who : Option ℕ) (os : ℕ → Oracle) (hh : w.header device = some h) :
    metadataRead who device os w = if readable os then some h.dump else none := by
  have hnode := World.isSome_node_of_header hh
  have hheader : ∀ n, World.header { w with now := n } device = some h := fun n => hh
  cases h0 : (os 0).fault with
  | some e =>
      simp [metadataRead, metadataJson, openLuks2, ask, Prog.perform, Prog.attempt, orFail,
        Except.mapError, exec, answer, FileSystem.pathExists, Oracle.unlessFault, hnode, readable,
        List.range_succ, h0, Prog.run, Except.toOption]
  | none =>
      cases h1 : (os 1).fault with
      | some e =>
          simp [metadataRead, metadataJson, openLuks2, ask, Prog.perform, Prog.attempt, orFail,
            Except.mapError, exec, answer, World.load, FileSystem.pathExists, Oracle.unlessFault,
            hnode, readable, List.range_succ, h0, h1, Prog.run, Except.toOption]
      | none =>
          cases h2 : (os 2).fault <;>
            simp [metadataRead, metadataJson, openLuks2, ask, Prog.perform, Prog.attempt, orFail,
              Except.mapError, exec, answer, World.load, FileSystem.pathExists, Oracle.unlessFault,
              hnode, hheader, readable, List.range_succ, h0, h1, h2, Prog.run, Except.toOption]

/-- One malformed token and there are no credentials; otherwise there are those of all tokens. -/
lemma credsIn_of_malformed (hbad : ¬ AllWellFormed h) : credsIn h.dump = [] := by
  cases hrefs : fido2RefsFromMeta h.dump with
  | error e => simp [credsIn, hrefs, Except.toOption]
  | ok refs =>
      refine absurd (fun t ht htype => ?_) hbad
      have hall := exists_mapM_eq_ok.mp ⟨refs, hrefs⟩
      exact hall t (List.mem_filter.mpr ⟨ht, htype⟩)

lemma Carries.mem_credsIn (hc : Carries h credId) (hall : AllWellFormed h) :
    credId ∈ credsIn h.dump := by
  obtain ⟨t, ht, htype, salt, href⟩ := hc
  have hwell : ∀ t ∈ (tableOf "tokens" h.dump).filter fun t => hasType tokenTypeFido2 t.2,
      ∃ ref, fido2Ref t.2 = Except.ok ref := fun t ht =>
    hall t (List.mem_filter.mp ht).1 (List.mem_filter.mp ht).2
  obtain ⟨refs, hrefs⟩ := exists_mapM_eq_ok.mpr hwell
  have hmem := mem_of_mapM_eq_ok hrefs (List.mem_filter.mpr ⟨ht, htype⟩) href
  rw [credsIn, fido2RefsFromMeta, hrefs]
  exact List.mem_map_of_mem (f := Fido2TokenRef.credId) hmem

lemma session_keeps_world {α : Type} {who : Option ℕ} {p : Op α}
    (hp : p.AllCalls (Cmd.SessionOn device)) :
    p.wp (exec who) (fun o => o.elapsed = 0) (fun _ v => v = w) w := by
  refine Prog.wp_of_allCalls (P := Cmd.SessionOn device) (T := fun v v' => v' = v) (fun _ => rfl)
    ?_ ?_ hp w
  · rintro u v v' rfl rfl
    rfl
  · intro c o v hc ho
    cases c with
    | init device => simp [exec, answer, ho]
    | load device => simp [exec, answer, ho]
    | dumpJson loaded => simp [exec, answer, ho]
    | _ => exact hc.elim

/-- The credentials are read without the authenticator. -/
lemma existingCreds_disk (layout : String → Option OsPath) (is : ℕ → Oracle × HidTable) :
    (existingCreds device).run (execHid layout) is w
      = (existingCreds device).run (exec none) (fun n => (is n).1) w := by
  have hplain : ∀ (c : Cmd) (i : Oracle × HidTable), c.SessionOn device →
      grounded layout c i = i.1 := by
    intro c i hc
    cases c with
    | fido2EnrolledPaths paths creds => exact hc.elim
    | fido2Enroll dev pin => exact hc.elim
    | _ => rfl
  exact Prog.run_comap hplain existingCreds_session is w

/-- The credentials that an enrollment goes by. -/
lemma existingCreds_run (layout : String → Option OsPath) (is : ℕ → Oracle × HidTable)
    (hh : w.header device = some h) :
    ∃ v, (existingCreds device).run (execHid layout) is w
        = (Except.ok (if readable fun n => (is n).1 then credsIn h.dump else []), v)
      ∧ w.SameDisk v := by
  obtain ⟨v, hv, hsame⟩ := metadataJson_run none device (fun n => (is n).1) w
  rw [metadataRead_eq none _ hh] at hv
  refine ⟨v, ?_, hsame⟩
  rw [existingCreds_disk, existingCreds, Prog.bind_def, Prog.run_bind_ok (Prog.run_attempt _ _ _ _),
    fido2TokenRefs, tokenRefs, Prog.bind_def, Prog.run_bind_ok hv]
  split_ifs
  · rw [credsIn]
    cases hrefs : fido2RefsFromMeta h.dump <;> simp [hrefs, Except.toOption, Prog.run]
  · simp [Prog.run]

end

/-! ## The probe

What is probed are the credentials that were read; an authenticator that holds one of them is found.
-/

section

variable {layout : String → Option OsPath} {table : HidTable} {path : String} {credId : Bytes}

lemma confirmsOne_of_mem {dev : ℕ}
    (hprobe : ∀ ti, (probeCredential dev ti credId).outcome (fun c => table (HidCmd.fido c))
      = Except.ok (some true)) {creds : List (Bytes × ℕ)} (hmem : credId ∈ creds.map Prod.fst) :
    (confirmsOne dev creds).outcome table = Except.ok true := by
  induction creds with
  | nil => simp at hmem
  | cons x rest ih =>
      obtain ⟨result, hresult⟩ := probeCredential_outcome (fun c => table (HidCmd.fido c)) dev x.2 x.1
      rw [confirmsOne, Prog.bind_def, Prog.outcome_bind_ok ((onDevice_outcome _).trans hresult)]
      split_ifs with htrue
      · rfl
      · rw [List.map_cons, List.mem_cons] at hmem
        refine ih (hmem.resolve_left fun heq => htrue ?_)
        rw [← heq, hprobe] at hresult
        exact (Except.ok.inj hresult).symm

/-- **A confirmed credential is found**, whatever the probes before it say. -/
lemma enrolledPaths_of_confirms (hconf : Confirms layout table path credId) {creds : List Bytes}
    (hmem : credId ∈ creds) :
    (enrolledPaths [path] creds).outcome (resolving layout table) = Except.ok [path] := by
  obtain ⟨⟨real, hreal, hnew, hopen⟩, hprobe⟩ := hconf
  have hprobe' : ∀ ti, (probeCredential 0 ti credId).outcome
      (fun c => resolving layout table (HidCmd.fido c)) = Except.ok (some true) := hprobe
  have hone : (confirmsOne 0 creds.zipIdx).outcome (resolving layout table) = Except.ok true :=
    confirmsOne_of_mem hprobe' (by simpa using hmem)
  have hholds : (holdsOne creds real 0).outcome (resolving layout table) = Except.ok true := by
    have hnew' : resolving layout table (HidCmd.devNew 0) = true := hnew
    have hopen' : resolving layout table (HidCmd.devOpen 0 real) = fidoOk := hopen
    rw [holdsOne, Prog.bind_def, Prog.outcome_bind_ok (Prog.outcome_perform _ _), if_pos hnew',
      Prog.bind_def, Prog.outcome_bind_ok (Prog.outcome_perform _ _), if_pos hopen', hone]
  have hcanon : (canonicalCstring path).outcome (resolving layout table)
      = Except.ok ((layout path).bind OsPath.cstring) := rfl
  have hpath : (enrolledPath creds path 0).outcome (resolving layout table)
      = Except.ok (some path) := by
    rw [enrolledPath, Prog.bind_def, Prog.outcome_bind_ok hcanon, hreal]
    dsimp only
    rw [Prog.bind_def, Prog.outcome_bind_ok hholds]
    rfl
  have hne : ¬ ([path] = [] ∨ creds = []) := by
    rintro (h | rfl)
    · cases h
    · cases hmem
  have hstep : ∀ x ∈ [path].zipIdx, (enrolledPath creds x.1 x.2).outcome (resolving layout table)
      = Except.ok (some x.1) := by
    intro x hx
    obtain rfl : x = (path, 0) := by simpa using hx
    exact hpath
  rw [enrolledPaths, if_neg hne, Prog.bind_def, Prog.outcome_bind_ok (Prog.outcome_perform _ _),
    Prog.gather_outcome hstep]
  rfl

end

/-! ## Refused

Two ways to be refused: the probe confirms a credential, or the header has no room.
-/

section

variable {h : Header} {credId : Bytes}

/-- Once the credential is among those that are looked for, the authenticator is recognised. -/
lemma refuses_of_read (hc : Carries h credId) (hall : AllWellFormed h) :
    RefusesDuplicate h credId true := by
  intro layout is w device passphrase pin fido2Device unlockMethod unlockPin hh hread hconf
  obtain ⟨v, hv, hsame⟩ := existingCreds_run layout is hh
  rw [hread, if_pos rfl] at hv
  have hmem := hc.mem_credsIn hall
  have henrolled : ∃ u, (alreadyEnrolled device fido2Device).run (execHid layout) is w
      = (Except.ok true, u) ∧ v.SameDisk u := by
    set i := Prog.after ((existingCreds device).steps (execHid layout) is w) is 0 with hi
    have hpaths : (enrolledPaths [fido2Device] (credsIn h.dump)).outcome (resolving layout i.2)
        = Except.ok [fido2Device] := enrolledPaths_of_confirms (hconf _) hmem
    refine ⟨{ v with now := v.now + i.1.elapsed }, ?_, ⟨rfl, rfl, rfl⟩⟩
    rw [alreadyEnrolled, Prog.bind_def, Prog.run_bind_ok hv, if_neg (List.ne_nil_of_mem hmem)]
    simp [ask, Prog.perform, Prog.run, execHid, grounded, exec, answer, ← hi, hpaths, Except.toOption]
  obtain ⟨u, hu, hsame'⟩ := henrolled
  refine ⟨"", "This FIDO2 token is already enrolled on this volume", u, ?_, ?_⟩
  · rw [opEnrollFido2, runOp_run, Prog.bind_def, Prog.run_bind_ok hu]
    rfl
  · rw [(hsame.trans hsame').header, hh]

/-- What holds whatever libcryptsetup answers holds over authenticators. -/
lemma wp_grounded {α : Type} {layout : String → Option OsPath} {p : Op α}
    {Q : Except String α → World → Prop} {w : World} (hp : p.wp (exec none) (fun _ => True) Q w) :
    p.wp (execHid layout) (fun _ => True) Q w :=
  Prog.wp_comap (g := grounded layout) (fun _ _ _ => trivial) hp

/-- Without a free keyslot nothing can be enrolled. -/
lemma refuses_of_full (hfull : h.Full) (read : Bool) : RefusesDuplicate h credId read := by
  intro layout is w device passphrase pin fido2Device unlockMethod unlockPin hh _ _
  have hnone : ∀ {h₁ : Header} {i : ℕ}, ¬ h.KeyslotAdded none h₁ i := by
    rintro h₁ i ⟨pw, hlt, hfree, -⟩
    simpa [hfree] using hfull i hlt
  have hbody : (opEnrollFido2 device passphrase pin fido2Device unlockMethod unlockPin).wp
      (execHid layout) (fun _ => True) (fun x v => ∃ out err,
        x = Except.ok (false, out, err) ∧ v.header device = some h) w := by
    refine wp_grounded (runOp_spec (Prog.wp_bind (Prog.wp_mono (fun x v hsame => ?_)
      (wp_readsOn (reads_of_looks (alreadyEnrolled_looks device fido2Device)) w))))
    have hv : v.header device = some h := (hsame.header device).trans hh
    cases x with
    | error e => exact ⟨_, _, rfl, hv⟩
    | ok enrolled =>
        cases enrolled with
        | true => exact ⟨_, _, rfl, hv⟩
        | false =>
            refine Prog.wp_mono (fun x u hx => ?_) (enrollToken_spec
              (reads_of_looks (prepareFido2_looks _ _)) (prepareFido2_shape fido2Device pin)
              unlockMethod unlockPin passphrase v)
            cases x with
            | ok t =>
                obtain ⟨-, h₀, h₁, h₂, i, hadded, -, hw⟩ := hx
                obtain rfl : h₀ = h := Option.some.inj (hw.stored.symm.trans hv)
                exact absurd hadded hnone
            | error e =>
                rcases hx with hsame' | ⟨h₀, h₁, i, hadded, hw, -⟩
                · exact ⟨_, _, rfl, (hsame'.header device).trans hv⟩
                · obtain rfl : h₀ = h := Option.some.inj (hw.stored.symm.trans hv)
                  exact absurd hadded hnone
  obtain ⟨out, err, hx, hv⟩ := Prog.wp_sound hbody is fun _ => trivial
  refine ⟨out, err, _, ?_, hv⟩
  rw [← hx]

end

/-! ## Enrolled again

The run that enrolls the key a second time, from a header where reading fails or where one token is
malformed.
-/

/-- The volume, with its key in the cache. -/
def unlockedVolume (h : Header) : World :=
  { volumeWith h with cache := fun _ => some (h.volumeKey, 0) }

/-- Every path resolves to one authenticator. -/
def oneAuthenticator (_ : String) : Option OsPath := some (OsPath.text "/dev/hidraw0")

/-- Nothing fails, but for the first call when the header is not to be read. -/
def failingFirst (read : Bool) (n : ℕ) : Oracle × HidTable :=
  (if read = true ∨ n ≠ 0 then Oracle.quiet else { Oracle.quiet with fault := some "" }, readyHid)

section

variable {h : Header} {credId : Bytes} {read : Bool}

lemma failingFirst_elapsed (n : ℕ) : (failingFirst read n).1.elapsed = 0 := by
  rw [failingFirst]
  split_ifs <;> rfl

lemma readable_failingFirst : (readable fun n => (failingFirst read n).1) = read := by
  cases read <;> simp [readable, failingFirst, List.range_succ, Oracle.quiet]

lemma confirms_ready (path : String) : Confirms oneAuthenticator readyHid path credId where
  opens := ⟨OsPath.text "/dev/hidraw0", by simp [oneAuthenticator, OsPath.cstring], rfl, rfl⟩
  probe := fun _ => rfl

lemma unlockedVolume_header : (unlockedVolume h).header "/dev/sdb1" = some h := by
  simp [unlockedVolume, volumeWith, World.start, World.header, FileSystem.ofList]

/-- A new credential, from the authenticator that is ready. -/
lemma enroll_ready (path : String) : ∃ enrollment,
    (enroll path (optionalPin "")).outcome (resolving oneAuthenticator readyHid)
      = Except.ok enrollment := by
  refine ⟨⟨[0], [0], List.replicate 32 0⟩, ?_⟩
  rfl

/-- The inputs on which nothing fails. -/
def Ready (i : Oracle × HidTable) : Prop := i = (Oracle.quiet, readyHid)

lemma prepareFido2_ready (path : String) (w : World) :
    (prepareFido2 path "").wp (execHid oneAuthenticator) Ready
      (fun x v => (∃ prepared, x = Except.ok prepared) ∧ v = w) w := by
  rintro i rfl
  obtain ⟨enrollment, henroll⟩ := enroll_ready path
  simp [execHid, grounded, henroll, exec, answer, Oracle.unlessHardwareFault, Oracle.quiet, orFail,
    Except.mapError]

lemma getVolumeKey_cached :
    (getVolumeKey "/dev/sdb1" "passphrase" "" "").wp (execHid oneAuthenticator) Ready
      (fun x v => x = Except.ok h.volumeKey ∧ v = unlockedVolume h) (unlockedVolume h) := by
  have hvalid : validUnlockMethod "passphrase" = true := by simp [validUnlockMethod]
  rw [getVolumeKey, if_pos hvalid]
  rintro i rfl
  simp [execHid, grounded, exec, answer, Oracle.quiet, World.cacheGet, World.cachedKey,
    unlockedVolume, live, volumeKeyCacheTtl, volumeWith, World.start]

/-- On such inputs no call of libcryptsetup fails. -/
lemma wp_ready {α : Type} {p : Op α} {Q : Except String α → World → Prop} {w : World}
    (hp : p.wp (exec none) (fun o => o.fault = none) Q w) :
    p.wp (execHid oneAuthenticator) Ready Q w := by
  refine Prog.wp_comap (g := grounded oneAuthenticator) (fun c i hi => ?_) hp
  rw [Ready] at hi
  subst hi
  rw [grounded.eq_def]
  split
  · rfl
  · split <;> rfl
  · rfl

/-- With the right key a keyslot is refused only when the table is full. -/
lemma full_of_addByKey {who : Option ℕ} {o : Oracle} {pw : Bytes} {e : String}
    (hadd : h.addByKey who o (some h.volumeKey) pw = Except.error e) : h.Full := by
  rw [Header.addByKey, Option.getD_some, if_pos rfl] at hadd
  split at hadd
  · cases hadd
  · rename_i hnone
    rw [Header.addKeyslot] at hnone
    split at hnone
    · rename_i hfree
      exact freeIndex_none hfree
    · cases hnone

/-- **A keyslot more**: with the key at hand and a free keyslot, an enrollment changes the header. -/
lemma enrollToken_adds (hfree : ¬ h.Full) (path : String) :
    (enrollToken "/dev/sdb1" "passphrase" "" "" (prepareFido2 path "")).wp
      (execHid oneAuthenticator) Ready
      (fun _ v => ∃ h', v.header "/dev/sdb1" = some h' ∧ h'.keyslots ≠ h.keyslots)
      (unlockedVolume h) := by
  have hquiet : ¬ Faulty fun o => o.fault = none := by
    rintro ⟨o, ho, hf⟩
    simp [ho] at hf
  have hstored : (unlockedVolume h).header "/dev/sdb1" = some h := unlockedVolume_header
  refine Prog.wp_bind (Prog.wp_mono (fun x v hx => ?_) (prepareFido2_ready path _))
  obtain ⟨⟨prepared, rfl⟩, rfl⟩ := hx
  refine Prog.wp_bind (Prog.wp_mono (fun x v hx => ?_) getVolumeKey_cached)
  obtain ⟨rfl, rfl⟩ := hx
  refine Prog.wp_bind (Prog.wp_mono (fun x v hx => ?_)
    (wp_ready (addKeyslotByVolumeKey_spec h.volumeKey _ _ _)))
  cases x with
  | error e =>
      obtain ⟨-, hf | hnone | ⟨o, h₀, e', -, hh₀, hadd⟩⟩ := hx
      · exact absurd hf hquiet
      · rw [hstored] at hnone
        cases hnone
      · obtain rfl : h₀ = h := Option.some.inj (hh₀.symm.trans hstored)
        exact absurd (full_of_addByKey hadd) hfree
  | ok i =>
      obtain ⟨o, h₀, h₁, -, hadd, hw⟩ := hx
      obtain rfl : h₀ = h := Option.some.inj (hw.stored.symm.trans hstored)
      obtain ⟨pw, -, hnone, hks, -⟩ := addByKey_ok hadd
      have hne : h₁.keyslots ≠ h₀.keyslots := by
        intro heq
        rw [heq] at hks
        simpa [hnone] using congrFun hks i
      refine Prog.wp_bind (Prog.wp_mono (fun x v' hx => ?_) (wp_ready (setToken_spec _ _ v)))
      cases x with
      | error e => exact ⟨h₁, (hx.1.header _).trans hw.header, hne⟩
      | ok j =>
          obtain ⟨o, h₁', h₂, -, hset, hw'⟩ := hx
          obtain rfl : h₁' = h₁ := Option.some.inj (hw'.stored.symm.trans hw.header)
          exact ⟨h₂, hw'.header, (jsonSet_keeps hset).1 ▸ hne⟩

/-- **An enrolled authenticator is enrolled again**: on a volume that is unlocked and has a free keyslot,
if the credentials of the header are not found. -/
lemma not_refusesDuplicate (hbad : ¬ (read = true ∧ AllWellFormed h)) (hfree : ¬ h.Full) :
    ¬ RefusesDuplicate h credId read := by
  intro hrefuses
  have hstored : (unlockedVolume h).header "/dev/sdb1" = some h := unlockedVolume_header
  obtain ⟨out, err, v, hrun, hv⟩ := hrefuses oneAuthenticator (failingFirst read) (unlockedVolume h)
    "/dev/sdb1" "" "" "/dev/hidraw0" "passphrase" "" hstored readable_failingFirst
    fun n => confirms_ready "/dev/hidraw0"
  have hnone : (if readable fun n => (failingFirst read n).1 then credsIn h.dump else []) = [] := by
    rw [readable_failingFirst]
    split_ifs with hread
    · exact credsIn_of_malformed fun hall => hbad ⟨hread, hall⟩
    · rfl
  obtain ⟨u, hcreds, -⟩ := existingCreds_run oneAuthenticator (failingFirst read) hstored
  have hu : u = unlockedVolume h := by
    have hkept : (existingCreds "/dev/sdb1").wp (exec none) (fun o => o.elapsed = 0)
        (fun _ v => v = unlockedVolume h) (unlockedVolume h) :=
      session_keeps_world existingCreds_session
    have hsound := Prog.wp_sound hkept (fun n => (failingFirst read n).1) failingFirst_elapsed
    rw [← existingCreds_disk oneAuthenticator, hcreds] at hsound
    exact hsound
  rw [hnone, hu] at hcreds
  have hfalse : (alreadyEnrolled "/dev/sdb1" "/dev/hidraw0").run (execHid oneAuthenticator)
      (failingFirst read) (unlockedVolume h) = (Except.ok false, unlockedVolume h) := by
    rw [alreadyEnrolled, Prog.bind_def, Prog.run_bind_ok hcreds, if_pos rfl]
    rfl
  -- the call that may have failed is behind
  have hready : ∀ n, Ready (Prog.after ((alreadyEnrolled "/dev/sdb1" "/dev/hidraw0").steps
      (execHid oneAuthenticator) (failingFirst read) (unlockedVolume h)) (failingFirst read) n) := by
    intro n
    have hpos : n + (alreadyEnrolled "/dev/sdb1" "/dev/hidraw0").steps (execHid oneAuthenticator)
        (failingFirst read) (unlockedVolume h) ≠ 0 := Nat.succ_ne_zero _
    rw [Ready, Prog.after, failingFirst, if_pos (Or.inr hpos)]
  rw [opEnrollFido2, runOp_run, Prog.bind_def, Prog.run_bind_ok hfalse] at hrun
  obtain ⟨h', hh', hne⟩ := Prog.wp_sound (enrollToken_adds hfree "/dev/hidraw0") _ hready
  obtain rfl := (Prod.mk.inj hrun).2
  obtain rfl : h' = h := Option.some.inj (hh'.symm.trans hv)
  exact hne rfl

end

/-- **Exactly when an enrolled authenticator is refused**: for every header that carries the
credential, if it can be read and all its FIDO2 tokens are well-formed, or if no keyslot is free. -/
theorem duplicate_refused_iff {h : Header} {credId : Bytes} (hc : Carries h credId) (read : Bool) :
    RefusesDuplicate h credId read ↔ (read = true ∧ AllWellFormed h) ∨ h.Full := by
  constructor
  · intro hrefuses
    by_contra hcon
    rw [not_or] at hcon
    exact not_refusesDuplicate hcon.1 hcon.2 hrefuses
  · rintro (⟨rfl, hall⟩ | hfull)
    · exact refuses_of_read hc hall
    · exact refuses_of_full hfull read

lemma mem_tokens_fidoHeader {creds : List String} {hlen : creds.length ≤ tokensMax}
    {t : String × Json} : t ∈ tableOf "tokens" (fidoHeader creds hlen).dump ↔
      ∃ i < tokensMax, ∃ cred, creds[i]? = some cred ∧ t = (toString i, (fidoToken cred).json) := by
  rw [mem_tableOf_tokens_dump]
  simp [fidoHeader, Header.ofEntries]

lemma carries_fidoHeader (creds : List String) (hlen : creds.length ≤ tokensMax) {i : ℕ}
    (hi : i < tokensMax) (hcred : creds[i]? = some "AQ==") : Carries (fidoHeader creds hlen) [1] :=
  ⟨_, mem_tokens_fidoHeader.mpr ⟨i, hi, "AQ==", hcred, rfl⟩, rfl, [1], rfl⟩

/-- A volume whose only token carries the credential. -/
theorem sole_duplicate_refused : RefusesDuplicate (fidoHeader ["AQ=="] (by decide)) [1] true := by
  have hc : Carries (fidoHeader ["AQ=="] (by decide)) [1] :=
    carries_fidoHeader _ _ (i := 0) (by decide) rfl
  refine (duplicate_refused_iff hc true).mpr (Or.inl ⟨rfl, fun t ht _ => ?_⟩)
  obtain ⟨i, -, cred, hcred, rfl⟩ := mem_tokens_fidoHeader.mp ht
  obtain rfl : cred = "AQ==" := by simpa using List.mem_of_getElem? hcred
  exact ⟨_, rfl⟩

/-- The same volume with a second FIDO2 token, of which the credential is not base64. -/
theorem malformed_hides_duplicate :
    Carries (fidoHeader ["AQ==", "!"] (by decide)) [1]
      ∧ ¬ RefusesDuplicate (fidoHeader ["AQ==", "!"] (by decide)) [1] true := by
  refine ⟨carries_fidoHeader _ _ (i := 0) (by decide) rfl, not_refusesDuplicate ?_ ?_⟩
  · rintro ⟨-, hall⟩
    have hmem : ("1", (fidoToken "!").json)
        ∈ tableOf "tokens" (fidoHeader ["AQ==", "!"] (by decide)).dump :=
      mem_tokens_fidoHeader.mpr ⟨1, by decide, "!", rfl, rfl⟩
    obtain ⟨ref, href⟩ := hall _ hmem rfl
    cases href
  · intro hfull
    have hfree := hfull 1 (by decide)
    cases hfree

end LuksEnroll
