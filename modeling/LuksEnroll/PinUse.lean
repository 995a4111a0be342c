import LuksEnroll.Fido2

/-!
# Where a FIDO2 PIN goes

* **The PIN goes to one device**, which was probed like every other one and could not be excluded,
  and only for tokens that could not be excluded there; the secret that comes back is the first that
  works, in the order of the tokens: `pin_goes_to_selected`.  That holds for every manifest, every
  outcome of every call and every number of polls.
* **A wrong PIN is sent more than once.**  The loop of the third phase goes on after `PIN_INVALID`,
  so every further token that the probe did not exclude costs another retry: `wrong_pin_cost_iff`,
  `wrong_pin_sent_twice`.

The answers of the authenticators are a table, one answer for every call.  That loses nothing: no call
is made twice, so the answers of any run of libfido2 are those of some table.  Over a table every phase
has a closed form (`…_outcome`), and the calls that a phase makes can be listed (`…_issued`); the two
theorems are read off these.
-/

namespace LuksEnroll

open Library

/-! ## The phases against a table

Each phase gets a closed form: which devices are open, what they exclude, and which of them is
selected.
-/

section Phases

variable (table : Authenticators) (tokens : List Fido2TokenRef)

/-- The paths of the manifest. -/
def connectedPaths : List String :=
  if table FidoCmd.devInfoNew ∧ (table FidoCmd.devInfoManifest).1 = fidoOk then
    (table FidoCmd.devInfoManifest).2.filterMap id
  else []

/-- The device can be opened. -/
def deviceOpens (path : String) (dev : ℕ) : Bool :=
  table (FidoCmd.devNew dev) && table (FidoCmd.devOpen dev path) == fidoOk

/-- The devices that are open after the first phase, by their positions. -/
def openedDevices : List ℕ :=
  (connectedPaths table).zipIdx.filterMap fun x => if deviceOpens table x.1 x.2 then some x.2 else none

/-- The probe answers `NO_CREDENTIALS`. -/
def excludes (dev : ℕ) (tok : Fido2TokenRef) (ti : ℕ) : Bool :=
  table (FidoCmd.assertNew dev (probeAssertion ti tok.credId))
    && (table (FidoCmd.getAssert dev (probeAssertion ti tok.credId) none)).1 == fidoErrNoCredentials

/-- The tokens that a device does not exclude, with their positions. -/
def remainingTokens (dev : ℕ) : List (Fido2TokenRef × ℕ) :=
  tokens.zipIdx.filter fun x => !excludes table dev x.1 x.2

/-- The positions of the tokens that a device does not exclude. -/
def remainingIdxs (dev : ℕ) : List ℕ := (remainingTokens table tokens dev).map Prod.snd

/-- The open devices on which a token remains. -/
def candidateDevices : List ℕ :=
  (openedDevices table).filter fun dev => !(remainingIdxs table tokens dev).isEmpty

/-- This poll sees a touch. -/
def pollTouched (round pos dev : ℕ) : Bool :=
  (table (FidoCmd.getTouchStatus round pos dev)).1 == fidoOk
    && (table (FidoCmd.getTouchStatus round pos dev)).2 != 0

/-- The first poll of a round that sees a touch. -/
def touchedIn (devs : List (ℕ × ℕ)) (round : ℕ) : Option (ℕ × ℕ) :=
  devs.find? fun x => pollTouched table round x.2 x.1

/-- The only device, or the one that is touched first. -/
def selectedDevice (rounds : ℕ) : Option ℕ :=
  if (candidateDevices table tokens).length = 1 then (candidateDevices table tokens).head?
  else ((List.range rounds).findSome?
    (touchedIn table (candidateDevices table tokens).zipIdx)).map Prod.fst

variable {table tokens}

lemma classifyProbeRet_eq_false {ret : ℤ} :
    classifyProbeRet ret = some false ↔ ret = fidoErrNoCredentials := by
  rw [classifyProbeRet]
  split_ifs with h <;> simp [h]

/-- Listing fails when there is nothing to list, and answers with the paths of the manifest otherwise.
-/
lemma listDevices_outcome : (∃ e, listDevices.outcome table = Except.error e
      ∧ connectedPaths table = [])
    ∨ listDevices.outcome table = Except.ok (connectedPaths table) := by
  unfold connectedPaths listDevices
  rw [Prog.bind_def, Prog.outcome_bind_ok (Prog.outcome_perform table _)]
  by_cases hnew : table FidoCmd.devInfoNew = true
  · rw [if_pos hnew, Prog.bind_def, Prog.outcome_bind_ok (Prog.outcome_perform table _)]
    by_cases hok : (table FidoCmd.devInfoManifest).1 = fidoOk
    · rw [if_pos (⟨hnew, hok⟩ : table FidoCmd.devInfoNew = true ∧ _)]
      split_ifs with hbad hempty
      · have hnil := hbad.resolve_left fun h => h hok
        exact Or.inl ⟨_, rfl, by rw [hnil, List.filterMap_nil]⟩
      · exact Or.inl ⟨_, rfl, hempty⟩
      · exact Or.inr rfl
    · rw [if_pos (Or.inl hok), if_neg fun h => hok h.2]
      exact Or.inl ⟨_, rfl, rfl⟩
  · rw [if_neg hnew, if_neg fun h => hnew h.1]
    exact Or.inl ⟨_, rfl, rfl⟩

/-- Opening a device answers with it when the device opens, and never fails. -/
lemma openDevice_outcome (path : String) (dev : ℕ) : (openDevice path dev).outcome table
    = Except.ok (if deviceOpens table path dev then some dev else none) := by
  unfold openDevice deviceOpens
  rw [Prog.bind_def, Prog.outcome_bind_ok (Prog.outcome_perform table _)]
  by_cases hnew : table (FidoCmd.devNew dev) = true
  · rw [if_pos hnew, Prog.bind_def, Prog.outcome_bind_ok (Prog.outcome_perform table _)]
    by_cases hopen : table (FidoCmd.devOpen dev path) = fidoOk
    · simp [hnew, hopen]
    · simp [hopen]
  · rw [if_neg hnew]
    simp [hnew]

/-- The devices that open, in the order of the manifest. -/
lemma openDevices_outcome :
    (openDevices (connectedPaths table).zipIdx).outcome table = Except.ok (openedDevices table) :=
  Prog.gather_outcome fun x _ => openDevice_outcome x.1 x.2

/-- A token matches unless the probe excludes it. -/
lemma matchToken_outcome (dev ti : ℕ) (tok : Fido2TokenRef) : (matchToken dev tok ti).outcome table
    = Except.ok (if excludes table dev tok ti then none else some ti) := by
  unfold matchToken excludes
  have hprobe : (probeCredential dev ti tok.credId).outcome table = Except.ok
      (if table (FidoCmd.assertNew dev (probeAssertion ti tok.credId)) then
        classifyProbeRet (table (FidoCmd.getAssert dev (probeAssertion ti tok.credId) none)).1
      else none) := by
    rw [probeCredential]
    rw [Prog.bind_def, Prog.outcome_bind_ok (Prog.outcome_perform table _)]
    split_ifs <;> rfl
  rw [Prog.bind_def, Prog.outcome_bind_ok hprobe]
  by_cases hnew : table (FidoCmd.assertNew dev (probeAssertion ti tok.credId)) = true
  · simp only [hnew, if_true, ne_eq, classifyProbeRet_eq_false, Bool.true_and, beq_iff_eq]
    split_ifs <;> rfl
  · simp [hnew]

/-- The tokens that match are those that remain. -/
lemma matchingTokens_outcome (dev : ℕ) :
    (matchingTokens tokens dev).outcome table = Except.ok (remainingIdxs table tokens dev) := by
  rw [matchingTokens, Prog.gather_outcome fun x _ => matchToken_outcome dev x.2 x.1, remainingIdxs,
    remainingTokens, ← List.filterMap_eq_filter, List.map_filterMap]
  congr 2
  funext x
  cases h : excludes table dev x.1 x.2 <;> simp [h]

/-- A device with no token left is not offered. -/
lemma probeDevice_outcome (dev di : ℕ) : (probeDevice tokens dev di).outcome table = Except.ok
    (if (remainingIdxs table tokens dev).isEmpty then none
      else some (di, remainingIdxs table tokens dev)) := by
  rw [probeDevice]
  rw [Prog.bind_def, Prog.outcome_bind_ok (matchingTokens_outcome dev)]
  split_ifs <;> rfl

/-- The devices on which a token remains, each with its tokens. -/
lemma probeDevices_outcome (openDevs : List ℕ) : (probeDevices tokens openDevs).outcome table
    = Except.ok (openDevs.zipIdx.filterMap fun x =>
        if (remainingIdxs table tokens x.1).isEmpty then none
        else some (x.2, remainingIdxs table tokens x.1)) :=
  Prog.gather_outcome fun x _ => probeDevice_outcome x.1 x.2

lemma atIndex_outcome {α : Type} {xs : List α} {i : ℕ} {a : α} (h : xs[i]? = some a) :
    (atIndex xs i).outcome table = Except.ok a := by
  rw [atIndex, h]
  rfl

/-- An entry of `dev_creds` stands for this device. -/
def StandsFor (table : Authenticators) (tokens : List Fido2TokenRef) (openDevs : List ℕ)
    (x : ℕ × List ℕ) (dev : ℕ) : Prop :=
  openDevs[x.1]? = some dev ∧ x.2 = remainingIdxs table tokens dev

/-- The entries stand for the open devices on which a token remains, in order. -/
lemma stands_devCreds {openDevs : List ℕ} (xs : List ℕ) (k : ℕ)
    (hxs : ∀ x ∈ xs.zipIdx k, openDevs[x.2]? = some x.1) :
    List.Forall₂ (StandsFor table tokens openDevs)
      ((xs.zipIdx k).filterMap fun x => if (remainingIdxs table tokens x.1).isEmpty then none
        else some (x.2, remainingIdxs table tokens x.1))
      (xs.filter fun dev => !(remainingIdxs table tokens dev).isEmpty) := by
  induction xs generalizing k with
  | nil => exact List.Forall₂.nil
  | cons dev xs ih =>
      rw [List.zipIdx_cons, List.forall_mem_cons] at hxs
      rw [List.zipIdx_cons, List.filterMap_cons, List.filter_cons]
      by_cases hrem : (remainingIdxs table tokens dev).isEmpty = true
      · simpa [hrem] using ih (k + 1) hxs.2
      · simp only [hrem]
        exact List.Forall₂.cons ⟨hxs.1, rfl⟩ (ih (k + 1) hxs.2)

section Choice

variable {openDevs : List ℕ} {devCreds : List (ℕ × List ℕ)} {devs : List ℕ}

/-- The first loop of the choice goes through: every candidate stands for an open device. -/
lemma touchBegin_outcome (h : List.Forall₂ (StandsFor table tokens openDevs) devCreds devs) :
    (touchBegin openDevs devCreds).outcome table = Except.ok () := by
  induction h with
  | nil => rfl
  | @cons x dev xs devs hx hxs ih =>
      rw [touchBegin, Prog.bind_def, Prog.outcome_bind_ok (atIndex_outcome hx.1)]
      exact ih

lemma cancelOthers_outcome (h : List.Forall₂ (StandsFor table tokens openDevs) devCreds devs)
    (di : ℕ) : (cancelOthers openDevs di devCreds).outcome table = Except.ok () := by
  induction h with
  | nil => rfl
  | @cons x dev xs devs hx hxs ih =>
      rw [cancelOthers]
      split_ifs with hdi
      · rw [Prog.bind_def, Prog.outcome_bind_ok (atIndex_outcome hx.1)]
        exact ih
      · exact ih

/-- A round of polls finds the position of the first touch. -/
lemma pollRound_outcome (h : List.Forall₂ (StandsFor table tokens openDevs) devCreds devs)
    (round k : ℕ) : ∃ o, (pollRound openDevs round (devCreds.zipIdx k)).outcome table = Except.ok o
      ∧ o.map Prod.fst = (touchedIn table (devs.zipIdx k) round).map Prod.snd := by
  induction h generalizing k with
  | nil => exact ⟨none, rfl, rfl⟩
  | @cons x dev xs devs hx hxs ih =>
      rw [List.zipIdx_cons, List.zipIdx_cons, pollRound, Prog.bind_def,
        Prog.outcome_bind_ok (atIndex_outcome hx.1), Prog.bind_def,
        Prog.outcome_bind_ok (Prog.outcome_perform table _), touchedIn, List.find?_cons]
      by_cases htouch : pollTouched table round k dev = true
      · have hstatus := htouch
        simp only [pollTouched, Bool.and_eq_true, beq_iff_eq, bne_iff_ne] at hstatus
        rw [if_pos hstatus, htouch]
        exact ⟨some (k, x.1), rfl, rfl⟩
      · have hstatus := htouch
        simp only [pollTouched, Bool.and_eq_true, beq_iff_eq, bne_iff_ne] at hstatus
        rw [if_neg hstatus, Bool.eq_false_iff.mpr htouch]
        exact ih (k + 1)

/-- The device chosen is the first that is touched in the first round with a touch. -/
lemma pollRounds_outcome (h : List.Forall₂ (StandsFor table tokens openDevs) devCreds devs)
    (rounds round : ℕ) : (pollRounds openDevs devCreds rounds round).outcome table = Except.ok
      (((List.range' round rounds).findSome? (touchedIn table devs.zipIdx)).map Prod.snd) := by
  induction rounds generalizing round with
  | zero => rfl
  | succ n ih =>
      obtain ⟨o, hout, hpos⟩ := pollRound_outcome h round 0
      rw [pollRounds, Prog.bind_def, Prog.outcome_bind_ok hout, List.range'_succ,
        List.findSome?_cons]
      cases htouch : touchedIn table devs.zipIdx round with
      | none =>
          rw [htouch, Option.map_none, Option.map_eq_none_iff] at hpos
          subst hpos
          exact ih (round + 1)
      | some y =>
          rw [htouch, Option.map_some, Option.map_eq_some_iff] at hpos
          obtain ⟨x, rfl, hx⟩ := hpos
          dsimp only
          rw [Prog.bind_def, Prog.outcome_bind_ok (cancelOthers_outcome h x.2), hx]
          rfl

lemma chosen_outcome (h : List.Forall₂ (StandsFor table tokens openDevs) devCreds devs) {pos dev : ℕ}
    (hpos : devs[pos]? = some dev) :
    ((atIndex devCreds pos).bind fun devCred => (atIndex openDevs devCred.1).bind fun dev =>
      (Prog.ret (some (dev, devCred.2)) : Fido (Option (ℕ × List ℕ)))).outcome table
      = Except.ok (some (dev, remainingIdxs table tokens dev)) := by
  obtain ⟨hlt, hdev⟩ := List.getElem?_eq_some_iff.mp hpos
  obtain ⟨hlen, hstands⟩ := List.forall₂_iff_get.mp h
  obtain ⟨hopen, hrem⟩ := hstands pos (hlen ▸ hlt) hlt
  rw [List.get_eq_getElem, List.get_eq_getElem, hdev] at hopen hrem
  rw [Prog.outcome_bind_ok (atIndex_outcome (List.getElem?_eq_getElem (hlen ▸ hlt))),
    Prog.outcome_bind_ok (atIndex_outcome hopen), hrem]
  rfl

/-- One candidate is chosen without a touch, several by the first touch. -/
lemma chooseDevice_outcome (h : List.Forall₂ (StandsFor table tokens openDevs) devCreds devs)
    (rounds : ℕ) : (chooseDevice rounds openDevs devCreds).outcome table = Except.ok
      ((if devs.length = 1 then devs.head?
        else ((List.range rounds).findSome? (touchedIn table devs.zipIdx)).map Prod.fst).map
          fun dev => (dev, remainingIdxs table tokens dev)) := by
  rw [chooseDevice]
  rw [h.length_eq]
  split_ifs with hone
  · obtain ⟨dev, rfl⟩ := List.length_eq_one_iff.mp hone
    exact chosen_outcome h (by rfl : [dev][0]? = some dev)
  · have htouch : (touchSelect rounds openDevs devCreds).outcome table = Except.ok
        (((List.range rounds).findSome? (touchedIn table devs.zipIdx)).map Prod.snd) := by
      rw [touchSelect, Prog.bind_def, Prog.outcome_bind_ok (touchBegin_outcome h),
        pollRounds_outcome h, List.range_eq_range']
    rw [Prog.bind_def, Prog.outcome_bind_ok htouch]
    cases hfound : (List.range rounds).findSome? (touchedIn table devs.zipIdx) with
    | none => rfl
    | some y =>
        obtain ⟨round, -, hround⟩ := List.exists_of_findSome?_eq_some hfound
        have hmem := List.mem_of_find?_eq_some hround
        exact chosen_outcome h (List.mk_mem_zipIdx_iff_getElem?.mp hmem)

end Choice

/-- With no candidate there is no device to select. -/
lemma selectedDevice_eq_none (rounds : ℕ) (h : candidateDevices table tokens = []) :
    selectedDevice table tokens rounds = none := by
  rw [selectedDevice, h]
  simp [touchedIn]

/-- **The first two phases**: nothing, or the selected device with the tokens that remain on it. -/
lemma selectDevice_outcome (table : Authenticators) (tokens : List Fido2TokenRef) (rounds : ℕ) :
    (∃ e, (selectDevice rounds tokens).outcome table = Except.error e
        ∧ selectedDevice table tokens rounds = none)
      ∨ (selectDevice rounds tokens).outcome table = Except.ok
        ((selectedDevice table tokens rounds).map fun dev => (dev, remainingIdxs table tokens dev)) := by
  rw [selectDevice]
  rcases listDevices_outcome with ⟨e, hout, hempty⟩ | hout
  · refine Or.inl ⟨e, Prog.outcome_bind_error hout, selectedDevice_eq_none rounds ?_⟩
    simp [candidateDevices, openedDevices, hempty]
  rw [Prog.bind_def, Prog.outcome_bind_ok hout, Prog.bind_def,
    Prog.outcome_bind_ok openDevices_outcome]
  rw [selectAmong]
  by_cases hopen : (openedDevices table).isEmpty = true
  · rw [if_pos hopen]
    refine Or.inl ⟨_, rfl, selectedDevice_eq_none rounds ?_⟩
    rw [List.isEmpty_iff] at hopen
    simp [candidateDevices, hopen]
  have hstands : List.Forall₂ (StandsFor table tokens (openedDevices table)) _
      (candidateDevices table tokens) :=
    stands_devCreds (openedDevices table) 0 fun x hx => List.mk_mem_zipIdx_iff_getElem?.mp hx
  rw [if_neg hopen, Prog.bind_def, Prog.outcome_bind_ok (probeDevices_outcome _)]
  split_ifs with hcreds
  · refine Or.inl ⟨_, rfl, selectedDevice_eq_none rounds ?_⟩
    rw [List.isEmpty_iff] at hcreds
    rw [hcreds, List.forall₂_nil_left_iff] at hstands
    exact hstands
  · exact Or.inr (chooseDevice_outcome hstands rounds)

/-- What the first two phases asked for, where they came to an end. -/
lemma selectDevice_issued {rounds : ℕ} {r : Option (ℕ × List ℕ)}
    (h : (selectDevice rounds tokens).outcome table = Except.ok r) :
    ∃ choice, (selectDevice rounds tokens).issued table = listDevices.issued table
        ++ ((openDevices (connectedPaths table).zipIdx).issued table
          ++ ((probeDevices tokens (openedDevices table)).issued table ++ choice))
      ∧ ∀ c ∈ choice, c.stage = 4 := by
  unfold selectDevice at h ⊢
  rcases listDevices_outcome with ⟨e, hout, -⟩ | hout
  · rw [Prog.bind_def, Prog.outcome_bind_error hout] at h
    cases h
  rw [Prog.bind_def, Prog.outcome_bind_ok hout, Prog.bind_def,
    Prog.outcome_bind_ok openDevices_outcome] at h
  rw [Prog.bind_def, Prog.issued_bind_ok hout, Prog.bind_def,
    Prog.issued_bind_ok openDevices_outcome]
  unfold selectAmong at h ⊢
  by_cases hopen : (openedDevices table).isEmpty = true
  · rw [if_pos hopen] at h
    cases h
  rw [if_neg hopen, Prog.bind_def, Prog.issued_bind_ok (probeDevices_outcome _)]
  refine ⟨_, rfl, ?_⟩
  split_ifs
  · simp
  · exact fun c hc => (chooseDevice_calls rounds _ _).of_mem_issued hc

/-- The call that opens a device is made for its own path, after the device was allocated. -/
lemma openDevice_issued {path path' : String} {dev dev' : ℕ}
    (h : FidoCmd.devOpen dev' path' ∈ (openDevice path dev).issued table) :
    dev' = dev ∧ path' = path ∧ table (FidoCmd.devNew dev) = true := by
  rw [openDevice] at h
  rw [Prog.bind_def, Prog.issued_bind_ok (Prog.outcome_perform table _)] at h
  by_cases hnew : table (FidoCmd.devNew dev) = true
  · rw [if_pos hnew, Prog.bind_def, Prog.issued_bind_ok (Prog.outcome_perform table _)] at h
    have hmem : FidoCmd.devOpen dev' path' ∈ [FidoCmd.devNew dev, FidoCmd.devOpen dev path] := by
      split_ifs at h <;> exact h
    simpa [hnew] using hmem
  · rw [if_neg hnew] at h
    simp at h

/-- A device that answered `FIDO_OK` to the open is one of the open ones. -/
lemma mem_openedDevices {rounds dev : ℕ} {path : String} {r : Option (ℕ × List ℕ)}
    (h : (selectDevice rounds tokens).outcome table = Except.ok r)
    (hmem : FidoCmd.devOpen dev path ∈ (selectDevice rounds tokens).issued table)
    (hok : table (FidoCmd.devOpen dev path) = fidoOk) : dev ∈ openedDevices table := by
  obtain ⟨choice, hissued, hchoice⟩ := selectDevice_issued h
  rw [hissued, List.mem_append, List.mem_append, List.mem_append] at hmem
  rcases hmem with hmem | hmem | hmem | hmem
  · have := listDevices_calls.of_mem_issued hmem
    simp [FidoCmd.stage] at this
  · rw [openDevices, Prog.gather_issued fun x _ => openDevice_outcome x.1 x.2,
      List.mem_flatMap] at hmem
    obtain ⟨x, hx, hmem⟩ := hmem
    obtain ⟨rfl, rfl, hnew⟩ := openDevice_issued hmem
    rw [openedDevices, List.mem_filterMap]
    exact ⟨x, hx, by simp [deviceOpens, hnew, hok]⟩
  · obtain ⟨d, -, x, -, hc⟩ := (probeDevices_calls tokens _).of_mem_issued hmem
    have := hc.stage
    simp [FidoCmd.stage] at this
  · have := hchoice _ hmem
    simp [FidoCmd.stage] at this

/-- The calls of a probe: the assertion is made, and sent if it could be made. -/
lemma probeCredential_issued (dev ti : ℕ) (credId : Bytes) :
    (probeCredential dev ti credId).issued table
      = FidoCmd.assertNew dev (probeAssertion ti credId) ::
        if table (FidoCmd.assertNew dev (probeAssertion ti credId)) then
          [FidoCmd.getAssert dev (probeAssertion ti credId) none] else [] := by
  rw [probeCredential]
  rw [Prog.bind_def, Prog.issued_bind_ok (Prog.outcome_perform table _)]
  split_ifs <;> rfl

/-- The calls that probe a device, token by token. -/
lemma probeDevice_issued (dev di : ℕ) : (probeDevice tokens dev di).issued table
    = tokens.zipIdx.flatMap fun x => (probeCredential dev x.2 x.1.credId).issued table := by
  have htoken : ∀ x : Fido2TokenRef × ℕ, (matchToken dev x.1 x.2).issued table
      = (probeCredential dev x.2 x.1.credId).issued table := by
    intro x
    rw [matchToken, Prog.bind_def]
    cases hprobe : (probeCredential dev x.2 x.1.credId).outcome table with
    | error e => rw [Prog.issued_bind_error hprobe]
    | ok probe =>
        rw [Prog.issued_bind_ok hprobe]
        split_ifs <;> exact List.append_nil _
  have htokens : (matchingTokens tokens dev).issued table
      = tokens.zipIdx.flatMap fun x => (probeCredential dev x.2 x.1.credId).issued table := by
    rw [matchingTokens, Prog.gather_issued fun x _ => matchToken_outcome dev x.2 x.1]
    exact congrArg (tokens.zipIdx.flatMap ·) (funext htoken)
  rw [probeDevice, Prog.bind_def, Prog.issued_bind_ok (matchingTokens_outcome dev), htokens]
  split_ifs <;> exact List.append_nil _

/-- The calls of the first phase are the probes of every open device for every token. -/
lemma mem_probeDevices_issued {openDevs : List ℕ} {c : FidoCmd} :
    c ∈ (probeDevices tokens openDevs).issued table ↔ ∃ dev ∈ openDevs, ∃ x ∈ tokens.zipIdx,
      c ∈ (probeCredential dev x.2 x.1.credId).issued table := by
  rw [probeDevices, Prog.gather_issued fun x _ => probeDevice_outcome x.1 x.2, List.mem_flatMap]
  simp only [probeDevice_issued, List.mem_flatMap]
  constructor
  · rintro ⟨d, hd, hc⟩
    exact ⟨d.1, List.mem_of_getElem? (List.mk_mem_zipIdx_iff_getElem?.mp hd), hc⟩
  · rintro ⟨dev, hdev, hc⟩
    obtain ⟨di, hdi⟩ := List.mem_iff_getElem?.mp hdev
    exact ⟨(dev, di), List.mk_mem_zipIdx_iff_getElem?.mpr hdi, hc⟩

/-! ## The third phase

The tokens that remain are tried in order, and each attempt is two calls, or one.
-/

/-- The assertion object for a token can be made. -/
def allocates (table : Authenticators) (dev : ℕ) (x : Fido2TokenRef × ℕ) : Bool :=
  table (FidoCmd.assertNew dev (hmacAssertion x.2 x.1.credId x.1.salt))

/-- The attempt of the third phase with one token. -/
def hmacAttempt (dev : ℕ) (pin : Option String) (x : Fido2TokenRef × ℕ) : Fido Bytes :=
  getHmacSecret dev x.2 x.1.credId x.1.salt pin

section Attempts

variable {dev : ℕ} {pin : Option String}

/-- A PIN goes out as it is, or it holds a NUL and the attempt fails before any call. -/
lemma pinCstring_sent (hpin : pin ≠ some "") : pinCstring pin = Except.ok pin
    ∨ (∃ p e, pin = some p ∧ '\x00' ∈ p.toList ∧ pinCstring pin = Except.error e) := by
  cases pin with
  | none => exact Or.inl rfl
  | some p =>
      have hp : p ≠ "" := fun h => hpin (h ▸ rfl)
      by_cases hnul : '\x00' ∈ p.toList
      · refine Or.inr ⟨p, "PIN contains a NUL byte", rfl, hnul, ?_⟩
        simp only [pinCstring, if_neg hp, if_pos hnul]
      · exact Or.inl (by simp only [pinCstring, if_neg hp, if_neg hnul])

/-- What one attempt asks for: the assertion object, and if there is one and the PIN can be sent,
the assertion. -/
lemma hmacAttempt_issued (hpin : pin ≠ some "") (x : Fido2TokenRef × ℕ) :
    (hmacAttempt dev pin x).issued table
      = FidoCmd.assertNew dev (hmacAssertion x.2 x.1.credId x.1.salt) ::
        if allocates table dev x ∧ pinCstring pin = Except.ok pin then
          [FidoCmd.getAssert dev (hmacAssertion x.2 x.1.credId x.1.salt) pin] else [] := by
  unfold hmacAttempt getHmacSecret allocates
  rw [Prog.bind_def, Prog.issued_bind_ok (Prog.outcome_perform table _)]
  by_cases hnew : table (FidoCmd.assertNew dev (hmacAssertion x.2 x.1.credId x.1.salt)) = true
  · rw [if_pos hnew]
    rcases pinCstring_sent hpin with hc | ⟨p, e, -, -, hc⟩
    · rw [if_pos (⟨hnew, hc⟩ : _ ∧ _), hc, Prog.ofExcept_ok, Prog.bind_def, Prog.bind_ret,
        Prog.bind_def, Prog.issued_bind_ok (Prog.outcome_perform table _)]
      split_ifs <;> rfl
    · rw [if_neg fun h => by simp [hc] at h, hc]
      rfl
  · rw [if_neg hnew, if_neg fun h => hnew h.1]
    rfl

/-- An attempt succeeds exactly when the assertion was made and gave a secret. -/
lemma hmacAttempt_ok_iff (hpin : pin ≠ some "") {x : Fido2TokenRef × ℕ} {secret : Bytes} :
    (hmacAttempt dev pin x).outcome table = Except.ok secret
      ↔ FidoCmd.getAssert dev (hmacAssertion x.2 x.1.credId x.1.salt) pin
            ∈ (hmacAttempt dev pin x).issued table
          ∧ table (FidoCmd.getAssert dev (hmacAssertion x.2 x.1.credId x.1.salt) pin)
            = (fidoOk, secret) ∧ secret ≠ [] := by
  rw [hmacAttempt_issued hpin]
  unfold hmacAttempt getHmacSecret allocates
  rw [Prog.bind_def, Prog.outcome_bind_ok (Prog.outcome_perform table _)]
  by_cases hnew : table (FidoCmd.assertNew dev (hmacAssertion x.2 x.1.credId x.1.salt)) = true
  · rw [if_pos hnew]
    rcases pinCstring_sent hpin with hc | ⟨p, e, -, -, hc⟩
    · rw [if_pos (⟨hnew, hc⟩ : _ ∧ _), hc, Prog.ofExcept_ok, Prog.bind_def, Prog.bind_ret,
        Prog.bind_def, Prog.outcome_bind_ok (Prog.outcome_perform table _), Prod.ext_iff]
      split_ifs with hret hempty
      · simp [hret]
      · simp only [Prog.outcome_fail, reduceCtorEq, false_iff, not_and]
        rintro - ⟨-, rfl⟩ hne
        exact hne hempty
      · simp only [ne_eq, not_not] at hret
        simp only [Prog.pure_def, Prog.outcome_ret, Except.ok.injEq, List.mem_cons, true_or,
          or_true, true_and, hret]
        exact ⟨fun h => ⟨h, h ▸ hempty⟩, fun h => h.1⟩
    · rw [if_neg fun h => by simp [hc] at h, hc]
      simp
  · rw [if_neg hnew, if_neg fun h => hnew h.1]
    simp

/-- A token that gives its secret ends the loop. -/
lemma unlockWith_cons_ok (rest : List ℕ) (lastErr : Option String) {x : Fido2TokenRef × ℕ}
    {secret : Bytes} (hx : tokens[x.2]? = some x.1)
    (h : (hmacAttempt dev pin x).outcome table = Except.ok secret) :
    (unlockWith dev tokens pin (x.2 :: rest) lastErr).outcome table = Except.ok secret
      ∧ (unlockWith dev tokens pin (x.2 :: rest) lastErr).issued table
        = (hmacAttempt dev pin x).issued table := by
  have hattempt : ((hmacAttempt dev pin x).attempt : Fido (Except String Bytes)).outcome table
      = Except.ok (Except.ok secret) := by rw [Prog.outcome_attempt, h]
  rw [unlockWith, atIndex, hx, Prog.bind_def, Prog.bind_ret]
  refine ⟨Prog.outcome_bind_ok hattempt, (Prog.issued_bind_ok hattempt).trans ?_⟩
  rw [Prog.issued_attempt]
  exact List.append_nil _

/-- A token that fails is passed over, and its error is kept. -/
lemma unlockWith_cons_error (rest : List ℕ) (lastErr : Option String) {x : Fido2TokenRef × ℕ}
    {e : String} (hx : tokens[x.2]? = some x.1)
    (h : (hmacAttempt dev pin x).outcome table = Except.error e) :
    (unlockWith dev tokens pin (x.2 :: rest) lastErr).outcome table
        = (unlockWith dev tokens pin rest (some e)).outcome table
      ∧ (unlockWith dev tokens pin (x.2 :: rest) lastErr).issued table
        = (hmacAttempt dev pin x).issued table
          ++ (unlockWith dev tokens pin rest (some e)).issued table := by
  have hattempt : ((hmacAttempt dev pin x).attempt : Fido (Except String Bytes)).outcome table
      = Except.ok (Except.error e) := by rw [Prog.outcome_attempt, h]
  rw [unlockWith, atIndex, hx, Prog.bind_def, Prog.bind_ret]
  refine ⟨Prog.outcome_bind_ok hattempt, (Prog.issued_bind_ok hattempt).trans ?_⟩
  rw [Prog.issued_attempt]

/-- The loop ends with the first attempt that succeeds. -/
lemma unlockWith_ok {xs : List (Fido2TokenRef × ℕ)} (hxs : ∀ x ∈ xs, tokens[x.2]? = some x.1)
    {lastErr : Option String} {secret : Bytes}
    (h : (unlockWith dev tokens pin (xs.map Prod.snd) lastErr).outcome table = Except.ok secret) :
    ∃ before x after, xs = before ++ x :: after
      ∧ (hmacAttempt dev pin x).outcome table = Except.ok secret
      ∧ (∀ y ∈ before, ∃ e, (hmacAttempt dev pin y).outcome table = Except.error e)
      ∧ (unlockWith dev tokens pin (xs.map Prod.snd) lastErr).issued table
        = (before ++ [x]).flatMap fun y => (hmacAttempt dev pin y).issued table := by
  induction xs generalizing lastErr with
  | nil => cases h
  | cons x xs ih =>
      rw [List.forall_mem_cons] at hxs
      rw [List.map_cons] at h ⊢
      cases hattempt : (hmacAttempt dev pin x).outcome table with
      | ok s =>
          obtain ⟨hout, hissued⟩ := unlockWith_cons_ok (xs.map Prod.snd) lastErr hxs.1 hattempt
          rw [hout] at h
          exact ⟨[], x, xs, rfl, hattempt.trans h, by simp, by simpa using hissued⟩
      | error e =>
          obtain ⟨hout, hissued⟩ := unlockWith_cons_error (xs.map Prod.snd) lastErr hxs.1 hattempt
          obtain ⟨before, y, after, rfl, hy, hbefore, hrest⟩ := ih hxs.2 (hout.symm.trans h)
          refine ⟨x :: before, y, after, rfl, hy, ?_, ?_⟩
          · rw [List.forall_mem_cons]
            exact ⟨⟨e, hattempt⟩, hbefore⟩
          · rw [hissued, hrest, List.cons_append, List.flatMap_cons]

/-- Where every attempt fails, every token is tried. -/
lemma unlockWith_issued_of_error {xs : List (Fido2TokenRef × ℕ)}
    (hxs : ∀ x ∈ xs, tokens[x.2]? = some x.1) (lastErr : Option String)
    (h : ∀ x ∈ xs, ∃ e, (hmacAttempt dev pin x).outcome table = Except.error e) :
    (unlockWith dev tokens pin (xs.map Prod.snd) lastErr).issued table
      = xs.flatMap fun x => (hmacAttempt dev pin x).issued table := by
  induction xs generalizing lastErr with
  | nil => rfl
  | cons x xs ih =>
      rw [List.forall_mem_cons] at hxs h
      obtain ⟨e, he⟩ := h.1
      rw [List.map_cons, (unlockWith_cons_error _ _ hxs.1 he).2, ih hxs.2 (some e) h.2,
        List.flatMap_cons]

end Attempts

/-- A token that remains stands at its position of the header. -/
lemma remainingTokens_getElem {dev : ℕ} :
    ∀ x ∈ remainingTokens table tokens dev, tokens[x.2]? = some x.1 := by
  intro x hx
  exact List.mk_mem_zipIdx_iff_getElem?.mp (List.mem_of_mem_filter hx)

/-! ## The whole

With a device selected, and without.
-/

/-- Where no device is selected, the calls are those of the first two phases. -/
lemma unlockFromTokens_unselected {rounds : ℕ} (pin : String)
    (h : selectedDevice table tokens rounds = none) :
    (∀ c ∈ (unlockFromTokens rounds tokens pin).issued table, c.stage ≤ 4)
      ∧ ∀ secret, (unlockFromTokens rounds tokens pin).outcome table ≠ Except.ok (some secret) := by
  rw [unlockFromTokens]
  split_ifs
  · simp
  rcases selectDevice_outcome table tokens rounds with ⟨e, hout, -⟩ | hout
  · rw [Prog.bind_def, Prog.outcome_bind_error hout, Prog.issued_bind_error hout]
    exact ⟨fun c hc => (selectDevice_calls rounds tokens).of_mem_issued hc, by simp⟩
  · rw [h, Option.map_none] at hout
    rw [Prog.bind_def, Prog.outcome_bind_ok hout, Prog.issued_bind_ok hout]
    refine ⟨fun c hc => ?_, by simp⟩
    rw [Prog.pure_def, Prog.issued_ret, List.append_nil] at hc
    exact (selectDevice_calls rounds tokens).of_mem_issued hc

/-- Where one is, they are followed by the attempts on it. -/
lemma unlockFromTokens_selected {rounds dev : ℕ} (pin : String)
    (h : selectedDevice table tokens rounds = some dev) :
    (selectDevice rounds tokens).outcome table
        = Except.ok (some (dev, remainingIdxs table tokens dev))
      ∧ (unlockFromTokens rounds tokens pin).issued table
        = (selectDevice rounds tokens).issued table ++ FidoCmd.setTimeout dev 30000 ::
          (unlockWith dev tokens (sentPin pin) (remainingIdxs table tokens dev) none).issued table
      ∧ ∀ secret, (unlockFromTokens rounds tokens pin).outcome table = Except.ok (some secret) →
        (unlockWith dev tokens (sentPin pin) (remainingIdxs table tokens dev) none).outcome table
          = Except.ok secret := by
  have htokens : ¬ tokens.isEmpty = true := by
    intro hempty
    rw [List.isEmpty_iff] at hempty
    subst hempty
    have hnil : candidateDevices table [] = [] := by
      simp [candidateDevices, remainingIdxs, remainingTokens]
    exact absurd ((selectedDevice_eq_none rounds hnil).symm.trans h) (by simp)
  rcases selectDevice_outcome table tokens rounds with ⟨e, -, hnone⟩ | hout
  · exact absurd (hnone.symm.trans h) (by simp)
  rw [h, Option.map_some] at hout
  refine ⟨hout, ?_, ?_⟩
  · rw [unlockFromTokens]
    rw [if_neg htokens, Prog.bind_def, Prog.issued_bind_ok hout, List.append_cancel_left_eq]
    show FidoCmd.setTimeout dev 30000 ::
      ((unlockWith dev tokens (sentPin pin) (remainingIdxs table tokens dev) none).bind fun secret =>
        (Prog.ret (some secret) : Fido (Option Bytes))).issued table = _
    cases hend : (unlockWith dev tokens (sentPin pin) (remainingIdxs table tokens dev) none).outcome
        table with
    | error e => rw [Prog.issued_bind_error hend]
    | ok secret => rw [Prog.issued_bind_ok hend, Prog.issued_ret, List.append_nil]
  · intro secret hsecret
    rw [unlockFromTokens] at hsecret
    rw [if_neg htokens, Prog.bind_def, Prog.outcome_bind_ok hout] at hsecret
    have hbind : ((unlockWith dev tokens (sentPin pin) (remainingIdxs table tokens dev) none).bind
        fun secret => (Prog.ret (some secret) : Fido (Option Bytes))).outcome table
        = Except.ok (some secret) := hsecret
    cases hend : (unlockWith dev tokens (sentPin pin) (remainingIdxs table tokens dev) none).outcome
        table with
    | error e =>
        rw [Prog.outcome_bind_error hend] at hbind
        cases hbind
    | ok s =>
        rw [Prog.outcome_bind_ok hend, Prog.outcome_ret, Except.ok.injEq, Option.some.injEq] at hbind
        rw [hbind]

end Phases

/-! ## The PIN and the probes

From the closed forms to statements about the log of a run, which name no table: what was opened,
probed for, excluded and sent.
-/

/-- The calls that were made and their answers, in order. -/
abbrev FidoLog := List (Answered FidoCmd FidoReply)

/-- The device was opened. -/
def OpenedDevice (log : FidoLog) (dev : ℕ) : Prop :=
  ∃ path, (⟨FidoCmd.devOpen dev path, fidoOk⟩ : Answered FidoCmd FidoReply) ∈ log

/-- The device was probed for a token without a PIN: the assertion was answered, or libfido2 had no
memory for it. -/
def ProbedFor (log : FidoLog) (dev : ℕ) (tok : Fido2TokenRef) (ti : ℕ) : Prop :=
  (∃ reply, (⟨FidoCmd.getAssert dev (probeAssertion ti tok.credId) none, reply⟩ :
      Answered FidoCmd FidoReply) ∈ log)
    ∨ (⟨FidoCmd.assertNew dev (probeAssertion ti tok.credId), false⟩ :
      Answered FidoCmd FidoReply) ∈ log

/-- The probe of a token was answered with `NO_CREDENTIALS`. -/
def Excluded (log : FidoLog) (dev : ℕ) (tok : Fido2TokenRef) (ti : ℕ) : Prop :=
  ∃ out, (⟨FidoCmd.getAssert dev (probeAssertion ti tok.credId) none, (fidoErrNoCredentials, out)⟩ :
    Answered FidoCmd FidoReply) ∈ log

/-- The PIN is passed to a device, in this assertion. -/
def SendsPin (e : Answered FidoCmd FidoReply) (dev : ℕ) (a : Assertion) : Prop :=
  ∃ p, e.1 = FidoCmd.getAssert dev a (some p)

/-- Where the PIN may go. -/
structure PinDiscipline (tokens : List Fido2TokenRef) (log : FidoLog) : Prop where
  /-- It goes to at most one device, -/
  one_device : ∀ e ∈ log, ∀ e' ∈ log, ∀ dev dev' a a',
    SendsPin e dev a → SendsPin e' dev' a' → dev = dev'
  /-- after every open device was probed for every token, -/
  probed_first : ∀ earlier e later dev a, log = earlier ++ e :: later → SendsPin e dev a →
    ∀ dev', OpenedDevice log dev' → ∀ ti tok, tokens[ti]? = some tok → ProbedFor earlier dev' tok ti
  /-- to a device that did not exclude every token, -/
  some_token_left : ∀ e ∈ log, ∀ dev a, SendsPin e dev a →
    ∃ ti tok, tokens[ti]? = some tok ∧ ¬ Excluded log dev tok ti
  /-- and in assertions for tokens that it did not exclude. -/
  for_token_left : ∀ e ∈ log, ∀ dev a, SendsPin e dev a →
    ∃ ti tok, tokens[ti]? = some tok ∧ a = hmacAssertion ti tok.credId tok.salt
      ∧ ¬ Excluded log dev tok ti

/-- The assertion for a token gave this secret. -/
def GaveSecret (log : FidoLog) (dev : ℕ) (pin : Option String) (tok : Fido2TokenRef) (ti : ℕ)
    (secret : Bytes) : Prop :=
  secret ≠ [] ∧ (⟨FidoCmd.getAssert dev (hmacAssertion ti tok.credId tok.salt) pin,
    (fidoOk, secret)⟩ : Answered FidoCmd FidoReply) ∈ log

/-- The token was tried. -/
def Attempted (log : FidoLog) (dev : ℕ) (tok : Fido2TokenRef) (ti : ℕ) : Prop :=
  ∃ made, (⟨FidoCmd.assertNew dev (hmacAssertion ti tok.credId tok.salt), made⟩ :
    Answered FidoCmd FidoReply) ∈ log

/-- The secret is that of the first token in order which gave one, on the only device that was asked
for secrets: every token before it was excluded there, or tried in vain. -/
def FirstSecret (tokens : List Fido2TokenRef) (pin : Option String) (log : FidoLog)
    (secret : Bytes) : Prop :=
  ∃ dev ti tok, tokens[ti]? = some tok ∧ ¬ Excluded log dev tok ti
    ∧ GaveSecret log dev pin tok ti secret
    ∧ (∀ tj u, tj < ti → tokens[tj]? = some u →
      Excluded log dev u tj ∨ Attempted log dev u tj ∧ ∀ s, ¬ GaveSecret log dev pin u tj s)
    ∧ ∀ dev' a p reply, (⟨FidoCmd.getAssert dev' a p, reply⟩ : Answered FidoCmd FidoReply) ∈ log →
      a.hmacSalt ≠ none → dev' = dev

section Discipline

variable {table : Authenticators} {tokens : List Fido2TokenRef} {rounds dev : ℕ} {pin : String}

lemma selectedDevice_mem (h : selectedDevice table tokens rounds = some dev) :
    dev ∈ candidateDevices table tokens := by
  rw [selectedDevice] at h
  split_ifs at h with hone
  · exact List.mem_of_mem_head? h
  · obtain ⟨y, hfound, rfl⟩ := Option.map_eq_some_iff.mp h
    obtain ⟨round, -, hround⟩ := List.exists_of_findSome?_eq_some hfound
    have hmem := List.mem_of_find?_eq_some hround
    exact List.mem_of_getElem? (List.mk_mem_zipIdx_iff_getElem?.mp hmem)

lemma selectedDevice_opened (h : selectedDevice table tokens rounds = some dev) :
    dev ∈ openedDevices table := List.mem_of_mem_filter (selectedDevice_mem h)

/-- Calls that can carry a PIN or ask for a secret come last. -/
lemma stage_getAssert {d : ℕ} {a : Assertion} {p : Option String}
    (h : (FidoCmd.getAssert d a p).stage ≤ 5) : a.hmacSalt = none ∧ p = none := by
  dsimp only [FidoCmd.stage] at h
  split_ifs at h with hnone
  · simpa using hnone
  · omega

/-- A call of the first four stages sends no PIN. -/
lemma not_sendsPin {e : Answered FidoCmd FidoReply} (hstage : e.1.stage ≤ 4) {d : ℕ}
    {a : Assertion} : ¬ SendsPin e d a := by
  rintro ⟨p, hc⟩
  rw [hc] at hstage
  exact absurd (stage_getAssert (Nat.le_succ_of_le hstage)).2 (by simp)

/-- The calls of the third phase are for the tokens that remain. -/
lemma mem_thirdPhase {c : FidoCmd} (hc : c ∈ (unlockWith dev tokens (sentPin pin)
      (remainingIdxs table tokens dev) none).issued table) :
    ∃ x ∈ remainingTokens table tokens dev, Asserting dev (sentPin pin) x.1 x.2 c := by
  obtain ⟨ti, hti, tok, htok, hc⟩ :=
    (unlockWith_calls dev tokens (sentPin_ne_empty pin) _ none).of_mem_issued hc
  obtain ⟨x, hx, rfl⟩ := List.mem_map.mp hti
  rw [remainingTokens_getElem x hx, Option.some.injEq] at htok
  exact ⟨x, hx, htok ▸ hc⟩

/-- A probe is only made with an assertion object. -/
lemma assertNew_of_probe {r : Option (ℕ × List ℕ)} {d ti : ℕ} {credId : Bytes}
    (h : (selectDevice rounds tokens).outcome table = Except.ok r)
    (hmem : FidoCmd.getAssert d (probeAssertion ti credId) none
      ∈ (selectDevice rounds tokens).issued table) :
    table (FidoCmd.assertNew d (probeAssertion ti credId)) = true := by
  obtain ⟨choice, hissued, hchoice⟩ := selectDevice_issued h
  rw [hissued, List.mem_append, List.mem_append, List.mem_append] at hmem
  rcases hmem with hmem | hmem | hmem | hmem
  · have := listDevices_calls.of_mem_issued hmem
    simp [FidoCmd.stage, probeAssertion, setupAssertCommon] at this
  · obtain ⟨x, -, hc | hc⟩ := (openDevices_calls _).of_mem_issued hmem <;> cases hc
  · obtain ⟨dev, -, x, -, hc⟩ := mem_probeDevices_issued.mp hmem
    rw [probeCredential_issued] at hc
    split_ifs at hc with hnew
    · simp only [List.mem_cons, List.not_mem_nil, or_false, reduceCtorEq, false_or,
        FidoCmd.getAssert.injEq] at hc
      obtain ⟨rfl, ha, -⟩ := hc
      rw [ha]
      exact hnew
    · simp at hc
  · have := hchoice _ hmem
    simp [FidoCmd.stage, probeAssertion, setupAssertCommon] at this

/-- Every open device was probed for every token before the first two phases ended. -/
lemma probedFor_of_opened {r : Option (ℕ × List ℕ)} {d ti : ℕ} {tok : Fido2TokenRef}
    (h : (selectDevice rounds tokens).outcome table = Except.ok r) (hd : d ∈ openedDevices table)
    (htok : tokens[ti]? = some tok) :
    ProbedFor ((selectDevice rounds tokens).talk table) d tok ti
      ∧ (excludes table d tok ti = true → Excluded ((selectDevice rounds tokens).talk table) d tok ti) := by
  have hsubset : ∀ c ∈ (probeCredential d ti tok.credId).issued table,
      c ∈ (selectDevice rounds tokens).issued table := by
    intro c hc
    obtain ⟨choice, hissued, -⟩ := selectDevice_issued h
    have hmem := mem_probeDevices_issued.mpr
      ⟨d, hd, (tok, ti), List.mk_mem_zipIdx_iff_getElem?.mpr htok, hc⟩
    rw [hissued]
    simp [hmem]
  rw [probeCredential_issued] at hsubset
  by_cases hnew : table (FidoCmd.assertNew d (probeAssertion ti tok.credId)) = true
  · have hprobe := hsubset _ (by rw [if_pos hnew]; simp :
      FidoCmd.getAssert d (probeAssertion ti tok.credId) none ∈ _)
    refine ⟨Or.inl ⟨_, Prog.mem_talk.mpr ⟨hprobe, rfl⟩⟩, fun hex => ?_⟩
    refine ⟨(table (FidoCmd.getAssert d (probeAssertion ti tok.credId) none)).2,
      Prog.mem_talk.mpr ⟨hprobe, ?_⟩⟩
    simp only [excludes, Bool.and_eq_true, beq_iff_eq] at hex
    rw [← hex.2]
  · have halloc := hsubset _ (List.mem_cons_self ..)
    refine ⟨Or.inr (Prog.mem_talk.mpr ⟨halloc, (Bool.eq_false_iff.mpr hnew).symm⟩), fun hex => ?_⟩
    simp only [excludes, Bool.and_eq_true] at hex
    exact absurd hex.1 hnew

/-- A log that shows a token excluded shows what the table answers. -/
lemma excludes_of_excluded {d ti : ℕ} {tok : Fido2TokenRef}
    (h : selectedDevice table tokens rounds = some dev)
    (hex : Excluded ((unlockFromTokens rounds tokens pin).talk table) d tok ti) :
    excludes table d tok ti = true := by
  obtain ⟨out, hmem⟩ := hex
  obtain ⟨hmem, hreply⟩ := Prog.mem_talk.mp hmem
  obtain ⟨hout, hissued, -⟩ := unlockFromTokens_selected pin h
  rw [hissued, List.mem_append, List.mem_cons] at hmem
  rcases hmem with hmem | hmem | hmem
  · simp only [excludes, Bool.and_eq_true, beq_iff_eq]
    exact ⟨assertNew_of_probe hout hmem, by rw [← hreply]⟩
  · cases hmem
  · obtain ⟨x, -, hc | hc⟩ := mem_thirdPhase hmem
    · cases hc
    · simp [probeAssertion, hmacAssertion, setupAssertCommon] at hc

/-- A token remains on a device exactly when the header has it and no probe excluded it. -/
lemma mem_remainingTokens {x : Fido2TokenRef × ℕ} :
    x ∈ remainingTokens table tokens dev
      ↔ tokens[x.2]? = some x.1 ∧ excludes table dev x.1 x.2 = false := by
  rw [remainingTokens, List.mem_filter, Bool.not_eq_true', ← List.mk_mem_zipIdx_iff_getElem?]

/-- A call that carries the PIN is made in the third phase, for a token that remains. -/
lemma sendsPin_mem (h : selectedDevice table tokens rounds = some dev)
    {e : Answered FidoCmd FidoReply} (he : e ∈ (unlockFromTokens rounds tokens pin).talk table)
    {d : ℕ} {a : Assertion} (hpin : SendsPin e d a) :
    d = dev ∧ e.1 ∉ (selectDevice rounds tokens).issued table
      ∧ ∃ ti tok, tokens[ti]? = some tok ∧ a = hmacAssertion ti tok.credId tok.salt
        ∧ ¬ Excluded ((unlockFromTokens rounds tokens pin).talk table) d tok ti := by
  obtain ⟨c, r⟩ := e
  obtain ⟨p, hc⟩ := hpin
  dsimp only at hc
  subst hc
  obtain ⟨hmem, -⟩ := Prog.mem_talk.mp he
  have hfront : FidoCmd.getAssert d a (some p) ∉ (selectDevice rounds tokens).issued table := by
    intro hmem
    have hstage := (selectDevice_calls rounds tokens).of_mem_issued hmem
    exact absurd (stage_getAssert (Nat.le_succ_of_le hstage)).2 (by simp)
  obtain ⟨-, hissued, -⟩ := unlockFromTokens_selected pin h
  rw [hissued, List.mem_append, List.mem_cons] at hmem
  rcases hmem with hmem | hmem | hmem
  · exact absurd hmem hfront
  · cases hmem
  · obtain ⟨x, hx, hc | hc⟩ := mem_thirdPhase hmem
    · cases hc
    · simp only [FidoCmd.getAssert.injEq] at hc
      obtain ⟨rfl, rfl, -⟩ := hc
      obtain ⟨htok, hrem⟩ := mem_remainingTokens.mp hx
      refine ⟨rfl, hfront, x.2, x.1, htok, rfl, fun hex => ?_⟩
      rw [excludes_of_excluded h hex] at hrem
      cases hrem

/-- What does not occur in the first part of a list leaves that part before it. -/
lemma prefix_of_notMem {α : Type} {front back earlier later : List α} {e : α}
    (h : front ++ back = earlier ++ e :: later) (he : e ∉ front) : front <+: earlier := by
  rcases List.append_eq_append_iff.mp h with ⟨as, hearlier, -⟩ | ⟨bs, hfront, hback⟩
  · exact ⟨as, hearlier.symm⟩
  · cases bs with
    | nil => exact ⟨[], by simpa using hfront⟩
    | cons b bs =>
        simp only [List.cons_append, List.cons.injEq] at hback
        exact absurd (by rw [hfront, hback.1]; simp) he

/-- Every run keeps the discipline, whatever the table answers. -/
lemma pinDiscipline_talk (table : Authenticators) (tokens : List Fido2TokenRef) (rounds : ℕ)
    (pin : String) : PinDiscipline tokens ((unlockFromTokens rounds tokens pin).talk table) := by
  cases h : selectedDevice table tokens rounds with
  | none =>
      -- no call of the first two phases carries a PIN
      have hnever : ∀ e ∈ (unlockFromTokens rounds tokens pin).talk table, ∀ d a,
          ¬ SendsPin e d a := fun e he d a =>
        not_sendsPin ((unlockFromTokens_unselected pin h).1 _ (Prog.mem_talk.mp he).1)
      refine ⟨?_, ?_, ?_, ?_⟩
      · exact fun e he _ _ d _ a _ hpin => absurd hpin (hnever e he d a)
      · intro earlier e later d a hlog hpin
        exact absurd hpin (hnever e (by rw [hlog]; simp) d a)
      · exact fun e he d a hpin => absurd hpin (hnever e he d a)
      · exact fun e he d a hpin => absurd hpin (hnever e he d a)
  | some dev =>
      obtain ⟨hout, hissued, -⟩ := unlockFromTokens_selected pin h
      refine ⟨?_, ?_, ?_, ?_⟩
      · intro e he e' he' d d' a a' hpin hpin'
        rw [(sendsPin_mem h he hpin).1, (sendsPin_mem h he' hpin').1]
      · intro earlier e later d a hlog hpin d' hopened ti tok htok
        have he : e ∈ (unlockFromTokens rounds tokens pin).talk table := by rw [hlog]; simp
        -- the first two phases are over when `e` is issued
        have hsplit := hlog
        rw [Prog.talk, hissued, List.map_append] at hsplit
        have hfront : (selectDevice rounds tokens).talk table <+: earlier :=
          prefix_of_notMem hsplit fun hmem =>
            (sendsPin_mem h he hpin).2.1 (Prog.mem_talk.mp hmem).1
        have hopen : d' ∈ openedDevices table := by
          obtain ⟨path, hmem⟩ := hopened
          obtain ⟨hmem, hreply⟩ := Prog.mem_talk.mp hmem
          refine mem_openedDevices hout ?_ hreply.symm
          rw [hissued, List.mem_append, List.mem_cons] at hmem
          rcases hmem with hmem | hmem | hmem
          · exact hmem
          · cases hmem
          · obtain ⟨x, -, hc | hc⟩ := mem_thirdPhase hmem <;> cases hc
        rcases (probedFor_of_opened hout hopen htok).1 with ⟨reply, hmem⟩ | hmem
        · exact Or.inl ⟨reply, hfront.subset hmem⟩
        · exact Or.inr (hfront.subset hmem)
      · intro e he d a hpin
        obtain ⟨-, -, ti, tok, htok, -, hex⟩ := sendsPin_mem h he hpin
        exact ⟨ti, tok, htok, hex⟩
      · intro e he d a hpin
        exact (sendsPin_mem h he hpin).2.2

/-- The tokens that remain are in the order of the header. -/
lemma remainingTokens_sorted (table : Authenticators) (tokens : List Fido2TokenRef) (dev : ℕ) :
    (remainingTokens table tokens dev).Pairwise fun x y => x.2 < y.2 := by
  refine List.Pairwise.filter _ ?_
  rw [← List.pairwise_map (f := Prod.snd) (R := (· < ·)), List.zipIdx_map_snd]
  exact List.pairwise_lt_range'

/-- An assertion of the third phase belongs to the attempt with its token. -/
lemma getAssert_mem_attempt {xs : List (Fido2TokenRef × ℕ)} {x : Fido2TokenRef × ℕ}
    (hxs : ∀ y ∈ xs, tokens[y.2]? = some y.1) (hx : tokens[x.2]? = some x.1)
    (hmem : FidoCmd.getAssert dev (hmacAssertion x.2 x.1.credId x.1.salt) (sentPin pin)
      ∈ xs.flatMap fun y => (hmacAttempt dev (sentPin pin) y).issued table) :
    FidoCmd.getAssert dev (hmacAssertion x.2 x.1.credId x.1.salt) (sentPin pin)
      ∈ (hmacAttempt dev (sentPin pin) x).issued table := by
  obtain ⟨y, hy, hc⟩ := List.mem_flatMap.mp hmem
  have hsame : y = x := by
    have hcalls := (getHmacSecret_calls dev y.2 y.1 (sentPin_ne_empty pin)).of_mem_issued hc
    have hidx : x.2 = y.2 := by
      rcases hcalls with hcall | hcall
      · cases hcall
      · simp only [FidoCmd.getAssert.injEq, hmacAssertion, setupAssertCommon,
          Assertion.mk.injEq] at hcall
        exact hcall.2.1.1
    have htok := hxs y hy
    rw [← hidx, hx, Option.some.injEq] at htok
    exact Prod.ext htok.symm hidx.symm
  exact hsame ▸ hc

/-- A call that asks for a secret is made in the third phase. -/
lemma mem_third_of_hmac (h : selectedDevice table tokens rounds = some dev) {d : ℕ} {a : Assertion}
    {p : Option String} (ha : a.hmacSalt ≠ none)
    (hmem : FidoCmd.getAssert d a p ∈ (unlockFromTokens rounds tokens pin).issued table) :
    FidoCmd.getAssert d a p ∈ (unlockWith dev tokens (sentPin pin)
      (remainingIdxs table tokens dev) none).issued table := by
  obtain ⟨-, hissued, -⟩ := unlockFromTokens_selected pin h
  rw [hissued, List.mem_append, List.mem_cons] at hmem
  rcases hmem with hmem | hmem | hmem
  · have hstage := (selectDevice_calls rounds tokens).of_mem_issued hmem
    exact absurd (stage_getAssert (Nat.le_succ_of_le hstage)).1 ha
  · cases hmem
  · exact hmem

/-- Assertions for a secret go to the selected device only. -/
lemma hmac_on_selected (h : selectedDevice table tokens rounds = some dev) {d : ℕ} {a : Assertion}
    {p : Option String} (ha : a.hmacSalt ≠ none)
    (hmem : FidoCmd.getAssert d a p ∈ (unlockFromTokens rounds tokens pin).issued table) :
    d = dev := by
  obtain ⟨x, -, hc | hc⟩ := mem_thirdPhase (mem_third_of_hmac h ha hmem)
  · cases hc
  · simp only [FidoCmd.getAssert.injEq] at hc
    exact hc.1

/-- The secret that comes back is the first that works. -/
lemma firstSecret_talk {secret : Bytes}
    (hsecret : (unlockFromTokens rounds tokens pin).outcome table = Except.ok (some secret)) :
    FirstSecret tokens (sentPin pin) ((unlockFromTokens rounds tokens pin).talk table) secret := by
  cases h : selectedDevice table tokens rounds with
  | none => exact absurd hsecret ((unlockFromTokens_unselected pin h).2 secret)
  | some dev =>
      obtain ⟨hout, hissued, hthird⟩ := unlockFromTokens_selected pin h
      obtain ⟨before, x, after, hsplit, hx, hbefore, hcalls⟩ :=
        unlockWith_ok remainingTokens_getElem (hthird secret hsecret)
      rw [← remainingIdxs] at hcalls
      have hattempts : ∀ y ∈ before ++ [x], y ∈ remainingTokens table tokens dev := by
        intro y hy
        rw [hsplit]
        rcases List.mem_append.mp hy with hy | hy
        · exact List.mem_append_left _ hy
        · exact List.mem_append_right _ (List.mem_singleton.mp hy ▸ List.mem_cons_self ..)
      have htried : ∀ y ∈ before ++ [x], ∀ c ∈ (hmacAttempt dev (sentPin pin) y).issued table,
          c ∈ (unlockFromTokens rounds tokens pin).issued table := by
        intro y hy c hc
        rw [hissued, hcalls]
        exact List.mem_append_right _ (List.mem_cons_of_mem _ (List.mem_flatMap.mpr ⟨y, hy, hc⟩))
      obtain ⟨hxtok, hxrem⟩ := mem_remainingTokens.mp (hattempts x (by simp))
      obtain ⟨hxmem, hxreply, hxne⟩ := (hmacAttempt_ok_iff (sentPin_ne_empty pin)).mp hx
      refine ⟨dev, x.2, x.1, hxtok, fun hex => ?_, ⟨hxne, Prog.mem_talk.mpr
        ⟨htried x (by simp) _ hxmem, hxreply.symm⟩⟩, ?_, ?_⟩
      · rw [excludes_of_excluded h hex] at hxrem
        cases hxrem
      · intro tj u hlt hu
        by_cases hex : excludes table dev u tj = true
        · obtain ⟨out, hmem⟩ := (probedFor_of_opened hout (selectedDevice_opened h) hu).2 hex
          refine Or.inl ⟨out, ?_⟩
          rw [Prog.talk, hissued, List.map_append]
          exact List.mem_append_left _ hmem
        -- a token that remains and comes before `x` was tried before it
        have hmem : (u, tj) ∈ before := by
          have hrem : (u, tj) ∈ remainingTokens table tokens dev :=
            mem_remainingTokens.mpr ⟨hu, Bool.eq_false_iff.mpr hex⟩
          have hsorted := remainingTokens_sorted table tokens dev
          rw [hsplit] at hrem hsorted
          rcases List.mem_append.mp hrem with hrem | hrem
          · exact hrem
          · have hlater := (List.pairwise_append.mp hsorted).2.1
            rcases List.mem_cons.mp hrem with rfl | hrem
            · exact absurd hlt (lt_irrefl _)
            · exact absurd hlt (not_lt_of_gt ((List.pairwise_cons.mp hlater).1 _ hrem))
        have hall := htried (u, tj) (List.mem_append_left _ hmem)
        refine Or.inr ⟨⟨_, Prog.mem_talk.mpr ⟨hall _ ?_, rfl⟩⟩, ?_⟩
        · rw [hmacAttempt_issued (sentPin_ne_empty pin)]
          exact List.mem_cons_self ..
        · rintro s ⟨hs, hgave⟩
          obtain ⟨hgave, hreply⟩ := Prog.mem_talk.mp hgave
          have hthird := mem_third_of_hmac h (by simp [hmacAssertion]) hgave
          rw [hcalls] at hthird
          have hown := @getAssert_mem_attempt table tokens dev pin _ (u, tj)
            (fun y hy => (mem_remainingTokens.mp (hattempts y hy)).1) hu hthird
          have hok := (hmacAttempt_ok_iff (sentPin_ne_empty pin)).mpr ⟨hown, hreply.symm, hs⟩
          obtain ⟨e, he⟩ := hbefore (u, tj) hmem
          rw [hok] at he
          cases he
      · intro d a p reply hmem ha
        exact hmac_on_selected h ha (Prog.mem_talk.mp hmem).1

end Discipline

/-- **The PIN goes to one device.**  Whatever libfido2 answers to every single call, and however long
it takes until a device is touched, the PIN is passed to at most one device, after every open device
was probed for every token, and only for tokens which that device did not exclude.  The secret that
is returned is that of the first token in order that gave one. -/
theorem pin_goes_to_selected (rounds : ℕ) (tokens : List Fido2TokenRef) (pin : String)
    (os : ℕ → Authenticators) :
    PinDiscipline tokens ((unlockFromTokens rounds tokens pin).answers Prog.free os ())
      ∧ ∀ secret, ((unlockFromTokens rounds tokens pin).run Prog.free os ()).1
          = Except.ok (some secret) →
        FirstSecret tokens (sentPin pin)
          ((unlockFromTokens rounds tokens pin).answers Prog.free os ()) secret := by
  obtain ⟨table, hout, htalk⟩ := (unlockFromTokens_fresh rounds tokens pin).tabulated os
  rw [hout, htalk]
  exact ⟨pinDiscipline_talk table tokens rounds pin, fun secret => firstSecret_talk⟩

/-- Two keys: the first has none of the credentials, the second takes the PIN and answers for the
second credential only. -/
def twoKeys : Authenticators
  | FidoCmd.devInfoNew => true
  | FidoCmd.devInfoManifest => (fidoOk, [some "/dev/hidraw0", some "/dev/hidraw1"])
  | FidoCmd.devNew _ => true
  | FidoCmd.devOpen _ _ => fidoOk
  | FidoCmd.assertNew _ _ => true
  | FidoCmd.getAssert dev _ none => (if dev = 0 then fidoErrNoCredentials else fidoErrPinRequired, [])
  | FidoCmd.getAssert _ a (some _) =>
      if a.allowCred = [2] then (fidoOk, [42]) else (fidoErrNoCredentials, [])
  | FidoCmd.getTouchBegin _ => ()
  | FidoCmd.getTouchStatus _ _ _ => (fidoOk, 0)
  | FidoCmd.cancel _ => ()
  | FidoCmd.setTimeout _ _ => ()

/-- The secret of the second token comes back, and the PIN has not been to the first key. -/
theorem secret_of_second_token :
    FirstSecret [⟨[1], [11]⟩, ⟨[2], [12]⟩] (some "1234")
      ((unlockFromTokens 0 [⟨[1], [11]⟩, ⟨[2], [12]⟩] "1234").answers Prog.free
        (fun _ => twoKeys) ()) [42] := by
  have hrun : ((unlockFromTokens 0 [⟨[1], [11]⟩, ⟨[2], [12]⟩] "1234").run Prog.free
      (fun _ => twoKeys) ()).1 = Except.ok (some [42]) := by decide +kernel
  exact (pin_goes_to_selected 0 _ "1234" fun _ => twoKeys).2 [42] hrun

/-! ## What a wrong PIN costs

The attempts that carry the PIN are counted in the log.  Every token that remains and can be asked
for costs one.
-/

/-- An assertion with a PIN that the device answers with `PIN_INVALID`. -/
def isPinAttempt (dev : ℕ) : Answered FidoCmd FidoReply → Bool
  | ⟨FidoCmd.getAssert d _ (some _), reply⟩ => d == dev && reply.1 == fidoErrPinInvalid
  | _ => false

/-- The retries that a call costs a device. -/
def pinAttempts (dev : ℕ) (log : FidoLog) : ℕ := log.countP (isPinAttempt dev)

/-- Every device answers this PIN with `PIN_INVALID`. -/
def WrongPin (pin : String) (table : Authenticators) : Prop :=
  ∀ dev a, (table (FidoCmd.getAssert dev a (some pin))).1 = fidoErrPinInvalid

/-- A PIN that libfido2 is given: not an empty one, which is none, and not one with a NUL byte. -/
def CanSend (pin : String) : Prop := pin ≠ "" ∧ '\x00' ∉ pin.toList

instance (pin : String) : Decidable (CanSend pin) :=
  inferInstanceAs (Decidable (pin ≠ "" ∧ '\x00' ∉ pin.toList))

/-- The attempt with this token sends the PIN. -/
def sendsFor (table : Authenticators) (dev : ℕ) (pin : String) (x : Fido2TokenRef × ℕ) : Bool :=
  decide (CanSend pin) && allocates table dev x

section Cost

variable {table : Authenticators} {tokens : List Fido2TokenRef} {rounds dev : ℕ} {pin : String}

lemma pinAttempts_eq_zero {log : FidoLog} (h : ∀ e ∈ log, ∀ d a, ¬ SendsPin e d a) (d : ℕ) :
    pinAttempts d log = 0 := by
  refine List.countP_eq_zero.mpr fun e he => ?_
  obtain ⟨c, r⟩ := e
  cases c with
  | getAssert d' a p =>
      cases p with
      | none => simp [isPinAttempt]
      | some p => exact absurd ⟨p, rfl⟩ (h _ he d' a)
  | _ => simp [isPinAttempt]

/-- A PIN that passes `pin_cstring` is none, or can be sent. -/
lemma sentPin_of_pinCstring (h : pinCstring (sentPin pin) = Except.ok (sentPin pin)) :
    sentPin pin = none ∨ sentPin pin = some pin ∧ CanSend pin := by
  by_cases hpin : pin = ""
  · exact Or.inl (if_pos hpin)
  · have hsent : sentPin pin = some pin := if_neg hpin
    refine Or.inr ⟨hsent, hpin, fun hnul => ?_⟩
    rw [hsent] at h
    simp only [pinCstring, if_neg hpin, if_pos hnul, reduceCtorEq] at h

/-- One attempt costs at most one retry, and only if it sends the PIN. -/
lemma pinAttempts_hmacAttempt_le (d : ℕ) (x : Fido2TokenRef × ℕ) :
    pinAttempts d ((hmacAttempt dev (sentPin pin) x).talk table)
      ≤ if sendsFor table dev pin x then 1 else 0 := by
  by_cases hsend : sendsFor table dev pin x = true
  · rw [if_pos hsend, pinAttempts, Prog.talk, hmacAttempt_issued (sentPin_ne_empty pin),
      List.map_cons, List.countP_cons_of_neg (by simp [isPinAttempt])]
    refine List.countP_le_length.trans ?_
    split_ifs <;> simp
  · rw [if_neg hsend]
    refine le_of_eq (pinAttempts_eq_zero (fun e he d' a hpin => ?_) d)
    obtain ⟨p, hc⟩ := hpin
    have hmem := (Prog.mem_talk.mp he).1
    rw [hmacAttempt_issued (sentPin_ne_empty pin), hc] at hmem
    split_ifs at hmem with hsent
    · simp only [List.mem_cons, List.not_mem_nil, or_false, reduceCtorEq, false_or,
        FidoCmd.getAssert.injEq] at hmem
      rcases sentPin_of_pinCstring hsent.2 with hnone | ⟨-, hcan⟩
      · exact absurd (hmem.2.2.trans hnone) (by simp)
      · exact hsend (by simp [sendsFor, hcan, hsent.1])
    · simp at hmem

lemma pinAttempts_hmacAttempt_eq (hwrong : WrongPin pin table) (x : Fido2TokenRef × ℕ) :
    pinAttempts dev ((hmacAttempt dev (sentPin pin) x).talk table)
      = if sendsFor table dev pin x then 1 else 0 := by
  by_cases hsend : sendsFor table dev pin x = true
  · rw [if_pos hsend]
    simp only [sendsFor, Bool.and_eq_true, decide_eq_true_eq] at hsend
    obtain ⟨⟨hpin, hnul⟩, halloc⟩ := hsend
    have hsent : sentPin pin = some pin := if_neg hpin
    have hc : pinCstring (some pin) = Except.ok (some pin) := by
      simp only [pinCstring, if_neg hpin, if_neg hnul]
    rw [pinAttempts, Prog.talk, hmacAttempt_issued (sentPin_ne_empty pin), hsent,
      if_pos ⟨halloc, hc⟩]
    simp [isPinAttempt, hwrong dev _]
  · have hle := @pinAttempts_hmacAttempt_le table dev pin dev x
    rw [if_neg hsend] at hle ⊢
    omega

lemma pinAttempts_append (d : ℕ) (log log' : FidoLog) :
    pinAttempts d (log ++ log') = pinAttempts d log + pinAttempts d log' := List.countP_append

/-- The third phase costs at most one retry for every token that remains. -/
lemma pinAttempts_unlockWith_le (d : ℕ) {xs : List (Fido2TokenRef × ℕ)}
    (hxs : ∀ x ∈ xs, tokens[x.2]? = some x.1) (lastErr : Option String) :
    pinAttempts d ((unlockWith dev tokens (sentPin pin) (xs.map Prod.snd) lastErr).talk table)
      ≤ xs.countP (sendsFor table dev pin) := by
  induction xs generalizing lastErr with
  | nil => simp [unlockWith, Prog.talk, pinAttempts]
  | cons x xs ih =>
      rw [List.forall_mem_cons] at hxs
      have hone := @pinAttempts_hmacAttempt_le table dev pin d x
      rw [List.map_cons, List.countP_cons, Prog.talk]
      cases hattempt : (hmacAttempt dev (sentPin pin) x).outcome table with
      | ok secret =>
          rw [(unlockWith_cons_ok _ _ hxs.1 hattempt).2, ← Prog.talk]
          omega
      | error e =>
          rw [(unlockWith_cons_error _ _ hxs.1 hattempt).2, List.map_append, pinAttempts_append,
            ← Prog.talk, ← Prog.talk]
          have := ih hxs.2 (some e)
          omega

/-- A wrong PIN costs one for each token with which it is sent. -/
lemma pinAttempts_unlockWith_eq (hwrong : WrongPin pin table) (hpin : pin ≠ "")
    {xs : List (Fido2TokenRef × ℕ)} (hxs : ∀ x ∈ xs, tokens[x.2]? = some x.1)
    (lastErr : Option String) :
    pinAttempts dev ((unlockWith dev tokens (sentPin pin) (xs.map Prod.snd) lastErr).talk table)
      = xs.countP (sendsFor table dev pin) := by
  have hfails : ∀ x ∈ xs, ∃ e, (hmacAttempt dev (sentPin pin) x).outcome table = Except.error e := by
    intro x _
    cases hattempt : (hmacAttempt dev (sentPin pin) x).outcome table with
    | error e => exact ⟨e, rfl⟩
    | ok secret =>
        have hreply := ((hmacAttempt_ok_iff (sentPin_ne_empty pin)).mp hattempt).2.1
        have hsent : sentPin pin = some pin := if_neg hpin
        have hcode := hwrong dev (hmacAssertion x.2 x.1.credId x.1.salt)
        rw [← hsent, hreply] at hcode
        simp [fidoOk, fidoErrPinInvalid] at hcode
  rw [Prog.talk, unlockWith_issued_of_error hxs lastErr hfails]
  clear hfails hxs
  induction xs with
  | nil => rfl
  | cons x xs ih =>
      have hone := @pinAttempts_hmacAttempt_eq table dev pin hwrong x
      rw [List.flatMap_cons, List.map_append, pinAttempts_append, ih, ← Prog.talk, hone,
        List.countP_cons, Nat.add_comm]

/-- The retries of a call are those of its third phase. -/
lemma pinAttempts_selected (h : selectedDevice table tokens rounds = some dev) (d : ℕ) :
    pinAttempts d ((unlockFromTokens rounds tokens pin).talk table)
      = pinAttempts d ((unlockWith dev tokens (sentPin pin) (remainingIdxs table tokens dev)
        none).talk table) := by
  obtain ⟨-, hissued, -⟩ := unlockFromTokens_selected pin h
  have hfront : pinAttempts d ((selectDevice rounds tokens).talk table) = 0 := by
    refine pinAttempts_eq_zero (fun e he d' a => not_sendsPin ?_) d
    exact (selectDevice_calls rounds tokens).of_mem_issued (Prog.mem_talk.mp he).1
  have htimeout : pinAttempts d ([FidoCmd.setTimeout dev 30000].map fun c =>
      (⟨c, table c⟩ : Answered FidoCmd FidoReply)) = 0 := rfl
  rw [Prog.talk, hissued, List.map_append, pinAttempts_append, ← Prog.talk, hfront, Nat.zero_add,
    ← List.singleton_append, List.map_append, pinAttempts_append, htimeout, Nat.zero_add, ← Prog.talk]

/-- Without a selected device no PIN is sent. -/
lemma pinAttempts_unselected (h : selectedDevice table tokens rounds = none) (d : ℕ) :
    pinAttempts d ((unlockFromTokens rounds tokens pin).talk table) = 0 := by
  refine pinAttempts_eq_zero (fun e he d' a => not_sendsPin ?_) d
  exact (unlockFromTokens_unselected pin h).1 _ (Prog.mem_talk.mp he).1

end Cost

/-- **A wrong PIN costs one retry exactly when it is sent with one token only.**  That is so when it
cannot be sent at all, or when at most one of the header's tokens remains on the selected device and
libfido2 has memory for its assertion: the loop does not stop at `PIN_INVALID`. -/
theorem wrong_pin_cost_iff (rounds : ℕ) (tokens : List Fido2TokenRef) (pin : String)
    (table : Authenticators) (hwrong : WrongPin pin table) :
    (∀ dev, pinAttempts dev
        ((unlockFromTokens rounds tokens pin).answers Prog.free (fun _ => table) ()) ≤ 1)
      ↔ ¬ CanSend pin ∨ ∀ dev, selectedDevice table tokens rounds = some dev →
        (remainingTokens table tokens dev).countP (allocates table dev) ≤ 1 := by
  rw [Prog.answers_free]
  constructor
  · intro hcost
    by_cases hcan : CanSend pin
    · refine Or.inr fun dev hdev => ?_
      have hone := hcost dev
      have hsends : sendsFor table dev pin = allocates table dev := by
        funext x
        simp [sendsFor, hcan]
      rw [pinAttempts_selected hdev, remainingIdxs,
        pinAttempts_unlockWith_eq hwrong hcan.1 remainingTokens_getElem, hsends] at hone
      exact hone
    · exact Or.inl hcan
  · intro hcond d
    cases hdev : selectedDevice table tokens rounds with
    | none =>
        rw [pinAttempts_unselected hdev]
        omega
    | some dev =>
        rw [pinAttempts_selected hdev, remainingIdxs]
        refine (pinAttempts_unlockWith_le d remainingTokens_getElem none).trans ?_
        rcases hcond with hcan | hone
        · have hnone : (remainingTokens table tokens dev).countP (sendsFor table dev pin) = 0 := by
            simp [List.countP_eq_zero, sendsFor, hcan]
          omega
        · refine (List.countP_mono_left fun x _ hx => ?_).trans (hone dev hdev)
          simp only [sendsFor, Bool.and_eq_true] at hx
          exact hx.2

/-- One key, which wants a PIN before it looks for a credential and does not take this one. -/
def lockedKey : Authenticators
  | FidoCmd.devInfoNew => true
  | FidoCmd.devInfoManifest => (fidoOk, [some "/dev/hidraw0"])
  | FidoCmd.devNew _ => true
  | FidoCmd.devOpen _ _ => fidoOk
  | FidoCmd.assertNew _ _ => true
  | FidoCmd.getAssert _ _ none => (fidoErrPinRequired, [])
  | FidoCmd.getAssert _ _ (some _) => (fidoErrPinInvalid, [])
  | FidoCmd.getTouchBegin _ => ()
  | FidoCmd.getTouchStatus _ _ _ => (fidoOk, 1)
  | FidoCmd.cancel _ => ()
  | FidoCmd.setTimeout _ _ => ()

/-- With two tokens in the header, one wrong PIN costs that key two retries. -/
theorem wrong_pin_sent_twice :
    WrongPin "0000" lockedKey
      ∧ selectedDevice lockedKey [⟨[1], [11]⟩, ⟨[2], [12]⟩] 0 = some 0
      ∧ ¬ pinAttempts 0 ((unlockFromTokens 0 [⟨[1], [11]⟩, ⟨[2], [12]⟩] "0000").answers Prog.free
        (fun _ => lockedKey) ()) ≤ 1 := by
  refine ⟨fun dev a => rfl, ?_, ?_⟩ <;> decide +kernel

/-- With one it costs one. -/
theorem wrong_pin_sent_once :
    WrongPin "0000" lockedKey ∧ ∀ dev, pinAttempts dev
      ((unlockFromTokens 0 [⟨[1], [11]⟩] "0000").answers Prog.free (fun _ => lockedKey) ()) ≤ 1 := by
  have hwrong : WrongPin "0000" lockedKey := fun dev a => rfl
  refine ⟨hwrong, (wrong_pin_cost_iff 0 [⟨[1], [11]⟩] "0000" lockedKey hwrong).mpr (Or.inr ?_)⟩
  intro dev hdev
  have hcount : (remainingTokens lockedKey [⟨[1], [11]⟩] dev).length ≤ 1 :=
    (List.length_filter_le _ _).trans (by simp)
  exact List.countP_le_length.trans hcount

end LuksEnroll
