import LuksEnroll.Library.Events
import LuksEnroll.Secrets

/-!
# The detail page

`DeviceDetailPage`: the user authenticates once, the page remembers with what, lists the
enrollments and then wipes and enrolls on its own from worker threads, without asking again.

A page is a machine driven by what the main loop delivers and by what its worker threads do:
`PageEvent` has every callback of the page and every call a worker makes, in any order, and the
answers of the service are part of the events.  `issued` records the wipes and the enrollments that leave
the page; its unlocks are in `calls` while they are in flight.

What keeps the user from locking themselves out is that the row of the keyslot they came in by has
no working Wipe button.  `Session` is that as an invariant: nothing that can still become a wipe —
a row, an open dialog, a worker — names that keyslot.

Every event has a lemma for the page while it is locked (`Locked.…`) and one for the page that was
unlocked (`Unlocked.…`), and `session_step` puts them together.  Changes of the list are one relation
(`Relists`), since all of them leave the rest of the page alone.
-/

namespace LuksEnroll

open Library

/-! ## What an enrollment page sends

The four requests, with the device and the credentials that the page was handed when it was opened.
-/

/-- What an `EnrollPage` is constructed with. -/
structure EnrollCaller where
  device : String
  passphrase : Option String
  unlockMethod : String
  unlockPin : String

/-- The service method of an `EnrollSpec`, with what its `validate_and_collect` returned. -/
inductive EnrollArgs : Type
  | fido2 (pin fido2Device : String)
  | tpm2 (pin pcrs : String)
  | recovery
  | passphrase (newPassphrase : String)
  deriving DecidableEq

/-- The request of `_do_enroll`. -/
def EnrollCaller.request (c : EnrollCaller) : EnrollArgs → SlotRequest
  | EnrollArgs.fido2 pin fido2Device =>
      SlotRequest.enrollFido2 c.device (c.passphrase.getD "") pin fido2Device c.unlockMethod
        c.unlockPin
  | EnrollArgs.tpm2 pin pcrs =>
      SlotRequest.enrollTpm2 c.device (c.passphrase.getD "") pin pcrs c.unlockMethod c.unlockPin
  | EnrollArgs.recovery =>
      SlotRequest.enrollRecoveryKey c.device (c.passphrase.getD "") c.unlockMethod c.unlockPin
  | EnrollArgs.passphrase newPassphrase =>
      SlotRequest.enrollPassphrase c.device (c.passphrase.getD "") newPassphrase c.unlockMethod
        c.unlockPin

namespace SlotRequest

/-- How a request authenticates: `(passphrase, unlock_method, unlock_pin)`. -/
def credentials : SlotRequest → String × String × String
  | enrollFido2 _ passphrase _ _ unlockMethod unlockPin => (passphrase, unlockMethod, unlockPin)
  | enrollTpm2 _ passphrase _ _ unlockMethod unlockPin => (passphrase, unlockMethod, unlockPin)
  | enrollRecoveryKey _ passphrase unlockMethod unlockPin => (passphrase, unlockMethod, unlockPin)
  | enrollPassphrase _ passphrase _ unlockMethod unlockPin => (passphrase, unlockMethod, unlockPin)
  | wipeSlot _ passphrase unlockMethod pin _ => (passphrase, unlockMethod, pin)

end SlotRequest

/-! ## The state

Rows are numbered, since a row that was removed may still have a dialog; dialogs and workers carry
the keyslots that they are about.
-/

/-- An unlock in flight, by the callback that will finish it. -/
inductive UnlockCall : Type
  | autoUnlock (passphrase : String)
  | unlock (passphrase : String)
  | tokenUnlock (tokenType pin : String)
  deriving DecidableEq

/-- What a request has to carry to authenticate as this call did. -/
def UnlockCall.credentials : UnlockCall → String × String × String
  | UnlockCall.autoUnlock passphrase => (passphrase, "passphrase", "")
  | UnlockCall.unlock passphrase => (passphrase, "passphrase", "")
  | UnlockCall.tokenUnlock tokenType pin => ("", tokenType, pin)

/-- A row of the enrollments group.  `tracked` while `_dynamic_rows` has it under its key;
`connected` if its Wipe button does anything. -/
structure EnrollmentRow where
  id : ℕ
  key : String
  tracked : Bool
  slots : List ℤ
  connected : Bool
  sensitive : Bool

/-- An open "Wipe Enrollment" dialog, with the button it belongs to. -/
structure WipeDialog where
  slots : List ℤ
  row : ℕ

/-- The thread of `do_wipe`: the keyslots it has not called for yet. -/
structure WipeWorker where
  left : List ℤ
  allOk : Bool
  row : ℕ

/-- The page, as far as requests depend on it. -/
structure DetailPage where
  device : String
  passphrase : Option String
  authKeyslot : Option ℤ
  unlockMethod : String
  unlockPin : String
  unlocked : Bool
  initialPassphrase : Option String
  pendingPw : String
  pendingTokenType : String
  pendingTokenPin : String
  -- which unlock rows can be used
  unlockGroup : Bool
  tpm2Row : Bool
  fido2Row : Bool
  -- what is under way
  calls : List UnlockCall
  fetches : ℕ
  dialogs : List WipeDialog
  workers : List WipeWorker
  enrollPages : List EnrollCaller
  -- what is listed
  rows : List EnrollmentRow
  nextRow : ℕ
  addRows : Bool
  -- ghosts: which unlocks the service confirmed, and what was sent
  verified : List (UnlockCall × ℤ)
  issued : List SlotRequest

namespace DetailPage

/-! ## The callbacks

One function for each callback of the source, on the state.  A callback that begins a call leaves it
in `calls` or makes a worker of it, and the answer is an event of its own.
-/

/-- The page before its constructor decides how to unlock. -/
def blank (device : String) : DetailPage where
  device := device
  passphrase := none
  authKeyslot := none
  unlockMethod := "passphrase"
  unlockPin := ""
  unlocked := false
  initialPassphrase := none
  pendingPw := ""
  pendingTokenType := ""
  pendingTokenPin := ""
  unlockGroup := true
  tpm2Row := false
  fido2Row := false
  calls := []
  fetches := 0
  dialogs := []
  workers := []
  enrollPages := []
  rows := []
  nextRow := 0
  addRows := false
  verified := []
  issued := []

/-- `_show_unlocked`. -/
def showUnlocked (p : DetailPage) : DetailPage :=
  { p with
    unlocked := true
    unlockGroup := false
    tpm2Row := false
    fido2Row := false
    fetches := p.fetches + 1 }

/-- `__init__`. -/
def new (device : String) (passphrase : Option String) (volumeKeyCached : Bool) : DetailPage :=
  if volumeKeyCached then
    showUnlocked { blank device with
      initialPassphrase := passphrase
      passphrase := some ""
      authKeyslot := some (-1) }
  else
    match passphrase with
    | some pw =>
        { blank device with
          initialPassphrase := some pw
          calls := [UnlockCall.autoUnlock pw] }
    | none => blank device

/-- The part of `_apply_enrolled_methods` that decides what the user can unlock with. -/
def applyEnrolledMethods (p : DetailPage) (tpm2 fido2 : Bool) : DetailPage :=
  if p.unlocked then p else { p with tpm2Row := tpm2, fido2Row := fido2 }

/-- `_do_unlock`. -/
def doUnlock (p : DetailPage) (pw : String) : DetailPage :=
  if p.unlockGroup && decide (pw ≠ "") then
    { p with pendingPw := pw, calls := p.calls ++ [UnlockCall.unlock pw] }
  else p

/-- `_do_token_unlock`. -/
def doTokenUnlock (p : DetailPage) (tpm2 : Bool) (pin : String) : DetailPage :=
  if (if tpm2 then p.tpm2Row else p.fido2Row) then
    let tokenType := if tpm2 then tokenTypeTpm2 else tokenTypeFido2
    { p with
      pendingTokenType := tokenType
      pendingTokenPin := pin
      calls := p.calls ++ [UnlockCall.tokenUnlock tokenType pin] }
  else p

/-- The end of `_on_auto_unlock_finish`, `_on_unlock_finish` and `_on_token_unlock_finish` when the
service said yes.  They do not look at what they sent, but at what the page holds as pending. -/
def confirm (p : DetailPage) (keyslot : ℤ) : UnlockCall → DetailPage
  | UnlockCall.autoUnlock _ =>
      showUnlocked { p with passphrase := p.initialPassphrase, authKeyslot := some keyslot }
  | UnlockCall.unlock _ =>
      showUnlocked { p with passphrase := some p.pendingPw, authKeyslot := some keyslot }
  | UnlockCall.tokenUnlock _ _ =>
      showUnlocked { p with
        passphrase := none
        authKeyslot := some keyslot
        unlockMethod := p.pendingTokenType
        unlockPin := p.pendingTokenPin }

/-- And when it did not. -/
def refuse (p : DetailPage) : UnlockCall → DetailPage
  | UnlockCall.autoUnlock _ => { p with initialPassphrase := none }
  | _ => p

/-- The answer to the `i`-th call in flight; an error is `GLib.Error`. -/
def unlockFinished (p : DetailPage) (i : ℕ) (answer : Except String (Bool × ℤ)) : DetailPage :=
  match p.calls[i]? with
  | none => p
  | some call =>
      let p := { p with calls := p.calls.eraseIdx i }
      match answer with
      | Except.ok (true, keyslot) =>
          { p.confirm keyslot call with verified := p.verified ++ [(call, keyslot)] }
      | _ => p.refuse call

/-- `_add_row` of a row with a Wipe button: a row that had the key stays in the group, but is no
longer tracked. -/
def addEnrollmentRow (p : DetailPage) (key : String) (slots : List ℤ) : DetailPage :=
  let isAuth := (p.authKeyslot.map fun k => decide (k ∈ slots)).getD false
  { p with
    rows := (p.rows.map fun r => if r.key = key then { r with tracked := false } else r)
      ++ [⟨p.nextRow, key, true, slots, !isAuth, !isAuth⟩]
    nextRow := p.nextRow + 1 }

/-- `_clear_dynamic_rows("enroll:")`. -/
def clearEnrollmentRows (p : DetailPage) : DetailPage :=
  { p with rows := p.rows.filter fun r => !r.tracked }

/-- `_apply_enrollments`: tokens with their keyslots, then password keyslots. -/
def applyEnrollments (p : DetailPage) (tokens : List (ℤ × List ℤ)) (pwSlots : List ℤ) :
    DetailPage :=
  let p := tokens.foldl
    (fun q t => q.addEnrollmentRow ("enroll:tok:" ++ toString t.1) t.2) p.clearEnrollmentRows
  pwSlots.foldl (fun q s => q.addEnrollmentRow ("enroll:pw:" ++ toString s) [s]) p

/-- `_apply_detail_data`, posted by one of the fetches under way. -/
def applyDetailData (p : DetailPage) (tokens : List (ℤ × List ℤ)) (pwSlots : List ℤ) :
    DetailPage :=
  if p.fetches = 0 then p
  else { applyEnrollments { p with fetches := p.fetches - 1 } tokens pwSlots with addRows := true }

/-- `_on_wipe_clicked`, for a button that is listed and can be pressed. -/
def wipeClicked (p : DetailPage) (row : ℕ) : DetailPage :=
  match p.rows.find? fun r => decide (r.id = row) && r.connected && r.sensitive with
  | none => p
  | some r => { p with dialogs := p.dialogs ++ [⟨r.slots, r.id⟩] }

/-- `wipe_btn.set_sensitive`; the button may be gone. -/
def setSensitive (p : DetailPage) (row : ℕ) (sensitive : Bool) : DetailPage :=
  { p with rows := p.rows.map fun r => if r.id = row then { r with sensitive := sensitive } else r }

/-- `_on_wipe_confirmed`. -/
def wipeConfirmed (p : DetailPage) (i : ℕ) (response : String) : DetailPage :=
  match p.dialogs[i]? with
  | none => p
  | some d =>
      let p := { p with dialogs := p.dialogs.eraseIdx i }
      if response ≠ "wipe" then p
      else { p.setSensitive d.row false with workers := p.workers ++ [⟨d.slots, true, d.row⟩] }

/-- One turn of `do_wipe`, with the answer it gets (`false` also for a `GLib.Error`).  A keyslot that
does not fit the call's `i` ends the thread, and so does a file that cannot be opened (`none`). -/
def wipeCall (p : DetailPage) (i : ℕ) (answer : Option Bool) : DetailPage :=
  match p.workers[i]? with
  | some ⟨slot :: left, allOk, row⟩ =>
      if h : -2147483648 ≤ slot ∧ slot ≤ 2147483647 then
        match answer with
        | some ok =>
            { p with
              workers := p.workers.set i ⟨left, allOk && ok, row⟩
              issued := p.issued ++ [SlotRequest.wipeSlot p.device (p.passphrase.getD "")
                p.unlockMethod p.unlockPin ⟨slot, h⟩] }
        | none => { p with workers := p.workers.eraseIdx i }
      else { p with workers := p.workers.eraseIdx i }
  | _ => p

/-- `_on_wipe_done`. -/
def wipeDone (p : DetailPage) (i : ℕ) : DetailPage :=
  match p.workers[i]? with
  | some ⟨[], allOk, row⟩ =>
      let p := { p with workers := p.workers.eraseIdx i }
      if allOk then { p with fetches := p.fetches + 1 } else p.setSensitive row true
  | _ => p

/-- `_push_enroll_page`. -/
def pushEnrollPage (p : DetailPage) : DetailPage :=
  if p.addRows then
    { p with
      enrollPages := p.enrollPages ++ [⟨p.device, p.passphrase, p.unlockMethod, p.unlockPin⟩] }
  else p

/-- `_do_enroll` on a page that was pushed. -/
def doEnroll (p : DetailPage) (page : ℕ) (args : EnrollArgs) : DetailPage :=
  match p.enrollPages[page]? with
  | none => p
  | some caller => { p with issued := p.issued ++ [caller.request args] }

/-- `refresh_after_enroll`. -/
def refreshAfterEnroll (p : DetailPage) : DetailPage :=
  if p.unlocked then { p with fetches := p.fetches + 1 } else p

end DetailPage

/-! ## The machine

The main loop: any callback, any answer, in any order.
-/

/-- What can happen to a page. -/
inductive PageEvent : Type
  | enrolledMethods (tpm2 fido2 : Bool)
  | doUnlock (pw : String)
  | doTokenUnlock (tpm2 : Bool) (pin : String)
  | unlockFinished (i : ℕ) (answer : Except String (Bool × ℤ))
  | detailData (tokens : List (ℤ × List ℤ)) (pwSlots : List ℤ)
  | wipeClicked (row : ℕ)
  | wipeConfirmed (i : ℕ) (response : String)
  | wipeCall (i : ℕ) (answer : Option Bool)
  | wipeDone (i : ℕ)
  | pushEnrollPage
  | doEnroll (page : ℕ) (args : EnrollArgs)
  | refreshAfterEnroll

/-- Starts an unlock. -/
def PageEvent.Begins : PageEvent → Prop
  | PageEvent.doUnlock _ => True
  | PageEvent.doTokenUnlock _ _ => True
  | _ => False

instance : DecidablePred PageEvent.Begins := fun e => by
  cases e <;> first | exact isTrue trivial | exact isFalse id

namespace DetailPage

/-- One step of the page. -/
def step (p : DetailPage) : PageEvent → DetailPage
  | PageEvent.enrolledMethods tpm2 fido2 => p.applyEnrolledMethods tpm2 fido2
  | PageEvent.doUnlock pw => p.doUnlock pw
  | PageEvent.doTokenUnlock tpm2 pin => p.doTokenUnlock tpm2 pin
  | PageEvent.unlockFinished i answer => p.unlockFinished i answer
  | PageEvent.detailData tokens pwSlots => p.applyDetailData tokens pwSlots
  | PageEvent.wipeClicked row => p.wipeClicked row
  | PageEvent.wipeConfirmed i response => p.wipeConfirmed i response
  | PageEvent.wipeCall i answer => p.wipeCall i answer
  | PageEvent.wipeDone i => p.wipeDone i
  | PageEvent.pushEnrollPage => p.pushEnrollPage
  | PageEvent.doEnroll page args => p.doEnroll page args
  | PageEvent.refreshAfterEnroll => p.refreshAfterEnroll

/-- **The condition on an event**: an unlock is only begun when none is in flight. -/
def OneAtATime (p : DetailPage) (e : PageEvent) : Prop := e.Begins → p.calls = []

instance (p : DetailPage) (e : PageEvent) : Decidable (p.OneAtATime e) :=
  decidable_of_iff (¬ e.Begins ∨ p.calls.isEmpty) (by simp [OneAtATime, imp_iff_not_or])

/-! ## The session

While the page is locked it has no rows and no workers.  Once it is unlocked it keeps the
credentials, and spares the keyslot they opened.
-/

/-- How the page authenticates. -/
def credentials (p : DetailPage) : String × String × String :=
  (p.passphrase.getD "", p.unlockMethod, p.unlockPin)

/-- No button of these rows wipes keyslot `k`. -/
def RowsSpare (k : ℤ) (rows : List EnrollmentRow) : Prop :=
  ∀ r ∈ rows, r.connected = true → k ∉ r.slots

/-- The call in flight is the one that the page holds as pending. -/
def Pending (p : DetailPage) : UnlockCall → Prop
  | UnlockCall.autoUnlock passphrase => p.initialPassphrase = some passphrase
  | UnlockCall.unlock passphrase => p.pendingPw = passphrase
  | UnlockCall.tokenUnlock tokenType pin => p.pendingTokenType = tokenType ∧ p.pendingTokenPin = pin

/-- A page that has not been unlocked: one call at most, and nothing listed or sent. -/
structure Locked (device : String) (p : DetailPage) : Prop where
  sameDevice : p.device = device
  unlocked : p.unlocked = false
  unlockMethod : p.unlockMethod = "passphrase"
  unlockPin : p.unlockPin = ""
  calls : p.calls = [] ∨ ∃ call, p.calls = [call] ∧ p.Pending call
  fetches : p.fetches = 0
  rows : p.rows = []
  dialogs : p.dialogs = []
  workers : p.workers = []
  addRows : p.addRows = false
  enrollPages : p.enrollPages = []
  verified : p.verified = []
  issued : p.issued = []

/-- A page that was unlocked with `creds`, by keyslot `k`. -/
structure Unlocked (device : String) (creds : String × String × String) (k : ℤ)
    (verified : List (UnlockCall × ℤ)) (p : DetailPage) : Prop where
  sameDevice : p.device = device
  unlocked : p.unlocked = true
  prompts : p.unlockGroup = false ∧ p.tpm2Row = false ∧ p.fido2Row = false
  calls : p.calls = []
  authKeyslot : p.authKeyslot = some k
  credentials : p.credentials = creds
  rows : RowsSpare k p.rows
  dialogs : ∀ d ∈ p.dialogs, k ∉ d.slots
  workers : ∀ w ∈ p.workers, k ∉ w.left
  enrollPages : ∀ c ∈ p.enrollPages,
    c.device = device ∧ (c.passphrase.getD "", c.unlockMethod, c.unlockPin) = creds
  verified : p.verified = verified
  issued : ∀ r ∈ p.issued, r.device = device ∧ r.credentials = creds ∧ r.Spares k

/-- What a page may rest its credentials on: the key that the service still has from creating the
volume, or the one unlock that the service confirmed. -/
def Authority (volumeKeyCached : Bool) (creds : String × String × String) (k : ℤ)
    (verified : List (UnlockCall × ℤ)) : Prop :=
  (volumeKeyCached = true ∧ creds = ("", "passphrase", "") ∧ k = -1 ∧ verified = [])
    ∨ ∃ call, creds = call.credentials ∧ verified = [(call, k)]

/-- **The invariant of a session.** -/
def Session (device : String) (volumeKeyCached : Bool) (p : DetailPage) : Prop :=
  p.Locked device ∨ ∃ creds k verified, Authority volumeKeyCached creds k verified
    ∧ p.Unlocked device creds k verified

/-! ### The list of enrollments

The list is built anew whenever the data arrive.  The row of the keyslot that was used has no
working button, which is decided when the row is made.
-/

/-- Only the list of enrollments changed, and for the keyslot `k` not for the worse. -/
def Relists (k : ℤ) (p q : DetailPage) : Prop :=
  ∃ rows nextRow, q = { p with rows := rows, nextRow := nextRow }
    ∧ (p.authKeyslot = some k → RowsSpare k p.rows → RowsSpare k rows)

lemma Relists.trans {k : ℤ} {p q r : DetailPage} (h : Relists k p q) (h' : Relists k q r) :
    Relists k p r := by
  obtain ⟨rows, n, rfl, hrows⟩ := h
  obtain ⟨rows', n', rfl, hrows'⟩ := h'
  exact ⟨rows', n', rfl, fun hk hp => hrows' hk (hrows hk hp)⟩

lemma clearEnrollmentRows_relists (k : ℤ) (p : DetailPage) : Relists k p p.clearEnrollmentRows :=
  ⟨_, p.nextRow, rfl, fun _ hp r hr => hp r (List.mem_of_mem_filter hr)⟩

/-- The row of the authenticating keyslot is added without a working button. -/
lemma addEnrollmentRow_relists (k : ℤ) (p : DetailPage) (key : String) (slots : List ℤ) :
    Relists k p (p.addEnrollmentRow key slots) := by
  refine ⟨_, _, rfl, fun hk hp r hr hconnected => ?_⟩
  rcases List.mem_append.mp hr with hr | hr
  · obtain ⟨r₀, hr₀, rfl⟩ := List.mem_map.mp hr
    have hsame : (if r₀.key = key then { r₀ with tracked := false } else r₀).slots = r₀.slots
        ∧ (if r₀.key = key then { r₀ with tracked := false } else r₀).connected = r₀.connected := by
      split_ifs <;> exact ⟨rfl, rfl⟩
    rw [hsame.1]
    exact hp r₀ hr₀ (hsame.2 ▸ hconnected)
  · obtain rfl := List.mem_singleton.mp hr
    simpa [hk] using hconnected

lemma foldl_relists {α : Type} (k : ℤ) (add : DetailPage → α → DetailPage)
    (hadd : ∀ p a, Relists k p (add p a)) (l : List α) (p : DetailPage) :
    Relists k p (l.foldl add p) := by
  induction l generalizing p with
  | nil => exact ⟨p.rows, p.nextRow, rfl, fun _ hp => hp⟩
  | cons a l ih => exact (hadd p a).trans (ih _)

lemma applyEnrollments_relists (k : ℤ) (p : DetailPage) (tokens : List (ℤ × List ℤ))
    (pwSlots : List ℤ) : Relists k p (p.applyEnrollments tokens pwSlots) :=
  ((clearEnrollmentRows_relists k p).trans
    (foldl_relists k _ (fun _ _ => addEnrollmentRow_relists k _ _ _) tokens _)).trans
      (foldl_relists k _ (fun _ _ => addEnrollmentRow_relists k _ _ _) pwSlots _)

lemma setSensitive_relists (k : ℤ) (p : DetailPage) (row : ℕ) (sensitive : Bool) :
    Relists k p (p.setSensitive row sensitive) := by
  refine ⟨_, p.nextRow, rfl, fun _ hp r hr hconnected => ?_⟩
  obtain ⟨r₀, hr₀, rfl⟩ := List.mem_map.mp hr
  split_ifs at hconnected ⊢ <;> exact hp r₀ hr₀ hconnected

/-! ### Unlocked pages

One lemma for each callback, for the page that is unlocked.
-/

section Unlocked

variable {device : String} {creds : String × String × String} {k : ℤ}
  {verified : List (UnlockCall × ℤ)} {p : DetailPage}

/-- An unlocked page stays unlocked as its list changes. -/
lemma Unlocked.relists {q : DetailPage} (hp : p.Unlocked device creds k verified)
    (hq : Relists k p q) : q.Unlocked device creds k verified := by
  obtain ⟨rows, n, rfl, hrows⟩ := hq
  exact { hp with rows := hrows hp.authKeyslot hp.rows }

lemma Unlocked.begins (hp : p.Unlocked device creds k verified) {e : PageEvent} (he : e.Begins) :
    p.step e = p := by
  obtain ⟨hgroup, htpm2, hfido2⟩ := hp.prompts
  cases e with
  | doUnlock pw => simp [step, DetailPage.doUnlock, hgroup]
  | doTokenUnlock tpm2 pin => cases tpm2 <;> simp [step, DetailPage.doTokenUnlock, htpm2, hfido2]
  | _ => exact he.elim

lemma Unlocked.detailData (hp : p.Unlocked device creds k verified) (tokens : List (ℤ × List ℤ))
    (pwSlots : List ℤ) : (p.applyDetailData tokens pwSlots).Unlocked device creds k verified := by
  rw [applyDetailData]
  split_ifs
  · exact hp
  · have hlisted := Unlocked.relists (p := { p with fetches := p.fetches - 1 }) { hp with }
      (applyEnrollments_relists k _ tokens pwSlots)
    exact { hlisted with }

/-- A dialog opens only over a button that is connected. -/
lemma Unlocked.wipeClicked (hp : p.Unlocked device creds k verified) (row : ℕ) :
    (p.wipeClicked row).Unlocked device creds k verified := by
  rw [DetailPage.wipeClicked]
  cases hr : p.rows.find? fun r => decide (r.id = row) && r.connected && r.sensitive with
  | none => exact hp
  | some r =>
      have hconnected : r.connected = true := by
        have := List.find?_some hr
        simp only [Bool.and_eq_true] at this
        exact this.1.2
      refine { hp with dialogs := fun d hd => ?_ }
      rcases List.mem_append.mp hd with hd | hd
      · exact hp.dialogs d hd
      · obtain rfl := List.mem_singleton.mp hd
        exact hp.rows r (List.mem_of_find?_eq_some hr) hconnected

/-- A dialog that is confirmed starts a worker, which spares the keyslot as the dialog did. -/
lemma Unlocked.wipeConfirmed (hp : p.Unlocked device creds k verified) (i : ℕ) (response : String) :
    (p.wipeConfirmed i response).Unlocked device creds k verified := by
  rw [DetailPage.wipeConfirmed]
  cases hd : p.dialogs[i]? with
  | none => exact hp
  | some d =>
      have hclosed : Unlocked device creds k verified { p with dialogs := p.dialogs.eraseIdx i } :=
        { hp with dialogs := fun d' hd' => hp.dialogs d' (List.mem_of_mem_eraseIdx hd') }
      show Unlocked device creds k verified (if response ≠ "wipe" then _ else _)
      split_ifs
      · exact hclosed
      · have hpressed := hclosed.relists (setSensitive_relists k _ d.row false)
        refine { hpressed with workers := fun w hw => ?_ }
        rcases List.mem_append.mp hw with hw | hw
        · exact hp.workers w hw
        · obtain rfl := List.mem_singleton.mp hw
          exact hp.dialogs d (List.mem_of_getElem? hd)

/-- A worker calls only for keyslots that it was started with. -/
lemma Unlocked.wipeCall (hp : p.Unlocked device creds k verified) (i : ℕ) (answer : Option Bool) :
    (p.wipeCall i answer).Unlocked device creds k verified := by
  rw [DetailPage.wipeCall]
  have hgone : Unlocked device creds k verified { p with workers := p.workers.eraseIdx i } :=
    { hp with workers := fun w hw => hp.workers w (List.mem_of_mem_eraseIdx hw) }
  split
  · rename_i slot left allOk row hw
    have hspare := hp.workers _ (List.mem_of_getElem? hw)
    simp only [List.mem_cons, not_or] at hspare
    split_ifs with hi32
    · cases answer with
      | none => exact hgone
      | some ok =>
          refine { hp with workers := fun w hw => ?_, issued := fun r hr => ?_ }
          · rcases List.mem_or_eq_of_mem_set hw with hw | rfl
            · exact hp.workers w hw
            · exact hspare.2
          · rcases List.mem_append.mp hr with hr | hr
            · exact hp.issued r hr
            · obtain rfl := List.mem_singleton.mp hr
              exact ⟨hp.sameDevice, hp.credentials, fun h => hspare.1 h.symm⟩
    · exact hgone
  · exact hp

lemma Unlocked.wipeDone (hp : p.Unlocked device creds k verified) (i : ℕ) :
    (p.wipeDone i).Unlocked device creds k verified := by
  rw [DetailPage.wipeDone]
  split
  · rename_i allOk row hw
    have hgone : Unlocked device creds k verified { p with workers := p.workers.eraseIdx i } :=
      { hp with workers := fun w hw => hp.workers w (List.mem_of_mem_eraseIdx hw) }
    cases allOk with
    | true => exact { hgone with }
    | false => exact hgone.relists (setSensitive_relists k _ row true)
  · exact hp

/-- An enrollment goes to the device of the page, with its credentials. -/
lemma request_credentials (c : EnrollCaller) (args : EnrollArgs) :
    (c.request args).device = c.device
      ∧ (c.request args).credentials = (c.passphrase.getD "", c.unlockMethod, c.unlockPin)
      ∧ (c.request args).Spares k := by
  cases args <;> exact ⟨rfl, rfl, trivial⟩

lemma Unlocked.doEnroll (hp : p.Unlocked device creds k verified) (page : ℕ) (args : EnrollArgs) :
    (p.doEnroll page args).Unlocked device creds k verified := by
  rw [DetailPage.doEnroll]
  cases hc : p.enrollPages[page]? with
  | none => exact hp
  | some caller =>
      obtain ⟨hdevice, hcreds⟩ := hp.enrollPages caller (List.mem_of_getElem? hc)
      obtain ⟨hdevice', hcreds', hspares⟩ := request_credentials (k := k) caller args
      refine { hp with issued := fun r hr => ?_ }
      rcases List.mem_append.mp hr with hr | hr
      · exact hp.issued r hr
      · obtain rfl := List.mem_singleton.mp hr
        exact ⟨hdevice'.trans hdevice, hcreds'.trans hcreds, hspares⟩

lemma Unlocked.pushEnrollPage (hp : p.Unlocked device creds k verified) :
    p.pushEnrollPage.Unlocked device creds k verified := by
  rw [DetailPage.pushEnrollPage]
  split_ifs
  · refine { hp with enrollPages := fun c hc => ?_ }
    rcases List.mem_append.mp hc with hc | hc
    · exact hp.enrollPages c hc
    · obtain rfl := List.mem_singleton.mp hc
      exact ⟨hp.sameDevice, hp.credentials⟩
  · exact hp

/-- **An unlocked page stays as it was unlocked.** -/
lemma Unlocked.step (hp : p.Unlocked device creds k verified) (e : PageEvent) :
    (p.step e).Unlocked device creds k verified := by
  cases e with
  | enrolledMethods tpm2 fido2 =>
      show (p.applyEnrolledMethods tpm2 fido2).Unlocked device creds k verified
      rw [applyEnrolledMethods, if_pos hp.unlocked]
      exact hp
  | doUnlock pw => exact (hp.begins (e := PageEvent.doUnlock pw) trivial).symm ▸ hp
  | doTokenUnlock tpm2 pin =>
      exact (hp.begins (e := PageEvent.doTokenUnlock tpm2 pin) trivial).symm ▸ hp
  | unlockFinished i answer =>
      show (p.unlockFinished i answer).Unlocked device creds k verified
      rw [DetailPage.unlockFinished, hp.calls]
      exact hp
  | detailData tokens pwSlots => exact hp.detailData tokens pwSlots
  | wipeClicked row => exact hp.wipeClicked row
  | wipeConfirmed i response => exact hp.wipeConfirmed i response
  | wipeCall i answer => exact hp.wipeCall i answer
  | wipeDone i => exact hp.wipeDone i
  | pushEnrollPage => exact hp.pushEnrollPage
  | doEnroll page args => exact hp.doEnroll page args
  | refreshAfterEnroll =>
      show p.refreshAfterEnroll.Unlocked device creds k verified
      rw [DetailPage.refreshAfterEnroll, if_pos hp.unlocked]
      exact { hp with }

end Unlocked

/-! ### Unlocking

The same for the page that is not.  A yes makes it an unlocked one, with the keyslot of the answer.
-/

section Locked

variable {device : String} {p : DetailPage}

/-- The one call in flight is confirmed: what the page held as pending is what was sent. -/
lemma Locked.confirm (hp : p.Locked device) {call : UnlockCall} (hpending : p.Pending call)
    (keyslot : ℤ) :
    Unlocked device call.credentials keyslot [(call, keyslot)]
      { ({ p with calls := [] } : DetailPage).confirm keyslot call with
        verified := p.verified ++ [(call, keyslot)] } := by
  have hnew : ∀ q : DetailPage, q.device = device → q.rows = [] → q.dialogs = [] →
      q.workers = [] → q.enrollPages = [] → q.issued = [] → q.calls = [] →
      q.authKeyslot = some keyslot → q.credentials = call.credentials →
      Unlocked device call.credentials keyslot [(call, keyslot)]
        { q.showUnlocked with verified := p.verified ++ [(call, keyslot)] } := by
    intro q hdevice hrows hdialogs hworkers hpages hissued hcalls hauth hcreds
    exact {
      sameDevice := hdevice
      unlocked := rfl
      prompts := ⟨rfl, rfl, rfl⟩
      calls := hcalls
      authKeyslot := hauth
      credentials := hcreds
      rows := by simp [RowsSpare, showUnlocked, hrows]
      dialogs := by simp [showUnlocked, hdialogs]
      workers := by simp [showUnlocked, hworkers]
      enrollPages := by simp [showUnlocked, hpages]
      verified := by rw [hp.verified, List.nil_append]
      issued := by simp [showUnlocked, hissued] }
  cases call with
  | autoUnlock pw =>
      refine hnew _ hp.sameDevice hp.rows hp.dialogs hp.workers hp.enrollPages hp.issued rfl rfl ?_
      show (p.initialPassphrase.getD "", p.unlockMethod, p.unlockPin) = (pw, "passphrase", "")
      rw [hp.unlockMethod, hp.unlockPin, show p.initialPassphrase = some pw from hpending]
      rfl
  | unlock pw =>
      refine hnew _ hp.sameDevice hp.rows hp.dialogs hp.workers hp.enrollPages hp.issued rfl rfl ?_
      show (p.pendingPw, p.unlockMethod, p.unlockPin) = (pw, "passphrase", "")
      rw [hp.unlockMethod, hp.unlockPin, show p.pendingPw = pw from hpending]
  | tokenUnlock tokenType pin =>
      refine hnew _ hp.sameDevice hp.rows hp.dialogs hp.workers hp.enrollPages hp.issued rfl rfl ?_
      show ("", p.pendingTokenType, p.pendingTokenPin) = ("", tokenType, pin)
      rw [hpending.1, hpending.2]

/-- A locked page stays locked, or the call in flight unlocks it. -/
lemma Locked.unlockFinished (hp : p.Locked device) (volumeKeyCached : Bool) (i : ℕ)
    (answer : Except String (Bool × ℤ)) :
    (p.unlockFinished i answer).Session device volumeKeyCached := by
  rw [DetailPage.unlockFinished]
  rcases hp.calls with hnone | ⟨call, hcall, hpending⟩
  · rw [hnone]
    exact Or.inl hp
  · rw [hcall]
    cases i with
    | succ i => exact Or.inl hp
    | zero =>
        have hidle : Locked device { p with calls := [] } := { hp with calls := Or.inl rfl }
        have hrefused : Session device volumeKeyCached
            (({ p with calls := [] } : DetailPage).refuse call) := by
          cases call with
          | autoUnlock pw => exact Or.inl { hidle with calls := Or.inl rfl }
          | _ => exact Or.inl hidle
        match answer with
        | Except.ok (true, keyslot) =>
            exact Or.inr ⟨_, _, _, Or.inr ⟨call, rfl, rfl⟩, hp.confirm hpending keyslot⟩
        | Except.ok (false, keyslot) => exact hrefused
        | Except.error e => exact hrefused

/-- An unlock that begins leaves the page locked until it is answered. -/
lemma Locked.doUnlock (hp : p.Locked device) (hidle : p.calls = []) (pw : String) :
    (p.doUnlock pw).Locked device := by
  rw [DetailPage.doUnlock]
  split_ifs
  · refine { hp with calls := Or.inr ⟨UnlockCall.unlock pw, ?_, rfl⟩ }
    rw [hidle, List.nil_append]
  · exact hp

lemma Locked.doTokenUnlock (hp : p.Locked device) (hidle : p.calls = []) (tpm2 : Bool)
    (pin : String) : (p.doTokenUnlock tpm2 pin).Locked device := by
  have hbegun : ∀ tokenType : String, Locked device { p with
      pendingTokenType := tokenType
      pendingTokenPin := pin
      calls := p.calls ++ [UnlockCall.tokenUnlock tokenType pin] } := fun tokenType =>
    { hp with calls := Or.inr ⟨UnlockCall.tokenUnlock tokenType pin, by rw [hidle, List.nil_append],
        rfl, rfl⟩ }
  rw [DetailPage.doTokenUnlock]
  split_ifs
  · exact hbegun tokenTypeTpm2
  · exact hp
  · exact hbegun tokenTypeFido2
  · exact hp

/-- Nothing but an answer to an unlock opens a page. -/
lemma Locked.step (hp : p.Locked device) (volumeKeyCached : Bool) {e : PageEvent}
    (he : p.OneAtATime e) : (p.step e).Session device volumeKeyCached := by
  cases e with
  | enrolledMethods tpm2 fido2 =>
      show (p.applyEnrolledMethods tpm2 fido2).Session device volumeKeyCached
      rw [applyEnrolledMethods, if_neg (by rw [hp.unlocked]; decide)]
      exact Or.inl { hp with }
  | doUnlock pw => exact Or.inl (hp.doUnlock (he trivial) pw)
  | doTokenUnlock tpm2 pin => exact Or.inl (hp.doTokenUnlock (he trivial) tpm2 pin)
  | unlockFinished i answer => exact hp.unlockFinished volumeKeyCached i answer
  | detailData tokens pwSlots =>
      show (p.applyDetailData tokens pwSlots).Session device volumeKeyCached
      rw [applyDetailData, if_pos hp.fetches]
      exact Or.inl hp
  | wipeClicked row =>
      show (p.wipeClicked row).Session device volumeKeyCached
      rw [DetailPage.wipeClicked, hp.rows]
      exact Or.inl hp
  | wipeConfirmed i response =>
      show (p.wipeConfirmed i response).Session device volumeKeyCached
      rw [DetailPage.wipeConfirmed, hp.dialogs]
      exact Or.inl hp
  | wipeCall i answer =>
      show (p.wipeCall i answer).Session device volumeKeyCached
      rw [DetailPage.wipeCall, hp.workers]
      exact Or.inl hp
  | wipeDone i =>
      show (p.wipeDone i).Session device volumeKeyCached
      rw [DetailPage.wipeDone, hp.workers]
      exact Or.inl hp
  | pushEnrollPage =>
      show p.pushEnrollPage.Session device volumeKeyCached
      rw [DetailPage.pushEnrollPage, hp.addRows]
      exact Or.inl hp
  | doEnroll page args =>
      show (p.doEnroll page args).Session device volumeKeyCached
      rw [DetailPage.doEnroll, hp.enrollPages]
      exact Or.inl hp
  | refreshAfterEnroll =>
      show p.refreshAfterEnroll.Session device volumeKeyCached
      rw [DetailPage.refreshAfterEnroll, hp.unlocked]
      exact Or.inl hp

end Locked

/-! ### Every run -/

/-- The page of a volume whose key is cached is unlocked from the start, without credentials. -/
lemma unlocked_new (device : String) (passphrase : Option String) :
    (new device passphrase true).Unlocked device ("", "passphrase", "") (-1) [] := by
  constructor <;>
    first | rfl | exact ⟨rfl, rfl, rfl⟩ | simp [new, RowsSpare, showUnlocked, blank]

/-- A new page is locked, or rests on the key that the service still has. -/
lemma session_new (device : String) (passphrase : Option String) (volumeKeyCached : Bool) :
    (new device passphrase volumeKeyCached).Session device volumeKeyCached := by
  have hblank : (blank device).Locked device := by
    constructor <;> first | rfl | exact Or.inl rfl
  cases volumeKeyCached with
  | true =>
      exact Or.inr ⟨("", "passphrase", ""), -1, [], Or.inl ⟨rfl, rfl, rfl, rfl⟩,
        unlocked_new device passphrase⟩
  | false =>
      cases passphrase with
      | none => exact Or.inl hblank
      | some pw =>
          exact Or.inl { hblank with calls := Or.inr ⟨UnlockCall.autoUnlock pw, rfl, rfl⟩ }

lemma session_step {device : String} {volumeKeyCached : Bool} {p : DetailPage}
    (hp : p.Session device volumeKeyCached) {e : PageEvent} (he : p.OneAtATime e) :
    (p.step e).Session device volumeKeyCached := by
  rcases hp with hlocked | ⟨creds, k, verified, hauthority, hunlocked⟩
  · exact hlocked.step volumeKeyCached he
  · exact Or.inr ⟨creds, k, verified, hauthority, hunlocked.step e⟩

/-- The page after a run. -/
def after (device : String) (passphrase : Option String) (volumeKeyCached : Bool)
    (events : List PageEvent) : DetailPage :=
  Events.run step (new device passphrase volumeKeyCached) events

/-- A run that keeps unlocks apart is a session. -/
lemma session_after {device : String} {passphrase : Option String} {volumeKeyCached : Bool}
    {events : List PageEvent}
    (h : Events.Along step OneAtATime (new device passphrase volumeKeyCached) events) :
    (after device passphrase volumeKeyCached events).Session device volumeKeyCached :=
  Events.run_invariant (I := Session device volumeKeyCached) (fun _ _ hp he => session_step hp he)
    (session_new device passphrase volumeKeyCached) h

/-- No request of a page wipes the keyslot of an unlock that was confirmed. -/
lemma issued_spare {device : String} {passphrase : Option String} {events : List PageEvent}
    (honce : Events.Along step OneAtATime (new device passphrase false) events)
    {call : UnlockCall} {k : ℤ} (hverified : (call, k) ∈ (after device passphrase false events).verified)
    {r : SlotRequest} (hr : r ∈ (after device passphrase false events).issued) : r.Spares k := by
  rcases session_after honce with hlocked | ⟨creds, k', verified, hauthority, hunlocked⟩
  · rw [hlocked.issued] at hr
    cases hr
  · rcases hauthority with ⟨hcached, -⟩ | ⟨call', -, rfl⟩
    · cases hcached
    · rw [hunlocked.verified, List.mem_singleton] at hverified
      obtain ⟨-, rfl⟩ := Prod.mk.inj hverified
      exact (hunlocked.issued r hr).2.2

/-- **A page never wipes the keyslot it came in by.**  For every way of opening a page and every
run in which unlocks are begun one at a time: each wipe and each enrollment that leaves it is for its
device, carries the credentials that the service confirmed, or those of the cached volume key, and is no
wipe of the keyslot that confirmed them. -/
theorem issued_requests_authorised {device : String} {passphrase : Option String}
    {volumeKeyCached : Bool} {events : List PageEvent}
    (honce : Events.Along step OneAtATime (new device passphrase volumeKeyCached) events) :
    ∀ r ∈ (after device passphrase volumeKeyCached events).issued,
      ∃ k, (after device passphrase volumeKeyCached events).authKeyslot = some k ∧
        r.device = device ∧ r.Spares k ∧
        ((volumeKeyCached = true ∧ r.credentials = ("", "passphrase", "") ∧ k = -1)
          ∨ ∃ call, r.credentials = call.credentials ∧
            (after device passphrase volumeKeyCached events).verified = [(call, k)]) := by
  intro r hr
  rcases session_after honce with hlocked | ⟨creds, k, verified, hauthority, hunlocked⟩
  · rw [hlocked.issued] at hr
    cases hr
  · obtain ⟨hdevice, hcreds, hspares⟩ := hunlocked.issued r hr
    refine ⟨k, hunlocked.authKeyslot, hdevice, hspares, ?_⟩
    rcases hauthority with ⟨hcached, rfl, rfl, -⟩ | ⟨call, rfl, rfl⟩
    · exact Or.inl ⟨hcached, hcreds, rfl⟩
    · exact Or.inr ⟨call, hcreds, hunlocked.verified⟩

/-- A page on which the user entered a passphrase, wiped another keyslot and added a recovery key. -/
def wipeAndEnroll : List PageEvent :=
  [PageEvent.enrolledMethods false false, PageEvent.doUnlock "pw",
    PageEvent.unlockFinished 0 (Except.ok (true, 0)), PageEvent.detailData [] [0, 1],
    PageEvent.wipeClicked 1, PageEvent.wipeConfirmed 0 "wipe", PageEvent.wipeCall 0 (some true),
    PageEvent.wipeDone 0, PageEvent.pushEnrollPage, PageEvent.doEnroll 0 EnrollArgs.recovery]

/-- A wipe and an enrollment, from one unlock. -/
theorem wipeAndEnroll_authorised :
    (after "/dev/sdb1" none false wipeAndEnroll).issued.length = 2 ∧
    ∀ r ∈ (after "/dev/sdb1" none false wipeAndEnroll).issued,
      ∃ k, (after "/dev/sdb1" none false wipeAndEnroll).authKeyslot = some k ∧
        r.device = "/dev/sdb1" ∧ r.Spares k ∧
        ((false = true ∧ r.credentials = ("", "passphrase", "") ∧ k = -1)
          ∨ ∃ call, r.credentials = call.credentials ∧
            (after "/dev/sdb1" none false wipeAndEnroll).verified = [(call, k)]) :=
  ⟨rfl, issued_requests_authorised (by decide)⟩

/-- Two unlocks in flight at once, both confirmed: the row of the second keyslot was listed for the
first one, and the wipe that it starts authenticates with the passphrase it takes away. -/
def overlappingUnlocks : List PageEvent :=
  [PageEvent.doUnlock "pw", PageEvent.doUnlock "pw2",
    PageEvent.unlockFinished 0 (Except.ok (true, 0)), PageEvent.detailData [] [0, 1],
    PageEvent.unlockFinished 0 (Except.ok (true, 1)), PageEvent.wipeClicked 1,
    PageEvent.wipeConfirmed 0 "wipe", PageEvent.wipeCall 0 (some true)]

example :
    (after "/dev/sdb1" none false overlappingUnlocks).authKeyslot = some 1
      ∧ (after "/dev/sdb1" none false overlappingUnlocks).issued
        = [SlotRequest.wipeSlot "/dev/sdb1" "pw2" "passphrase" "" ⟨1, i32_one⟩] := ⟨rfl, rfl⟩

/-! ## The page and the service

The page's requests are calls of the service, where others come in between.  What the page spares,
no call of its own destroys.
-/

lemma verified_header {who : Option ℕ} {device : String} (passphrase : String) (os : ℕ → Oracle)
    (w : World) :
    (((VolumeOp.verifyPassphrase passphrase).body device).run (exec who) os w).2.header device
      = w.header device := by
  have hreads : ((VolumeOp.verifyPassphrase passphrase).body device).AllCalls
      (Cmd.ReadsOn device) := by
    refine Prog.AllCalls.bind (verifyPassphrase_reads device passphrase).attempt fun x => ?_
    cases x <;> trivial
  exact (Prog.wp_sound (@wp_readsOn who (fun _ => True) device Answer _ hreads w) os
    fun _ => trivial).header device

/-- **A session does not lock its user out.**  Whatever the user then does on a page that a passphrase
unlocked — any wipes, any enrollments, with their requests served in any order, interleaved command
by command and with any faults — the passphrase still unlocks the volume. -/
theorem session_keeps_passphrase {device pw : String} {initial : Option String}
    {events : List PageEvent} {call : UnlockCall} {k : ℤ}
    (honce : Events.Along step OneAtATime (new device initial false) events)
    (hverified : (call, k) ∈ (after device initial false events).verified)
    {w : World} {who who' : Option ℕ} {os os' : ℕ → Oracle}
    (hanswer : (((VolumeOp.verifyPassphrase pw).body device).run (exec who) os w).1
      = Except.ok (Answer.found true k))
    {n : ℕ} {reqs : Fin n → SlotRequest}
    (hreqs : ∀ i, reqs i ∈ (after device initial false events).issued)
    (sched : List (Fin n × Oracle)) (hos' : ∀ m, (os' m).fault = none) :
    ∃ slot, (((VolumeOp.verifyPassphrase pw).body device).run (exec who') os'
        ((Requests reqs (((VolumeOp.verifyPassphrase pw).body device).run (exec who) os w).2).run
          (handlers n) sched).state).1
      = Except.ok (Answer.found true slot) := by
  -- the keyslot that the service named
  obtain ⟨x, hx, hx'⟩ := @verify_answer who (fun _ => True) device pw os (fun _ => trivial) w
  rw [hanswer] at hx'
  cases x with
  | error e => cases hx'
  | ok i =>
      obtain ⟨h, hh, hopens⟩ := hx
      obtain ⟨-, hki⟩ := Answer.found.inj (Except.ok.inj hx')
      have hspare : ∀ j, (reqs j).Spares i := fun j => hki ▸ issued_spare honce hverified (hreqs j)
      obtain ⟨h', hh', hopens'⟩ :=
        opens_while_spared ((verified_header pw os w).trans hh) hopens (fun j _ => hspare j) sched
      exact (verify_iff pw hos' _).mpr ⟨h', i, hh', hopens'⟩

/-- The two requests of `wipeAndEnroll`, side by side. -/
def wipeBesideRecovery : Fin 2 → SlotRequest
  | 0 => SlotRequest.wipeSlot "/dev/sdb1" "pw" "passphrase" "" ⟨1, i32_one⟩
  | 1 => SlotRequest.enrollRecoveryKey "/dev/sdb1" "pw" "passphrase" ""

/-- A wipe of another slot, with a recovery enrollment beside it. -/
theorem session_keeps_first_passphrase :
    ∃ slot, (((VolumeOp.verifyPassphrase "pw").body "/dev/sdb1").run (exec none)
        (fun _ => Oracle.quiet)
        ((Requests wipeBesideRecovery
          (((VolumeOp.verifyPassphrase "pw").body "/dev/sdb1").run (exec none)
            (fun _ => Oracle.quiet) twoPassphrases).2).run
              (handlers 2) (oneByOne 2 20)).state).1
      = Except.ok (Answer.found true slot) := by
  have hissued : (after "/dev/sdb1" none false wipeAndEnroll).issued
      = [wipeBesideRecovery 0, wipeBesideRecovery 1] := rfl
  refine @session_keeps_passphrase "/dev/sdb1" "pw" none wipeAndEnroll (UnlockCall.unlock "pw") 0
    (by decide) (by decide) _ none none _ _ rfl 2 wipeBesideRecovery (fun i => ?_)
    (oneByOne 2 20) fun _ => rfl
  rw [hissued]
  match i with
  | 0 => exact List.mem_cons_self
  | 1 => exact List.mem_cons_of_mem _ List.mem_cons_self

end DetailPage

end LuksEnroll
