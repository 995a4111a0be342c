import LuksEnroll.DetailPage
import LuksEnroll.PcrSelections
import Mathlib.Data.List.Sort

/-!
# The enrollment page

`EnrollPage` is one page for four methods: an `EnrollSpec` says what is read off the page and which
of its widgets are locked while a worker thread makes the call.  Nothing else keeps a second
enrollment from being begun before the first one is answered.

The page of a FIDO2 key has more going on: it asks the service which keys are enrolled already, for
every key that is plugged in or pulled out, and the answer unlocks what the question locked.  The
answer does not look whether an enrollment has begun in the meantime, so
`one_enrollment_at_a_time` has a condition for that page: no enrollment is begun while a question is
open (`begunWhileChecking` is what happens otherwise).

What the user ticks on the page of a TPM2 is what the secret is sealed to and what is asked for when
it is unsealed: `ticked_registers_bound`.

`Exclusive` is the account of a page: at most one enrollment is on its way, and the widgets of its
method are locked while it is.  The four pages differ only in what is read off them (`EnrollInputs`), so
that there is one definition and one theorem.
-/

namespace LuksEnroll

open Library

/-! ## What is read off the page

The four methods and their inputs.  `validateAndCollect` is the one place where inputs become the
arguments of a call, or a message.
-/

/-- `ENROLL_SPECS`. -/
inductive EnrollSpec : Type
  | fido2
  | tpm2
  | recovery
  | passphrase
  deriving DecidableEq

/-- What the page of a FIDO2 key has: a PIN, and the key that is chosen. -/
structure Fido2Inputs where
  pin : String
  /-- `_fido2_dropdown.get_selected()`. -/
  selected : ℕ

/-- What the page of a TPM2 has: a PIN twice, and the registers. -/
structure Tpm2Inputs where
  pin : String
  confirm : String
  /-- `_pcr_checks`, by number. -/
  checks : List (ℕ × Bool)

/-- What the page of a passphrase has: it twice. -/
structure PassphraseInputs where
  pw : String
  confirm : String

/-- The inputs of a page. -/
abbrev EnrollInputs : EnrollSpec → Type
  | EnrollSpec.fido2 => Fido2Inputs
  | EnrollSpec.tpm2 => Tpm2Inputs
  | EnrollSpec.recovery => Unit
  | EnrollSpec.passphrase => PassphraseInputs

/-- `_fido2_get_selected_device`. -/
def fido2GetSelectedDevice (devices : List (String × String)) (enrolled : List String)
    (selected : ℕ) : String :=
  let unenrolled := devices.filter fun d => !decide (d.1 ∈ enrolled)
  let first := match unenrolled with
    | [] => "auto"
    | d :: _ => "/dev/" ++ d.1
  match devices[selected]? with
  | some (dev, _) => if dev ∈ enrolled then first else "/dev/" ++ dev
  | none => first

/-- The registers with a tick, in order. -/
def tickedRegisters (checks : List (ℕ × Bool)) : List ℕ :=
  ((checks.filter Prod.snd).map Prod.fst).insertionSort (· ≤ ·)

/-- `validate_and_collect`, with the keys that are plugged in and those that are enrolled. -/
def validateAndCollect (devices : List (String × String)) (enrolled : List String) :
    (spec : EnrollSpec) → EnrollInputs spec → Except String EnrollArgs
  | EnrollSpec.fido2, x =>
      if x.pin = "" then Except.error "PIN cannot be empty."
      else Except.ok (EnrollArgs.fido2 x.pin (fido2GetSelectedDevice devices enrolled x.selected))
  | EnrollSpec.tpm2, x =>
      if x.pin ≠ "" ∧ x.pin ≠ x.confirm then Except.error "PINs do not match."
      else if tickedRegisters x.checks = [] then Except.error "Select at least one PCR register."
      else Except.ok (EnrollArgs.tpm2 x.pin
        (String.intercalate "+" ((tickedRegisters x.checks).map toString)))
  | EnrollSpec.recovery, _ => Except.ok EnrollArgs.recovery
  | EnrollSpec.passphrase, x =>
      if x.pw = "" then Except.error "Passphrase cannot be empty."
      else if x.pw ≠ x.confirm then Except.error "Passphrases do not match."
      else Except.ok (EnrollArgs.passphrase x.pw)

/-! ## The page

What of the page decides when a call is made: the calls that are on their way, the questions that
are open, and which widgets are locked.
-/

/-- A page, as far as the calls that it makes depend on it. -/
structure EnrollPage where
  /-- Is `_enroll_btn` sensitive? -/
  button : Bool
  /-- `_pin_row` of a FIDO2 key, `_pin_group` of a TPM2, which has the button in it, and the two rows
  of a passphrase. -/
  entries : Bool
  /-- `_fido2_row`, with the drop-down list. -/
  deviceRow : Bool
  devices : List (String × String)
  enrolledDevs : List String
  isEnrolling : Bool
  -- what is under way
  enrolling : List EnrollArgs
  checks : ℕ

namespace EnrollPage

/-! ### The keys on the page

The page of a FIDO2 key follows what is plugged in, and asks the service about every change.
-/

/-- `_fido2_update_device_ui`; what changing the list does to the widgets is overwritten at the end. -/
def updateDeviceUi (p : EnrollPage) : EnrollPage :=
  let hasUnenrolled := p.devices.any fun d => !decide (d.1 ∈ p.enrolledDevs)
  { p with button := hasUnenrolled, entries := hasUnenrolled }

/-- `_fido2_on_dropdown_changed`. -/
def onDropdownChanged (p : EnrollPage) (selected : ℕ) : EnrollPage :=
  if p.isEnrolling then p
  else match p.devices[selected]? with
    | some (dev, _) =>
        let isEnrolled := decide (dev ∈ p.enrolledDevs)
        { p with button := !isEnrolled, entries := !isEnrolled }
    | none => p

/-- `_fido2_fetch_enrolled_status`. -/
def fetchEnrolledStatus (p : EnrollPage) : EnrollPage :=
  if p.devices = [] then p
  else { p with button := false, entries := false, checks := p.checks + 1 }

/-- `_fido2_apply_status`. -/
def applyStatus (p : EnrollPage) (serverEnrolled : List String) : EnrollPage :=
  updateDeviceUi { p with enrolledDevs := serverEnrolled, checks := p.checks - 1 }

/-- `_fido2_refresh_devices`. -/
def refreshDevices (p : EnrollPage) (detected : List (String × String)) : EnrollPage :=
  updateDeviceUi { p with devices := detected }

/-- `on_uevent`. -/
def onUevent (p : EnrollPage) (action : String) (detected : List (String × String)) : EnrollPage :=
  if p.isEnrolling then p
  else if action = "add" ∨ action = "remove" then (p.refreshDevices detected).fetchEnrolledStatus
  else p

/-! ### Enrolling

What a click does, and what the end of a call does.  Both ask the method's specification which
widgets are concerned.
-/

/-- The widgets of a new page. -/
def blank : EnrollPage where
  button := true
  entries := true
  deviceRow := true
  devices := []
  enrolledDevs := []
  isEnrolling := false
  enrolling := []
  checks := 0

/-- `__init__`, which ends in `post_init`: with the keys that are plugged in, and with a TPM2 or
without. -/
def new (detected : List (String × String)) (tpm2Present : Bool) : EnrollSpec → EnrollPage
  | EnrollSpec.fido2 => (blank.refreshDevices detected).fetchEnrolledStatus
  | EnrollSpec.tpm2 => if tpm2Present then blank else { blank with button := false }
  | EnrollSpec.recovery => blank
  | EnrollSpec.passphrase => blank

/-- `on_enroll_start`. -/
def onEnrollStart (p : EnrollPage) : EnrollSpec → EnrollPage
  | EnrollSpec.fido2 => { p with isEnrolling := true, entries := false, deviceRow := false }
  | EnrollSpec.tpm2 => { p with entries := false }
  | EnrollSpec.recovery => p
  | EnrollSpec.passphrase => { p with entries := false }

/-- `on_enroll_done`. -/
def specEnrollDone (p : EnrollPage) (ok : Bool) : EnrollSpec → EnrollPage
  | EnrollSpec.fido2 =>
      let p := { p with isEnrolling := false, deviceRow := true }
      if ok then p.fetchEnrolledStatus else { p with entries := true }
  | EnrollSpec.tpm2 => { p with entries := true }
  | EnrollSpec.recovery => p
  | EnrollSpec.passphrase => { p with entries := true }

/-- `_do_enroll`, up to the worker thread. -/
def doEnroll (p : EnrollPage) (spec : EnrollSpec) (inputs : EnrollInputs spec) : EnrollPage :=
  match validateAndCollect p.devices p.enrolledDevs spec inputs with
  | Except.error _ => p
  | Except.ok args =>
      { onEnrollStart { p with button := false } spec with enrolling := p.enrolling ++ [args] }

/-- `_on_enroll_done`, for the `i`-th enrollment under way. -/
def onEnrollDone (p : EnrollPage) (spec : EnrollSpec) (i : ℕ) (ok : Bool) : EnrollPage :=
  match p.enrolling[i]? with
  | none => p
  | some _ =>
      specEnrollDone { p with button := true, enrolling := p.enrolling.eraseIdx i } ok spec

/-- The button can be pressed; that of a TPM2 is in the group that is locked. -/
def canClick (p : EnrollPage) : EnrollSpec → Bool
  | EnrollSpec.tpm2 => p.button && p.entries
  | _ => p.button

/-- Enter can be pressed in an entry that begins an enrollment. -/
def canActivate (p : EnrollPage) : EnrollSpec → Bool
  | EnrollSpec.recovery => false
  | _ => p.entries

/-- An enrollment can be begun. -/
def canBegin (p : EnrollPage) (spec : EnrollSpec) : Bool := p.canClick spec || p.canActivate spec

end EnrollPage

/-! ## The machine

One page, with clicks, answers and changes of the keys in any order.
-/

/-- What can happen to a page. -/
inductive EnrollEvent (spec : EnrollSpec) : Type
  /-- The button, or Enter in an entry. -/
  | begin (inputs : EnrollInputs spec)
  | done (i : ℕ) (ok : Bool)
  | dropdownChanged (selected : ℕ)
  | status (serverEnrolled : List String)
  | uevent (action : String) (detected : List (String × String))

namespace EnrollPage

variable {spec : EnrollSpec}

/-- Only the page of a FIDO2 key has a list of keys and questions about them. -/
def step (p : EnrollPage) : EnrollEvent spec → EnrollPage
  | EnrollEvent.begin inputs => if p.canBegin spec then p.doEnroll spec inputs else p
  | EnrollEvent.done i ok => p.onEnrollDone spec i ok
  | EnrollEvent.dropdownChanged selected =>
      if spec = EnrollSpec.fido2 ∧ p.deviceRow = true ∧ 1 < p.devices.length then
        p.onDropdownChanged selected
      else p
  | EnrollEvent.status serverEnrolled =>
      if spec = EnrollSpec.fido2 ∧ 0 < p.checks then p.applyStatus serverEnrolled else p
  | EnrollEvent.uevent action detected =>
      if spec = EnrollSpec.fido2 then p.onUevent action detected else p

/-- **The condition on an event**: no enrollment is begun while the service is asked which keys are
enrolled. -/
def Settled (p : EnrollPage) : EnrollEvent spec → Prop
  | EnrollEvent.begin _ => p.checks = 0
  | _ => True

instance (p : EnrollPage) : ∀ e : EnrollEvent spec, Decidable (p.Settled e)
  | EnrollEvent.begin _ => inferInstanceAs (Decidable (p.checks = 0))
  | EnrollEvent.done _ _ => isTrue trivial
  | EnrollEvent.dropdownChanged _ => isTrue trivial
  | EnrollEvent.status _ => isTrue trivial
  | EnrollEvent.uevent _ _ => isTrue trivial

/-- **The invariant**: an enrollment under way is the only one, no other can be begun, and nothing is
under way that would change that. -/
structure Exclusive (p : EnrollPage) (spec : EnrollSpec) : Prop where
  alone : p.enrolling.length ≤ 1
  locked : p.enrolling ≠ [] → p.button = false ∧ (spec ≠ EnrollSpec.recovery → p.entries = false)
  quiet : spec = EnrollSpec.fido2 → p.enrolling ≠ [] → p.isEnrolling = true ∧ p.checks = 0

lemma exclusive_of_idle {p : EnrollPage} (h : p.enrolling = []) : p.Exclusive spec where
  alone := by rw [h]; exact Nat.zero_le 1
  locked hne := absurd h hne
  quiet _ hne := absurd h hne

/-- Asking which keys are enrolled begins no enrollment. -/
lemma fetchEnrolledStatus_enrolling (p : EnrollPage) :
    p.fetchEnrolledStatus.enrolling = p.enrolling := by
  rw [fetchEnrolledStatus]
  split_ifs <;> rfl

/-- The end of an enrollment is for one call, and leaves the others. -/
lemma specEnrollDone_enrolling (p : EnrollPage) (ok : Bool) (spec : EnrollSpec) :
    (p.specEnrollDone ok spec).enrolling = p.enrolling := by
  cases spec with
  | fido2 =>
      rw [specEnrollDone]
      split_ifs
      · exact fetchEnrolledStatus_enrolling _
      · rfl
  | tpm2 => rfl
  | recovery => rfl
  | passphrase => rfl

/-- When one can be begun, none is under way. -/
lemma Exclusive.idle_of_canBegin {p : EnrollPage} (hp : p.Exclusive spec)
    (hcan : p.canBegin spec = true) : p.enrolling = [] := by
  by_contra hne
  obtain ⟨hbutton, hentries⟩ := hp.locked hne
  cases spec with
  | recovery => simp [canBegin, canClick, canActivate, hbutton] at hcan
  | fido2 => simp [canBegin, canClick, canActivate, hbutton, hentries] at hcan
  | tpm2 => simp [canBegin, canClick, canActivate, hbutton, hentries] at hcan
  | passphrase => simp [canBegin, canClick, canActivate, hbutton, hentries] at hcan

/-- An enrollment is begun while there is no other. -/
lemma Exclusive.begin {p : EnrollPage} (hidle : p.enrolling = []) (hchecks : p.checks = 0)
    (inputs : EnrollInputs spec) : (p.doEnroll spec inputs).Exclusive spec := by
  rw [doEnroll]
  cases validateAndCollect p.devices p.enrolledDevs spec inputs with
  | error e => exact exclusive_of_idle hidle
  | ok args =>
      refine ⟨by simp [hidle], fun _ => ?_, fun hspec _ => ?_⟩
      · cases spec <;> simp [onEnrollStart]
      · subst hspec
        exact ⟨rfl, hchecks⟩

lemma Exclusive.done {p : EnrollPage} (hp : p.Exclusive spec) (i : ℕ) (ok : Bool) :
    (p.onEnrollDone spec i ok).Exclusive spec := by
  rw [onEnrollDone]
  cases hi : p.enrolling[i]? with
  | none => exact hp
  | some args =>
      obtain ⟨hlt, -⟩ := List.getElem?_eq_some_iff.mp hi
      refine exclusive_of_idle ?_
      rw [specEnrollDone_enrolling]
      have halone := hp.alone
      exact List.eq_nil_of_length_eq_zero (by rw [List.length_eraseIdx_of_lt hlt]; omega)

lemma exclusive_step {p : EnrollPage} (hp : p.Exclusive spec) {e : EnrollEvent spec}
    (he : p.Settled e) : (p.step e).Exclusive spec := by
  cases e with
  | begin inputs =>
      rw [step]
      split_ifs with hcan
      · exact Exclusive.begin (hp.idle_of_canBegin hcan) he inputs
      · exact hp
  | done i ok => exact hp.done i ok
  | dropdownChanged selected =>
      rw [step]
      split_ifs with hrow
      · rw [onDropdownChanged]
        split_ifs with henrolling
        · exact hp
        · -- no enrollment is under way
          have hidle : p.enrolling = [] := by
            by_contra hne
            exact henrolling (hp.quiet hrow.1 hne).1
          cases p.devices[selected]? with
          | none => exact hp
          | some d => exact exclusive_of_idle hidle
      · exact hp
  | status serverEnrolled =>
      rw [step]
      split_ifs with hcheck
      · have hidle : p.enrolling = [] := by
          by_contra hne
          have hchecks := (hp.quiet hcheck.1 hne).2
          omega
        exact exclusive_of_idle hidle
      · exact hp
  | uevent action detected =>
      rw [step]
      split_ifs with hspec
      · rw [onUevent]
        split_ifs with henrolling
        · exact hp
        · have hidle : p.enrolling = [] := by
            by_contra hne
            exact henrolling (hp.quiet hspec hne).1
          exact exclusive_of_idle ((fetchEnrolledStatus_enrolling _).trans hidle)
        · exact hp
      · exact hp

lemma exclusive_new (detected : List (String × String)) (tpm2Present : Bool) :
    (new detected tpm2Present spec).Exclusive spec := by
  refine exclusive_of_idle ?_
  cases spec with
  | fido2 => exact fetchEnrolledStatus_enrolling _
  | tpm2 => cases tpm2Present <;> rfl
  | recovery => rfl
  | passphrase => rfl

/-- Only the page of a FIDO2 key asks anything. -/
lemma checks_step {p : EnrollPage} (hspec : spec ≠ EnrollSpec.fido2) (e : EnrollEvent spec) :
    (p.step e).checks = p.checks := by
  cases e with
  | begin inputs =>
      rw [step, doEnroll]
      split_ifs
      · cases validateAndCollect p.devices p.enrolledDevs spec inputs with
        | error e => rfl
        | ok args => cases spec <;> first | exact absurd rfl hspec | rfl
      · rfl
  | done i ok =>
      rw [step, onEnrollDone]
      cases p.enrolling[i]? with
      | none => rfl
      | some args => cases spec <;> first | exact absurd rfl hspec | rfl
  | dropdownChanged selected => rw [step, if_neg fun h => hspec h.1]
  | status serverEnrolled => rw [step, if_neg fun h => hspec h.1]
  | uevent action detected => rw [step, if_neg hspec]

/-- **One enrollment at a time.**  On every page and in every run at most one enrollment is under way,
and while it is none can be begun; on the page of a FIDO2 key, if none is begun while the service is
asked which keys are enrolled. -/
theorem one_enrollment_at_a_time {detected : List (String × String)} {tpm2Present : Bool}
    {events : List (EnrollEvent spec)}
    (hsettled : spec = EnrollSpec.fido2 →
      Events.Along step Settled (new detected tpm2Present spec) events) :
    (Events.run step (new detected tpm2Present spec) events).enrolling.length ≤ 1
      ∧ ((Events.run step (new detected tpm2Present spec) events).enrolling ≠ [] →
          (Events.run step (new detected tpm2Present spec) events).canBegin spec = false) := by
  have hexclusive : (Events.run step (new detected tpm2Present spec) events).Exclusive spec := by
    by_cases hspec : spec = EnrollSpec.fido2
    · exact Events.run_invariant (I := fun p : EnrollPage => p.Exclusive spec)
        (fun _ _ hp he => exclusive_step hp he) (exclusive_new detected tpm2Present) (hsettled hspec)
    · have hnew : (new detected tpm2Present spec).checks = 0 := by
        cases spec with
        | fido2 => exact absurd rfl hspec
        | tpm2 => cases tpm2Present <;> rfl
        | recovery => rfl
        | passphrase => rfl
      refine (Events.run_invariant (I := fun p : EnrollPage => p.Exclusive spec ∧ p.checks = 0) ?_
        ⟨exclusive_new detected tpm2Present, hnew⟩ (Events.along_true _ events)).1
      rintro p e ⟨hp, hchecks⟩ -
      refine ⟨exclusive_step hp ?_, (checks_step hspec e).trans hchecks⟩
      cases e with
      | begin inputs => exact hchecks
      | _ => trivial
  refine ⟨hexclusive.alone, fun hne => ?_⟩
  by_contra hcan
  exact hne (hexclusive.idle_of_canBegin (Bool.not_eq_false _ ▸ hcan))

/-- A key is enrolled, and another one plugged in meanwhile. -/
def enrollOneKey : List (EnrollEvent EnrollSpec.fido2) :=
  [EnrollEvent.status [], EnrollEvent.begin ⟨"1234", 0⟩, EnrollEvent.uevent "add" [],
    EnrollEvent.begin ⟨"1234", 0⟩, EnrollEvent.done 0 false, EnrollEvent.begin ⟨"1234", 0⟩]

/-- One key, enrolled once. -/
theorem enrollOneKey_alone :
    (Events.run step (new [("hidraw0", "YubiKey")] false EnrollSpec.fido2) enrollOneKey).enrolling.length
        ≤ 1
      ∧ ((Events.run step (new [("hidraw0", "YubiKey")] false EnrollSpec.fido2) enrollOneKey).enrolling
          ≠ [] →
        (Events.run step (new [("hidraw0", "YubiKey")] false EnrollSpec.fido2) enrollOneKey).canBegin
          EnrollSpec.fido2 = false) :=
  one_enrollment_at_a_time fun _ => by decide

/-- Two keys: choosing the other one in the list unlocks the button while the service is still asked,
and its answer unlocks it again after the enrollment has begun. -/
def begunWhileChecking : List (EnrollEvent EnrollSpec.fido2) :=
  [EnrollEvent.dropdownChanged 1, EnrollEvent.begin ⟨"1234", 1⟩, EnrollEvent.status [],
    EnrollEvent.begin ⟨"1234", 0⟩]

example : (Events.run step
    (new [("hidraw0", "YubiKey"), ("hidraw1", "SoloKey")] false EnrollSpec.fido2)
    begunWhileChecking).enrolling
      = [EnrollArgs.fido2 "1234" "/dev/hidraw1", EnrollArgs.fido2 "1234" "/dev/hidraw0"] := by
  decide +kernel

end EnrollPage

/-! ## The registers of a TPM2

From the boxes of the page to the selection that the TPM is given: the numbers are written into a
text, read again by the service, and made into a bitmap.
-/

lemma mem_tickedRegisters {checks : List (ℕ × Bool)} {n : ℕ} :
    n ∈ tickedRegisters checks ↔ (n, true) ∈ checks := by
  rw [tickedRegisters, List.mem_insertionSort]
  constructor
  · intro hn
    obtain ⟨⟨m, ticked⟩, hmem, rfl⟩ := List.mem_map.mp hn
    obtain ⟨hmem, hticked⟩ := List.mem_filter.mp hmem
    obtain rfl : ticked = true := hticked
    exact hmem
  · intro hmem
    exact List.mem_map.mpr ⟨(n, true), List.mem_filter.mpr ⟨hmem, rfl⟩, rfl⟩

/-- The text of numbers in range is read as these numbers. -/
lemma parsePcrIndices_numbers {ns : List ℕ} (hne : ns ≠ []) (hrange : ∀ n ∈ ns, n ≤ 23) :
    parsePcrIndices (String.intercalate "+" (ns.map toString)) = Except.ok ns.eraseDups := by
  have hnumbers : pcrNumbers (ns.map toString) = ns.map fun n : ℕ => some (n : ℤ) := by
    have hall : ∀ p ∈ ns.map toString, decide (p ≠ "") = true := by
      intro p hp
      obtain ⟨n, -, rfl⟩ := List.mem_map.mp hp
      exact decide_eq_true (toString_ne_empty n)
    have htrim : (ns.map toString).map trim = ns.map toString := by
      rw [List.map_map]
      exact List.map_congr_left fun n _ => trim_toString n
    rw [pcrNumbers, htrim, List.filter_eq_self.mpr hall, List.map_map]
    refine List.map_congr_left fun n hn => ?_
    have hle := hrange n hn
    rw [Function.comp_apply, parseI64, parseInt_toString (by omega) (by omega)]
  rw [parsePcrIndices_eq_ok, pcrParts_intercalate hne, pcrIndices_of_numbers hnumbers hrange,
    foldl_pushIndex]
  refine ⟨rfl, fun hnil => ?_⟩
  obtain ⟨n, hn⟩ := List.exists_mem_of_ne_nil ns hne
  rw [← List.mem_eraseDups, hnil] at hn
  cases hn

lemma shiftLeft_one_injective : Function.Injective fun n : ℕ => 1 <<< n := by
  intro m n h
  simp only [Nat.shiftLeft_eq, one_mul] at h
  exact Nat.pow_right_injective (le_refl 2) h

lemma validate_tpm2_iff {devices : List (String × String)} {enrolled : List String} {x : Tpm2Inputs}
    {args : EnrollArgs} :
    validateAndCollect devices enrolled EnrollSpec.tpm2 x = Except.ok args ↔
      (x.pin = "" ∨ x.pin = x.confirm) ∧ tickedRegisters x.checks ≠ [] ∧
        args = EnrollArgs.tpm2 x.pin
          (String.intercalate "+" ((tickedRegisters x.checks).map toString)) := by
  rw [validateAndCollect]
  split_ifs with hpin hticks
  · exact ⟨fun h => (by cases h), fun h => absurd h.1 (by tauto)⟩
  · exact ⟨fun h => (by cases h), fun h => absurd hticks h.2.1⟩
  · refine ⟨fun h => ⟨by tauto, hticks, (Except.ok.inj h).symm⟩, fun h => ?_⟩
    rw [h.2.2]

/-- **What is ticked is what is bound.**  The page sends something exactly if a register is ticked and
the PIN was confirmed; the selection that the service makes of it, to seal and after the token has been
read back to unseal, is of the ticked registers and no others, and the token asks for a PIN exactly if
one was entered.  What goes to the TPM has the bits of these registers in its mask, with any TPM library
that does what is documented. -/
theorem ticked_registers_bound (devices : List (String × String)) (enrolled : List String)
    (x : Tpm2Inputs) (hrange : ∀ c ∈ x.checks, c.1 ≤ 23) :
    ((∃ args, validateAndCollect devices enrolled EnrollSpec.tpm2 x = Except.ok args) ↔
        (x.pin = "" ∨ x.pin = x.confirm) ∧ ∃ n, (n, true) ∈ x.checks) ∧
      ∀ pin pcrs, validateAndCollect devices enrolled EnrollSpec.tpm2 x
          = Except.ok (EnrollArgs.tpm2 pin pcrs) →
        ∃ sel list, sealSelection pcrs = Except.ok sel ∧ pcrList pcrs = Except.ok list
          ∧ (∀ n, 1 <<< n ∈ sel.slots ↔ (n, true) ∈ x.checks)
          ∧ (∀ T : TssEsapi, T.Documented → ∃ built mask,
            Machine.buildPcrSelectionList T HashingAlgorithm.sha256 pcrs = Except.ok built
              ∧ T.tpml built = [⟨tpm2Alg HashingAlgorithm.sha256, 3, mask⟩]
              ∧ ∀ n, Bits.selects mask n = true ↔ (n, true) ∈ x.checks)
          ∧ ∀ (result : SealResult) (tid : String) (keyslot : ℕ), keyslot < keyslotsMax →
            ∃ ref, tpm2RefsFromMeta (soleToken tid
                (withKeyslot (tpm2TokenJson result list (decide (pin ≠ ""))) keyslot))
                = Except.ok [ref]
              ∧ unsealSelection ref = Except.ok sel ∧ ref.pinRequired = decide (x.pin ≠ "") := by
  have hticks : tickedRegisters x.checks ≠ [] ↔ ∃ n, (n, true) ∈ x.checks := by
    rw [Ne, List.eq_nil_iff_forall_not_mem]
    simp only [mem_tickedRegisters, not_forall, not_not]
  refine ⟨?_, fun pin pcrs hok => ?_⟩
  · simp only [validate_tpm2_iff, ← and_assoc, exists_and_left, exists_eq, and_true, hticks]
  obtain ⟨-, hne, hargs⟩ := validate_tpm2_iff.mp hok
  obtain ⟨rfl, rfl⟩ := EnrollArgs.tpm2.inj hargs
  have hle : ∀ n ∈ tickedRegisters x.checks, n ≤ 23 := fun n hn =>
    hrange _ (mem_tickedRegisters.mp hn)
  have hindices := parsePcrIndices_numbers hne hle
  have hsel : sealSelection (String.intercalate "+" ((tickedRegisters x.checks).map toString))
      = Except.ok ⟨HashingAlgorithm.sha256,
        (tickedRegisters x.checks).eraseDups.map fun n => 1 <<< n⟩ := by
    rw [sealSelection, buildPcrSelectionList, hindices]
    rfl
  obtain ⟨list, hlist, -⟩ := @tpm2_read_back _ _ hindices ⟨[], [], "", []⟩ false 0 (by decide)
  have hslots : ∀ n, 1 <<< n ∈ (tickedRegisters x.checks).eraseDups.map (fun n => 1 <<< n)
      ↔ (n, true) ∈ x.checks := by
    intro n
    rw [List.mem_map_of_injective shiftLeft_one_injective, List.mem_eraseDups, mem_tickedRegisters]
  refine ⟨_, list, hsel, hlist, hslots, fun T hT => ?_, fun result tid keyslot hkeyslot => ?_⟩
  · obtain ⟨built, mask, hbuilt, htpml, hmask⟩ :=
      (Machine.buildPcrSelectionList_refine hT HashingAlgorithm.sha256 _).2 _ hsel
    exact ⟨built, mask, hbuilt, htpml, fun n => (hmask n).trans (hslots n)⟩
  · obtain ⟨list', hlist', hback⟩ := tpm2_read_back hindices result (decide (x.pin ≠ "")) hkeyslot
    obtain rfl : list = list' := Except.ok.inj (hlist.symm.trans hlist')
    obtain ⟨text, hrefs, -, hunseal⟩ := hback.refs tid
    exact ⟨_, hrefs, hunseal.trans hsel, rfl⟩

/-- Two registers with a PIN. -/
theorem two_registers_bound :
    ((∃ args, validateAndCollect [] [] EnrollSpec.tpm2 ⟨"1234", "1234", [(7, true), (0, false),
        (11, true)]⟩ = Except.ok args) ↔
        ("1234" = "" ∨ "1234" = "1234") ∧ ∃ n, (n, true) ∈ [(7, true), (0, false), (11, true)]) ∧
      ∀ pin pcrs, validateAndCollect [] [] EnrollSpec.tpm2 ⟨"1234", "1234", [(7, true), (0, false),
          (11, true)]⟩ = Except.ok (EnrollArgs.tpm2 pin pcrs) →
        ∃ sel list, sealSelection pcrs = Except.ok sel ∧ pcrList pcrs = Except.ok list
          ∧ (∀ n, 1 <<< n ∈ sel.slots ↔ (n, true) ∈ [(7, true), (0, false), (11, true)])
          ∧ (∀ T : TssEsapi, T.Documented → ∃ built mask,
            Machine.buildPcrSelectionList T HashingAlgorithm.sha256 pcrs = Except.ok built
              ∧ T.tpml built = [⟨tpm2Alg HashingAlgorithm.sha256, 3, mask⟩]
              ∧ ∀ n, Bits.selects mask n = true ↔ (n, true) ∈ [(7, true), (0, false), (11, true)])
          ∧ ∀ (result : SealResult) (tid : String) (keyslot : ℕ), keyslot < keyslotsMax →
            ∃ ref, tpm2RefsFromMeta (soleToken tid
                (withKeyslot (tpm2TokenJson result list (decide (pin ≠ ""))) keyslot))
                = Except.ok [ref]
              ∧ unsealSelection ref = Except.ok sel ∧ ref.pinRequired = decide ("1234" ≠ "") :=
  ticked_registers_bound [] [] ⟨"1234", "1234", [(7, true), (0, false), (11, true)]⟩ (by decide)

end LuksEnroll
