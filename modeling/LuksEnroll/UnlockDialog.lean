import LuksEnroll.Library.Events
import LuksEnroll.Opening
import LuksEnroll.Tokens
import LuksEnroll.Watcher

/-!
# Unlocking without the main window

`LuksEnrollApp` with `--unlock` and `--watch`: no window that the toolkit keeps track of, only unlock
dialogs, and the process lives for as long as somebody holds it.

A dialog is a machine driven by what the main loop delivers and by what its threads do, and so is the
application: `AppEvent` has command lines, also those that reach a running instance, the signals of
udisks2, and the events of every dialog, in any order.  `opens` records the `OpenVolume` calls that
leave a dialog.

Two invariants: the process is held once while it watches and once by each dialog on the screen; and
every `OpenVolume` comes from one answer that said yes, for the dialog's own device.

`Counted` and `Careful` are the account of one dialog, the first without any condition, the second while
its unlocks are begun one at a time; `Accounted` is the application's.  Each has a lemma for every
event, and the events of a dialog reach the application through one of them (`Accounted.dialogEvent`).
-/

namespace LuksEnroll

open Library

/-! ## The dialog

One dialog: what it was asked to do, its call, and the thread that opens the volume.
-/

/-- An unlock in flight. -/
inductive DialogCall : Type
  | verify (passphrase : String)
  | token (tokenType pin : String)
  deriving DecidableEq

/-- A thread of `_map_volume`: before it calls `OpenVolume`, and then until `_on_map_done`. -/
inductive MapThread : Type
  | asking
  | opening
  deriving DecidableEq

/-- An `OpenVolume` call. -/
structure OpenCall where
  device : String
  name : String
  passphrase : String
  unlockMethod : String
  unlockPin : String
  deriving DecidableEq

/-- `UnlockVolumeDialog`, with the `released` of the application that presents it. -/
structure UnlockDialog where
  device : String
  passphrase : Option String
  authKeyslot : Option ℤ
  unlockMethod : String
  unlockPin : String
  pendingPw : String
  pendingTokenType : String
  pendingTokenPin : String
  -- which rows are shown
  pwRow : Bool
  rkRow : Bool
  tpm2Row : Bool
  fido2Row : Bool
  -- what is under way
  fetching : Bool
  calls : List DialogCall
  threads : List MapThread
  closed : Bool
  released : Bool
  -- ghosts: which unlocks the service confirmed, and what was sent
  verified : List (DialogCall × ℤ)
  opens : List OpenCall

/-- What can happen to a dialog. -/
inductive DialogEvent : Type
  | enrolledMethods (password recovery tpm2 fido2 : Bool) (systemdVersion : ℤ)
  | doUnlock (pw rk : String)
  | doTokenUnlock (tpm2 : Bool) (pin : String)
  | unlockFinished (i : ℕ) (answer : Except String (Bool × ℤ))
  | mapCall (i : ℕ) (uuid : String)
  | mapDone (i : ℕ) (ok : Bool)
  | closed

namespace UnlockDialog

/-- `__init__`. -/
def new (device : String) : UnlockDialog where
  device := device
  passphrase := none
  authKeyslot := none
  unlockMethod := "passphrase"
  unlockPin := ""
  pendingPw := ""
  pendingTokenType := ""
  pendingTokenPin := ""
  pwRow := false
  rkRow := false
  tpm2Row := false
  fido2Row := false
  fetching := true
  calls := []
  threads := []
  closed := false
  released := false
  verified := []
  opens := []

/-- `_apply_enrolled_methods`, which the fetch posts once. -/
def applyEnrolledMethods (d : UnlockDialog) (password recovery tpm2 fido2 : Bool)
    (systemdVersion : ℤ) : UnlockDialog :=
  if d.fetching then
    { d with
      fetching := false
      tpm2Row := tpm2 && decide (systemdVersion ≥ 256)
      fido2Row := fido2
      pwRow := password || !recovery
      rkRow := recovery }
  else d

/-- `_do_unlock`; in a row that is not shown nothing has been typed. -/
def doUnlock (d : UnlockDialog) (pw rk : String) : UnlockDialog :=
  let pwText := if d.pwRow then pw else ""
  let rkText := if d.rkRow then rk else ""
  let text := if pwText ≠ "" then pwText else rkText
  if d.closed ∨ text = "" then d
  else { d with pendingPw := text, calls := d.calls ++ [DialogCall.verify text] }

/-- `_do_token_unlock`. -/
def doTokenUnlock (d : UnlockDialog) (tpm2 : Bool) (pin : String) : UnlockDialog :=
  if d.closed ∨ (if tpm2 then d.tpm2Row else d.fido2Row) = false then d
  else
    let tokenType := if tpm2 then tokenTypeTpm2 else tokenTypeFido2
    { d with
      pendingTokenType := tokenType
      pendingTokenPin := pin
      calls := d.calls ++ [DialogCall.token tokenType pin] }

/-- The end of `_on_unlock_finish` and `_on_token_unlock_finish` when the service said yes: the
dialog goes by what it holds as pending, and a thread of `_map_volume` is started.  A passphrase
leaves the method as it is. -/
def confirm (d : UnlockDialog) (keyslot : ℤ) : DialogCall → UnlockDialog
  | DialogCall.verify _ =>
      { d with
        passphrase := some d.pendingPw
        authKeyslot := some keyslot
        threads := d.threads ++ [MapThread.asking] }
  | DialogCall.token _ _ =>
      { d with
        passphrase := none
        authKeyslot := some keyslot
        unlockMethod := d.pendingTokenType
        unlockPin := d.pendingTokenPin
        threads := d.threads ++ [MapThread.asking] }

/-- The answer to the `i`-th call in flight; an error is `GLib.Error`. -/
def unlockFinished (d : UnlockDialog) (i : ℕ) (answer : Except String (Bool × ℤ)) : UnlockDialog :=
  match d.calls[i]? with
  | none => d
  | some call =>
      let d := { d with calls := d.calls.eraseIdx i }
      match answer with
      | Except.ok (true, keyslot) =>
          { d.confirm keyslot call with verified := d.verified ++ [(call, keyslot)] }
      | _ => d

/-- What a thread of `_map_volume` sends, once it has the UUID (none after a `GLib.Error`): the dialog
is read now, not when the thread was started. -/
def openCall (python : CharacterClasses) (d : UnlockDialog) (uuid : String) : OpenCall :=
  ⟨d.device, deriveMapperName python d.device uuid, d.passphrase.getD "", d.unlockMethod, d.unlockPin⟩

/-- The calls of the `i`-th thread of `_map_volume`. -/
def mapCall (python : CharacterClasses) (d : UnlockDialog) (i : ℕ) (uuid : String) : UnlockDialog :=
  if d.threads[i]? = some MapThread.asking then
    { d with
      threads := d.threads.set i MapThread.opening
      opens := d.opens ++ [d.openCall python uuid] }
  else d

/-- `_on_map_done`; on success the dialog closes itself. -/
def mapDone (d : UnlockDialog) (i : ℕ) (ok : Bool) : UnlockDialog :=
  if d.threads[i]? = some MapThread.opening then
    { d with threads := d.threads.eraseIdx i, closed := d.closed || ok }
  else d

/-- One step of a dialog. -/
def step (python : CharacterClasses) (d : UnlockDialog) : DialogEvent → UnlockDialog
  | DialogEvent.enrolledMethods password recovery tpm2 fido2 systemdVersion =>
      d.applyEnrolledMethods password recovery tpm2 fido2 systemdVersion
  | DialogEvent.doUnlock pw rk => d.doUnlock pw rk
  | DialogEvent.doTokenUnlock tpm2 pin => d.doTokenUnlock tpm2 pin
  | DialogEvent.unlockFinished i answer => d.unlockFinished i answer
  | DialogEvent.mapCall i uuid => d.mapCall python i uuid
  | DialogEvent.mapDone i ok => d.mapDone i ok
  | DialogEvent.closed => { d with closed := true }

end UnlockDialog

/-! ## The application

What keeps the process alive is a count of holds.  Command lines and signals come in any order.
-/

/-- `LuksEnrollApp`: `holds` is the count behind `hold` and `release`, `watcher` there while the
signals of udisks2 are subscribed to, `windows` the management windows. -/
structure App where
  holds : ℤ
  watcher : Option Watcher
  dialogs : List UnlockDialog
  windows : ℕ
  launched : List String
  -- a ghost: the signals since the subscription
  signals : List Signal

/-- What can happen to the application.  `available` is whether the bus or the service is reached. -/
inductive AppEvent : Type
  | commandLine (watch : Bool) (unlock : Option String) (available : Bool)
  | signal (s : Signal)
  | dialog (i : ℕ) (e : DialogEvent)

namespace App

/-- The application before its first command line. -/
def start : App := ⟨0, none, [], 0, [], []⟩

/-- `Gtk.Application.hold`. -/
def hold (a : App) : App := { a with holds := a.holds + 1 }

/-- `Gtk.Application.release`. -/
def release (a : App) : App := { a with holds := a.holds - 1 }

/-- `release_once` of the `i`-th dialog. -/
def releaseOnce (a : App) (i : ℕ) : App :=
  match a.dialogs[i]? with
  | none => a
  | some d =>
      if d.released then a
      else { a.release with dialogs := a.dialogs.set i { d with released := true } }

/-- `_present_unlock_dialog`. -/
def presentUnlockDialog (a : App) (device : String) (available : Bool) : App :=
  let a := a.hold
  if available then { a with dialogs := a.dialogs ++ [UnlockDialog.new device] } else a.release

/-- `_start_watch_mode`. -/
def startWatchMode (a : App) (available : Bool) : App :=
  if a.watcher.isSome then a
  else
    let a := a.hold
    if available then { a with watcher := some (Watcher.init none) } else a.release

/-- `do_command_line`, from the parsed arguments; an empty device is none. -/
def doCommandLine (a : App) (watch : Bool) (unlock : Option String) (available : Bool) : App :=
  if watch then a.startWatchMode available
  else if unlock.getD "" ≠ "" then a.presentUnlockDialog (unlock.getD "") available
  else { a with windows := a.windows + 1 }

/-- A signal of udisks2, which arrives only while it is subscribed to. -/
def signal (a : App) (s : Signal) : App :=
  match a.watcher with
  | none => a
  | some w =>
      { a with
        watcher := some (w.step s).1
        launched := a.launched ++ (⟨s, (w.step s).2⟩ : Handled).launches
        signals := a.signals ++ [s] }

/-- An event of the `i`-th dialog.  On success both `on_mapped` and the `closed` signal of the dialog's
own `close` call `release_once`. -/
def dialogEvent (python : CharacterClasses) (a : App) (i : ℕ) (e : DialogEvent) : App :=
  match a.dialogs[i]? with
  | none => a
  | some d =>
      let b := { a with dialogs := a.dialogs.set i (d.step python e) }
      match e with
      | DialogEvent.mapDone t true =>
          if d.threads[t]? = some MapThread.opening then (b.releaseOnce i).releaseOnce i else b
      | DialogEvent.closed => b.releaseOnce i
      | _ => b

/-- One step of the application. -/
def step (python : CharacterClasses) (a : App) : AppEvent → App
  | AppEvent.commandLine watch unlock available => a.doCommandLine watch unlock available
  | AppEvent.signal s => a.signal s
  | AppEvent.dialog i e => a.dialogEvent python i e

end App

/-! ## What a dialog sends

Two accounts of a dialog, one for every run and one while its unlocks are begun one at a time.
-/

namespace UnlockDialog

/-- **The account of a dialog**: every answer that said yes has started one thread, which has sent one
call by now or has not asked yet; and what was sent is for the dialog's device. -/
structure Counted (python : CharacterClasses) (d : UnlockDialog) : Prop where
  opens_length : d.opens.length + d.threads.count MapThread.asking = d.verified.length
  opens : ∀ o ∈ d.opens, o.device = d.device
    ∧ ∃ uuid, o.name = deriveMapperName python d.device uuid

/-- The call in flight is the one that the dialog holds as pending. -/
def Pending (d : UnlockDialog) : DialogCall → Prop
  | DialogCall.verify passphrase => d.pendingPw = passphrase
  | DialogCall.token tokenType pin => d.pendingTokenType = tokenType ∧ d.pendingTokenPin = pin

end UnlockDialog

/-- The service has said yes to these credentials: to the passphrase, with no other method; or to the
token, and then the passphrase is none, or one that it has said yes to as well. -/
def Authorised (verified : List (DialogCall × ℤ)) (passphrase unlockMethod unlockPin : String) : Prop :=
  (unlockMethod = "passphrase" ∧ unlockPin = "" ∧ ∃ k, (DialogCall.verify passphrase, k) ∈ verified)
    ∨ (∃ k, (DialogCall.token unlockMethod unlockPin, k) ∈ verified)
      ∧ (passphrase = "" ∨ ∃ k, (DialogCall.verify passphrase, k) ∈ verified)

/-- What the service has said yes to stays so. -/
lemma Authorised.mono {verified verified' : List (DialogCall × ℤ)}
    {passphrase unlockMethod unlockPin : String}
    (h : Authorised verified passphrase unlockMethod unlockPin) (hsub : verified ⊆ verified') :
    Authorised verified' passphrase unlockMethod unlockPin := by
  rcases h with ⟨hmethod, hpin, k, hk⟩ | ⟨⟨k, hk⟩, hpw⟩
  · exact Or.inl ⟨hmethod, hpin, k, hsub hk⟩
  · exact Or.inr ⟨⟨k, hsub hk⟩, hpw.imp_right fun ⟨k', hk'⟩ => ⟨k', hsub hk'⟩⟩

namespace UnlockDialog

/-- **The invariant of a dialog whose unlocks are begun one at a time.** -/
structure Careful (d : UnlockDialog) : Prop where
  calls : d.calls = [] ∨ ∃ call, d.calls = [call] ∧ d.Pending call
  credentials : d.verified = [] ∧ d.unlockMethod = "passphrase" ∧ d.unlockPin = ""
    ∨ Authorised d.verified (d.passphrase.getD "") d.unlockMethod d.unlockPin
  opens : ∀ o ∈ d.opens, Authorised d.verified o.passphrase o.unlockMethod o.unlockPin

section

variable {python : CharacterClasses} {d : UnlockDialog}

lemma counted_new (python : CharacterClasses) (device : String) : (new device).Counted python where
  opens_length := rfl
  opens := fun o ho => by cases ho

/-- It has begun nothing, and holds no credentials. -/
lemma careful_new (device : String) : (new device).Careful where
  calls := Or.inl rfl
  credentials := Or.inl ⟨rfl, rfl, rfl⟩
  opens := fun o ho => by cases ho

lemma Counted.confirm (hd : d.Counted python) (call : DialogCall) (k : ℤ) (i : ℕ) :
    Counted python { ({ d with calls := d.calls.eraseIdx i } : UnlockDialog).confirm k call with
      verified := d.verified ++ [(call, k)] } := by
  have hlength := hd.opens_length
  cases call with
  | verify passphrase =>
      refine ⟨?_, hd.opens⟩
      simp only [UnlockDialog.confirm, List.count_append, List.length_append, List.length_singleton,
        List.count_singleton_self]
      omega
  | token tokenType pin =>
      refine ⟨?_, hd.opens⟩
      simp only [UnlockDialog.confirm, List.count_append, List.length_append, List.length_singleton,
        List.count_singleton_self]
      omega

/-- A thread that sends its call has not sent one before. -/
lemma Counted.mapCall (hd : d.Counted python) (i : ℕ) (uuid : String) :
    (d.mapCall python i uuid).Counted python := by
  rw [UnlockDialog.mapCall]
  split_ifs with hthread
  · obtain ⟨hi, hget⟩ := List.getElem?_eq_some_iff.mp hthread
    have hlength := hd.opens_length
    have hpositive : 0 < d.threads.count MapThread.asking :=
      List.count_pos_iff.mpr (List.mem_of_getElem? hthread)
    refine ⟨?_, fun o ho => ?_⟩
    · simp only [List.length_append, List.length_singleton, List.count_set hi, hget]
      simp only [beq_self_eq_true, if_true, show (MapThread.opening == MapThread.asking) = false from
        rfl, Bool.false_eq_true, if_false]
      omega
    · rcases List.mem_append.mp ho with ho | ho
      · exact hd.opens o ho
      · obtain rfl := List.mem_singleton.mp ho
        exact ⟨rfl, uuid, rfl⟩
  · exact hd

/-- A thread that ends had sent its call before. -/
lemma Counted.mapDone (hd : d.Counted python) (i : ℕ) (ok : Bool) :
    (d.mapDone i ok).Counted python := by
  rw [UnlockDialog.mapDone]
  split_ifs with hthread
  · obtain ⟨hi, hget⟩ := List.getElem?_eq_some_iff.mp hthread
    have hcount := (List.getElem_cons_eraseIdx_perm hi).count_eq MapThread.asking
    rw [hget, List.count_cons_of_ne (by decide)] at hcount
    have hlength := hd.opens_length
    exact ⟨by rw [← hcount] at hlength; exact hlength, hd.opens⟩
  · exact hd

/-- **One event keeps the account.** -/
lemma Counted.step (hd : d.Counted python) (e : DialogEvent) : (d.step python e).Counted python := by
  cases e with
  | enrolledMethods password recovery tpm2 fido2 systemdVersion =>
      show (d.applyEnrolledMethods password recovery tpm2 fido2 systemdVersion).Counted python
      rw [applyEnrolledMethods]
      split_ifs
      · exact { hd with }
      · exact hd
  | doUnlock pw rk =>
      show (d.doUnlock pw rk).Counted python
      simp only [UnlockDialog.doUnlock]
      split_ifs <;> first | exact hd | exact { hd with }
  | doTokenUnlock tpm2 pin =>
      show (d.doTokenUnlock tpm2 pin).Counted python
      rw [UnlockDialog.doTokenUnlock]
      split_ifs <;> first | exact hd | exact { hd with }
  | unlockFinished i answer =>
      show (d.unlockFinished i answer).Counted python
      rw [UnlockDialog.unlockFinished]
      cases d.calls[i]? with
      | none => exact hd
      | some call =>
          have hgone : Counted python { d with calls := d.calls.eraseIdx i } := { hd with }
          cases answer with
          | error e => exact hgone
          | ok x =>
              obtain ⟨ok, k⟩ := x
              cases ok with
              | false => exact hgone
              | true => exact hd.confirm call k i
  | mapCall i uuid => exact hd.mapCall i uuid
  | mapDone i ok => exact hd.mapDone i ok
  | closed => exact { hd with }

/-- A call is begun: it is the one that is pending now. -/
lemma Careful.begin (hd : d.Careful) (hnone : d.calls = []) {call : DialogCall} {q : UnlockDialog}
    (hcalls : q.calls = d.calls ++ [call]) (hpending : q.Pending call)
    (hsame : q.verified = d.verified ∧ q.passphrase = d.passphrase ∧ q.unlockMethod = d.unlockMethod
      ∧ q.unlockPin = d.unlockPin ∧ q.opens = d.opens) : q.Careful := by
  obtain ⟨hverified, hpw, hmethod, hpin, hopens⟩ := hsame
  refine ⟨Or.inr ⟨call, by rw [hcalls, hnone, List.nil_append], hpending⟩, ?_, ?_⟩
  · rw [hverified, hpw, hmethod, hpin]
    exact hd.credentials
  · rw [hverified, hopens]
    exact hd.opens

lemma Careful.confirm (hd : d.Careful) {call : DialogCall} (hpending : d.Pending call) (k : ℤ) :
    Careful { ({ d with calls := [] } : UnlockDialog).confirm k call with
      verified := d.verified ++ [(call, k)] } := by
  have hnew : (call, k) ∈ d.verified ++ [(call, k)] := by simp
  have hopens : ∀ o ∈ d.opens, Authorised (d.verified ++ [(call, k)]) o.passphrase o.unlockMethod
      o.unlockPin := fun o ho => (hd.opens o ho).mono (List.subset_append_left _ _)
  cases call with
  | verify passphrase =>
      obtain rfl : d.pendingPw = passphrase := hpending
      refine ⟨Or.inl rfl, Or.inr ?_, hopens⟩
      rcases hd.credentials with ⟨-, hmethod, hpin⟩ | ⟨hmethod, hpin, -⟩ | ⟨⟨k', hk'⟩, -⟩
      · exact Or.inl ⟨hmethod, hpin, k, hnew⟩
      · exact Or.inl ⟨hmethod, hpin, k, hnew⟩
      · -- the method of an earlier token is kept
        exact Or.inr ⟨⟨k', List.mem_append_left _ hk'⟩, Or.inr ⟨k, hnew⟩⟩
  | token tokenType pin =>
      obtain ⟨rfl, rfl⟩ := hpending
      exact ⟨Or.inl rfl, Or.inr (Or.inr ⟨⟨k, hnew⟩, Or.inl rfl⟩), hopens⟩

/-- The answer is to the one unlock in flight; a yes makes its credentials those of the dialog. -/
lemma Careful.unlockFinished (hd : d.Careful) (i : ℕ) (answer : Except String (Bool × ℤ)) :
    (d.unlockFinished i answer).Careful := by
  rw [UnlockDialog.unlockFinished]
  cases hcall : d.calls[i]? with
  | none => exact hd
  | some call =>
      rcases hd.calls with hnone | ⟨call', hone, hpending⟩
      · simp [hnone] at hcall
      · obtain ⟨rfl, rfl⟩ : i = 0 ∧ call' = call := by
          rw [hone, List.getElem?_singleton] at hcall
          split_ifs at hcall with hi
          exact ⟨hi, Option.some.inj hcall⟩
        have herase : d.calls.eraseIdx 0 = [] := by simp [hone]
        have hgone : Careful { d with calls := d.calls.eraseIdx 0 } := { hd with calls := Or.inl herase }
        cases answer with
        | error e => exact hgone
        | ok x =>
            obtain ⟨ok, k⟩ := x
            cases ok with
            | false => exact hgone
            | true =>
                have hyes := hd.confirm hpending k
                rw [← herase] at hyes
                exact hyes

/-- A thread of `_map_volume` runs only after a yes, so what it sends is authorised. -/
lemma Careful.mapCall (hd : d.Careful) (hcounted : d.Counted python) (i : ℕ) (uuid : String) :
    (d.mapCall python i uuid).Careful := by
  rw [UnlockDialog.mapCall]
  split_ifs with hthread
  · refine { hd with opens := fun o ho => ?_ }
    rcases List.mem_append.mp ho with ho | ho
    · exact hd.opens o ho
    · obtain rfl := List.mem_singleton.mp ho
      rcases hd.credentials with ⟨hnone, -, -⟩ | hauthorised
      · have hlength := hcounted.opens_length
        have hpositive : 0 < d.threads.count MapThread.asking :=
          List.count_pos_iff.mpr (List.mem_of_getElem? hthread)
        rw [hnone, List.length_nil] at hlength
        omega
      · exact hauthorised
  · exact hd

end

end UnlockDialog

/-- Starts an unlock. -/
def DialogEvent.Begins : DialogEvent → Prop
  | DialogEvent.doUnlock _ _ => True
  | DialogEvent.doTokenUnlock _ _ => True
  | _ => False

instance : DecidablePred DialogEvent.Begins := fun e => by
  cases e <;> first | exact isTrue trivial | exact isFalse id

namespace UnlockDialog

variable {python : CharacterClasses} {d : UnlockDialog}

/-- **One event keeps the dialog careful**, if it begins an unlock only when none is in flight. -/
lemma Careful.step (hd : d.Careful) (hcounted : d.Counted python) {e : DialogEvent}
    (hone : e.Begins → d.calls = []) : (d.step python e).Careful := by
  cases e with
  | enrolledMethods password recovery tpm2 fido2 systemdVersion =>
      show (d.applyEnrolledMethods password recovery tpm2 fido2 systemdVersion).Careful
      rw [applyEnrolledMethods]
      split_ifs
      · exact { hd with }
      · exact hd
  | doUnlock pw rk =>
      show (d.doUnlock pw rk).Careful
      simp only [UnlockDialog.doUnlock]
      split_ifs <;>
        first | exact hd | exact hd.begin (hone trivial) rfl rfl ⟨rfl, rfl, rfl, rfl, rfl⟩
  | doTokenUnlock tpm2 pin =>
      show (d.doTokenUnlock tpm2 pin).Careful
      rw [UnlockDialog.doTokenUnlock]
      split_ifs <;>
        first | exact hd | exact hd.begin (hone trivial) rfl ⟨rfl, rfl⟩ ⟨rfl, rfl, rfl, rfl, rfl⟩
  | unlockFinished i answer => exact hd.unlockFinished i answer
  | mapCall i uuid => exact hd.mapCall hcounted i uuid
  | mapDone i ok =>
      show (d.mapDone i ok).Careful
      rw [UnlockDialog.mapDone]
      split_ifs
      · exact { hd with }
      · exact hd
  | closed => exact { hd with }

end UnlockDialog

/-! ## What holds the process

The count of holds is one for watching and one for each dialog on the screen, and a dialog gives
back its hold once.
-/

lemma Watcher.after_append (w : Watcher) (signals : List Signal) (s : Signal) :
    w.after (signals ++ [s]) = ((w.after signals).step s).1 := by
  rw [Watcher.after, Watcher.after, List.foldl_append]
  rfl

lemma Watcher.run_append (w : Watcher) (signals : List Signal) (s : Signal) :
    w.run (signals ++ [s]) = w.run signals ++ [⟨s, ((w.after signals).step s).2⟩] := by
  induction signals generalizing w with
  | nil => rfl
  | cons e signals ih =>
      rw [List.cons_append, Watcher.run, Watcher.run, ih, List.cons_append]
      rfl

namespace App

/-- The dialogs on the screen. -/
def onScreen (a : App) : ℕ := a.dialogs.countP fun d => !d.closed

/-- **The account of the application**: it is held once while it watches and once by each dialog on the
screen; and it has launched what the one watcher launches at the signals since it was subscribed. -/
structure Accounted (a : App) : Prop where
  holds : a.holds = (if a.watcher.isSome then 1 else 0) + a.onScreen
  released : ∀ d ∈ a.dialogs, d.released = d.closed
  watcher : ∀ w, a.watcher = some w → w = (Watcher.init none).after a.signals
  idle : a.watcher = none → a.signals = []
  launched : a.launched = ((Watcher.init none).run a.signals).flatMap Handled.launches

/-- Nothing is held before the first command line. -/
lemma accounted_start : start.Accounted where
  holds := rfl
  released := fun d hd => by cases hd
  watcher := fun w hw => by cases hw
  idle := fun _ => rfl
  launched := rfl

section

variable {python : CharacterClasses} {a : App}

/-- A dialog on the screen brings one hold with it. -/
lemma Accounted.presentUnlockDialog (ha : a.Accounted) (device : String) (available : Bool) :
    (a.presentUnlockDialog device available).Accounted := by
  have hholds := ha.holds
  cases available with
  | false =>
      refine { ha with holds := ?_ }
      show a.holds + 1 - 1 = _
      rw [add_sub_cancel_right]
      exact hholds
  | true =>
      refine { ha with holds := ?_, released := fun d hd => ?_ }
      · show a.holds + 1 = _
        simp only [App.presentUnlockDialog, App.hold, onScreen, List.countP_append, if_true] at hholds ⊢
        simp only [UnlockDialog.new, List.countP_singleton, Bool.not_false, if_true]
        omega
      · rcases List.mem_append.mp hd with hd | hd
        · exact ha.released d hd
        · obtain rfl := List.mem_singleton.mp hd
          rfl

lemma Accounted.startWatchMode (ha : a.Accounted) (available : Bool) :
    (a.startWatchMode available).Accounted := by
  rw [App.startWatchMode]
  by_cases hwatching : a.watcher.isSome = true
  · rw [if_pos hwatching]
    exact ha
  · rw [if_neg hwatching]
    have hnone : a.watcher = none := Option.not_isSome_iff_eq_none.mp hwatching
    have hholds := ha.holds
    rw [hnone] at hholds
    cases available with
    | false =>
        refine { ha with holds := ?_ }
        show a.holds + 1 - 1 = _
        rw [add_sub_cancel_right, ha.holds]
        rfl
    | true =>
        refine { ha with holds := ?_, watcher := fun w hw => ?_, idle := fun h => by cases h }
        · show a.holds + 1 = 1 + (a.onScreen : ℤ)
          simp only [Option.isSome_none, Bool.false_eq_true, if_false] at hholds
          omega
        · obtain rfl := Option.some.inj hw
          show Watcher.init none = (Watcher.init none).after a.signals
          rw [ha.idle hnone]
          rfl

/-- The watcher that is asked is the only one there has been. -/
lemma Accounted.signal (ha : a.Accounted) (s : Signal) : (a.signal s).Accounted := by
  rw [App.signal]
  cases hw : a.watcher with
  | none => exact ha
  | some w =>
      obtain rfl := ha.watcher w hw
      have hholds := ha.holds
      rw [hw] at hholds
      refine ⟨hholds, ha.released, fun w' hw' => ?_, fun h => (by cases h), ?_⟩
      · obtain rfl := Option.some.inj hw'
        exact (Watcher.after_append _ _ _).symm
      · show a.launched ++ _ = _
        rw [Watcher.run_append, List.flatMap_append, ha.launched, List.flatMap_singleton]

/-- One dialog is replaced, which then holds the process if it is on the screen. -/
lemma Accounted.replaced (ha : a.Accounted) {i : ℕ} {d e : UnlockDialog} (hd : a.dialogs[i]? = some d)
    (he : e.released = e.closed) {b : App}
    (hb : b = { a with
      holds := a.holds - (if d.closed then 0 else 1) + (if e.closed then 0 else 1)
      dialogs := a.dialogs.set i e }) : b.Accounted := by
  subst hb
  obtain ⟨hi, hget⟩ := List.getElem?_eq_some_iff.mp hd
  refine { ha with holds := ?_, released := fun f hf => ?_ }
  · have hholds := ha.holds
    have hpositive : d.closed = false → 0 < a.onScreen := fun hopen =>
      List.countP_pos_iff.mpr ⟨d, List.mem_of_getElem? hd, by simp [hopen]⟩
    simp only [onScreen] at hholds hpositive ⊢
    rw [List.countP_set hi, hget]
    cases hdc : d.closed <;> cases hec : e.closed <;>
      simp only [hdc, Bool.not_true, Bool.not_false, if_true, Bool.false_eq_true, if_false,
        true_implies] at hpositive ⊢ <;> omega
  · rcases List.mem_or_eq_of_mem_set hf with hf | rfl
    · exact ha.released f hf
    · exact he

/-- A dialog gives its hold back the first time it is asked to, and no other time. -/
lemma releaseOnce_eq {i : ℕ} {d : UnlockDialog} (hd : a.dialogs[i]? = some d) :
    a.releaseOnce i = { a with
      holds := a.holds - (if d.released then 0 else 1)
      dialogs := a.dialogs.set i { d with released := true } } := by
  rw [App.releaseOnce, hd]
  dsimp only
  cases hreleased : d.released with
  | true =>
      have hsame : ({ d with released := true } : UnlockDialog) = d := by rw [← hreleased]
      have hset : a.dialogs.set i d = a.dialogs := by
        obtain ⟨hi, rfl⟩ := List.getElem?_eq_some_iff.mp hd
        exact List.set_getElem_self hi
      rw [if_pos rfl, if_pos rfl, hsame, hset, sub_zero]
  | false =>
      rw [if_neg (by simp), if_neg (by simp)]
      rfl

/-- A dialog that has just been replaced is released. -/
lemma releaseOnce_set {i : ℕ} (hi : i < a.dialogs.length) (n : ℤ) (d : UnlockDialog) :
    ({ a with holds := n, dialogs := a.dialogs.set i d } : App).releaseOnce i
      = { a with
        holds := n - (if d.released then 0 else 1)
        dialogs := a.dialogs.set i { d with released := true } } := by
  rw [releaseOnce_eq (d := d) (List.getElem?_set_self hi)]
  simp only [List.set_set]

lemma releaseOnce_twice (a : App) (i : ℕ) : (a.releaseOnce i).releaseOnce i = a.releaseOnce i := by
  cases hd : a.dialogs[i]? with
  | none => simp only [App.releaseOnce, hd]
  | some d =>
      obtain ⟨hi, -⟩ := List.getElem?_eq_some_iff.mp hd
      rw [releaseOnce_eq hd, releaseOnce_set hi]
      simp

/-- Only the end of a mapping and the user close a dialog, and none of its events releases it. -/
lemma step_keeps (d : UnlockDialog) {e : DialogEvent} (hclosed : e ≠ DialogEvent.closed)
    (hdone : ∀ t, e = DialogEvent.mapDone t true → d.threads[t]? ≠ some MapThread.opening) :
    (d.step python e).closed = d.closed ∧ (d.step python e).released = d.released := by
  cases e with
  | enrolledMethods password recovery tpm2 fido2 systemdVersion =>
      simp only [UnlockDialog.step, UnlockDialog.applyEnrolledMethods]
      split_ifs <;> exact ⟨rfl, rfl⟩
  | doUnlock pw rk =>
      simp only [UnlockDialog.step, UnlockDialog.doUnlock]
      split_ifs <;> exact ⟨rfl, rfl⟩
  | doTokenUnlock tpm2 pin =>
      simp only [UnlockDialog.step, UnlockDialog.doTokenUnlock]
      split_ifs <;> exact ⟨rfl, rfl⟩
  | unlockFinished i answer =>
      simp only [UnlockDialog.step, UnlockDialog.unlockFinished]
      split
      · exact ⟨rfl, rfl⟩
      · rename_i call _
        cases call <;> split <;> exact ⟨rfl, rfl⟩
  | mapCall i uuid =>
      simp only [UnlockDialog.step, UnlockDialog.mapCall]
      split_ifs <;> exact ⟨rfl, rfl⟩
  | mapDone i ok =>
      simp only [UnlockDialog.step, UnlockDialog.mapDone]
      split_ifs with hthread
      · cases ok with
        | false => exact ⟨Bool.or_false _, rfl⟩
        | true => exact absurd hthread (hdone i rfl)
      · exact ⟨rfl, rfl⟩
  | closed => exact absurd rfl hclosed

lemma Accounted.dialogEvent (ha : a.Accounted) (i : ℕ) (e : DialogEvent) :
    (a.dialogEvent python i e).Accounted := by
  rw [App.dialogEvent]
  cases hd : a.dialogs[i]? with
  | none => exact ha
  | some d =>
      obtain ⟨hi, -⟩ := List.getElem?_eq_some_iff.mp hd
      have hreleased : d.released = d.closed := ha.released d (List.mem_of_getElem? hd)
      -- an event that closes nothing
      have hplain : e ≠ DialogEvent.closed →
          (∀ t, e = DialogEvent.mapDone t true → d.threads[t]? ≠ some MapThread.opening) →
          Accounted { a with dialogs := a.dialogs.set i (d.step python e) } := by
        intro hclosed hdone
        obtain ⟨hc, hr⟩ := @step_keeps python d e hclosed hdone
        refine ha.replaced hd (e := d.step python e) (by rw [hc, hr, hreleased]) ?_
        rw [hc, sub_add_cancel]
      -- a dialog that closes is released
      have hgoes : ∀ q : UnlockDialog, q.closed = true → q.released = d.released →
          (({ a with dialogs := a.dialogs.set i q } : App).releaseOnce i).Accounted := by
        intro q hc hr
        refine ha.replaced hd (e := { q with released := true }) hc.symm ?_
        rw [releaseOnce_set hi a.holds q, hr, hreleased]
        simp [hc]
      dsimp only
      cases e with
      | closed => exact hgoes _ rfl rfl
      | mapDone t ok =>
          cases ok with
          | false => exact hplain (by simp) (by simp)
          | true =>
              dsimp only
              split_ifs with hthread
              · rw [releaseOnce_twice]
                have hstep : d.step python (DialogEvent.mapDone t true)
                    = { d with threads := d.threads.eraseIdx t, closed := d.closed || true } := by
                  simp only [UnlockDialog.step, UnlockDialog.mapDone, if_pos hthread]
                rw [hstep]
                exact hgoes _ (Bool.or_true _) rfl
              · refine hplain (by simp) fun t' ht' => ?_
                obtain ⟨rfl, -⟩ := DialogEvent.mapDone.inj ht'
                exact hthread
      | _ => exact hplain (by simp) (by simp)

/-- **One event keeps the account.** -/
lemma Accounted.step (ha : a.Accounted) (e : AppEvent) : (a.step python e).Accounted := by
  cases e with
  | commandLine watch unlock available =>
      show (a.doCommandLine watch unlock available).Accounted
      rw [App.doCommandLine]
      split_ifs
      · exact ha.startWatchMode available
      · exact ha.presentUnlockDialog _ available
      · exact { ha with }
  | signal s => exact ha.signal s
  | dialog i e => exact ha.dialogEvent i e

/-! ## The dialogs of a run

A dialog of a run is a dialog after the events that were for it.
-/

lemma dialogEvent_dialogs {i : ℕ} {d : UnlockDialog} (hd : a.dialogs[i]? = some d) (e : DialogEvent) :
    ∃ released, (a.dialogEvent python i e).dialogs
      = a.dialogs.set i { d.step python e with released := released } := by
  obtain ⟨hi, -⟩ := List.getElem?_eq_some_iff.mp hd
  rw [App.dialogEvent, hd]
  dsimp only
  cases e with
  | closed =>
      rw [releaseOnce_set hi]
      exact ⟨true, rfl⟩
  | mapDone t ok =>
      cases ok with
      | false => exact ⟨_, rfl⟩
      | true =>
          dsimp only
          split_ifs
          · rw [releaseOnce_twice, releaseOnce_set hi]
            exact ⟨true, rfl⟩
          · exact ⟨_, rfl⟩
  | _ => exact ⟨_, rfl⟩

/-- What new dialogs have, and what their own events keep, all dialogs keep. -/
lemma dialogs_keep {I : UnlockDialog → Prop} (hnew : ∀ device, I (UnlockDialog.new device))
    (hreleased : ∀ d released, I d → I { d with released := released })
    (ha : ∀ d ∈ a.dialogs, I d) {e : AppEvent}
    (hstep : ∀ i e' d, e = AppEvent.dialog i e' → a.dialogs[i]? = some d → I d →
      I (d.step python e')) : ∀ d ∈ (a.step python e).dialogs, I d := by
  cases e with
  | commandLine watch unlock available =>
      intro d hd
      simp only [App.step, App.doCommandLine, App.startWatchMode, App.presentUnlockDialog] at hd
      split_ifs at hd
      all_goals first
        | exact ha d hd
        | rcases List.mem_append.mp hd with hd | hd
          · exact ha d hd
          · obtain rfl := List.mem_singleton.mp hd
            exact hnew _
  | signal s =>
      intro d hd
      simp only [App.step, App.signal] at hd
      split at hd <;> exact ha d hd
  | dialog i e' =>
      intro q hq
      change q ∈ (a.dialogEvent python i e').dialogs at hq
      cases hd : a.dialogs[i]? with
      | none =>
          rw [App.dialogEvent, hd] at hq
          exact ha q hq
      | some d =>
          obtain ⟨released, hdialogs⟩ := @dialogEvent_dialogs python a i d hd e'
          rw [hdialogs] at hq
          rcases List.mem_or_eq_of_mem_set hq with hq | rfl
          · exact ha q hq
          · exact hreleased _ _ (hstep i e' d rfl hd (ha d (List.mem_of_getElem? hd)))

lemma step_watching (ha : a.watcher.isSome = true) (e : AppEvent) :
    (a.step python e).watcher.isSome = true := by
  cases e with
  | commandLine watch unlock available =>
      simp only [App.step, App.doCommandLine, App.startWatchMode, App.presentUnlockDialog, ha, if_true]
      split_ifs <;> exact ha
  | signal s =>
      simp only [App.step, App.signal]
      split
      · exact ha
      · rfl
  | dialog i e =>
      have hwatcher : (a.dialogEvent python i e).watcher = a.watcher := by
        have hrelease : ∀ (b : App) (j : ℕ), (b.releaseOnce j).watcher = b.watcher := by
          intro b j
          rw [App.releaseOnce]
          split
          · rfl
          · split_ifs <;> rfl
        rw [App.dialogEvent]
        split
        · rfl
        · dsimp only
          split
          · split_ifs
            · rw [hrelease, hrelease]
            · rfl
          · rw [hrelease]
          · rfl
      show (a.dialogEvent python i e).watcher.isSome = true
      rw [hwatcher]
      exact ha

end

/-! ## Every run

Both accounts for every run of the application.
-/

/-- **The condition on an event**: a dialog begins an unlock only when none of its own is in flight. -/
def OneAtATime (a : App) : AppEvent → Prop
  | AppEvent.dialog i e => e.Begins → (a.dialogs[i]?.map UnlockDialog.calls).getD [] = []
  | _ => True

instance (a : App) (e : AppEvent) : Decidable (a.OneAtATime e) := by
  cases e with
  | dialog i e => exact decidable_of_iff (¬ e.Begins ∨ _) imp_iff_not_or.symm
  | _ => exact isTrue trivial

/-- **What keeps the process alive.**  After every run of command lines, signals and dialog events, the
application is held exactly once while it watches and once by each dialog on the screen, each dialog
has been released if and only if it is closed, and what was launched is what one watcher launches at
the signals since `--watch`; and once it watches it is held for good.  Counted are the holds that the
application takes itself; those that the toolkit takes for its own windows are left out. -/
theorem held_while_needed (python : CharacterClasses) (events later : List AppEvent) :
    let a := Events.run (App.step python) start events
    a.holds = (if a.watcher.isSome then 1 else 0) + a.onScreen
      ∧ (∀ d ∈ a.dialogs, d.released = d.closed)
      ∧ a.launched = ((Watcher.init none).run a.signals).flatMap Handled.launches
      ∧ (a.watcher.isSome = true → 1 ≤ (Events.run (App.step python) start (events ++ later)).holds) := by
  intro a
  have hrun : ∀ events, (Events.run (App.step python) start events).Accounted := fun events =>
    Events.run_invariant (fun a e ha _ => ha.step e) accounted_start (Events.along_true _ events)
  refine ⟨(hrun events).holds, (hrun events).released, (hrun events).launched, fun hwatching => ?_⟩
  have hstill : (Events.run (App.step python) a later).watcher.isSome = true :=
    Events.run_invariant (I := fun b : App => b.watcher.isSome = true) (fun b e hb _ => step_watching hb e)
      hwatching (Events.along_true _ later)
  rw [← Events.run_append] at hstill
  have hholds := (hrun (events ++ later)).holds
  rw [hstill, if_pos rfl] at hholds
  omega

/-- **No dialog opens a volume that it was not told to.**  In every run, every answer to a dialog that
said yes is behind exactly one thread, and what that thread sends is an `OpenVolume` for the dialog's
own device under the name that is derived for it.  Where unlocks are begun one at a time, it carries
credentials that the service has said yes to. -/
theorem opens_follow_unlocks (python : CharacterClasses) (events : List AppEvent) :
    (∀ d ∈ (Events.run (App.step python) start events).dialogs, d.Counted python)
      ∧ (Events.Along (App.step python) OneAtATime start events →
        ∀ d ∈ (Events.run (App.step python) start events).dialogs, ∀ o ∈ d.opens,
          Authorised d.verified o.passphrase o.unlockMethod o.unlockPin) := by
  constructor
  · refine Events.run_invariant (I := fun a : App => ∀ d ∈ a.dialogs, d.Counted python) (fun a e ha _ => ?_)
      (fun d hd => by cases hd) (Events.along_true _ events)
    exact dialogs_keep (UnlockDialog.counted_new python) (fun d released hd => { hd with }) ha
      fun i e' d _ _ hd => hd.step e'
  · intro hone
    have hcareful := Events.run_invariant 
      (I := fun a : App => ∀ d ∈ a.dialogs, d.Counted python ∧ d.Careful)
      (fun a e ha hadm => dialogs_keep
        (fun device => ⟨UnlockDialog.counted_new python device, UnlockDialog.careful_new device⟩)
        (fun d released hd => ⟨{ hd.1 with }, { hd.2 with }⟩) ha fun i e' d he hget hd => ?_)
      (fun d hd => by cases hd) hone
    · exact fun d hd => (hcareful d hd).2.opens
    · refine ⟨hd.1.step e', hd.2.step hd.1 fun hbegins => ?_⟩
      subst he
      simpa [hget] using hadm hbegins

/-- A dialog unlocks with a token, fails to map the volume, and goes on with a passphrase. -/
def tokenThenPassphrase : List AppEvent :=
  [AppEvent.commandLine false (some "/dev/sdb1") true,
   AppEvent.dialog 0 (DialogEvent.enrolledMethods true false true false 256),
   AppEvent.dialog 0 (DialogEvent.doTokenUnlock true "1234"),
   AppEvent.dialog 0 (DialogEvent.unlockFinished 0 (Except.ok (true, 1))),
   AppEvent.dialog 0 (DialogEvent.mapCall 0 ""),
   AppEvent.dialog 0 (DialogEvent.mapDone 0 false),
   AppEvent.dialog 0 (DialogEvent.doUnlock "tulip" ""),
   AppEvent.dialog 0 (DialogEvent.unlockFinished 0 (Except.ok (true, 0))),
   AppEvent.dialog 0 (DialogEvent.mapCall 0 "")]

/-- The second call has the passphrase, and still the method and the PIN of the token. -/
theorem opens_follow_unlocks_token :
    let a := Events.run (App.step ⟨Char.isAlphanum, fun _ _ => rfl⟩) start tokenThenPassphrase
    (a.dialogs.map UnlockDialog.opens
        = [[⟨"/dev/sdb1", "luks-sdb1", "", tokenTypeTpm2, "1234"⟩,
            ⟨"/dev/sdb1", "luks-sdb1", "tulip", tokenTypeTpm2, "1234"⟩]])
      ∧ ∀ d ∈ a.dialogs, ∀ o ∈ d.opens,
        Authorised d.verified o.passphrase o.unlockMethod o.unlockPin :=
  ⟨by decide +kernel, (opens_follow_unlocks ⟨Char.isAlphanum, fun _ _ => rfl⟩ tokenThenPassphrase).2
    (by decide +kernel)⟩

end App

end LuksEnroll
