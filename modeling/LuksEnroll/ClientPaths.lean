import LuksEnroll.Fido2
import LuksEnroll.Library.Interpretation
import LuksEnroll.Library.Scanning
import LuksEnroll.Methods

/-!
# Authenticators that a client names

Two requests let the client name the authenticator by a path: an enrollment, and the question which
of its authenticators are enrolled on a volume.  `fido2::enroll` resolves the path and refuses what is
not a hidraw node; `fido2::enrolled_paths`, which an enrollment calls first to find duplicates, resolves
it and opens whatever it finds.

`opens_only_hidraw_iff` says for both requests exactly when nothing but hidraw nodes is opened: if no
credential is enrolled, so that there is nothing to probe for, or if every path resolves to a hidraw
node or not at all.

Paths may hold any bytes, so that a path of the client, the path it resolves to and the text that the
code looks at are three things: `OsPath`.  Probing is done by the same function that a token unlock
uses; here it is run against a table of answers, and the calls that open a device are listed with the
path they open.
-/

namespace LuksEnroll

open Library
open Prog (AllCalls)

/-! ## Paths and calls

A command is one call into libfido2 or the file system.  A table answers all of them, since no path
is asked for twice with different answers in one request.
-/

/-- A path as the file system has it: it need not be UTF-8. -/
inductive OsPath : Type
  | text (s : String)
  | other (bytes : List UInt8)

/-- `CString::new`, which a NUL byte makes fail. -/
def OsPath.cstring : OsPath → Option OsPath
  | text s => if '\x00' ∈ s.toList then none else some (text s)
  | other bytes => if 0 ∈ bytes then none else some (other bytes)

/-- `OsString::into_string`. -/
def OsPath.intoString : OsPath → Option String
  | text s => some s
  | other _ => none

/-- What `fido2.rs` asks of its surroundings when a client names the device. -/
inductive HidCmd : Type
  | canonicalize (path : String)
  | fidoInit
  | devNew (dev : ℕ)
  | devOpen (dev : ℕ) (path : OsPath)
  | credNew (dev : ℕ)
  | makeCred (dev : ℕ) (userId : Bytes) (pin : Option String)
  | getrandom (n : ℕ)
  /-- The calls that an assertion makes. -/
  | fido (c : FidoCmd)

/-- A new credential answers with its code and its id, which is empty when there is none. -/
abbrev HidReply : HidCmd → Type
  | HidCmd.canonicalize _ => Option OsPath
  | HidCmd.fidoInit => Unit
  | HidCmd.devNew _ => Bool
  | HidCmd.devOpen _ _ => ℤ
  | HidCmd.credNew _ => Bool
  | HidCmd.makeCred _ _ _ => ℤ × Bytes
  | HidCmd.getrandom _ => Bytes
  | HidCmd.fido c => FidoReply c

/-- A computation that looks for authenticators. -/
abbrev Hid := Prog HidCmd HidReply String

/-- One answer for every call. -/
abbrev HidTable := (c : HidCmd) → HidReply c

/-- An assertion on a device that is open. -/
def onDevice {α : Type} (p : Fido α) : Hid α := p.interp fun c => Prog.perform (HidCmd.fido c)

/-! ## The code

`fido2.rs` from the client's path to the device, in its order: the path is resolved, refused or not,
and opened.
-/

/-- `is_hidraw_path`. -/
def isHidrawPath (path : String) : Bool :=
  "/dev/hidraw".toList.isPrefixOf path.toList
    && decide (path.toList.drop "/dev/hidraw".length ≠ [])
    && (path.toList.drop "/dev/hidraw".length).all Char.isDigit

/-- `canonical_cstring`: the path resolved, if it resolves and holds no NUL. -/
def canonicalCstring (path : String) : Hid (Option OsPath) := do
  return (← Prog.perform (HidCmd.canonicalize path)).bind OsPath.cstring

/-- The loop over the credentials: is one of them confirmed? -/
def confirmsOne (dev : ℕ) : List (Bytes × ℕ) → Hid Bool
  | [] => return false
  | (credId, ti) :: rest => do
      let result ← onDevice (probeCredential dev ti credId)
      if result = some true then return true else confirmsOne dev rest

/-- The device at a path that was resolved: does it hold one of the credentials? -/
def holdsOne (credIds : List Bytes) (realC : OsPath) (dev : ℕ) : Hid Bool := do
  if ← Prog.perform (HidCmd.devNew dev) then
    let ret ← Prog.perform (HidCmd.devOpen dev realC)
    if ret = fidoOk then confirmsOne dev credIds.zipIdx else return false
  else return false

/-- One turn of the loop over the paths. -/
def enrolledPath (credIds : List Bytes) (devPath : String) (dev : ℕ) : Hid (Option String) := do
  match ← canonicalCstring devPath with
  | none => return none
  | some realC => if ← holdsOne credIds realC dev then return some devPath else return none

/-- `enrolled_paths`: the paths as the caller gave them. -/
def enrolledPaths (devPaths : List String) (credIds : List Bytes) : Hid (List String) := do
  if devPaths = [] ∨ credIds = [] then return []
  else
    Prog.perform HidCmd.fidoInit
    Prog.gather (fun x => enrolledPath credIds x.1 x.2) devPaths.zipIdx

/-- The new credential of `enroll`: its id. -/
def makeCredential (dev : ℕ) (pin : Option String) : Hid Bytes := do
  if ← Prog.perform (HidCmd.credNew dev) then
    let userId ← Prog.perform (HidCmd.getrandom 32)
    let pinC ← Prog.ofExcept (pinCstring pin)
    let reply ← Prog.perform (HidCmd.makeCred dev userId pinC)
    if reply.1 = fidoErrPinRequired ∧ pinC = none then Prog.fail "FIDO2 device requires a PIN"
    else if reply.1 ≠ fidoOk then
      Prog.fail ("fido_dev_make_cred failed: " ++ toString reply.1)
    else if reply.2 = [] then Prog.fail "Credential ID is empty"
    else return reply.2
  else Prog.fail "fido_cred_new failed"

/-- The path of `enroll`: resolved, UTF-8 and a hidraw node. -/
def hidrawPath (fido2Device : String) : Hid String := do
  match ((← Prog.perform (HidCmd.canonicalize fido2Device)).bind OsPath.intoString).filter
      isHidrawPath with
  | some realPath => return realPath
  | none => Prog.fail ("Invalid FIDO2 device path: " ++ fido2Device)

/-- `enroll`. -/
def enroll (fido2Device : String) (pin : Option String) : Hid Fido2Enrollment := do
  let pin := pin.filter fun p => decide (p ≠ "")
  let realPath ← hidrawPath fido2Device
  Prog.perform HidCmd.fidoInit
  if ← Prog.perform (HidCmd.devNew 0) then
    let ret ← Prog.perform (HidCmd.devOpen 0 (OsPath.text realPath))
    if ret = fidoOk then
      let credId ← makeCredential 0 pin
      let salt ← Prog.perform (HidCmd.getrandom 32)
      let hmacSecret ← onDevice (getHmacSecret 0 0 credId salt pin)
      return { hmacSecret := hmacSecret, credId := credId, salt := salt }
    else Prog.fail ("fido_dev_open(" ++ fido2Device ++ ") failed: " ++ toString ret)
  else Prog.fail "fido_dev_new failed"

/-! ## Requests on it

The functions of the service call `fido2.rs` by two commands; these are answered by the code above,
run on a table.
-/

/-- What the commands of an operation ask of libfido2 at a path from a client. -/
def hidCalls (c : Cmd) (table : HidTable) : List HidCmd :=
  match c with
  | Cmd.fido2Enroll fido2Device pin => (enroll fido2Device pin).issued table
  | Cmd.fido2EnrolledPaths paths creds => (enrolledPaths paths creds).issued table
  | _ => []

/-- libfido2 when nothing fails: every device opens and confirms every credential. -/
def readyFido : Authenticators
  | FidoCmd.devInfoNew => true
  | FidoCmd.devInfoManifest => (fidoOk, [])
  | FidoCmd.devNew _ => true
  | FidoCmd.devOpen _ _ => fidoOk
  | FidoCmd.assertNew _ _ => true
  | FidoCmd.getAssert _ _ _ => (fidoOk, [0])
  | FidoCmd.getTouchBegin _ => ()
  | FidoCmd.getTouchStatus _ _ _ => (fidoOk, 1)
  | FidoCmd.cancel _ => ()
  | FidoCmd.setTimeout _ _ => ()

/-- A host whose authenticators answer every call. -/
def readyHid : HidTable
  | HidCmd.canonicalize path => some (OsPath.text path)
  | HidCmd.fidoInit => ()
  | HidCmd.devNew _ => true
  | HidCmd.devOpen _ _ => fidoOk
  | HidCmd.credNew _ => true
  | HidCmd.makeCred _ _ _ => (fidoOk, [0])
  | HidCmd.getrandom n => List.replicate n 0
  | HidCmd.fido c => readyFido c

instance : Inhabited HidTable := ⟨readyHid⟩

/-- The answers of libfido2, and of the file system where it matters what a path resolves to. -/
def resolving (layout : String → Option OsPath) (table : HidTable) : HidTable
  | HidCmd.canonicalize path => layout path
  | c => table c

/-- What a command is answered, from what libfido2 answers. -/
def grounded (layout : String → Option OsPath) (c : Cmd) (i : Oracle × HidTable) : Oracle :=
  match c with
  | Cmd.fido2EnrolledPaths paths creds =>
      { i.1 with paths :=
        (((enrolledPaths paths creds).outcome (resolving layout i.2)).toOption).getD [] }
  | Cmd.fido2Enroll fido2Device pin =>
      match (enroll fido2Device pin).outcome (resolving layout i.2) with
      | Except.ok enrollment => { i.1 with hardwareFault := none, enrollment := enrollment }
      | Except.error e => { i.1 with hardwareFault := some e }
  | _ => i.1

/-- The world with the authenticators behind it. -/
def execHid (layout : String → Option OsPath) : Handler Cmd Reply (Oracle × HidTable) World :=
  fun c i w => exec none c (grounded layout c i) w

/-! ## What is opened

An enrollment checks the name of the node after resolving it, so that what it opens is a hidraw node
whatever the path was.
-/

/-- `/dev/hidraw` and digits. -/
def IsHidraw (path : OsPath) : Prop :=
  ∃ ds, Digits ds ∧ path = OsPath.text (String.ofList ("/dev/hidraw".toList ++ ds))

/-- Nothing is opened. -/
def HidCmd.OpensNothing : HidCmd → Prop
  | devOpen _ _ => False
  | _ => True

/-- If something is opened, it is a hidraw node. -/
def HidCmd.OpensHidraw : HidCmd → Prop
  | devOpen _ path => IsHidraw path
  | _ => True

/-- What opens nothing opens no other file than a hidraw node. -/
lemma HidCmd.OpensNothing.hidraw {c : HidCmd} (h : c.OpensNothing) : c.OpensHidraw := by
  cases c with
  | devOpen dev path => exact h.elim
  | _ => trivial

/-- The name that the code looks for is one of a hidraw node. -/
lemma isHidraw_of_isHidrawPath {path : String} (h : isHidrawPath path = true) :
    IsHidraw (OsPath.text path) := by
  rw [isHidrawPath, Bool.and_eq_true, Bool.and_eq_true, decide_eq_true_eq, List.all_eq_true,
    List.isPrefixOf_iff_prefix] at h
  obtain ⟨⟨⟨num, hnum⟩, hne⟩, hdigits⟩ := h
  have hdrop : path.toList.drop "/dev/hidraw".length = num := by
    rw [← hnum]
    exact List.drop_left
  rw [hdrop] at hne hdigits
  refine ⟨num, ⟨hne, hdigits⟩, congrArg OsPath.text ?_⟩
  rw [hnum, String.ofList_toList]

lemma allCalls_hid {P : HidCmd → Prop} {c : HidCmd} (hc : P c) :
    (Prog.perform c : Hid (HidReply c)).AllCalls P := (Prog.allCalls_perform _ _).mpr hc

/-- A device that is open already is worked with, and no other is opened. -/
lemma onDevice_opensNothing {α : Type} (p : Fido α) :
    (onDevice p).AllCalls HidCmd.OpensNothing :=
  AllCalls.interp (P := fun _ => True) (fun _ _ => (Prog.allCalls_perform _ _).mpr trivial)
    (p.allCalls_canIssue.mono fun _ _ => trivial)

lemma makeCredential_opensNothing (dev : ℕ) (pin : Option String) :
    (makeCredential dev pin).AllCalls HidCmd.OpensNothing := by
  refine AllCalls.bind (allCalls_hid trivial) fun new => ?_
  cases new with
  | false => trivial
  | true =>
      refine AllCalls.bind (allCalls_hid trivial) fun userId =>
        AllCalls.bind (Prog.allCalls_ofExcept _ _) fun pinC =>
          AllCalls.bind (allCalls_hid trivial) fun reply => ?_
      split_ifs <;> trivial

/-- What `enroll` goes on with is a hidraw node. -/
lemma hidrawPath_returns (fido2Device : String) :
    (hidrawPath fido2Device).Returns fun path => isHidrawPath path = true := by
  refine Prog.Returns.bind (Prog.returns_of_forall (fun real => ?_) _)
  cases hfilter : (real.bind OsPath.intoString).filter isHidrawPath with
  | none => trivial
  | some path => exact (Option.filter_eq_some_iff.mp hfilter).2

/-- **An enrollment opens a hidraw node or nothing.** -/
lemma enroll_opensHidraw (fido2Device : String) (pin : Option String) :
    (enroll fido2Device pin).AllCalls HidCmd.OpensHidraw := by
  have hpath : (hidrawPath fido2Device).AllCalls HidCmd.OpensHidraw := by
    refine AllCalls.bind (allCalls_hid trivial) fun real => ?_
    cases (real.bind OsPath.intoString).filter isHidrawPath <;> trivial
  have hassert : ∀ {α : Type} (p : Fido α), (onDevice p).AllCalls HidCmd.OpensHidraw := fun p =>
    (onDevice_opensNothing p).mono fun _ => HidCmd.OpensNothing.hidraw
  have hcred : ∀ pin, (makeCredential 0 pin).AllCalls HidCmd.OpensHidraw := fun pin =>
    (makeCredential_opensNothing 0 pin).mono fun _ => HidCmd.OpensNothing.hidraw
  refine AllCalls.bind_of_returns hpath ((hidrawPath_returns fido2Device).mono fun path hpath => ?_)
  refine AllCalls.bind (allCalls_hid trivial) fun _ => AllCalls.bind (allCalls_hid trivial) fun new => ?_
  cases new with
  | false => trivial
  | true =>
      refine AllCalls.bind (allCalls_hid (isHidraw_of_isHidrawPath hpath)) fun ret => ?_
      split_ifs
      · exact AllCalls.bind (hcred _) fun credId =>
          AllCalls.bind (allCalls_hid trivial) fun salt => AllCalls.bind (hassert _) fun _ => trivial
      · trivial

/-! ### The probe

The question which paths are enrolled checks nothing.  It opens the path that was resolved, if there
is a credential to probe for.
-/

section Probe

variable {table : HidTable}

/-- What an assertion does is a matter of the calls it makes. -/
lemma onDevice_outcome {α : Type} (p : Fido α) :
    (onDevice p).outcome table = p.outcome fun c => table (HidCmd.fido c) := by
  induction p with
  | ret a => rfl
  | fail e => rfl
  | call c k ih => exact ih _

/-- A probe has a result, whatever the device answers. -/
lemma probeCredential_outcome (table : Authenticators) (dev ti : ℕ) (credId : Bytes) :
    ∃ result, (probeCredential dev ti credId).outcome table = Except.ok result := by
  rw [probeCredential, Prog.bind_def, Prog.outcome_bind_ok (Prog.outcome_perform table _)]
  cases table (FidoCmd.assertNew dev (probeAssertion ti credId)) with
  | false => exact ⟨_, rfl⟩
  | true => exact ⟨_, rfl⟩

/-- A device holds one of the credentials, or it does not. -/
lemma confirmsOne_outcome (dev : ℕ) (creds : List (Bytes × ℕ)) :
    ∃ b, (confirmsOne dev creds).outcome table = Except.ok b := by
  induction creds with
  | nil => exact ⟨false, rfl⟩
  | cons x rest ih =>
      obtain ⟨result, hresult⟩ := probeCredential_outcome (fun c => table (HidCmd.fido c)) dev x.2 x.1
      rw [confirmsOne, Prog.bind_def, Prog.outcome_bind_ok ((onDevice_outcome _).trans hresult)]
      split_ifs
      · exact ⟨true, rfl⟩
      · exact ih

lemma confirmsOne_opensNothing (dev : ℕ) (creds : List (Bytes × ℕ)) :
    (confirmsOne dev creds).AllCalls HidCmd.OpensNothing := by
  induction creds with
  | nil => trivial
  | cons x rest ih =>
      refine AllCalls.bind (onDevice_opensNothing _) fun result => ?_
      show (if result = some true then Prog.ret true else confirmsOne dev rest).AllCalls _
      split_ifs
      · trivial
      · exact ih

/-- A device at one of the paths holds one of the credentials, or it does not. -/
lemma holdsOne_outcome (creds : List Bytes) (realC : OsPath) (dev : ℕ) :
    ∃ b, (holdsOne creds realC dev).outcome table = Except.ok b := by
  rw [holdsOne, Prog.bind_def, Prog.outcome_bind_ok (Prog.outcome_perform table _)]
  split_ifs
  · rw [Prog.bind_def, Prog.outcome_bind_ok (Prog.outcome_perform table _)]
    split_ifs
    · exact confirmsOne_outcome dev _
    · exact ⟨false, rfl⟩
  · exact ⟨false, rfl⟩

/-- The device is opened at the one path that was resolved. -/
lemma mem_holdsOne_issued {creds : List Bytes} {realC p : OsPath} {dev d : ℕ} :
    HidCmd.devOpen d p ∈ (holdsOne creds realC dev).issued table ↔
      d = dev ∧ table (HidCmd.devNew dev) = true ∧ realC = p := by
  have hprobe : ∀ ret : ℤ, HidCmd.devOpen d p ∉
      (if ret = fidoOk then confirmsOne dev creds.zipIdx else return false : Hid Bool).issued
        table := by
    intro ret hmem
    split_ifs at hmem
    · exact (confirmsOne_opensNothing dev _).of_mem_issued hmem
    · simp at hmem
  rw [holdsOne, Prog.bind_def, Prog.issued_bind_ok (Prog.outcome_perform table _),
    Prog.issued_perform]
  cases hnew : table (HidCmd.devNew dev) with
  | false => simp
  | true =>
      rw [if_pos rfl, Prog.bind_def, Prog.issued_bind_ok (Prog.outcome_perform table _),
        Prog.issued_perform, List.mem_append, List.mem_append, List.mem_singleton, List.mem_singleton,
        or_iff_left (hprobe _)]
      simp only [reduceCtorEq, false_or, HidCmd.devOpen.injEq, true_and]
      exact and_congr_right fun _ => eq_comm

lemma enrolledPath_outcome (creds : List Bytes) (path : String) (dev : ℕ) :
    ∃ out, (enrolledPath creds path dev).outcome table = Except.ok out := by
  have hcanon : (canonicalCstring path).outcome table
      = Except.ok ((table (HidCmd.canonicalize path)).bind OsPath.cstring) := rfl
  rw [enrolledPath, Prog.bind_def, Prog.outcome_bind_ok hcanon]
  cases (table (HidCmd.canonicalize path)).bind OsPath.cstring with
  | none => exact ⟨none, rfl⟩
  | some realC =>
      obtain ⟨b, hb⟩ : ∃ b, (holdsOne creds realC dev).outcome table = Except.ok b :=
        holdsOne_outcome creds realC dev
      dsimp only
      rw [Prog.bind_def, Prog.outcome_bind_ok hb]
      split_ifs
      · exact ⟨some path, rfl⟩
      · exact ⟨none, rfl⟩

lemma mem_enrolledPath_issued {creds : List Bytes} {path : String} {dev d : ℕ} {p : OsPath} :
    HidCmd.devOpen d p ∈ (enrolledPath creds path dev).issued table ↔
      d = dev ∧ table (HidCmd.devNew dev) = true
        ∧ (table (HidCmd.canonicalize path)).bind OsPath.cstring = some p := by
  have hcanon : (canonicalCstring path).outcome table
      = Except.ok ((table (HidCmd.canonicalize path)).bind OsPath.cstring) := rfl
  have hasked : (canonicalCstring path).issued table = [HidCmd.canonicalize path] := rfl
  rw [enrolledPath, Prog.bind_def, Prog.issued_bind_ok hcanon, hasked]
  cases (table (HidCmd.canonicalize path)).bind OsPath.cstring with
  | none => simp
  | some realC =>
      obtain ⟨b, hb⟩ : ∃ b, (holdsOne creds realC dev).outcome table = Except.ok b :=
        holdsOne_outcome creds realC dev
      dsimp only
      rw [Prog.bind_def, Prog.issued_bind_ok hb, List.mem_append, List.mem_append,
        mem_holdsOne_issued, Option.some.injEq]
      cases b <;> simp

/-- **The probe opens what the paths resolve to.** -/
lemma mem_enrolledPaths_issued {paths : List String} {creds : List Bytes} {d : ℕ} {p : OsPath} :
    HidCmd.devOpen d p ∈ (enrolledPaths paths creds).issued table ↔
      creds ≠ [] ∧ ∃ path, (path, d) ∈ paths.zipIdx ∧ table (HidCmd.devNew d) = true
        ∧ (table (HidCmd.canonicalize path)).bind OsPath.cstring = some p := by
  rw [enrolledPaths]
  split_ifs with hempty
  · rcases hempty with rfl | rfl <;> simp
  · have hreturns : ∀ x : String × ℕ, ∃ out, (enrolledPath creds x.1 x.2).outcome table
        = Except.ok out := fun x => enrolledPath_outcome creds x.1 x.2
    have hstep : ∀ x ∈ paths.zipIdx, (enrolledPath creds x.1 x.2).outcome table
        = Except.ok (hreturns x).choose := fun x _ => (hreturns x).choose_spec
    rw [Prog.bind_def, Prog.issued_bind_ok (Prog.outcome_perform table _), Prog.issued_perform,
      Prog.gather_issued hstep]
    simp only [List.mem_append, List.mem_singleton, reduceCtorEq, false_or, List.mem_flatMap,
      mem_enrolledPath_issued, Prod.exists]
    constructor
    · rintro ⟨path, dev, hmem, rfl, hnew, hreal⟩
      exact ⟨fun h => hempty (Or.inr h), path, hmem, hnew, hreal⟩
    · rintro ⟨-, path, hmem, hnew, hreal⟩
      exact ⟨path, d, hmem, rfl, hnew, hreal⟩

end Probe

/-! ## The requests -/

/-- The requests that take device paths from the client. -/
inductive PathRequest : Type
  | enrollFido2 (device passphrase pin fido2Device unlockMethod unlockPin : String)
  | checkFido2Enrolled (device : String) (fido2DevPaths : List String)

namespace PathRequest

/-- The volume. -/
def device : PathRequest → String
  | enrollFido2 device _ _ _ _ _ => device
  | checkFido2Enrolled device _ => device

/-- The paths from the client. -/
def paths : PathRequest → List String
  | enrollFido2 _ _ _ fido2Device _ _ => [fido2Device]
  | checkFido2Enrolled _ fido2DevPaths => fido2DevPaths

/-- What the request does, its answer left aside. -/
def body : PathRequest → Op Unit
  | enrollFido2 device passphrase pin fido2Device unlockMethod unlockPin => do
      let _ ← opEnrollFido2 device passphrase pin fido2Device unlockMethod unlockPin
      return ()
  | checkFido2Enrolled device fido2DevPaths => do
      let _ ← opCheckFido2Enrolled device fido2DevPaths
      return ()

end PathRequest

/-- The credentials that are found in the metadata of a volume. -/
def credsIn (metadata : Json) : List Bytes :=
  ((fido2RefsFromMeta metadata).toOption.map fun refs => refs.map Fido2TokenRef.credId).getD []

/-- The credentials that the header at a device has. -/
def enrolledCreds (w : World) (device : String) : List Bytes :=
  ((w.header device).map fun h => credsIn h.dump).getD []

/-- In every run of the request, whatever libfido2 answers: what is opened is a hidraw node. -/
def OpensOnlyHidraw (layout : String → Option OsPath) (w : World) (r : PathRequest) : Prop :=
  ∀ is, ∀ x ∈ r.body.trace (execHid layout) is w, ∀ table dev path,
    HidCmd.devOpen dev path ∈ hidCalls x.1 (resolving layout table) → IsHidraw path

/-! ### What a request probes for

Both requests probe for the credentials that the header has when they read it; a request that cannot
read the header probes for none.
-/

/-- Nothing is probed. -/
def Cmd.ProbesNothing : Cmd → Prop
  | Cmd.fido2EnrolledPaths _ _ => False
  | _ => True

section

variable {device : String}

/-- Reading the header asks no authenticator. -/
lemma probesNothing_of_session {α : Type} {p : Op α} (hp : p.AllCalls (Cmd.SessionOn device)) :
    p.AllCalls Cmd.ProbesNothing := by
  refine hp.mono fun c hc => ?_
  cases c with
  | fido2EnrolledPaths paths creds => exact hc.elim
  | _ => trivial

lemma openLuks2_probesNothing : (openLuks2 device).AllCalls Cmd.ProbesNothing :=
  probesNothing_of_session (openLuks2_session device)

lemma tokenRefs_session {α : Type} (read : Json → Except String (List α)) :
    (tokenRefs read device).AllCalls (Cmd.SessionOn device) := by
  refine AllCalls.bind (metadataJson_session device) fun x => ?_
  cases x with
  | none => trivial
  | some metadata => exact Prog.allCalls_ofExcept _ _

/-- Reading the credentials is a session with the header. -/
lemma existingCreds_session : (existingCreds device).AllCalls (Cmd.SessionOn device) := by
  refine AllCalls.bind (tokenRefs_session _).attempt fun x => ?_
  cases x <;> trivial

/-- Deriving the passphrase of a token asks no path of the client. -/
lemma derivePassphraseFromToken_probesNothing (tokenType pin : String) :
    (derivePassphraseFromToken device tokenType pin).AllCalls Cmd.ProbesNothing := by
  refine AllCalls.bind ?_ fun _ => trivial
  rw [rawTokenSecret]
  split_ifs
  · exact AllCalls.bind (probesNothing_of_session (tokenRefs_session _)) fun _ =>
      AllCalls.bind (allCalls_ask.mpr trivial) fun _ => allCalls_orFail _ _
  · exact AllCalls.bind (probesNothing_of_session (tokenRefs_session _)) fun _ =>
      AllCalls.bind (allCalls_ask.mpr trivial) fun _ => allCalls_orFail _ _
  · trivial

lemma tryCandidates_probesNothing (loaded : Header) (pw : Bytes) (slots : List (Option ℕ))
    (lastErr : Option String) :
    (tryCandidates loaded pw slots lastErr).AllCalls Cmd.ProbesNothing := by
  induction slots generalizing lastErr with
  | nil => trivial
  | cons slot rest ih =>
      refine AllCalls.bind (allCalls_ask.mpr trivial) fun x => ?_
      cases x with
      | ok found => trivial
      | error e => exact ih (some e)

lemma getVolumeKey_probesNothing (unlockMethod passphrase unlockPin : String) :
    (getVolumeKey device unlockMethod passphrase unlockPin).AllCalls Cmd.ProbesNothing := by
  have hextract : ∀ tokenType pw,
      (extractTokenVolumeKey device tokenType pw).AllCalls Cmd.ProbesNothing := fun tokenType pw =>
    AllCalls.bind openLuks2_probesNothing fun _ =>
      AllCalls.bind (allCalls_ask.mpr trivial) fun _ => tryCandidates_probesNothing _ _ _ _
  have hcold : (coldVolumeKey device unlockMethod passphrase unlockPin).AllCalls
      Cmd.ProbesNothing := by
    rw [coldVolumeKey]
    split_ifs
    · exact AllCalls.bind (derivePassphraseFromToken_probesNothing _ _) fun _ =>
        AllCalls.bind ((hextract _ _).mapErr _) fun _ => trivial
    · exact AllCalls.bind openLuks2_probesNothing fun _ =>
        AllCalls.bind (allCalls_ask.mpr trivial) fun _ =>
          AllCalls.bind (allCalls_orFail _ _) fun _ => trivial
  rw [getVolumeKey]
  split_ifs
  · refine AllCalls.bind (allCalls_ask.mpr trivial) fun x => ?_
    cases x with
    | some vk => trivial
    | none =>
        exact AllCalls.bind hcold fun _ => AllCalls.bind (allCalls_ask.mpr trivial) fun _ => trivial
  · trivial

/-- Past the search for duplicates an enrollment does not probe. -/
lemma enrollToken_probesNothing (unlockMethod unlockPin passphrase fido2Device pin : String) :
    (enrollToken device unlockMethod unlockPin passphrase (prepareFido2 fido2Device pin)).AllCalls
      Cmd.ProbesNothing := by
  have hpbkdf : ∀ minimal, (choosePbkdf minimal).AllCalls Cmd.ProbesNothing := by
    intro minimal
    cases minimal with
    | false => trivial
    | true => exact AllCalls.bind (allCalls_ask.mpr trivial) fun _ => allCalls_orFail _ _
  refine AllCalls.bind (AllCalls.bind (allCalls_ask.mpr trivial) fun _ =>
    AllCalls.bind (allCalls_orFail _ _) fun _ => trivial) fun prepared => ?_
  refine AllCalls.bind (getVolumeKey_probesNothing _ _ _) fun vk => ?_
  refine AllCalls.bind (AllCalls.bind openLuks2_probesNothing fun _ =>
    AllCalls.bind (hpbkdf _) fun _ =>
      AllCalls.bind (allCalls_ask.mpr trivial) fun _ => allCalls_orFail _ _) fun keyslot => ?_
  exact AllCalls.bind (AllCalls.bind openLuks2_probesNothing fun _ =>
    AllCalls.bind (allCalls_ask.mpr trivial) fun _ => allCalls_orFail _ _) fun _ => trivial

/-- What is read are the credentials of the header, or none. -/
lemma existingCreds_spec (w : World) :
    (existingCreds device).wp (exec none) (fun _ => True)
      (fun x v => w.SameDisk v ∧ ∃ creds, x = Except.ok creds
        ∧ (creds = [] ∨ creds = enrolledCreds w device)) w := by
  refine Prog.wp_bind (Prog.wp_attempt (Prog.wp_bind (Prog.wp_mono (fun x v hx => ?_)
    (metadataJson_spec w))))
  obtain ⟨hsame, m, rfl, hm⟩ := hx
  cases m with
  | none => exact ⟨hsame, [], rfl, Or.inl rfl⟩
  | some metadata =>
      obtain ⟨h, hh, rfl⟩ := hm
      dsimp only
      cases hrefs : fido2RefsFromMeta h.dump with
      | error e => exact ⟨hsame, [], rfl, Or.inl rfl⟩
      | ok refs =>
          refine ⟨hsame, _, rfl, Or.inr ?_⟩
          simp [enrolledCreds, credsIn, hh, hrefs, Except.toOption]

end

/-- A request probes the client's paths for the credentials of the header. -/
def PathRequest.Asks (r : PathRequest) (w : World) (c : Cmd) : Prop :=
  ∀ paths creds, c = Cmd.fido2EnrolledPaths paths creds →
    paths = r.paths ∧ creds = enrolledCreds w r.device

/-- What asks no authenticator asks nothing of the client's paths. -/
lemma PathRequest.asks_of_probesNothing {r : PathRequest} {w : World} {c : Cmd}
    (hc : c.ProbesNothing) : r.Asks w c := by
  rintro paths creds rfl
  exact hc.elim

section

variable {layout : String → Option OsPath} {w : World}

lemma issues_of_probesNothing {α : Type} {p : Op α} (hp : p.AllCalls Cmd.ProbesNothing)
    (r : PathRequest) (w v : World) : p.Issues (execHid layout) (fun c _ => r.Asks w c) v := by
  have hasks : ∀ (c : Cmd) (_ : World), c.ProbesNothing → True → r.Asks w c :=
    fun c _ hc _ => PathRequest.asks_of_probesNothing hc
  exact Prog.Issues.of_allCalls (fun _ _ _ _ _ => trivial) hasks hp trivial

lemma existingCreds_hid (device : String) (w : World) :
    (existingCreds device).wp (execHid layout) (fun _ => True)
      (fun x v => w.SameDisk v ∧ ∃ creds, x = Except.ok creds
        ∧ (creds = [] ∨ creds = enrolledCreds w device)) w :=
  Prog.wp_comap (g := grounded layout) (fun _ _ _ => trivial) (existingCreds_spec w)

/-- Reading what is enrolled, then going on with it. -/
lemma issues_existingCreds {α : Type} {r : PathRequest} {f : List Bytes → Op α}
    (hf : ∀ creds v, creds = [] ∨ creds = enrolledCreds w r.device →
      (f creds).Issues (execHid layout) (fun c _ => r.Asks w c) v) :
    ((existingCreds r.device).bind f).Issues (execHid layout) (fun c _ => r.Asks w c) w := by
  refine Prog.Issues.bind
    (issues_of_probesNothing (probesNothing_of_session existingCreds_session) r w w) ?_
  refine Prog.wp_mono (fun x v hx creds heq => ?_) (existingCreds_hid r.device w)
  obtain ⟨-, creds', hx', hcreds⟩ := hx
  obtain rfl := Except.ok.inj (hx'.symm.trans heq)
  exact hf _ _ hcreds

/-- **What a request asks for**: its paths, for the credentials of the header. -/
lemma PathRequest.body_asks (r : PathRequest) :
    r.body.Issues (execHid layout) (fun c _ => r.Asks w c) w := by
  cases r with
  | enrollFido2 device passphrase pin fido2Device unlockMethod unlockPin =>
      refine Prog.Issues.bind_of_forall (Prog.Issues.bind_of_forall (Prog.issues_attempt.mpr ?_)
        fun x v => ?_) fun _ _ => trivial
      · have hrest : ∀ (enrolled : Bool) (v : World), (if enrolled = true then
              return (false, "", "This FIDO2 token is already enrolled on this volume")
            else enrollToken device unlockMethod unlockPin passphrase
              (prepareFido2 fido2Device pin) : Op Triple).Issues (execHid layout)
              (fun c _ => (enrollFido2 device passphrase pin fido2Device unlockMethod
                unlockPin).Asks w c) v := by
          intro enrolled v
          split_ifs
          · trivial
          · exact issues_of_probesNothing (enrollToken_probesNothing _ _ _ _ _) _ _ _
        refine Prog.Issues.bind_of_forall (issues_existingCreds fun creds v hcreds => ?_) hrest
        split_ifs with hnil
        · trivial
        · refine ⟨?_, fun _ => trivial⟩
          rintro paths creds' h
          obtain ⟨rfl, rfl⟩ := Cmd.fido2EnrolledPaths.inj h
          exact ⟨rfl, hcreds.resolve_left hnil⟩
      · cases x <;> trivial
  | checkFido2Enrolled device paths =>
      refine Prog.Issues.bind_of_forall (issues_existingCreds fun creds v hcreds => ?_)
        fun _ _ => trivial
      split_ifs with hempty
      · trivial
      · refine ⟨?_, fun _ => trivial⟩
        rintro paths' creds' h
        obtain ⟨rfl, rfl⟩ := Cmd.fido2EnrolledPaths.inj h
        exact ⟨rfl, hcreds.resolve_left fun hnil => hempty (Or.inl hnil)⟩

/-- When nothing fails, the credentials are read. -/
lemma existingCreds_quiet {device : String} (hcreds : enrolledCreds w device ≠ [])
    (table : HidTable) :
    (existingCreds device).run (execHid layout) (fun _ => (Oracle.quiet, table)) w
      = (Except.ok (enrolledCreds w device), w) := by
  cases hh : w.header device with
  | none => simp [enrolledCreds, hh] at hcreds
  | some h =>
      have hnode := World.isSome_node_of_header hh
      cases hrefs : fido2RefsFromMeta h.dump with
      | error e => simp [enrolledCreds, credsIn, hh, hrefs, Except.toOption] at hcreds
      | ok refs =>
          simp [existingCreds, fido2TokenRefs, tokenRefs, metadataJson, openLuks2, ask, Prog.perform,
            Prog.attempt, orFail, Except.mapError, execHid, grounded, exec, answer, World.load,
            FileSystem.pathExists, Oracle.quiet, Oracle.unlessFault, hh, hnode, hrefs, enrolledCreds,
            credsIn, Except.toOption, Prog.run]

/-- A run that asks for them, if there are any. -/
lemma PathRequest.asks (r : PathRequest) (hcreds : enrolledCreds w r.device ≠ [])
    (hpaths : r.paths ≠ []) : ∃ is, ∃ v,
      (Cmd.fido2EnrolledPaths r.paths (enrolledCreds w r.device), v)
        ∈ r.body.trace (execHid layout) is w := by
  by_contra hcon
  have hnever : r.body.Issues (execHid layout)
      (fun c _ => c ≠ Cmd.fido2EnrolledPaths r.paths (enrolledCreds w r.device)) w := by
    refine Prog.issues_iff_trace.mpr fun is x hx heq => hcon ⟨is, x.2, ?_⟩
    rwa [← heq]
  cases r with
  | enrollFido2 device passphrase pin fido2Device unlockMethod unlockPin =>
      have hcheck := (Prog.issues_attempt.mp hnever.of_bind.of_bind).of_bind
      have hprobe := Prog.Issues.of_run hcheck (existingCreds_quiet hcreds readyHid)
      rw [if_neg hcreds] at hprobe
      exact hprobe.1 rfl
  | checkFido2Enrolled device paths =>
      have hprobe := Prog.Issues.of_run hnever.of_bind (existingCreds_quiet hcreds readyHid)
      rw [if_neg fun h => h.elim hcreds hpaths] at hprobe
      exact hprobe.1 rfl

end

/-- A client's path is harmless: it does not resolve, or it resolves to a hidraw node. -/
def Harmless (layout : String → Option OsPath) (path : String) : Prop :=
  ∀ real, (layout path).bind OsPath.cstring = some real → IsHidraw real

/-- A path that leads elsewhere is opened when there is something to probe for. -/
lemma not_opensOnlyHidraw {layout : String → Option OsPath} {w : World} {r : PathRequest}
    {path : String} (hcreds : enrolledCreds w r.device ≠ []) (hmem : path ∈ r.paths)
    (hharm : ¬ Harmless layout path) : ¬ OpensOnlyHidraw layout w r := by
  intro h
  obtain ⟨is, v, hasked⟩ : ∃ is, ∃ v, (Cmd.fido2EnrolledPaths r.paths (enrolledCreds w r.device), v)
      ∈ r.body.trace (execHid layout) is w := r.asks hcreds (List.ne_nil_of_mem hmem)
  obtain ⟨i, hi⟩ := List.getElem?_of_mem hmem
  refine hharm fun real hreal => h is _ hasked readyHid i real ?_
  exact mem_enrolledPaths_issued.mpr
    ⟨hcreds, path, List.mem_zipIdx_iff_getElem?.mpr hi, rfl, hreal⟩

/-- **Exactly when nothing but hidraw nodes is opened**: for every request, every volume and every
symlink layout, if the volume has no credential that could be read, or every path that the client names
leads to a hidraw node or nowhere. -/
theorem opens_only_hidraw_iff (layout : String → Option OsPath) (w : World) (r : PathRequest) :
    OpensOnlyHidraw layout w r
      ↔ enrolledCreds w r.device = [] ∨ ∀ path ∈ r.paths, Harmless layout path := by
  constructor
  · intro h
    by_contra hcon
    rw [not_or, not_forall] at hcon
    obtain ⟨hcreds, path, hpath⟩ := hcon
    rw [not_forall] at hpath
    obtain ⟨hmem, hharm⟩ := hpath
    exact not_opensOnlyHidraw hcreds hmem hharm h
  · intro h is x hx table dev path hopen
    have hasks := Prog.issues_iff_trace.mp r.body_asks is x hx
    rw [hidCalls.eq_def] at hopen
    split at hopen
    · exact (enroll_opensHidraw _ _).of_mem_issued hopen
    · rename_i c paths creds hc
      obtain ⟨rfl, rfl⟩ := hasks paths creds hc
      obtain ⟨hcreds, p, hmem, -, hreal⟩ := mem_enrolledPaths_issued.mp hopen
      exact h.resolve_left hcreds p (List.fst_mem_of_mem_zipIdx hmem) path hreal
    · cases hopen

/-- A FIDO2 token over keyslot 0, with this credential. -/
def fidoToken (credential : String) : Token where
  fields := [("type", Json.str tokenTypeFido2), ("fido2-credential", Json.str credential),
    ("fido2-salt", Json.str "AQ==")]
  slots := [0]
  writer := none

/-- A volume with one keyslot and FIDO2 tokens over it. -/
def fidoHeader (credentials : List String) (hlen : credentials.length ≤ tokensMax) : Header :=
  Header.ofEntries ⟨[7]⟩ [⟨"luks2", [], true, none⟩] (credentials.map fidoToken) (by decide)
    (by simpa using hlen) (by simp [fidoToken])

/-- The header of the examples has one credential. -/
lemma enrolledCreds_fidoHeader :
    enrolledCreds (volumeWith (fidoHeader ["AQ=="] (by decide))) "/dev/sdb1" = [[1]] := by
  decide

/-- The client names a block device, and the probe opens it. -/
theorem disk_is_opened :
    ¬ OpensOnlyHidraw (fun path => some (OsPath.text path))
      (volumeWith (fidoHeader ["AQ=="] (by decide)))
      (PathRequest.checkFido2Enrolled "/dev/sdb1" ["/dev/sda"]) := by
  have hcreds : enrolledCreds (volumeWith (fidoHeader ["AQ=="] (by decide))) "/dev/sdb1" ≠ [] := by
    simp [enrolledCreds_fidoHeader]
  have hmem : "/dev/sda" ∈ (PathRequest.checkFido2Enrolled "/dev/sdb1" ["/dev/sda"]).paths := by
    simp [PathRequest.paths]
  refine not_opensOnlyHidraw hcreds hmem fun h => ?_
  obtain ⟨ds, -, heq⟩ := h (OsPath.text "/dev/sda") (by simp [OsPath.cstring])
  have hchars := congrArg String.toList (OsPath.text.inj heq)
  simp at hchars

end LuksEnroll
