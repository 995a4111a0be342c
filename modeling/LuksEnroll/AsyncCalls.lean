import LuksEnroll.Library.Events
import LuksEnroll.Library.Interpretation
import Mathlib.Data.List.MinMax
import Mathlib.Data.List.Nodup
import Mathlib.Data.List.Perm.Basic

/-!
# Calls that carry a descriptor

For a container file the client opens the file itself and hands the descriptor to the service.  An
asynchronous call is answered later: the descriptor travels with the call to `_on_fd_async_done`, which
runs the callback of the call and then closes it.  Such a call has to be finished by another function
than one without descriptors, and the callback does not know which it is; a counter that is raised
while the trampoline runs tells `finish_async`.

Calls are answered in any order and a callback may make further calls, also with descriptors.
`descriptors_accounted_for` says that all the same every call is finished by its own function and that
a descriptor is open as long as its call is in flight and not longer, unless the arguments of the call
could not be marshaled: then nobody closes it.

The numbers of descriptors are those of one process, given out from the lowest that is free, so that
closing a descriptor too early would be seen: the number would come back for another file.
-/

namespace LuksEnroll

open Library

/-! ## The proxy

A call takes its descriptors along in a list, is given a number and waits; its answer, when it
comes, is delivered to the callback, which may begin a call of its own.  Descriptors are numbers
that the process has open, and a closed number is free to be given out again.
-/

/-- A call in flight: by path, or with the descriptor that goes with it as user data. -/
inductive AsyncCall : Type
  | path
  | withFd (fd : ℕ)
  deriving DecidableEq

/-- `call_finish`, and `call_with_unix_fd_list_finish`. -/
inductive FinishVariant : Type
  | plain
  | withFdList
  deriving DecidableEq

/-- The function that finishes a call. -/
def AsyncCall.variant : AsyncCall → FinishVariant
  | AsyncCall.path => FinishVariant.plain
  | AsyncCall.withFd _ => FinishVariant.withFdList

/-- The descriptor that a call owns. -/
def AsyncCall.fds : AsyncCall → List ℕ
  | AsyncCall.path => []
  | AsyncCall.withFd fd => [fd]

/-- `LuksEnrollProxy`, with the descriptors that it has opened and not closed. -/
structure AsyncProxy where
  fdFinishDepth : ℕ
  inFlight : List AsyncCall
  openFds : List ℕ
  -- ghosts
  /-- The call whose callback is running. -/
  current : Option AsyncCall
  /-- The descriptors of calls that were never made. -/
  unsent : List ℕ
  /-- Which call was finished by which function. -/
  finished : List (AsyncCall × FinishVariant)

/-- What a callback of the client does with the proxy. -/
inductive ProxyCmd : Type
  /-- `_call_async` on a device, and `create_encrypted_image_async`: is there a file to be opened? -/
  | callAsync (regular : Bool)
  /-- `finish_async`, on the result that the callback was given. -/
  | finishAsync

/-- What is raised. -/
abbrev ProxyReply : ProxyCmd → Type
  | ProxyCmd.callAsync _ => Except String Unit
  | ProxyCmd.finishAsync => Except String String

/-- What settles one command. -/
structure ProxyInput where
  /-- `os.open`. -/
  opened : Except String ℕ := Except.error ""
  /-- `GLib.Variant`: can the arguments be marshaled? -/
  marshaled : Except String Unit := Except.ok ()
  /-- The answer of the service. -/
  answer : Except String String := Except.ok ""

abbrev Callback := Prog ProxyCmd ProxyReply String Unit

namespace AsyncProxy

/-- The kernel hands out a number that is not in use. -/
def freeFd (p : AsyncProxy) (n : ℕ) : ℕ :=
  if n ∈ p.openFds then p.openFds.foldr max 0 + 1 else n

/-- `_call_async`. -/
def callAsync (p : AsyncProxy) (regular : Bool) (i : ProxyInput) : Except String Unit × AsyncProxy :=
  if regular then
    match i.opened with
    | Except.error e => (Except.error e, p)
    | Except.ok n =>
        let fd := p.freeFd n
        let p := { p with openFds := p.openFds ++ [fd] }
        match i.marshaled with
        | Except.error e => (Except.error e, { p with unsent := p.unsent ++ [fd] })
        | Except.ok () => (Except.ok (), { p with inFlight := p.inFlight ++ [AsyncCall.withFd fd] })
  else
    match i.marshaled with
    | Except.error e => (Except.error e, p)
    | Except.ok () => (Except.ok (), { p with inFlight := p.inFlight ++ [AsyncCall.path] })

/-- `finish_async`. -/
def finishAsync (p : AsyncProxy) (i : ProxyInput) : Except String String × AsyncProxy :=
  let variant := if p.fdFinishDepth > 0 then FinishVariant.withFdList else FinishVariant.plain
  (i.answer, { p with finished := p.finished ++ p.current.toList.map fun call => (call, variant) })

def exec : Handler ProxyCmd ProxyReply ProxyInput AsyncProxy
  | ProxyCmd.callAsync regular, i, p => p.callAsync regular i
  | ProxyCmd.finishAsync, i, p => p.finishAsync i

/-- The reply to the `i`-th call in flight: its callback runs, whatever it does and however it ends.
With a descriptor it runs inside `_on_fd_async_done`. -/
def deliver (p : AsyncProxy) (i : ℕ) (callback : Callback) (os : ℕ → ProxyInput) : AsyncProxy :=
  match p.inFlight[i]? with
  | none => p
  | some call =>
      let p := { p with inFlight := p.inFlight.eraseIdx i, current := some call }
      match call with
      | AsyncCall.path => { (callback.run exec os p).2 with current := none }
      | AsyncCall.withFd fd =>
          let p := (callback.run exec os { p with fdFinishDepth := p.fdFinishDepth + 1 }).2
          { p with
            fdFinishDepth := p.fdFinishDepth - 1
            openFds := p.openFds.erase fd
            current := none }

def start : AsyncProxy where
  fdFinishDepth := 0
  inFlight := []
  openFds := []
  current := none
  unsent := []
  finished := []

end AsyncProxy

/-- What can happen on the main loop: the client makes a call, or a reply arrives. -/
inductive ProxyEvent : Type
  | call (regular : Bool) (i : ProxyInput)
  | reply (i : ℕ) (callback : Callback) (os : ℕ → ProxyInput)

namespace AsyncProxy

def step (p : AsyncProxy) : ProxyEvent → AsyncProxy
  | ProxyEvent.call regular i => (p.callAsync regular i).2
  | ProxyEvent.reply i callback os => p.deliver i callback os

/-! ## The invariant

Every descriptor that is open belongs to one call: the one that is answered at the moment, one that
waits, or one that could not be made.  The lemmas follow the two functions of the source, for every
variant of a call.
-/

/-- While the callback of `current` runs, or none does. -/
structure Accounted (p : AsyncProxy) : Prop where
  depth : p.fdFinishDepth = match p.current with
    | some (AsyncCall.withFd _) => 1
    | _ => 0
  /-- Every open descriptor belongs to one call: the one that is answered, one in flight, or one that
  was never made. -/
  fds : p.openFds.Perm
    (p.current.toList.flatMap AsyncCall.fds ++ p.inFlight.flatMap AsyncCall.fds ++ p.unsent)
  distinct : p.openFds.Nodup
  finished : ∀ x ∈ p.finished, x.2 = x.1.variant

lemma freeFd_notMem (p : AsyncProxy) (n : ℕ) : p.freeFd n ∉ p.openFds := by
  rw [freeFd]
  split_ifs with hn
  · intro hmem
    have hle := List.le_max_of_le' 0 hmem le_rfl
    omega
  · exact hn

lemma Accounted.callAsync {p : AsyncProxy} (hp : p.Accounted) (regular : Bool) (i : ProxyInput) :
    (p.callAsync regular i).2.Accounted := by
  have hnew : ∀ n, (p.openFds ++ [p.freeFd n]).Nodup := by
    intro n
    refine List.nodup_append.mpr ⟨hp.distinct, List.nodup_singleton _, ?_⟩
    rintro a ha b hb rfl
    exact p.freeFd_notMem n (List.mem_singleton.mp hb ▸ ha)
  rw [AsyncProxy.callAsync]
  split_ifs
  · cases i.opened with
    | error e => exact hp
    | ok n =>
        cases i.marshaled with
        | error e =>
            refine { hp with fds := ?_, distinct := hnew n }
            show (p.openFds ++ [p.freeFd n]).Perm (_ ++ (p.unsent ++ [p.freeFd n]))
            rw [← List.append_assoc]
            exact hp.fds.append_right _
        | ok u =>
            refine { hp with fds := ?_, distinct := hnew n }
            show (p.openFds ++ [p.freeFd n]).Perm (_ ++ List.flatMap AsyncCall.fds
              (p.inFlight ++ [AsyncCall.withFd (p.freeFd n)]) ++ p.unsent)
            rw [List.flatMap_append, ← List.append_assoc, List.append_assoc _ _ p.unsent]
            refine (hp.fds.append_right _).trans ?_
            rw [List.append_assoc]
            exact List.Perm.append_left _ List.perm_append_comm
  · cases i.marshaled with
    | error e => exact hp
    | ok u =>
        refine { hp with fds := ?_ }
        show p.openFds.Perm (_ ++ List.flatMap AsyncCall.fds (p.inFlight ++ [AsyncCall.path]) ++ _)
        rw [List.flatMap_append, List.flatMap_singleton, AsyncCall.fds, List.append_nil]
        exact hp.fds

lemma Accounted.finishAsync {p : AsyncProxy} (hp : p.Accounted) (i : ProxyInput) :
    (p.finishAsync i).2.Accounted := by
  refine { hp with finished := ?_ }
  intro x hx
  rcases List.mem_append.mp hx with hx | hx
  · exact hp.finished x hx
  · obtain ⟨call, hcall, rfl⟩ := List.mem_map.mp hx
    have hcurrent : p.current = some call := Option.mem_toList.mp hcall
    have hdepth := hp.depth
    rw [hcurrent] at hdepth
    cases call with
    | path => simp [hdepth, AsyncCall.variant]
    | withFd fd => simp [hdepth, AsyncCall.variant]

/-- A callback keeps the accounts, and neither ends nor begins another one. -/
lemma callback_spec (callback : Callback) (call : AsyncCall) (os : ℕ → ProxyInput) {p : AsyncProxy}
    (hp : p.Accounted) (hcall : p.current = some call) :
    (callback.run exec os p).2.Accounted ∧ (callback.run exec os p).2.current = some call := by
  have hkeeps : callback.Keeps exec (fun _ => True)
      fun p => p.Accounted ∧ p.current = some call := by
    refine Prog.Keeps.of_allCalls (P := fun _ => True) ?_ ?_
    · rintro (regular | -) i s - - ⟨hs, hcurrent⟩
      · refine ⟨hs.callAsync regular i, ?_⟩
        show (s.callAsync regular i).2.current = _
        rw [AsyncProxy.callAsync]
        split_ifs
        · cases i.opened <;> cases i.marshaled <;> exact hcurrent
        · cases i.marshaled <;> exact hcurrent
      · exact ⟨hs.finishAsync i, hcurrent⟩
    · exact callback.allCalls_canIssue.mono fun _ _ => trivial
  exact Prog.wp_sound (hkeeps p ⟨hp, hcall⟩) os fun _ => trivial

lemma Accounted.deliver {p : AsyncProxy} (hp : p.Accounted) (hidle : p.current = none) (i : ℕ)
    (callback : Callback) (os : ℕ → ProxyInput) :
    (p.deliver i callback os).Accounted ∧ (p.deliver i callback os).current = none := by
  rw [AsyncProxy.deliver]
  cases hi : p.inFlight[i]? with
  | none => exact ⟨hp, hidle⟩
  | some call =>
      -- the call leaves the calls in flight with its descriptor
      have hsplit : (p.inFlight.flatMap AsyncCall.fds).Perm
          (call.fds ++ (p.inFlight.eraseIdx i).flatMap AsyncCall.fds) := by
        obtain ⟨hlt, rfl⟩ := List.getElem?_eq_some_iff.mp hi
        exact (List.Perm.flatMap_right _ (List.getElem_cons_eraseIdx_perm hlt).symm).trans
          (List.Perm.of_eq (List.flatMap_cons ..))
      have hfds := hp.fds
      rw [hidle] at hfds
      have hdepth := hp.depth
      rw [hidle] at hdepth
      have htaken : p.openFds.Perm (call.fds ++ (p.inFlight.eraseIdx i).flatMap AsyncCall.fds
          ++ p.unsent) := hfds.trans (hsplit.append_right _)
      cases call with
      | path =>
          obtain ⟨hafter, hcurrent⟩ := callback_spec callback AsyncCall.path os
            (p := { p with inFlight := p.inFlight.eraseIdx i, current := some AsyncCall.path })
            ⟨hdepth, htaken, hp.distinct, hp.finished⟩ rfl
          have hfds' := hafter.fds
          have hdepth' := hafter.depth
          rw [hcurrent] at hfds' hdepth'
          exact ⟨⟨hdepth', hfds', hafter.distinct, hafter.finished⟩, rfl⟩
      | withFd fd =>
          obtain ⟨hafter, hcurrent⟩ := callback_spec callback (AsyncCall.withFd fd) os
            (p := { p with
              inFlight := p.inFlight.eraseIdx i
              current := some (AsyncCall.withFd fd)
              fdFinishDepth := p.fdFinishDepth + 1 })
            ⟨by rw [hdepth], htaken, hp.distinct, hp.finished⟩ rfl
          have hfds' := hafter.fds
          have hdepth' := hafter.depth
          rw [hcurrent] at hfds' hdepth'
          refine ⟨⟨?_, ?_, hafter.distinct.erase fd, hafter.finished⟩, rfl⟩
          · show _ - 1 = 0
            rw [hdepth']
            rfl
          · have herase := hfds'.erase fd
            exact herase.trans (by simp [AsyncCall.fds])

lemma accounted_step {p : AsyncProxy} (hp : p.Accounted ∧ p.current = none) (e : ProxyEvent) :
    (p.step e).Accounted ∧ (p.step e).current = none := by
  cases e with
  | call regular i =>
      refine ⟨hp.1.callAsync regular i, ?_⟩
      show (p.callAsync regular i).2.current = none
      rw [AsyncProxy.callAsync]
      split_ifs
      · cases i.opened <;> cases i.marshaled <;> exact hp.2
      · cases i.marshaled <;> exact hp.2
  | reply i callback os => exact hp.1.deliver hp.2 i callback os

/-- **Every descriptor is accounted for.**  After every run, in which calls are made and answered in any
order, fail at any step, and have any callbacks, which may make calls themselves: the descriptors that
are open are those of the calls in flight, each its own, and those of calls whose arguments could not
be marshaled; and every call that was finished was finished by its own function. -/
theorem descriptors_accounted_for (events : List ProxyEvent) :
    (Events.run step start events).openFds.Perm
        ((Events.run step start events).inFlight.flatMap AsyncCall.fds
          ++ (Events.run step start events).unsent)
      ∧ (Events.run step start events).openFds.Nodup
      ∧ ∀ x ∈ (Events.run step start events).finished, x.2 = x.1.variant := by
  have hstart : start.Accounted ∧ start.current = none :=
    ⟨⟨rfl, List.Perm.refl _, List.nodup_nil, fun x hx => by cases hx⟩, rfl⟩
  obtain ⟨hafter, hcurrent⟩ := Events.run_invariant
    (I := fun p : AsyncProxy => p.Accounted ∧ p.current = none)
    (fun p e hp _ => accounted_step hp e) hstart (Events.along_true _ events)
  have hfds := hafter.fds
  rw [hcurrent] at hfds
  exact ⟨hfds, hafter.distinct, hafter.finished⟩

end AsyncProxy

end LuksEnroll
