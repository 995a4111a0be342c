import LuksEnroll.Gate
import LuksEnroll.Library.Journal

/-!
# What the authorization cache remembers

A request that finds an unexpired entry of its sender passes the gate at once.  Entries are made by
the requests that pass otherwise, one for each kind of request and each sender, and looking one up
does not renew it.  So the history of the service accounts for every admission from the cache: some
request of the same sender and of the same kind passed by ownership or by polkit, and the latest one
to do so did not too long ago (`cached_admissions_recent`).

The file system may change at any time, and so may what polkit answers.

The source keeps one map for each kind of request, from the sender to the time of the entry, and
compares that time with the clock when the entry is looked up.  Here the map and the clock are those of
`Gate`; what is added is the journal, in which every lookup, every answer of polkit and every entry is
found again.

The claim is about the entries and not about who made them: that an entry of an admission by ownership
counts like one of polkit is what `Gate` is about.
-/

namespace LuksEnroll

open Library
open Prog (AllCalls Tells)

/-! ## Histories of the gate

The gate's state is what `Gate` has, with a journal: every command of every request, and the state
it met.  `GateEvent` names the four kinds of events that the theorem is about: an entry that was
looked up, an approval of polkit, an entry that was recorded, and a request that was let past.
-/

/-- What a step of a request meets: the inputs of its call, and the file system as it is by then. -/
structure Turn where
  call : GateInput
  fs : FileSystem

/-- The gate's commands in a file system that changes. -/
def gateExec (uid : String → ℕ) (i : ℕ) : Handler GateCmd GateReply Turn Gatekeeper :=
  fun c o g => Host.exec ⟨o.fs, uid⟩ i c o.call g

abbrev GateEvent := Event ℕ GateCmd GateReply Gatekeeper

abbrev GateJournal := Journal ℕ GateCmd GateReply Gatekeeper

/-- All requests that will ever come, and a journal that is still empty. -/
def JournaledCalls (reqs : ℕ → MethodCall) :
    Pool ℕ GateCmd GateReply SvcError Unit GateJournal where
  threads := fun i => (reqs i).method.handle (reqs i).sender
  state := ⟨Gatekeeper.start, []⟩

/-- A lookup in the authorization cache, with its answer. -/
def lookedUp (kind : AuthKind) (sender : String) (found : Bool) : Answered GateCmd GateReply :=
  ⟨GateCmd.authCached kind sender, found⟩

/-- Polkit's approval. -/
def polkitApproved (kind : AuthKind) (sender : String) : Answered GateCmd GateReply :=
  ⟨GateCmd.checkPolkit kind sender, true⟩

/-- An entry is made. -/
def recorded (kind : AuthKind) (sender : String) (route : Route) : Answered GateCmd GateReply :=
  ⟨GateCmd.recordAuth kind sender route, ()⟩

/-- What happened, without the thread and the state. -/
def GateEvent.what (e : GateEvent) : Answered GateCmd GateReply := ⟨e.cmd, e.reply⟩

/-- The path was resolved to this one. -/
def Resolved (path real : String) (past : List (Answered GateCmd GateReply)) : Prop :=
  ⟨GateCmd.canonicalize path, some real⟩ ∈ past ∨
    ⟨GateCmd.canonicalize path, none⟩ ∈ past ∧
      (real = path ∨ ∃ parent name rp, pathParent path = some parent ∧
        pathFileName path = some name ∧ ⟨GateCmd.canonicalize parent, some rp⟩ ∈ past ∧
        real = pathJoin rp name)

/-- The ownership test of a request was passed: what its operand resolved to has the kind that it
must have, and belongs to the user that the bus names for the sender. -/
def PassedOwnership (r : MethodCall) (past : List (Answered GateCmd GateReply)) : Prop :=
  ∃ path createImage real target user, r.method.operand = some (path, createImage) ∧
    ⟨GateCmd.callerUid r.sender, some user⟩ ∈ past ∧ Resolved path real past ∧
    ownershipTarget createImage real = some target ∧
    ⟨GateCmd.metadata target, some (ownedKind createImage, user)⟩ ∈ past

/-- A request passed without the cache: it found no entry, and then passed the ownership test or was
approved by polkit. -/
def PassedUncached (r : MethodCall) (kind : AuthKind) (sender : String)
    (past : List (Answered GateCmd GateReply)) : Prop :=
  r.sender = sender ∧ r.method.kind = kind ∧ lookedUp kind sender false ∈ past ∧
    (PassedOwnership r past ∨ polkitApproved kind sender ∈ past)

/-- The gate lets a request through at this event; the idle timer is reset nowhere else. -/
def GateEvent.passes (e : GateEvent) : Prop := e.cmd = GateCmd.resetIdle

/-- An entry for this kind and sender is made at this event. -/
def GateEvent.records (kind : AuthKind) (sender : String) (e : GateEvent) : Prop :=
  ∃ route, e.what = recorded kind sender route

/-- **What the history says of an event.** -/
structure Accounted (reqs : ℕ → MethodCall) (e : GateEvent) (earlier : List GateEvent) : Prop where
  /-- An admission from the cache rests on the latest entry of the same kind and sender. -/
  cached : ∀ kind sender, e.what = lookedUp kind sender true →
    (reqs e.thread).sender = sender ∧ (reqs e.thread).method.kind = kind ∧
    ∃ entry before, Latest (GateEvent.records kind sender) earlier entry before ∧
      PassedUncached (reqs entry.thread) kind sender (own entry.thread before) ∧
      entry.state.now ≤ e.state.now ∧ e.state.now < entry.state.now + authCacheTtl kind
  /-- Entries are made only by requests that passed without the cache. -/
  recorded : ∀ kind sender, e.records kind sender →
    PassedUncached (reqs e.thread) kind sender (own e.thread earlier)
  /-- Every request that passes found an entry, or made one. -/
  passed : e.passes → lookedUp (reqs e.thread).method.kind (reqs e.thread).sender true ∈
      own e.thread earlier ∨
    ∃ route, LuksEnroll.recorded (reqs e.thread).method.kind (reqs e.thread).sender route ∈
      own e.thread earlier

/-! ## What a request says of itself

Without any state, a request says which of its own calls came before it was let past: a lookup that
was answered yes, or polkit, or the two that make an admission by ownership.  The file system
answers as it pleases at every call.
-/

/-- What a request's own history says of the commands it issues. -/
def GateRule (r : MethodCall) (c : GateCmd) (past : List (Answered GateCmd GateReply)) : Prop :=
  match c with
  | GateCmd.authCached kind sender => r.sender = sender ∧ r.method.kind = kind
  | GateCmd.recordAuth kind sender _ => PassedUncached r kind sender past
  | GateCmd.resetIdle => lookedUp r.method.kind r.sender true ∈ past ∨
      ∃ route, recorded r.method.kind r.sender route ∈ past
  | _ => True

section Rule

variable {r : MethodCall} {past : List (Answered GateCmd GateReply)}

lemma GateCmd.AfterGate.rule {c : GateCmd} (hc : c.AfterGate) : GateRule r c past := by
  cases c with
  | callerUid sender => trivial
  | canonicalize path => trivial
  | metadata path => trivial
  | enter => trivial
  | _ => exact hc.elim

lemma tells_realpath (path : String) :
    (realpath path).Tells (GateRule r)
      (fun x past' => past <:+ past' ∧ ∀ real, x = Except.ok real → Resolved path real past')
      past := by
  refine ⟨trivial, fun found => ?_⟩
  cases found with
  | some p =>
      refine ⟨List.suffix_cons _ _, fun real hreal => ?_⟩
      simp only [Except.ok.injEq] at hreal
      exact Or.inl (by simp [hreal])
  | none =>
      have hnone : ∀ x : Except SvcError String, x = Except.ok path →
          past <:+ ⟨GateCmd.canonicalize path, none⟩ :: past ∧ ∀ real, x = Except.ok real →
            Resolved path real (⟨GateCmd.canonicalize path, none⟩ :: past) := by
        rintro x rfl
        refine ⟨List.suffix_cons _ _, fun real hreal => ?_⟩
        simp only [Except.ok.injEq] at hreal
        exact Or.inr ⟨by simp, Or.inl hreal.symm⟩
      cases hparent : pathParent path with
      | none => exact hnone _ rfl
      | some parent =>
          cases hname : pathFileName path with
          | none => exact hnone _ rfl
          | some name =>
              refine ⟨trivial, fun found => ?_⟩
              have hsuffix : past <:+ ⟨GateCmd.canonicalize parent, found⟩ ::
                  ⟨GateCmd.canonicalize path, none⟩ :: past :=
                (List.suffix_cons _ _).trans (List.suffix_cons _ _)
              cases found with
              | none =>
                  refine ⟨hsuffix, fun real hreal => ?_⟩
                  simp only [Except.ok.injEq] at hreal
                  exact Or.inr ⟨by simp, Or.inl hreal.symm⟩
              | some rp =>
                  refine ⟨hsuffix, fun real hreal => ?_⟩
                  simp only [Except.ok.injEq] at hreal
                  exact Or.inr ⟨by simp, Or.inr ⟨parent, name, rp, hparent, hname, by simp,
                    hreal.symm⟩⟩

/-- The ownership test says yes only if it was passed. -/
lemma tells_ownershipSkip {ownedPath : Option String} {createImage : Bool}
    (hoperand : ∀ path, ownedPath = some path → r.method.operand = some (path, createImage)) :
    (ownershipSkip r.sender ownedPath createImage).Tells (GateRule r)
      (fun x past' => past <:+ past' ∧ (x = Except.ok true → PassedOwnership r past')) past := by
  cases ownedPath with
  | none => exact ⟨List.suffix_rfl, fun h => by simp at h⟩
  | some arg0 =>
      refine ⟨trivial, fun user => ?_⟩
      cases user with
      | none => exact ⟨List.suffix_cons _ _, fun h => by simp at h⟩
      | some user =>
          show Tells _ _ ((realpath arg0).bind _) _
          refine Tells.bind (Tells.mono (fun x past₁ hx => ?_) (tells_realpath arg0))
          obtain ⟨hsuffix, hreal⟩ := hx
          have hpast : past <:+ past₁ := (List.suffix_cons _ _).trans hsuffix
          cases x with
          | error e => exact ⟨hpast, fun h => by simp at h⟩
          | ok real =>
              dsimp only
              cases htarget : ownershipTarget createImage real with
              | none => exact ⟨hpast, fun h => by simp at h⟩
              | some target =>
                  refine ⟨trivial, fun found => ?_⟩
                  have hpast₂ : past <:+ ⟨GateCmd.metadata target, found⟩ :: past₁ :=
                    hpast.trans (List.suffix_cons _ _)
                  cases found with
                  | none => exact ⟨hpast₂, fun h => by simp at h⟩
                  | some md =>
                      refine ⟨hpast₂, fun h => ?_⟩
                      obtain ⟨hkind, howner⟩ : md.1 = ownedKind createImage ∧ md.2 = user := by
                        simpa using h
                      refine ⟨arg0, createImage, real, target, user, hoperand arg0 rfl, ?_, ?_,
                        htarget, ?_⟩
                      · exact List.mem_cons_of_mem _ (hsuffix.mem (by simp))
                      · rcases hreal real rfl with hres | ⟨hnone, hres⟩
                        · exact Or.inl (List.mem_cons_of_mem _ hres)
                        · refine Or.inr ⟨List.mem_cons_of_mem _ hnone, hres.imp_right ?_⟩
                          rintro ⟨parent, name, rp, hp, hn, hrp, heq⟩
                          exact ⟨parent, name, rp, hp, hn, List.mem_cons_of_mem _ hrp, heq⟩
                      · rw [← hkind, ← howner]
                        simp

/-- **The gate** makes an entry only after passing without the cache, and lets through only with an
entry found or made. -/
lemma tells_gate {ownedPath : Option String} {createImage : Bool}
    (hoperand : ∀ path, ownedPath = some path → r.method.operand = some (path, createImage)) :
    (gate r.sender r.method.kind ownedPath createImage).Tells (GateRule r) (fun _ _ => True)
      past := by
  refine ⟨⟨rfl, rfl⟩, fun found => ?_⟩
  cases found with
  | true => exact ⟨Or.inl (by simp [lookedUp]), fun _ => trivial⟩
  | false =>
      show Tells _ _ ((ownershipSkip r.sender ownedPath createImage).bind _) _
      refine Tells.bind (Tells.mono (fun x past₁ hx => ?_) (tells_ownershipSkip hoperand))
      obtain ⟨hsuffix, howner⟩ := hx
      have hmissed : lookedUp r.method.kind r.sender false ∈ past₁ := hsuffix.mem (by simp [lookedUp])
      cases x with
      | error e => trivial
      | ok skip =>
          cases skip with
          | true =>
              refine ⟨⟨rfl, rfl, hmissed, Or.inl (howner rfl)⟩, fun _ => ⟨Or.inr ⟨Route.ownership, ?_⟩,
                fun _ => trivial⟩⟩
              exact List.mem_cons_self ..
          | false =>
              refine ⟨trivial, fun approved => ?_⟩
              cases approved with
              | false => trivial
              | true =>
                  refine ⟨⟨rfl, rfl, List.mem_cons_of_mem _ hmissed, Or.inr ?_⟩,
                    fun _ => ⟨Or.inr ⟨Route.polkit, ?_⟩, fun _ => trivial⟩⟩
                  · exact List.mem_cons_self ..
                  · exact List.mem_cons_self ..

lemma tells_handle (r : MethodCall) :
    (r.method.handle r.sender).Tells (GateRule r) (fun _ _ => True) [] := by
  obtain ⟨ownedPath, createImage, rest, heq, hrest, hoperand⟩ := r.method.handle_gated r.sender
  rw [heq]
  refine Tells.bind (Tells.mono (fun x past _ => ?_) (tells_gate hoperand))
  cases x with
  | error e => trivial
  | ok u =>
      refine Tells.mono (fun _ _ _ => trivial) (Tells.of_allCalls (P := GateRule r) ?_ (hrest u) past)
      exact fun c past hc => GateCmd.AfterGate.rule hc

end Rule

/-! ## Whole histories

Time only goes forward, and the cache holds what was recorded last.  So a lookup that is answered
yes has an entry behind it that is younger than the lifetime of its kind, and by induction over the
journal an admission stands behind every entry.
-/

/-- The journal is consistent: time goes forward, the caches hold the latest entries, and every
event is accounted for. -/
structure GateConsistent (reqs : ℕ → MethodCall) (j : GateJournal) : Prop where
  times : ∀ e ∈ j.log, e.state.now ≤ j.state.now
  entries : ∀ kind sender t, j.state.auth kind sender = some t →
    ∃ entry before, Latest (GateEvent.records kind sender) j.log entry before ∧ entry.state.now = t
  accounted : Throughout (Accounted reqs) j.log

section Consistent

variable {reqs : ℕ → MethodCall} {uid : String → ℕ} {i : ℕ} {o : Turn} {j : GateJournal}

lemma gateExec_now (c : GateCmd) (g : Gatekeeper) :
    (gateExec uid i c o g).2.now = g.now + o.call.elapsed := by
  cases c with
  | checkPolkit kind sender =>
      simp only [gateExec, Host.exec, Host.answer]
      split_ifs <;> rfl
  | _ => rfl

lemma gateExec_auth {c : GateCmd} (hc : ∀ kind sender route, c ≠ GateCmd.recordAuth kind sender route)
    (g : Gatekeeper) : (gateExec uid i c o g).2.auth = g.auth := by
  cases c with
  | recordAuth kind sender route => exact absurd rfl (hc kind sender route)
  | checkPolkit kind sender =>
      simp only [gateExec, Host.exec, Host.answer]
      split_ifs <;> rfl
  | _ => rfl

lemma GateConsistent.times_cons (h : GateConsistent reqs j) (c : GateCmd) :
    ∀ e ∈ (journaled (gateExec uid) i c o j).2.log,
      e.state.now ≤ (journaled (gateExec uid) i c o j).2.state.now := by
  have hnow : (journaled (gateExec uid) i c o j).2.state.now = j.state.now + o.call.elapsed :=
    gateExec_now c j.state
  intro e he
  rcases List.mem_cons.mp he with rfl | he
  · exact Nat.le_refl _
  · have hle := h.times e he
    omega

/-- A command that records nothing leaves the caches and the latest entries as they are. -/
lemma GateConsistent.entries_cons (h : GateConsistent reqs j) {c : GateCmd}
    (hc : ∀ kind sender route, c ≠ GateCmd.recordAuth kind sender route) :
    ∀ kind sender t, (journaled (gateExec uid) i c o j).2.state.auth kind sender = some t →
      ∃ entry before, Latest (GateEvent.records kind sender)
        (journaled (gateExec uid) i c o j).2.log entry before ∧ entry.state.now = t := by
  intro kind sender t ht
  change (gateExec uid i c o j.state).2.auth kind sender = some t at ht
  rw [gateExec_auth hc] at ht
  obtain ⟨entry, before, hlatest, htime⟩ := h.entries kind sender t ht
  refine ⟨entry, before, hlatest.cons ?_, htime⟩
  rintro ⟨route, hwhat⟩
  exact hc kind sender route (congrArg Sigma.fst hwhat)

lemma GateConsistent.lookup (h : GateConsistent reqs j) {kind : AuthKind} {sender : String}
    (hfound : (gateExec uid i (GateCmd.authCached kind sender) o j.state).1 = true) :
    ∃ entry before, Latest (GateEvent.records kind sender) j.log entry before ∧
      PassedUncached (reqs entry.thread) kind sender (own entry.thread before) ∧
      entry.state.now ≤ j.state.now + o.call.elapsed ∧
      j.state.now + o.call.elapsed < entry.state.now + authCacheTtl kind := by
  simp only [gateExec, Host.exec, Host.answer] at hfound
  cases hentry : j.state.auth kind sender with
  | none => simp [hentry] at hfound
  | some t =>
      simp only [hentry, decide_eq_true_eq] at hfound
      obtain ⟨entry, before, hlatest, rfl⟩ := h.entries kind sender t hentry
      have hle := h.times entry hlatest.mem
      have hmade := (hlatest.split h.accounted).recorded kind sender
        (by obtain ⟨_, _, hrec, _⟩ := hlatest; exact hrec)
      exact ⟨entry, before, hlatest, hmade, by omega, by omega⟩

/-- **One command** keeps the journal consistent, if its thread's history allows it. -/
lemma GateConsistent.step (h : GateConsistent reqs j) {c : GateCmd}
    (hrule : GateRule (reqs i) c (own i j.log)) :
    GateConsistent reqs (journaled (gateExec uid) i c o j).2 := by
  have hacc : ∀ (e : GateEvent), e.thread = i → e.cmd = c →
      (∀ kind sender, e.what = lookedUp kind sender true →
        ∃ entry before, Latest (GateEvent.records kind sender) j.log entry before ∧
          PassedUncached (reqs entry.thread) kind sender (own entry.thread before) ∧
          entry.state.now ≤ e.state.now ∧ e.state.now < entry.state.now + authCacheTtl kind) →
      Throughout (Accounted reqs) (e :: j.log) := by
    intro e hthread hcmd hcached
    refine throughout_cons.mpr ⟨⟨fun kind sender hwhat => ?_, fun kind sender hrec => ?_,
      fun hpass => ?_⟩, h.accounted⟩
    · have hc : c = GateCmd.authCached kind sender := hcmd ▸ congrArg Sigma.fst hwhat
      rw [hc] at hrule
      rw [hthread]
      exact ⟨hrule.1, hrule.2, hcached kind sender hwhat⟩
    · obtain ⟨route, hwhat⟩ := hrec
      have hc : c = GateCmd.recordAuth kind sender route := hcmd ▸ congrArg Sigma.fst hwhat
      rw [hc] at hrule
      rw [hthread]
      exact hrule
    · have hc : c = GateCmd.resetIdle := hcmd ▸ hpass
      rw [hc] at hrule
      rw [hthread]
      exact hrule
  have hlookup : ∀ kind sender, (⟨c, (gateExec uid i c o j.state).1⟩ : Answered GateCmd GateReply) =
      lookedUp kind sender true → ∃ entry before,
        Latest (GateEvent.records kind sender) j.log entry before ∧
        PassedUncached (reqs entry.thread) kind sender (own entry.thread before) ∧
        entry.state.now ≤ (gateExec uid i c o j.state).2.now ∧
        (gateExec uid i c o j.state).2.now < entry.state.now + authCacheTtl kind := by
    intro kind sender hwhat
    have hc : c = GateCmd.authCached kind sender := congrArg Sigma.fst hwhat
    subst hc
    rw [gateExec_now]
    exact h.lookup (by simpa [lookedUp] using hwhat)
  refine ⟨h.times_cons c, ?_, hacc _ rfl rfl hlookup⟩
  by_cases hrec : ∃ kind sender route, c = GateCmd.recordAuth kind sender route
  · obtain ⟨kind, sender, route, rfl⟩ := hrec
    intro kind' sender' t ht
    have hauth : (gateExec uid i (GateCmd.recordAuth kind sender route) o j.state).2.auth =
        setAt j.state.auth kind sender (some (j.state.now + o.call.elapsed)) := by rfl
    change (gateExec uid i _ o j.state).2.auth kind' sender' = some t at ht
    rw [hauth, setAt_apply] at ht
    split_ifs at ht with hhere
    · obtain ⟨rfl, rfl⟩ := hhere
      refine ⟨_, _, Latest.head ⟨route, rfl⟩ j.log, ?_⟩
      rw [gateExec_now]
      simpa using ht
    · obtain ⟨entry, before, hlatest, htime⟩ := h.entries kind' sender' t ht
      refine ⟨entry, before, hlatest.cons ?_, htime⟩
      rintro ⟨route', hwhat⟩
      have hcmd := congrArg Sigma.fst hwhat
      simp only [GateEvent.what, recorded, GateCmd.recordAuth.injEq] at hcmd
      exact hhere ⟨hcmd.1.symm, hcmd.2.1.symm⟩
  · exact h.entries_cons fun kind sender route hc => hrec ⟨kind, sender, route, hc⟩

end Consistent

/-- **Admissions from the cache are recent, and never renewed.**  In every run, of any requests by
any senders in any order, in a file system that may change at any time: a request that is admitted
from the cache has the sender and the kind of an earlier request which found no entry and then passed
by ownership or by polkit; the latest of these passed less than the lifetime of the kind ago.  Entries
are made by such requests only, and every request that passes was admitted from the cache or made an
entry itself. -/
theorem cached_admissions_recent (uid : String → ℕ) (reqs : ℕ → MethodCall)
    (sched : List (ℕ × Turn)) :
    Throughout (Accounted reqs)
      ((JournaledCalls reqs).run (journaled (gateExec uid)) sched).state.log := by
  have hstart : GateConsistent reqs (JournaledCalls reqs).state :=
    ⟨by simp [JournaledCalls], by simp [JournaledCalls, Gatekeeper.start], throughout_nil _⟩
  exact (Pool.run_journal_all (gateExec uid) (P := fun i => GateRule (reqs i))
    (fun i c o j hj hP => hj.step hP) (fun i => tells_handle (reqs i)) hstart sched).1.accounted

end LuksEnroll
