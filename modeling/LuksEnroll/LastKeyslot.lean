import LuksEnroll.Concurrency

/-!
# The last keyslot

`op_wipe_slot` refuses to wipe the last keyslot, but it looks in one session and destroys in a
later one.  Two wipes of different keyslots can both look while there are two and then both
destroy: `two_wipes_empty_header` is that schedule.

What the guard does give: as long as a wipe passes it only while some *spare* keyslot exists —
one that neither it nor any wipe already past its guard is about to destroy — no schedule of any
number of enrollments and wipes empties the header.

The guard of the source counts the keyslots it has read.  What it ought to count are the keyslots that
nobody is about to destroy, and that is what the condition says.  The keyslots that requests are about
to destroy are read off their threads: a wipe past its guard has only its writes left.
-/

namespace LuksEnroll

open Library
open Prog (AllCalls Residual)

variable {n : ℕ} {reqs : Fin n → SlotRequest} {obj : ℕ}

/-! ## Past the guard -/

/-- A wipe of keyslot `s` that has passed the last-keyslot guard and is not finished. -/
def PastGuard (r : SlotRequest) (q : Op Triple) (s : ℕ) : Prop :=
  ∃ device passphrase unlockMethod pin slot,
    r = SlotRequest.wipeSlot device passphrase unlockMethod pin slot ∧ asU32 slot.val = s
      ∧ (∃ c k, q = Prog.call c k) ∧ Residual (runOp (wipeRest device slot.val)) q

/-- A keyslot that is there and that no wipe past its guard is about to destroy. -/
def Spare (reqs : Fin n → SlotRequest) (obj : ℕ) (p : RequestPool n) (k : ℕ) : Prop :=
  (∃ h, p.state.luks obj = some h ∧ (h.keyslots k).isSome)
    ∧ ∀ i, ¬ PastGuard (reqs i) (p.threads i) k

/-- **The condition on a step**: a wipe passes its guard only while there is a spare keyslot other
than the one it wipes. -/
def GuardedStep (reqs : Fin n → SlotRequest) (obj : ℕ) (p : RequestPool n) (i : Fin n)
    (o : Oracle) : Prop :=
  ∀ s, PastGuard (reqs i) ((p.step (handlers n) i o).threads i) s →
    PastGuard (reqs i) (p.threads i) s ∨ ∃ k, k ≠ s ∧ Spare reqs obj p k

/-- A request that has not begun is not past its guard: it first asks the cache, and the tail of a
wipe never does. -/
lemma not_pastGuard_body (r : SlotRequest) (s : ℕ) : ¬ PastGuard r r.body s := by
  rintro ⟨device, passphrase, unlockMethod, pin, slot, rfl, -, ⟨c, k, hcall⟩, hres⟩
  have hissues := hres.allCalls (allCalls_runOp (wipeRest_issues device slot.val))
  by_cases hvalid : validUnlockMethod unlockMethod = true
  · -- the first command is the lookup in the cache
    obtain ⟨k₀, hbody⟩ : ∃ k₀, (SlotRequest.wipeSlot device passphrase unlockMethod pin slot).body
        = Prog.call (Cmd.cacheGet device) k₀ := by
      simp only [SlotRequest.body, opWipeSlot, getVolumeKey, if_pos hvalid]
      exact ⟨_, rfl⟩
    rw [hbody] at hissues
    rcases hissues.1 with hread | ⟨id, hid⟩ | hd
    · exact hread
    · cases hid
    · cases hd
  · have hbody : (SlotRequest.wipeSlot device passphrase unlockMethod pin slot).body
        = Prog.ret opFailed := by
      simp only [SlotRequest.body, opWipeSlot, getVolumeKey, if_neg hvalid]
      rfl
    rw [hbody] at hcall
    cases hcall

/-- A pending destroy belongs to a wipe of that keyslot that is past its guard. -/
lemma pastGuard_of_destroy {r : SlotRequest} {device : String} {s : ℕ}
    {k : Reply (Cmd.keyslotDestroy device s) → Op Triple}
    (hres : Residual r.body (Prog.call (Cmd.keyslotDestroy device s) k)) :
    PastGuard r (Prog.call (Cmd.keyslotDestroy device s) k) s := by
  have hnot : ∀ {d : String}, ¬ (Cmd.keyslotDestroy device s).ReadsOn d := fun h => h
  have hissue := (hres.allCalls r.body_issues).1.resolve_left hnot
  cases r with
  | wipeSlot device' passphrase unlockMethod pin slot =>
      -- the destroy is pending in the body, and there past the two reads
      obtain ⟨k', hk', hcall⟩ := Residual.call_of_runOp hres
      rcases Residual.call_of_bind hk' with ⟨k₁, hk₁, -⟩ | ⟨vk, -, hk₁⟩
      · exact (hnot ((hk₁.allCalls (getVolumeKey_reads _ _ _ _)).1)).elim
      rcases Residual.call_of_bind hk₁ with ⟨k₂, hk₂, -⟩ | ⟨slots, -, hk₂⟩
      · exact (hnot ((hk₂.allCalls (reads_of_looks (listKeyslots_looks _))).1)).elim
      split_ifs at hk₂
      · cases hk₂
      · rcases hissue with ⟨id, hid⟩ | hd
        · cases hid
        · obtain ⟨rfl, rfl⟩ := Cmd.keyslotDestroy.inj hd
          refine ⟨device, passphrase, unlockMethod, pin, slot, rfl, rfl, ⟨_, _, rfl⟩, ?_⟩
          rw [hcall]
          exact Residual.runOp hk₂
  | enrollPassphrase device' existing new unlockMethod unlockPin =>
      obtain ⟨vk, pw, hw⟩ := hissue
      cases hw
  | _ =>
      rcases hissue with ⟨vk, pw, hw⟩ | ⟨json, hw⟩ <;> cases hw

/-! ## One step -/

/-- A keyslot that the moving wipe is not about to destroy survives the step. -/
lemma keyslot_survives {p : RequestPool n} (hp : Started reqs p) {i : Fin n} {o : Oracle} {k : ℕ}
    (hk : ∃ h, p.state.luks obj = some h ∧ (h.keyslots k).isSome)
    (hi : ¬ PastGuard (reqs i) (p.threads i) k) :
    ∃ h, (p.step (handlers n) i o).state.luks obj = some h ∧ (h.keyslots k).isSome := by
  rcases Pool.step_cases (handlers n) p i o with hstep | ⟨c, f, hcall, -, hstate⟩
  · rw [hstep]
    exact hk
  · obtain ⟨h, hobj, hk⟩ := hk
    rw [hstate]
    have hres := hp i
    rw [hcall] at hres hi
    have htouch := (hres.allCalls (reqs i).body_touches).1
    obtain ⟨-, h', hh', hcase⟩ := @exec_header_cases (some i.val) _ c htouch o p.state obj h hobj
    refine ⟨h', hh', ?_⟩
    rcases hcase with rfl | ⟨-, -, ⟨vk, pw, j, -, hadd⟩ | ⟨input, j, -, hset⟩ | ⟨s, rfl, hd⟩⟩
    · exact hk
    · obtain ⟨pw', -, hfree, hks, -⟩ := addByKey_ok hadd
      rw [hks, Function.update_of_ne (by rintro rfl; simp [hfree] at hk)]
      exact hk
    · rw [(jsonSet_keeps hset).1]
      exact hk
    · obtain ⟨-, hks, -⟩ := Header.destroyKeyslot_spec hd
      have hks' : k ≠ s := by
        rintro rfl
        exact hi (pastGuard_of_destroy hres)
      rw [hks, Function.update_of_ne hks']
      exact hk

/-- A spare keyslot stays spare, or the step's own condition provides another. -/
lemma spare_step {p : RequestPool n} (hp : Started reqs p) (hspare : ∃ k, Spare reqs obj p k)
    {i : Fin n} {o : Oracle} (hguard : GuardedStep reqs obj p i o) :
    ∃ k, Spare reqs obj (p.step (handlers n) i o) k := by
  -- a spare keyslot that the moving thread does not come to target
  obtain ⟨k, hk, hnew⟩ : ∃ k, Spare reqs obj p k ∧
      ¬ PastGuard (reqs i) ((p.step (handlers n) i o).threads i) k := by
    obtain ⟨k, hk⟩ := hspare
    by_cases hnew : PastGuard (reqs i) ((p.step (handlers n) i o).threads i) k
    · rcases hguard k hnew with hold | ⟨k', hne, hk'⟩
      · exact absurd hold (hk.2 i)
      · refine ⟨k', hk', fun hnew' => hne ?_⟩
        obtain ⟨_, _, _, _, slot, hr, hs, -⟩ := hnew
        obtain ⟨_, _, _, _, slot', hr', hs', -⟩ := hnew'
        rw [hr] at hr'
        obtain ⟨-, -, -, -, rfl⟩ := SlotRequest.wipeSlot.inj hr'
        exact hs'.symm.trans hs
    · exact ⟨k, hk, hnew⟩
  refine ⟨k, keyslot_survives hp hk.1 (hk.2 i), fun j => ?_⟩
  by_cases hj : j = i
  · rw [hj]
    exact hnew
  · have hthread : (p.step (handlers n) i o).threads j = p.threads j := by
      rcases Pool.step_cases (handlers n) p i o with hstep | ⟨c, f, -, hthreads, -⟩
      · rw [hstep]
      · rw [hthreads, Function.update_of_ne hj]
    rw [hthread]
    exact hk.2 j

/-! ## Every schedule -/

/-- **The last keyslot survives.**  For every header with a keyslot, any number of enrollments and
wipes and every schedule in which a wipe passes its guard only while there is a spare keyslot, a
keyslot is there in the state reached. -/
theorem guarded_wipes_keep_keyslot (reqs : Fin n → SlotRequest) {w : World} {obj : ℕ} {h : Header}
    (hobj : w.luks obj = some h) (hne : ∃ k, (h.keyslots k).isSome)
    (sched : List (Fin n × Oracle))
    (hsched : (Requests reqs w).Along (handlers n) (GuardedStep reqs obj) sched) :
    ∃ h', ((Requests reqs w).run (handlers n) sched).state.luks obj = some h'
      ∧ ∃ k, (h'.keyslots k).isSome := by
  have hinv := Pool.run_invariant (handlers n)
    (I := fun p => Started reqs p ∧ ∃ k, Spare reqs obj p k)
    (fun p i o hp hadm => ⟨started_step hp.1 i o, spare_step hp.1 hp.2 hadm⟩)
    (p := Requests reqs w) ?_ hsched
  · obtain ⟨-, k, ⟨h', hh', hk⟩, -⟩ := hinv
    exact ⟨h', hh', k, hk⟩
  · obtain ⟨k, hk⟩ := hne
    exact ⟨started_requests w, k, ⟨h, hobj, hk⟩, fun i => not_pastGuard_body (reqs i) k⟩

/-! ## Two wipes -/

/-- A volume with two passphrase keyslots. -/
def twoPassphrases : World := passphraseVolume ["pw", "pw2"] (by decide)

/-- One wipe for each of the two keyslots. -/
def twoWipes : Fin 2 → SlotRequest
  | 0 => SlotRequest.wipeSlot "/dev/sdb1" "pw" "passphrase" "" ⟨0, i32_zero⟩
  | 1 => SlotRequest.wipeSlot "/dev/sdb1" "pw" "passphrase" "" ⟨1, i32_one⟩

/-- Both pass the guard — the second is served from the cache, so its reads are four — then the
first destroys its keyslot and the second gets as far as its own destroy. -/
def bothPass : List (Fin 2 × Oracle) :=
  List.replicate 8 (0, Oracle.quiet) ++ List.replicate 4 (1, Oracle.quiet) ++ List.replicate 6 (0, Oracle.quiet)
    ++ List.replicate 5 (1, Oracle.quiet)

/-- **The last step of that schedule takes the header from one keyslot to none.** -/
theorem two_wipes_empty_header :
    (twoPassphrases.luks 0).map Header.slotIds = some [0, 1]
      ∧ (((Requests twoWipes twoPassphrases).run (handlers 2) bothPass).state.luks 0).map
        Header.slotIds = some [1]
      ∧ (((Requests twoWipes twoPassphrases).run (handlers 2) (bothPass ++ [(1, Oracle.quiet)])).state.luks
        0).map Header.slotIds = some [] := by
  refine ⟨?_, ?_, ?_⟩ <;> decide +kernel

/-- If some keyslot of the header is not what any of the wipes is after, every schedule meets the
condition. -/
lemma guarded_of_untargeted {k : ℕ} {p : RequestPool n} (hp : Started reqs p)
    (hk : ∃ h, p.state.luks obj = some h ∧ (h.keyslots k).isSome)
    (hreqs : ∀ i device passphrase unlockMethod pin slot,
      reqs i = SlotRequest.wipeSlot device passphrase unlockMethod pin slot → asU32 slot.val ≠ k)
    (sched : List (Fin n × Oracle)) : p.Along (handlers n) (GuardedStep reqs obj) sched := by
  have hnot : ∀ i q, ¬ PastGuard (reqs i) q k := by
    rintro i q ⟨device, passphrase, unlockMethod, pin, slot, hr, hs, -⟩
    exact hreqs i device passphrase unlockMethod pin slot hr hs
  induction sched generalizing p with
  | nil => trivial
  | cons x sched ih =>
      refine ⟨fun s hs => Or.inr ⟨k, ?_, hk, fun i => hnot i _⟩, ih (started_step hp x.1 x.2)
        (keyslot_survives hp hk (hnot x.1 _))⟩
      rintro rfl
      exact hnot x.1 _ hs

/-- Only the first of the two wipes, next to an enrollment: whatever the schedule, a keyslot
stays. -/
theorem one_wipe_keeps_keyslot :
    ∃ h', ((Requests (fun i : Fin 2 => if i = 0 then twoWipes 0 else
          SlotRequest.enrollRecoveryKey "/dev/sdb1" "pw" "passphrase" "") twoPassphrases).run
        (handlers 2) bothPass).state.luks 0 = some h' ∧ ∃ k, (h'.keyslots k).isSome := by
  refine guarded_wipes_keep_keyslot _ rfl ⟨0, by decide +kernel⟩ bothPass
    (guarded_of_untargeted (started_requests _) ⟨_, rfl, by decide +kernel⟩ (k := 1) ?_ bothPass)
  intro i device passphrase unlockMethod pin slot hr
  split_ifs at hr
  obtain ⟨-, -, -, -, rfl⟩ := SlotRequest.wipeSlot.inj hr
  decide

end LuksEnroll
