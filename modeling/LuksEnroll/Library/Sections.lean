import LuksEnroll.Library.Pool

/-!
# Looking, then acting

Threads that look at a shared state and, if they like what they see, act on it.  Nothing makes the
look and the act one: two threads may both look before either acts.

`Before` is a thread that has not begun to act: it does nothing but look, and either it ends without
success or a look lets it pass and its act begins.  `Inside` is a thread in the middle of its act.  A
schedule goes `OneAtATime` if no thread passes while another is inside.

`Sections.run_orderly` is the rule for such schedules: at any time at most one thread has succeeded
or is about to, and what its act achieves when it runs alone is what it has achieved.  Once it has,
nobody passes any more (`Sections.run_after`).
-/

namespace Library

variable {ι C : Type} {R : C → Type} {ω σ ε α : Type}

namespace Prog

/-- A program that has not begun to act: it looks, and ends without success or passes. -/
def Before (act : Prog C R ε α) (Looks : C → Prop) (Passes : (c : C) → R c → Prop)
    (Succeeds : α → Prop) : Prog C R ε α → Prop
  | ret a => ¬ Succeeds a
  | fail _ => True
  | call c k =>
      Looks c ∧ ∀ r, act.Before Looks Passes Succeeds (k r) ∨ Passes c r ∧ k r = act

/-- A program in the middle of its act. -/
def Inside (act q : Prog C R ε α) : Prop := (∃ c k, q = call c k) ∧ Residual act q

/-- A program that has returned is not in the middle of its act. -/
lemma not_inside_ret (act : Prog C R ε α) (a : α) : ¬ act.Inside (ret a) := by
  rintro ⟨⟨c, k, h⟩, -⟩
  cases h

/-- What is achieved on success. -/
def Achieves (Succeeds : α → Prop) (Done : α → σ → Prop) (x : Except ε α) (s : σ) : Prop :=
  ∀ a, x = Except.ok a → Succeeds a → Done a s

end Prog

namespace Pool

/-- **The condition on a step**: a thread begins its act only while no other is inside its own. -/
def OneAtATime [DecidableEq ι] (h : ι → Handler C R ω σ) (acts : ι → Prog C R ε α)
    (p : Pool ι C R ε α σ) (i : ι) (o : ω) : Prop :=
  (acts i).Inside ((p.step h i o).threads i) →
    (acts i).Inside (p.threads i) ∨ ∀ m, m ≠ i → ¬ (acts m).Inside (p.threads m)

/-- One thread after another is one at a time. -/
lemma along_alone [DecidableEq ι] {h : ι → Handler C R ω σ} {acts : ι → Prog C R ε α}
    {p : Pool ι C R ε α σ} {i : ι} (hp : ∀ m, m ≠ i → ¬ (acts m).Inside (p.threads m))
    (os : List ω) : p.Along h (OneAtATime h acts) (os.map fun o => (i, o)) := by
  induction os generalizing p with
  | nil => trivial
  | cons o os ih =>
      refine ⟨fun _ => Or.inr hp, ih fun m hm => ?_⟩
      rcases step_cases h p i o with hsame | ⟨c, k, -, hthreads, -⟩
      · rw [hsame]
        exact hp m hm
      · rw [hthreads, Function.update_of_ne hm]
        exact hp m hm

end Pool

/-- What is known of the threads.  `Ground` holds of the state throughout, a look changes it within
`Waits` only, and a success leaves `Done`, which lets nobody pass. -/
structure Sections (h : ι → Handler C R ω σ) (acts : ι → Prog C R ε α) (Looks : ι → C → Prop)
    (Passes : ι → (c : C) → R c → Prop) (Succeeds : α → Prop) (Ground : σ → Prop)
    (Waits : σ → σ → Prop) (Done : ι → α → σ → Prop) : Prop where
  refl : ∀ s, Waits s s
  trans : ∀ s t u, Waits s t → Waits t u → Waits s u
  looks : ∀ i c o s, Looks i c → Waits s (h i c o s).2
  waits_ground : ∀ s t, Waits s t → Ground s → Ground t
  issues : ∀ i, (acts i).AllCalls fun c =>
    ¬ Looks i c ∧ ∀ o s, Ground s → Ground (h i c o s).2
  starts : ∀ i a, acts i = Prog.ret a → ¬ Succeeds a
  act : ∀ i s, Ground s →
    (acts i).wp (h i) (fun _ => True) (Prog.Achieves Succeeds (Done i)) s
  waits_act : ∀ i (q : Prog C R ε α) s t, Waits s t →
    q.wp (h i) (fun _ => True) (Prog.Achieves Succeeds (Done i)) s →
      q.wp (h i) (fun _ => True) (Prog.Achieves Succeeds (Done i)) t
  shut : ∀ i a s, Ground s → Done i a s → ∀ m c o, Looks m c → ¬ Passes m c (h m c o s).1

namespace Sections

variable {h : ι → Handler C R ω σ} {acts : ι → Prog C R ε α} {Looks : ι → C → Prop}
  {Passes : ι → (c : C) → R c → Prop} {Succeeds : α → Prop} {Ground : σ → Prop}
  {Waits : σ → σ → Prop} {Done : ι → α → σ → Prop}

/-- A thread that is not inside and has not succeeded. -/
def Quiet (acts : ι → Prog C R ε α) (Succeeds : α → Prop) (p : Pool ι C R ε α σ) (m : ι) : Prop :=
  ¬ (acts m).Inside (p.threads m) ∧ ∀ a, p.threads m = Prog.ret a → ¬ Succeeds a

/-- All are quiet but one at most, and that one gets done what its act does alone. -/
structure Orderly (h : ι → Handler C R ω σ) (acts : ι → Prog C R ε α) (Looks : ι → C → Prop)
    (Passes : ι → (c : C) → R c → Prop) (Succeeds : α → Prop) (Ground : σ → Prop)
    (Done : ι → α → σ → Prop) (p : Pool ι C R ε α σ) : Prop where
  ground : Ground p.state
  place : ∀ m, (acts m).Before (Looks m) (Passes m) Succeeds (p.threads m)
    ∨ Prog.Residual (acts m) (p.threads m)
  one : ∃ who : Option ι,
    (∀ i, who = some i →
      (p.threads i).wp (h i) (fun _ => True) (Prog.Achieves Succeeds (Done i)) p.state)
    ∧ ∀ m, who ≠ some m → Quiet acts Succeeds p m

/-- A quiet thread that can move is about to look. -/
lemma before_of_quiet {p : Pool ι C R ε α σ}
    (hp : Orderly h acts Looks Passes Succeeds Ground Done p) {i : ι} {c : C}
    {k : R c → Prog C R ε α} (hi : p.threads i = Prog.call c k) (hquiet : Quiet acts Succeeds p i) :
    (acts i).Before (Looks i) (Passes i) Succeeds (Prog.call c k) := by
  rcases hp.place i with hbefore | hres
  · rw [hi] at hbefore
    exact hbefore
  · exact absurd ⟨⟨c, k, hi⟩, hres⟩ hquiet.1

/-- Whoever succeeded is the one that is not quiet, and has done it. -/
lemma done_of_succeeded {p : Pool ι C R ε α σ}
    (hp : Orderly h acts Looks Passes Succeeds Ground Done p) {i : ι} {a : α}
    (hi : p.threads i = Prog.ret a) (ha : Succeeds a) :
    Done i a p.state ∧ ∀ m, m ≠ i → Quiet acts Succeeds p m := by
  obtain ⟨who, hwp, hquiet⟩ := hp.one
  by_cases hwho : who = some i
  · refine ⟨?_, fun m hm => hquiet m ?_⟩
    · have hdone := hwp i hwho
      rw [hi] at hdone
      exact hdone a rfl ha
    · rw [hwho]
      exact fun h => hm (Option.some.inj h).symm
  · exact absurd ha ((hquiet i hwho).2 a hi)

section Step

variable [DecidableEq ι] {p : Pool ι C R ε α σ} {i : ι} {o : ω} {c : C} {k : R c → Prog C R ε α}

/-- A step leaves the other threads as they are. -/
lemma quiet_step_iff
    (hthreads : (p.step h i o).threads = Function.update p.threads i (k (h i c o p.state).1))
    {m : ι} (hm : m ≠ i) : Quiet acts Succeeds (p.step h i o) m ↔ Quiet acts Succeeds p m := by
  rw [Quiet, Quiet, hthreads, Function.update_of_ne hm]

/-- Before the act and in it, a step leads on to the act or further. -/
lemma step_place (hp : Orderly h acts Looks Passes Succeeds Ground Done p)
    (hi : p.threads i = Prog.call c k)
    (hthreads : (p.step h i o).threads = Function.update p.threads i (k (h i c o p.state).1))
    (m : ι) : (acts m).Before (Looks m) (Passes m) Succeeds ((p.step h i o).threads m)
      ∨ Prog.Residual (acts m) ((p.step h i o).threads m) := by
  by_cases hm : m = i
  · subst hm
    have hplace := hp.place m
    rw [hi] at hplace
    rw [hthreads, Function.update_self]
    rcases hplace with hbefore | hres
    · rcases hbefore.2 (h m c o p.state).1 with hrest | ⟨-, hact⟩
      · exact Or.inl hrest
      · rw [hact]
        exact Or.inr (Prog.Residual.refl _)
    · exact Or.inr (hres.answer _)
  · rw [hthreads, Function.update_of_ne hm]
    exact hp.place m

end Step

variable (hsec : Sections h acts Looks Passes Succeeds Ground Waits Done)

include hsec

/-- A thread that has not begun to act is not in the middle of it. -/
lemma not_inside_of_before {i : ι} {q : Prog C R ε α}
    (hq : (acts i).Before (Looks i) (Passes i) Succeeds q) : ¬ (acts i).Inside q := by
  rintro ⟨⟨c, k, rfl⟩, hres⟩
  exact (hres.allCalls (hsec.issues i)).1.1 hq.1

variable [DecidableEq ι]

/-- The ground holds on: whoever moves looks, or is in its act. -/
lemma step_ground {p : Pool ι C R ε α σ}
    (hp : Orderly h acts Looks Passes Succeeds Ground Done p) {i : ι} {o : ω} {c : C}
    {k : R c → Prog C R ε α} (hi : p.threads i = Prog.call c k)
    (hstate : (p.step h i o).state = (h i c o p.state).2) : Ground (p.step h i o).state := by
  have hplace := hp.place i
  rw [hi] at hplace
  rw [hstate]
  rcases hplace with hbefore | hres
  · exact hsec.waits_ground _ _ (hsec.looks i c o p.state hbefore.1) hp.ground
  · exact (hres.allCalls (hsec.issues i)).1.2 o p.state hp.ground

lemma step_self {p : Pool ι C R ε α σ}
    (hp : Orderly h acts Looks Passes Succeeds Ground Done p) {i : ι} {o : ω} {c : C}
    {k : R c → Prog C R ε α} (hi : p.threads i = Prog.call c k)
    (hthreads : (p.step h i o).threads = Function.update p.threads i (k (h i c o p.state).1))
    (hstate : (p.step h i o).state = (h i c o p.state).2)
    (hwp : (p.threads i).wp (h i) (fun _ => True) (Prog.Achieves Succeeds (Done i)) p.state)
    (hquiet : ∀ m, m ≠ i → Quiet acts Succeeds p m) :
    Orderly h acts Looks Passes Succeeds Ground Done (p.step h i o) := by
  rw [hi] at hwp
  refine ⟨hsec.step_ground hp hi hstate, step_place hp hi hthreads, some i, ?_, ?_⟩
  · rintro m hm
    obtain rfl := Option.some.inj hm
    rw [hthreads, Function.update_self, hstate]
    exact hwp o trivial
  · intro m hm
    have hne : m ≠ i := fun heq => hm (heq ▸ rfl)
    rw [quiet_step_iff hthreads hne]
    exact hquiet m hne

/-- A quiet thread looks, and may begin its act. -/
lemma step_look {p : Pool ι C R ε α σ}
    (hp : Orderly h acts Looks Passes Succeeds Ground Done p) {i : ι} {o : ω} {c : C}
    {k : R c → Prog C R ε α} (hi : p.threads i = Prog.call c k)
    (hthreads : (p.step h i o).threads = Function.update p.threads i (k (h i c o p.state).1))
    (hstate : (p.step h i o).state = (h i c o p.state).2)
    (hadm : p.OneAtATime h acts i o) (hquiet : Quiet acts Succeeds p i) :
    Orderly h acts Looks Passes Succeeds Ground Done (p.step h i o) := by
  have hbefore := before_of_quiet hp hi hquiet
  have hground := hsec.step_ground hp hi hstate
  have hnext := hbefore.2 (h i c o p.state).1
  have hself : (p.step h i o).threads i = k (h i c o p.state).1 := by
    rw [hthreads, Function.update_self]
  rw [← hself] at hnext
  refine ⟨hground, step_place hp hi hthreads, ?_⟩
  by_cases hin : (acts i).Inside ((p.step h i o).threads i)
  · -- it begins its act: no other is inside, and nobody can have succeeded
    have hpass : Passes i c (h i c o p.state).1 ∧ (p.step h i o).threads i = acts i :=
      hnext.resolve_left fun hrest => hsec.not_inside_of_before hrest hin
    have halone := (hadm hin).resolve_left hquiet.1
    refine ⟨some i, ?_, fun m hm => ?_⟩
    · rintro m hm
      obtain rfl := Option.some.inj hm
      rw [hpass.2]
      exact hsec.act i _ hground
    · have hne : m ≠ i := fun heq => hm (heq ▸ rfl)
      rw [quiet_step_iff hthreads hne]
      refine ⟨halone m hne, fun a ha hsucc => ?_⟩
      have hdone := (done_of_succeeded hp ha hsucc).1
      exact hsec.shut m a p.state hp.ground hdone i c o hbefore.1 hpass.1
  · -- it stays quiet
    have hquiet' : Quiet acts Succeeds (p.step h i o) i := by
      refine ⟨hin, fun a ha => ?_⟩
      rcases hnext with hrest | ⟨-, hact⟩
      · rw [ha] at hrest
        exact hrest
      · exact hsec.starts i a (hact ▸ ha)
    obtain ⟨who, hwp, hothers⟩ := hp.one
    by_cases hwho : who = some i
    · refine ⟨none, fun m hm => by simp at hm, fun m _ => ?_⟩
      by_cases hm : m = i
      · exact hm ▸ hquiet'
      · rw [quiet_step_iff hthreads hm]
        exact hothers m fun h' => hm (Option.some.inj (h'.symm.trans hwho))
    · refine ⟨who, fun m hm => ?_, fun m hm => ?_⟩
      · have hne : m ≠ i := fun heq => hwho (heq ▸ hm)
        rw [hthreads, Function.update_of_ne hne, hstate]
        exact hsec.waits_act m _ _ _ (hsec.looks i c o p.state hbefore.1) (hwp m hm)
      · by_cases hmi : m = i
        · exact hmi ▸ hquiet'
        · rw [quiet_step_iff hthreads hmi]
          exact hothers m hm

/-- **One step** of a schedule that goes one at a time keeps the order: at most one thread has succeeded
or is about to. -/
lemma step_orderly {p : Pool ι C R ε α σ}
    (hp : Orderly h acts Looks Passes Succeeds Ground Done p) {i : ι} {o : ω}
    (hadm : p.OneAtATime h acts i o) :
    Orderly h acts Looks Passes Succeeds Ground Done (p.step h i o) := by
  rcases Pool.step_cases h p i o with hsame | ⟨c, k, hi, hthreads, hstate⟩
  · rw [hsame]
    exact hp
  · by_cases hquiet : Quiet acts Succeeds p i
    · exact hsec.step_look hp hi hthreads hstate hadm hquiet
    · obtain ⟨who, hwp, hothers⟩ := hp.one
      have hwho : who = some i := by
        by_contra hne
        exact hquiet (hothers i hne)
      refine hsec.step_self hp hi hthreads hstate (hwp i hwho) fun m hm => hothers m ?_
      rw [hwho]
      exact fun h' => hm (Option.some.inj h').symm

/-- **The rule.**  Where threads begin their acts one at a time, at most one succeeds. -/
theorem run_orderly {p : Pool ι C R ε α σ}
    (hp : Orderly h acts Looks Passes Succeeds Ground Done p) {sched : List (ι × ω)}
    (hs : p.Along h (Pool.OneAtATime h acts) sched) :
    Orderly h acts Looks Passes Succeeds Ground Done (p.run h sched) := by
  refine Pool.run_invariant h (fun q i o hq hadm => ?_) hp hs
  exact hsec.step_orderly hq hadm

/-- **Nobody passes after a success.**  From then on the others only look. -/
theorem run_after {p : Pool ι C R ε α σ}
    (hp : Orderly h acts Looks Passes Succeeds Ground Done p) {i : ι} {a : α}
    (hi : p.threads i = Prog.ret a) (ha : Succeeds a) {sched : List (ι × ω)}
    (hs : p.Along h (Pool.OneAtATime h acts) sched) :
    (p.run h sched).threads i = Prog.ret a ∧ Waits p.state (p.run h sched).state := by
  refine (Pool.run_invariant h (I := fun q => Orderly h acts Looks Passes Succeeds Ground Done q
    ∧ q.threads i = Prog.ret a ∧ Waits p.state q.state) ?_ ⟨hp, hi, hsec.refl _⟩ hs).2
  rintro q m o ⟨hq, hret, hwaits⟩ hadm
  refine ⟨hsec.step_orderly hq hadm, ?_⟩
  rcases Pool.step_cases h q m o with hsame | ⟨c, k, hm, hthreads, hstate⟩
  · rw [hsame]
    exact ⟨hret, hwaits⟩
  · have hne : m ≠ i := by
      rintro rfl
      simp [hret] at hm
    have hbefore := before_of_quiet hq hm ((done_of_succeeded hq hret ha).2 m hne)
    rw [hthreads, hstate, Function.update_of_ne hne.symm]
    exact ⟨hret, hsec.trans _ _ _ hwaits (hsec.looks m c o q.state hbefore.1)⟩

end Sections

end Library
