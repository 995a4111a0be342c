import LuksEnroll.Library.Run

/-!
# Interleaving programs

A pool is a family of programs over one shared state.  A schedule names, step by step, which
thread moves and which input answers its command; commands are atomic and everything else can
happen between two of them.  Any prefix of a schedule is a schedule, so a statement about the
state after *every* schedule is a statement about every reachable state.

Two ways of proving such statements:

* `Pool.run_invariant` — an invariant of pool and state that every admissible step keeps;
* `Pool.run_rely` — rely/guarantee: each program is checked alone, against any interference that
  keeps the shared invariant and stays within the relation all of them guarantee.
-/

namespace Library

/-- Programs sharing a state, one for each index. -/
structure Pool (ι C : Type) (R : C → Type) (ε α σ : Type) where
  threads : ι → Prog C R ε α
  state : σ

namespace Pool

variable {ι C : Type} {R : C → Type} {ω σ ε α : Type} [DecidableEq ι]

/-- Thread `i` takes one step: its next command is answered atomically. -/
def step (h : ι → Handler C R ω σ) (p : Pool ι C R ε α σ) (i : ι) (o : ω) : Pool ι C R ε α σ :=
  match p.threads i with
  | Prog.ret _ => p
  | Prog.fail _ => p
  | Prog.call c k =>
      { threads := Function.update p.threads i (k (h i c o p.state).1)
        state := (h i c o p.state).2 }

/-- A whole schedule. -/
def run (h : ι → Handler C R ω σ) (p : Pool ι C R ε α σ) (sched : List (ι × ω)) :
    Pool ι C R ε α σ :=
  sched.foldl (fun q x => q.step h x.1 x.2) p

/-- Every step of the schedule is admissible in the pool it is taken from. -/
def Along (h : ι → Handler C R ω σ) (Adm : Pool ι C R ε α σ → ι → ω → Prop) :
    Pool ι C R ε α σ → List (ι × ω) → Prop
  | _, [] => True
  | p, x :: sched => Adm p x.1 x.2 ∧ Along h Adm (p.step h x.1 x.2) sched

lemma run_append (h : ι → Handler C R ω σ) (p : Pool ι C R ε α σ) (sched sched' : List (ι × ω)) :
    p.run h (sched ++ sched') = (p.run h sched).run h sched' := by
  simp [run]

lemma along_append {h : ι → Handler C R ω σ} {Adm : Pool ι C R ε α σ → ι → ω → Prop}
    {p : Pool ι C R ε α σ} {sched sched' : List (ι × ω)} :
    p.Along h Adm (sched ++ sched') ↔ p.Along h Adm sched ∧ (p.run h sched).Along h Adm sched' := by
  induction sched generalizing p with
  | nil => exact ⟨fun h => ⟨trivial, h⟩, fun h => h.2⟩
  | cons x sched ih =>
      have hrest := @ih (p.step h x.1 x.2)
      simp only [List.cons_append, Along, and_assoc, hrest]
      rfl

/-- **What a step can do**: nothing, when the thread is finished, or answer its next command. -/
lemma step_cases (h : ι → Handler C R ω σ) (p : Pool ι C R ε α σ) (i : ι) (o : ω) :
    p.step h i o = p ∨ ∃ c k, p.threads i = Prog.call c k ∧
      (p.step h i o).threads = Function.update p.threads i (k (h i c o p.state).1) ∧
      (p.step h i o).state = (h i c o p.state).2 := by
  cases hi : p.threads i with
  | ret a => exact Or.inl (by simp [step, hi])
  | fail e => exact Or.inl (by simp [step, hi])
  | call c k => exact Or.inr ⟨c, k, rfl, by simp [step, hi], by simp [step, hi]⟩

/-- **The invariant rule.** -/
theorem run_invariant (h : ι → Handler C R ω σ) {Adm : Pool ι C R ε α σ → ι → ω → Prop}
    {I : Pool ι C R ε α σ → Prop} (hstep : ∀ p i o, I p → Adm p i o → I (p.step h i o))
    {p : Pool ι C R ε α σ} (hp : I p) {sched : List (ι × ω)} (hs : p.Along h Adm sched) :
    I (p.run h sched) := by
  induction sched generalizing p with
  | nil => exact hp
  | cons x sched ih => exact ih (hstep _ _ _ hp hs.1) hs.2

end Pool

/-! ## Rely and guarantee

A thread relies on what the others do to the shared state, and guarantees what it does itself.  Its
proof looks at the other threads only through that relation.
-/

namespace Prog

variable {C : Type} {R : C → Type} {ω σ ε α β : Type}

/-- Whatever the others do to the state within `G`, every admissible command of `p`, issued where the
invariant `I` holds, keeps it and stays within `G`; and `p` ends in `Q`. -/
def Within (h : Handler C R ω σ) (I : σ → Prop) (G : σ → σ → Prop) (Adm : C → ω → σ → Prop)
    (Q : Except ε α → σ → Prop) : Prog C R ε α → σ → Prop
  | ret a, s => ∀ s', G s s' → Q (Except.ok a) s'
  | fail e, s => ∀ s', G s s' → Q (Except.error e) s'
  | call c k, s => ∀ s', G s s' → I s' → ∀ o, Adm c o s' →
      I (h c o s').2 ∧ G s' (h c o s').2 ∧ (k (h c o s').1).Within h I G Adm Q (h c o s').2

variable {h : Handler C R ω σ} {I : σ → Prop} {G : σ → σ → Prop} {Adm : C → ω → σ → Prop}

/-- Interference within the relation does a checked thread no harm. -/
lemma Within.interfere (htrans : ∀ s t u, G s t → G t u → G s u) {Q : Except ε α → σ → Prop}
    {p : Prog C R ε α} {s t : σ} (hp : p.Within h I G Adm Q s) (hst : G s t) :
    p.Within h I G Adm Q t := by
  cases p with
  | ret a => exact fun s' hs' => hp s' (htrans _ _ _ hst hs')
  | fail e => exact fun s' hs' => hp s' (htrans _ _ _ hst hs')
  | call c k => exact fun s' hs' => hp s' (htrans _ _ _ hst hs')

lemma Within.mono {Q Q' : Except ε α → σ → Prop} (hQ : ∀ x s, Q x s → Q' x s)
    {p : Prog C R ε α} {s : σ} (hp : p.Within h I G Adm Q s) : p.Within h I G Adm Q' s := by
  induction p generalizing s with
  | ret a => exact fun s' hs' => hQ _ _ (hp s' hs')
  | fail e => exact fun s' hs' => hQ _ _ (hp s' hs')
  | call c k ih =>
      intro s' hs' hI o ho
      obtain ⟨hI', hG, hk⟩ := hp s' hs' hI o ho
      exact ⟨hI', hG, ih _ hk⟩

lemma Within.bind (hrefl : ∀ s, G s s) {Q : Except ε β → σ → Prop} {p : Prog C R ε α}
    {f : α → Prog C R ε β} {s : σ}
    (hp : p.Within h I G Adm
      (fun x s' => match x with
        | Except.ok a => (f a).Within h I G Adm Q s'
        | Except.error e => Q (Except.error e) s') s) :
    (p.bind f).Within h I G Adm Q s := by
  induction p generalizing s with
  | ret a => exact hp s (hrefl s)
  | fail e => exact hp
  | call c k ih =>
      intro s' hs' hI o ho
      obtain ⟨hI', hG, hk⟩ := hp s' hs' hI o ho
      exact ⟨hI', hG, ih _ hk⟩

end Prog

namespace Pool

variable {ι C : Type} {R : C → Type} {ω σ ε α : Type} [DecidableEq ι]

/-- The command that a thread issues in a step is admissible. -/
def Issuing (Adm : ι → C → ω → σ → Prop) (p : Pool ι C R ε α σ) (i : ι) (o : ω) : Prop :=
  ∀ c k, p.threads i = Prog.call c k → Adm i c o p.state

/-! Admissibility of a given schedule can be checked where the condition on its steps can. -/

instance decidableIssuing (Adm : ι → C → ω → σ → Prop) [∀ i c o s, Decidable (Adm i c o s)]
    (p : Pool ι C R ε α σ) (i : ι) (o : ω) : Decidable (Issuing Adm p i o) :=
  match hi : p.threads i with
  | Prog.ret _ => isTrue fun c k hcall => by simp [hi] at hcall
  | Prog.fail _ => isTrue fun c k hcall => by simp [hi] at hcall
  | Prog.call c k =>
      decidable_of_iff (Adm i c o p.state)
        ⟨fun h c' k' hcall => by
          obtain ⟨rfl, -⟩ := Prog.call.inj (hi.symm.trans hcall)
          exact h, fun h => h c k hi⟩

/-- Admissibility of a schedule can be computed, so that a witness can be evaluated. -/
instance decidableAlong (h : ι → Handler C R ω σ) (Adm : Pool ι C R ε α σ → ι → ω → Prop)
    [hdec : ∀ p i o, Decidable (Adm p i o)] (sched : List (ι × ω)) :
    ∀ p, Decidable (Along h Adm p sched) :=
  match sched with
  | [] => fun _ => isTrue trivial
  | x :: sched => fun p =>
      @instDecidableAnd _ _ (hdec p x.1 x.2) (decidableAlong h Adm sched (p.step h x.1 x.2))

/-- **The rely/guarantee rule.**  If every thread keeps the invariant and stays within `G`, under
interference that does so too, then every admissible schedule keeps the invariant. -/
theorem run_rely (h : ι → Handler C R ω σ) {I : σ → Prop} {G : σ → σ → Prop}
    {Adm : ι → C → ω → σ → Prop} {Q : ι → Except ε α → σ → Prop} (hrefl : ∀ s, G s s)
    (htrans : ∀ s t u, G s t → G t u → G s u) {p : Pool ι C R ε α σ}
    (hp : ∀ i, (p.threads i).Within (h i) I G (Adm i) (Q i) p.state) (hI : I p.state)
    {sched : List (ι × ω)} (hs : p.Along h (Issuing Adm) sched) : I (p.run h sched).state := by
  refine (run_invariant h (I := fun q => I q.state
    ∧ ∀ i, (q.threads i).Within (h i) I G (Adm i) (Q i) q.state) ?_ ⟨hI, hp⟩ hs).1
  intro q i o ⟨hq, hthreads⟩ hadm
  rcases step_cases h q i o with hstep | ⟨c, k, hi, hupdate, hstate⟩
  · rw [hstep]
    exact ⟨hq, hthreads⟩
  · have hcall := hthreads i
    rw [hi] at hcall
    obtain ⟨hI', hG, hk⟩ := hcall q.state (hrefl _) hq o (hadm c k hi)
    rw [hstate, hupdate]
    refine ⟨hI', fun j => ?_⟩
    by_cases hj : j = i
    · subst hj
      rw [Function.update_self]
      exact hk
    · rw [Function.update_of_ne hj]
      exact (hthreads j).interfere htrans hG

end Pool

end Library
