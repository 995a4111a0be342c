import LuksEnroll.Library.Pool

/-!
# Histories

A journal is a state together with what has happened so far: every command that was answered, by
which thread, with which answer, and the state after it, the newest first.

What a thread does is a matter of its own history: `Prog.Tells` says which commands a program can
issue after which answers, whatever they are, and needs no state at all.  What the state has become
is a matter of the whole history.  `Pool.run_journal` brings the two together: an invariant of the
journal has to be checked for single commands only, each with what its thread's history says of it.
-/

namespace Library

/-- A command answered to a thread, and the state after it. -/
structure Event (ι C : Type) (R : C → Type) (σ : Type) where
  thread : ι
  cmd : C
  reply : R cmd
  state : σ

/-- A state, and what has happened, the newest first. -/
structure Journal (ι C : Type) (R : C → Type) (σ : Type) where
  state : σ
  log : List (Event ι C R σ)

/-! ## Positions in a history

A history is a list, the latest event first.  `Throughout` says something of every event and of what
came before it, and `Latest` finds the last event of a kind.
-/

section

variable {E : Type}

/-- Every entry of a history stands in a relation to what came before it. -/
def Throughout (S : E → List E → Prop) (log : List E) : Prop :=
  ∀ later e earlier, log = later ++ e :: earlier → S e earlier

lemma throughout_nil (S : E → List E → Prop) : Throughout S [] := by
  intro later e earlier h
  simp at h

/-- One more entry stands in the relation to all before it. -/
lemma throughout_cons {S : E → List E → Prop} {e : E} {log : List E} :
    Throughout S (e :: log) ↔ S e log ∧ Throughout S log := by
  constructor
  · intro h
    refine ⟨h [] e log rfl, fun later e' earlier hlog => h (e :: later) e' earlier ?_⟩
    rw [hlog, List.cons_append]
  · rintro ⟨he, hlog⟩ later e' earlier hsplit
    cases later with
    | nil =>
        simp only [List.nil_append, List.cons.injEq] at hsplit
        obtain ⟨rfl, rfl⟩ := hsplit
        exact he
    | cons x later =>
        simp only [List.cons_append, List.cons.injEq] at hsplit
        exact hlog later e' earlier hsplit.2

/-- The latest entry of a kind, and what came before it. -/
def Latest (A : E → Prop) (log : List E) (e : E) (before : List E) : Prop :=
  ∃ since, log = since ++ e :: before ∧ A e ∧ ∀ x ∈ since, ¬ A x

/-- The entry that was just made is the latest of its kind. -/
lemma Latest.head {A : E → Prop} {e : E} (he : A e) (log : List E) : Latest A (e :: log) e log :=
  ⟨[], rfl, he, by simp⟩

/-- An entry of another kind changes nothing. -/
lemma Latest.cons {A : E → Prop} {e x : E} {log before : List E} (h : Latest A log e before)
    (hx : ¬ A x) : Latest A (x :: log) e before := by
  obtain ⟨since, rfl, he, hsince⟩ := h
  refine ⟨x :: since, rfl, he, fun y hy => ?_⟩
  rcases List.mem_cons.mp hy with rfl | hy
  · exact hx
  · exact hsince y hy

lemma Latest.mem {A : E → Prop} {e : E} {log before : List E} (h : Latest A log e before) :
    e ∈ log := by
  obtain ⟨since, rfl, -, -⟩ := h
  simp

/-- What holds throughout holds of the latest entry and of what came before it. -/
lemma Latest.split {A : E → Prop} {S : E → List E → Prop} {e : E} {log before : List E}
    (h : Latest A log e before) (hS : Throughout S log) : S e before := by
  obtain ⟨since, hlog, -, -⟩ := h
  exact hS since e before hlog

end

/-! ## Threads

The events of one thread are its own history.  A program that says something of its own history
(`Tells`) says it whatever the other threads do in the meantime.
-/

section

variable {ι C : Type} {R : C → Type} {ω σ ε δ α β : Type}

/-- A handler that keeps a journal. -/
def journaled (h : ι → Handler C R ω σ) (i : ι) : Handler C R ω (Journal ι C R σ) :=
  fun c o j =>
    ((h i c o j.state).1,
      ⟨(h i c o j.state).2, ⟨i, c, (h i c o j.state).1, (h i c o j.state).2⟩ :: j.log⟩)

/-- The history of one thread. -/
def own [DecidableEq ι] (i : ι) (log : List (Event ι C R σ)) : List (Answered C R) :=
  log.filterMap fun e => if e.thread = i then some ⟨e.cmd, e.reply⟩ else none

section

variable [DecidableEq ι]

/-- An entry of the thread itself is the newest of its history. -/
lemma own_cons_self (e : Event ι C R σ) (log : List (Event ι C R σ)) :
    own e.thread (e :: log) = ⟨e.cmd, e.reply⟩ :: own e.thread log := by simp [own]

lemma own_cons_ne {i : ι} {e : Event ι C R σ} (h : e.thread ≠ i) (log : List (Event ι C R σ)) :
    own i (e :: log) = own i log := by simp [own, h]

/-- The history of the thread that moves grows by its command. -/
lemma own_journaled_self (h : ι → Handler C R ω σ) (i : ι) (c : C) (o : ω) (j : Journal ι C R σ) :
    own i (journaled h i c o j).2.log = ⟨c, (h i c o j.state).1⟩ :: own i j.log :=
  own_cons_self (⟨i, c, _, _⟩ : Event ι C R σ) j.log

lemma own_journaled_ne (h : ι → Handler C R ω σ) {i m : ι} (hne : i ≠ m) (c : C) (o : ω)
    (j : Journal ι C R σ) : own m (journaled h i c o j).2.log = own m j.log :=
  own_cons_ne (e := ⟨i, c, _, _⟩) hne j.log

/-- A thread's history is its part of the log. -/
lemma mem_own {i : ι} {log : List (Event ι C R σ)} {x : Answered C R} :
    x ∈ own i log ↔ ∃ e ∈ log, e.thread = i ∧ (⟨e.cmd, e.reply⟩ : Answered C R) = x := by
  simp [own]

end

namespace Prog

/-- After this history, whatever the answers will be, every command is issued where `P` holds of it
and of the history, and the program ends in `Q`. -/
def Tells (P : C → List (Answered C R) → Prop) (Q : Except ε α → List (Answered C R) → Prop) :
    Prog C R ε α → List (Answered C R) → Prop
  | ret a, past => Q (Except.ok a) past
  | fail e, past => Q (Except.error e) past
  | call c k, past => P c past ∧ ∀ r, (k r).Tells P Q (⟨c, r⟩ :: past)

variable {P : C → List (Answered C R) → Prop}

lemma Tells.imp {P' : C → List (Answered C R) → Prop} {Q Q' : Except ε α → List (Answered C R) → Prop}
    (hP : ∀ c past, P c past → P' c past) (hQ : ∀ x past, Q x past → Q' x past)
    {p : Prog C R ε α} {past : List (Answered C R)} (hp : p.Tells P Q past) :
    p.Tells P' Q' past := by
  induction p generalizing past with
  | ret a => exact hQ _ _ hp
  | fail e => exact hQ _ _ hp
  | call c k ih => exact ⟨hP c past hp.1, fun r => ih r (hp.2 r)⟩

lemma Tells.mono {Q Q' : Except ε α → List (Answered C R) → Prop} (hQ : ∀ x past, Q x past → Q' x past)
    {p : Prog C R ε α} {past : List (Answered C R)} (hp : p.Tells P Q past) : p.Tells P Q' past :=
  Tells.imp (fun _ _ h => h) hQ hp

lemma Tells.and {P' : C → List (Answered C R) → Prop} {Q Q' : Except ε α → List (Answered C R) → Prop}
    {p : Prog C R ε α} {past : List (Answered C R)} (hp : p.Tells P Q past)
    (hp' : p.Tells P' Q' past) : p.Tells P (fun x past' => Q x past' ∧ Q' x past') past := by
  induction p generalizing past with
  | ret a => exact ⟨hp, hp'⟩
  | fail e => exact ⟨hp, hp'⟩
  | call c k ih => exact ⟨hp.1, fun r => ih r (hp.2 r) (hp'.2 r)⟩

/-- Where there is no rule, only the end matters. -/
lemma tells_of_ends {Q : Except ε α → List (Answered C R) → Prop} (hQ : ∀ x past, Q x past)
    (p : Prog C R ε α) (past : List (Answered C R)) : p.Tells (fun _ _ => True) Q past := by
  induction p generalizing past with
  | ret a => exact hQ _ _
  | fail e => exact hQ _ _
  | call c k ih => exact ⟨trivial, fun r => ih r _⟩

lemma Tells.bind {Q : Except ε β → List (Answered C R) → Prop} {p : Prog C R ε α}
    {f : α → Prog C R ε β} {past : List (Answered C R)}
    (hp : p.Tells P
      (fun x past' => match x with
        | Except.ok a => (f a).Tells P Q past'
        | Except.error e => Q (Except.error e) past') past) :
    (p.bind f).Tells P Q past := by
  induction p generalizing past with
  | ret a => exact hp
  | fail e => exact hp
  | call c k ih => exact ⟨hp.1, fun r => ih r (hp.2 r)⟩

/-- A watched program tells what the program tells, and every end is a value. -/
lemma Tells.attempt {Q : Except δ (Except ε α) → List (Answered C R) → Prop} {p : Prog C R ε α}
    {past : List (Answered C R)} (hp : p.Tells P (fun x past' => Q (Except.ok x) past') past) :
    (p.attempt : Prog C R δ (Except ε α)).Tells P Q past := by
  induction p generalizing past with
  | ret a => exact hp
  | fail e => exact hp
  | call c k ih => exact ⟨hp.1, fun r => ih r (hp.2 r)⟩

/-- A relabelled failure is the only thing that changes. -/
lemma Tells.mapErr {Q : Except δ α → List (Answered C R) → Prop} {f : ε → δ} {p : Prog C R ε α}
    {past : List (Answered C R)} (hp : p.Tells P (fun x past' => Q (x.mapError f) past') past) :
    (p.mapErr f).Tells P Q past := by
  induction p generalizing past with
  | ret a => exact hp
  | fail e => exact hp
  | call c k ih => exact ⟨hp.1, fun r => ih r (hp.2 r)⟩

/-- Commands that keep an invariant of the history. -/
lemma Tells.keeps {K : C → Prop} {I : List (Answered C R) → Prop}
    (hK : ∀ c r past, K c → I past → I (⟨c, r⟩ :: past)) {p : Prog C R ε α} (hp : p.AllCalls K)
    {past : List (Answered C R)} (hI : I past) :
    p.Tells (fun _ _ => True) (fun _ past' => I past') past := by
  induction p generalizing past with
  | ret a => exact hI
  | fail e => exact hI
  | call c k ih => exact ⟨trivial, fun r => ih r (hp.2 r) (hK c r past hp.1 hI)⟩

/-- What is told of a program is true of its runs. -/
lemma Tells.of_run {Q : Except ε α → List (Answered C R) → Prop} {p : Prog C R ε α}
    {past : List (Answered C R)} (hp : p.Tells P Q past) (h : Handler C R ω σ) (os : ℕ → ω) (s : σ) :
    Q (p.run h os s).1 ((p.answers h os s).reverse ++ past) := by
  induction p generalizing past os s with
  | ret a => exact hp
  | fail e => exact hp
  | call c k ih =>
      have hrest := ih (h c (os 0) s).1 (hp.2 _) (fun n => os (n + 1)) (h c (os 0) s).2
      rw [answers, List.reverse_cons, List.append_assoc]
      exact hrest

/-- **The rule for one run**: an invariant of the history and the state, kept by every command that the
program tells of itself. -/
lemma Tells.keeps_along {Q : Except ε α → List (Answered C R) → Prop} (h : Handler C R ω σ)
    {I : List (Answered C R) → σ → Prop}
    (hstep : ∀ c o past s, I past s → P c past → I (⟨c, (h c o s).1⟩ :: past) (h c o s).2)
    {p : Prog C R ε α} {past : List (Answered C R)} (hp : p.Tells P Q past) {s : σ} (hI : I past s)
    (os : ℕ → ω) : I ((p.answers h os s).reverse ++ past) (p.run h os s).2 := by
  induction p generalizing past os s with
  | ret a => exact hI
  | fail e => exact hI
  | call c k ih =>
      have hrest := ih (h c (os 0) s).1 (hp.2 _) (hstep c (os 0) past s hI hp.1) fun n => os (n + 1)
      rw [answers, List.reverse_cons, List.append_assoc]
      exact hrest

/-- Commands of a class that may be issued from now on; the history only grows. -/
lemma Tells.of_allCalls_since {K : C → Prop} {past : List (Answered C R)}
    (hK : ∀ c past', past <:+ past' → K c → P c past') {p : Prog C R ε α} (hp : p.AllCalls K) :
    p.Tells P (fun _ past' => past <:+ past') past := by
  induction p generalizing past with
  | ret a => exact List.suffix_rfl
  | fail e => exact List.suffix_rfl
  | call c k ih =>
      refine ⟨hK c past List.suffix_rfl hp.1, fun r => ?_⟩
      have hgrown : past <:+ ⟨c, r⟩ :: past := List.suffix_cons _ _
      refine Tells.mono (fun _ past' h => hgrown.trans h) (ih r ?_ (hp.2 r))
      exact fun c' past' h hc' => hK c' past' (hgrown.trans h) hc'

/-- Commands of a class that may be issued at any time. -/
lemma Tells.of_allCalls {K : C → Prop} (hK : ∀ c past, K c → P c past) {p : Prog C R ε α}
    (hp : p.AllCalls K) (past : List (Answered C R)) :
    p.Tells P (fun _ past' => past <:+ past') past :=
  Tells.of_allCalls_since (fun c past' _ hc => hK c past' hc) hp

/-- What is told of a program whose commands are of a class. -/
lemma Tells.within {K : C → Prop} {Q : Except ε α → List (Answered C R) → Prop} {p : Prog C R ε α}
    {past : List (Answered C R)} (hK : p.AllCalls K) (hp : p.Tells P Q past) :
    p.Tells (fun c past => K c ∧ P c past) Q past := by
  induction p generalizing past with
  | ret a => exact hp
  | fail e => exact hp
  | call c k ih => exact ⟨⟨hK.1, hp.1⟩, fun r => ih r (hK.2 r) (hp.2 r)⟩

end Prog

namespace Pool

variable [DecidableEq ι]

/-- The pool without its journal. -/
def unrecorded (p : Pool ι C R ε α (Journal ι C R σ)) : Pool ι C R ε α σ where
  threads := p.threads
  state := p.state.state

/-- Keeping a journal changes nothing else, in one step. -/
lemma step_unrecorded (h : ι → Handler C R ω σ) (p : Pool ι C R ε α (Journal ι C R σ)) (i : ι) (o : ω) :
    (p.step (journaled h) i o).unrecorded = p.unrecorded.step h i o := by
  have hthread : p.unrecorded.threads i = p.threads i := rfl
  rw [step, step, hthread]
  cases p.threads i with
  | ret a => rfl
  | fail e => rfl
  | call c k => rfl

/-- **Keeping a journal changes nothing else.** -/
lemma run_unrecorded (h : ι → Handler C R ω σ) (p : Pool ι C R ε α (Journal ι C R σ))
    (sched : List (ι × ω)) :
    (p.run (journaled h) sched).unrecorded = p.unrecorded.run h sched := by
  induction sched generalizing p with
  | nil => rfl
  | cons x sched ih =>
      show ((p.step (journaled h) x.1 x.2).run (journaled h) sched).unrecorded = _
      rw [ih, step_unrecorded]
      rfl

/-- **The rule for journals.**  If every thread tells `P` of itself, an invariant of the journal is
kept in every admissible run, provided that every single command keeps it when it is admissible and
`P` holds of it and of its thread's history. -/
theorem run_journal (h : ι → Handler C R ω σ) {P : ι → C → List (Answered C R) → Prop}
    {Q : ι → Except ε α → List (Answered C R) → Prop} {Adm : ι → C → ω → σ → Prop}
    {J : Journal ι C R σ → Prop}
    (hstep : ∀ i c o j, J j → P i c (own i j.log) → Adm i c o j.state → J (journaled h i c o j).2)
    {p : Pool ι C R ε α (Journal ι C R σ)}
    (hp : ∀ i, (p.threads i).Tells (P i) (Q i) (own i p.state.log)) (hJ : J p.state)
    {sched : List (ι × ω)}
    (hs : p.Along (journaled h) (Issuing fun i c o j => Adm i c o j.state) sched) :
    J (p.run (journaled h) sched).state ∧
      ∀ i, ((p.run (journaled h) sched).threads i).Tells (P i) (Q i)
        (own i (p.run (journaled h) sched).state.log) := by
  refine run_invariant (journaled h) (I := fun q => J q.state ∧
    ∀ i, (q.threads i).Tells (P i) (Q i) (own i q.state.log)) ?_ ⟨hJ, hp⟩ hs
  intro q i o ⟨hq, hthreads⟩ hadm
  rcases step_cases (journaled h) q i o with hsame | ⟨c, k, hi, hupdate, hstate⟩
  · rw [hsame]
    exact ⟨hq, hthreads⟩
  · have hcall := hthreads i
    rw [hi] at hcall
    rw [hstate, hupdate]
    refine ⟨hstep i c o q.state hq hcall.1 (hadm c k hi), fun m => ?_⟩
    by_cases hm : m = i
    · subst hm
      rw [Function.update_self, own_journaled_self]
      exact hcall.2 _
    · rw [Function.update_of_ne hm, own_journaled_ne h (Ne.symm hm)]
      exact hthreads m

/-- The same where every step is admissible. -/
theorem run_journal_all (h : ι → Handler C R ω σ) {P : ι → C → List (Answered C R) → Prop}
    {Q : ι → Except ε α → List (Answered C R) → Prop} {J : Journal ι C R σ → Prop}
    (hstep : ∀ i c o j, J j → P i c (own i j.log) → J (journaled h i c o j).2)
    {p : Pool ι C R ε α (Journal ι C R σ)}
    (hp : ∀ i, (p.threads i).Tells (P i) (Q i) (own i p.state.log)) (hJ : J p.state)
    (sched : List (ι × ω)) :
    J (p.run (journaled h) sched).state ∧
      ∀ i, ((p.run (journaled h) sched).threads i).Tells (P i) (Q i)
        (own i (p.run (journaled h) sched).state.log) := by
  let Any : ι → C → ω → σ → Prop := fun _ _ _ _ => True
  have hany : ∀ p : Pool ι C R ε α (Journal ι C R σ),
      p.Along (journaled h) (Issuing fun i c o j => Any i c o j.state) sched := by
    induction sched with
    | nil => exact fun _ => trivial
    | cons x sched ih => exact fun p => ⟨fun _ _ _ => trivial, ih _⟩
  exact run_journal h (fun i c o j hj hP _ => hstep i c o j hj hP) hp hJ (hany p)

end Pool

end

end Library
