import LuksEnroll.Library.Program

/-!
# Running a program alone

A handler answers commands from a state, and an *input* of the environment settles what the state
leaves open: whether a call fails, which random bytes come back, how long it took.  A run of a
program is then a function of one input per command, and a statement about every run quantifies
over the stream of inputs.

`Prog.wp` is the weakest precondition that goes with it, restricted to inputs the caller allows;
`wp_sound` is the only bridge back to runs that the development uses.
-/

namespace Library

/-- A handler answers a command from the state, given one input of the environment. -/
abbrev Handler (C : Type) (R : C → Type) (ω σ : Type) := (c : C) → ω → σ → R c × σ

/-- A command and the answer it got. -/
abbrev Answered (C : Type) (R : C → Type) := (c : C) × R c

namespace Prog

variable {C : Type} {R : C → Type} {ω σ ε δ α β : Type}

/-! ## Runs

A run answers the commands of a program from a sequence of inputs, one for each command.  Its trace
has the commands with the states they met.
-/

/-- The run of `p` from `s`: input `n` answers the `n`-th command. -/
def run (h : Handler C R ω σ) : Prog C R ε α → (ℕ → ω) → σ → Except ε α × σ
  | ret a, _, s => (Except.ok a, s)
  | fail e, _, s => (Except.error e, s)
  | call c k, os, s => (k (h c (os 0) s).1).run h (fun n => os (n + 1)) (h c (os 0) s).2

/-- The commands that run issues, in order, each with the state it is issued in. -/
def trace (h : Handler C R ω σ) : Prog C R ε α → (ℕ → ω) → σ → List (C × σ)
  | ret _, _, _ => []
  | fail _, _, _ => []
  | call c k, os, s =>
      (c, s) :: (k (h c (os 0) s).1).trace h (fun n => os (n + 1)) (h c (os 0) s).2

@[simp] lemma run_call (h : Handler C R ω σ) (c : C) (k : R c → Prog C R ε α) (os : ℕ → ω)
    (s : σ) :
    (call c k).run h os s = (k (h c (os 0) s).1).run h (fun n => os (n + 1)) (h c (os 0) s).2 :=
  rfl

/-! ## Stages of a run

A run of two programs in sequence is a run of the first and then one of the second, on the inputs
that are left.  These rules cut a run where its model cuts the program.
-/

/-- The inputs from the `n`-th on. -/
def after (n : ℕ) (os : ℕ → ω) : ℕ → ω := fun m => os (m + n)

/-- The first `n` of one stream, then another. -/
def splice (n : ℕ) (os os' : ℕ → ω) : ℕ → ω := fun m => if m < n then os m else os' (m - n)

/-- How many commands a run issues. -/
def steps (h : Handler C R ω σ) (p : Prog C R ε α) (os : ℕ → ω) (s : σ) : ℕ :=
  (p.trace h os s).length

/-- After the first inputs have been used up, the others follow. -/
lemma after_splice (n : ℕ) (os os' : ℕ → ω) : after n (splice n os os') = os' := by
  funext m
  rw [after, splice, if_neg (by omega), Nat.add_sub_cancel]

/-- Using up inputs in two goes is using them up in one. -/
lemma after_add (m n : ℕ) (os : ℕ → ω) : after (m + n) os = after m (after n os) := by
  funext i
  rw [after, after, after, Nat.add_assoc]

/-- Splicing commutes with the first input being used. -/
lemma after_splice_succ (n : ℕ) (os os' : ℕ → ω) :
    (fun m => splice (n + 1) os os' (m + 1)) = splice n (fun m => os (m + 1)) os' := by
  funext m
  simp [splice]

/-- A sequence whose first part returns goes on with the second, on the inputs that are left. -/
lemma run_bind_ok {h : Handler C R ω σ} {p : Prog C R ε α} {f : α → Prog C R ε β} {os : ℕ → ω}
    {s s' : σ} {a : α} (hp : p.run h os s = (Except.ok a, s')) :
    (p.bind f).run h os s = (f a).run h (after (p.steps h os s) os) s' := by
  induction p generalizing os s with
  | ret b =>
      obtain ⟨hb, rfl⟩ := Prod.mk.inj hp
      obtain rfl := Except.ok.inj hb
      rfl
  | fail e => exact absurd (Prod.mk.inj hp).1 (by simp)
  | call c k ih => exact ih _ hp

/-- A sequence takes the steps of its first part and then those of its second. -/
lemma steps_bind_ok {h : Handler C R ω σ} {p : Prog C R ε α} {f : α → Prog C R ε β} {os : ℕ → ω}
    {s s' : σ} {a : α} (hp : p.run h os s = (Except.ok a, s')) :
    (p.bind f).steps h os s = (f a).steps h (after (p.steps h os s) os) s' + p.steps h os s := by
  induction p generalizing os s with
  | ret b =>
      obtain ⟨hb, rfl⟩ := Prod.mk.inj hp
      obtain rfl := Except.ok.inj hb
      rfl
  | fail e => exact absurd (Prod.mk.inj hp).1 (by simp)
  | call c k ih => exact congrArg (· + 1) (ih _ hp)

/-- The commands of a run with the answers they got, in order. -/
def answers (h : Handler C R ω σ) : Prog C R ε α → (ℕ → ω) → σ → List (Answered C R)
  | ret _, _, _ => []
  | fail _, _, _ => []
  | call c k, os, s =>
      ⟨c, (h c (os 0) s).1⟩ ::
        (k (h c (os 0) s).1).answers h (fun n => os (n + 1)) (h c (os 0) s).2

/-- It is answered what its parts are answered, one after the other. -/
lemma answers_bind_ok {h : Handler C R ω σ} {p : Prog C R ε α} {f : α → Prog C R ε β} {os : ℕ → ω}
    {s s' : σ} {a : α} (hp : p.run h os s = (Except.ok a, s')) :
    (p.bind f).answers h os s
      = p.answers h os s ++ (f a).answers h (after (p.steps h os s) os) s' := by
  induction p generalizing os s with
  | ret b =>
      obtain ⟨hb, rfl⟩ := Prod.mk.inj hp
      obtain rfl := Except.ok.inj hb
      rfl
  | fail e => exact absurd (Prod.mk.inj hp).1 (by simp)
  | call c k ih => exact congrArg (List.cons _) (ih _ hp)

/-- When the first part fails, the second is asked nothing. -/
lemma answers_bind_error {h : Handler C R ω σ} {p : Prog C R ε α} {f : α → Prog C R ε β}
    {os : ℕ → ω} {s s' : σ} {e : ε} (hp : p.run h os s = (Except.error e, s')) :
    (p.bind f).answers h os s = p.answers h os s := by
  induction p generalizing os s with
  | ret b => exact absurd (Prod.mk.inj hp).1 (by simp)
  | fail e' => rfl
  | call c k ih => exact congrArg (List.cons _) (ih _ hp)

/-- What a run asks for is what the program can ask for. -/
lemma AllCalls.of_mem_answers {P : C → Prop} {h : Handler C R ω σ} {p : Prog C R ε α}
    (hp : p.AllCalls P) {os : ℕ → ω} {s : σ} : ∀ e ∈ p.answers h os s, P e.1 := by
  induction p generalizing os s with
  | ret a => simp [answers]
  | fail e => simp [answers]
  | call c k ih =>
      intro e he
      rcases List.mem_cons.mp he with rfl | he
      · exact hp.1
      · exact ih _ (hp.2 _) e he

/-- A failure that is looked at has asked for the same. -/
lemma answers_attempt (h : Handler C R ω σ) (p : Prog C R ε α) (os : ℕ → ω) (s : σ) :
    (p.attempt : Prog C R δ (Except ε α)).answers h os s = p.answers h os s := by
  induction p generalizing os s with
  | ret a => rfl
  | fail e => rfl
  | call c k ih => exact congrArg (List.cons _) (ih _ _ _)

/-- A failure that is relabelled has asked for the same. -/
lemma answers_mapErr (h : Handler C R ω σ) (f : ε → δ) (p : Prog C R ε α) (os : ℕ → ω) (s : σ) :
    (p.mapErr f).answers h os s = p.answers h os s := by
  induction p generalizing os s with
  | ret a => rfl
  | fail e => rfl
  | call c k ih => exact congrArg (List.cons _) (ih _ _ _)

/-- A sequence whose first part fails ends there. -/
lemma run_bind_error {h : Handler C R ω σ} {p : Prog C R ε α} {f : α → Prog C R ε β} {os : ℕ → ω}
    {s s' : σ} {e : ε} (hp : p.run h os s = (Except.error e, s')) :
    (p.bind f).run h os s = (Except.error e, s') := by
  induction p generalizing os s with
  | ret b => exact absurd (Prod.mk.inj hp).1 (by simp)
  | fail e' =>
      obtain ⟨he, rfl⟩ := Prod.mk.inj hp
      obtain rfl := Except.error.inj he
      rfl
  | call c k ih => exact ih _ hp

@[simp] lemma run_ofExcept (h : Handler C R ω σ) (x : Except ε α) (os : ℕ → ω) (s : σ) :
    (ofExcept x : Prog C R ε α).run h os s = (x, s) := by
  cases x <;> rfl

/-- A watched program never fails; it ends in the same state. -/
lemma run_attempt (h : Handler C R ω σ) (p : Prog C R ε α) (os : ℕ → ω) (s : σ) :
    (p.attempt : Prog C R δ (Except ε α)).run h os s
      = (Except.ok (p.run h os s).1, (p.run h os s).2) := by
  induction p generalizing os s with
  | ret a => rfl
  | fail e => rfl
  | call c k ih => exact ih _ _ _

/-- What comes after, when it does not touch the state. -/
lemma run_bind_snd {h : Handler C R ω σ} {f : α → Prog C R ε β}
    (hf : ∀ a os s, ((f a).run h os s).2 = s) (p : Prog C R ε α) (os : ℕ → ω) (s : σ) :
    ((p.bind f).run h os s).2 = (p.run h os s).2 := by
  induction p generalizing os s with
  | ret a => exact hf a os s
  | fail e => rfl
  | call c k ih => exact ih _ _ _

/-- A relabelled one fails where it failed, with the other text. -/
lemma run_mapErr (h : Handler C R ω σ) (f : ε → δ) (p : Prog C R ε α) (os : ℕ → ω) (s : σ) :
    (p.mapErr f).run h os s = ((p.run h os s).1.mapError f, (p.run h os s).2) := by
  induction p generalizing os s with
  | ret a => rfl
  | fail e => rfl
  | call c k ih => exact ih _ _ _

/-- Handlers that agree on the commands a program issues run it alike. -/
lemma run_congr {h h' : Handler C R ω σ} {P : C → Prop} (hh : ∀ c, P c → h c = h' c)
    {p : Prog C R ε α} (hp : p.AllCalls P) (os : ℕ → ω) (s : σ) : p.run h os s = p.run h' os s := by
  induction p generalizing os s with
  | ret a => rfl
  | fail e => rfl
  | call c k ih =>
      rw [run_call, run_call, hh c hp.1]
      exact ih _ (hp.2 _) _ _

/-- Inputs that are worked out from others, alike for all the commands a program issues. -/
lemma run_comap {ω' : Type} {h : Handler C R ω σ} {g : C → ω' → ω} {g' : ω' → ω} {P : C → Prop}
    (hg : ∀ c i, P c → g c i = g' i) {p : Prog C R ε α} (hp : p.AllCalls P) (is : ℕ → ω') (s : σ) :
    p.run (fun c i s => h c (g c i) s) is s = p.run h (fun n => g' (is n)) s := by
  induction p generalizing is s with
  | ret a => rfl
  | fail e => rfl
  | call c k ih =>
      rw [run_call, run_call, hg c (is 0) hp.1]
      exact ih _ (hp.2 _) _ _

/-- A run does not depend on the inputs it does not get to. -/
lemma run_splice (h : Handler C R ω σ) (p : Prog C R ε α) (os os' : ℕ → ω) (s : σ) :
    p.run h (splice (p.steps h os s) os os') s = p.run h os s
      ∧ p.steps h (splice (p.steps h os s) os os') s = p.steps h os s := by
  induction p generalizing os s with
  | ret a => exact ⟨rfl, rfl⟩
  | fail e => exact ⟨rfl, rfl⟩
  | call c k ih =>
      have hsteps : (call c k).steps h os s
          = (k (h c (os 0) s).1).steps h (fun m => os (m + 1)) (h c (os 0) s).2 + 1 := rfl
      obtain ⟨hrun, hcount⟩ := ih (h c (os 0) s).1 (fun m => os (m + 1)) (h c (os 0) s).2
      rw [← after_splice_succ] at hrun hcount
      rw [hsteps]
      exact ⟨hrun, congrArg (· + 1) hcount⟩

/-! ## Weakest preconditions

What holds at the end of every run on inputs of a class.  There is one rule for each way of putting
programs together, and soundness connects them with runs.
-/

/-- Every run of `p` from a state, on inputs satisfying `A`, ends in `Q`. -/
def wp (h : Handler C R ω σ) (A : ω → Prop) (Q : Except ε α → σ → Prop) :
    Prog C R ε α → σ → Prop
  | ret a, s => Q (Except.ok a) s
  | fail e, s => Q (Except.error e) s
  | call c k, s => ∀ o, A o → (k (h c o s).1).wp h A Q (h c o s).2

section

variable {h : Handler C R ω σ} {A : ω → Prop}

@[simp] lemma wp_ret {Q : Except ε α → σ → Prop} {a : α} {s : σ} :
    (ret a).wp h A Q s ↔ Q (Except.ok a) s := Iff.rfl

@[simp] lemma wp_fail {Q : Except ε α → σ → Prop} {e : ε} {s : σ} :
    (fail e).wp h A Q s ↔ Q (Except.error e) s := Iff.rfl

@[simp] lemma wp_call {Q : Except ε α → σ → Prop} {c : C} {k : R c → Prog C R ε α} {s : σ} :
    (call c k).wp h A Q s ↔ ∀ o, A o → (k (h c o s).1).wp h A Q (h c o s).2 := Iff.rfl

/-- A run on allowed inputs ends where the weakest precondition says. -/
theorem wp_sound {Q : Except ε α → σ → Prop} {p : Prog C R ε α} {s : σ} (hp : p.wp h A Q s)
    (os : ℕ → ω) (hos : ∀ n, A (os n)) : Q (p.run h os s).1 (p.run h os s).2 := by
  induction p generalizing os s with
  | ret a => exact hp
  | fail e => exact hp
  | call c k ih => exact ih _ (hp (os 0) (hos 0)) _ fun n => hos (n + 1)

lemma wp_mono {Q Q' : Except ε α → σ → Prop} (hQ : ∀ x s, Q x s → Q' x s) {p : Prog C R ε α}
    {s : σ} (hp : p.wp h A Q s) : p.wp h A Q' s := by
  induction p generalizing s with
  | ret a => exact hQ _ _ hp
  | fail e => exact hQ _ _ hp
  | call c k ih => exact fun o ho => ih _ (hp o ho)

/-- Two ends that are proved apart hold together. -/
lemma wp_and {Q Q' : Except ε α → σ → Prop} {p : Prog C R ε α} {s : σ} (hp : p.wp h A Q s)
    (hp' : p.wp h A Q' s) : p.wp h A (fun x s' => Q x s' ∧ Q' x s') s := by
  induction p generalizing s with
  | ret a => exact ⟨hp, hp'⟩
  | fail e => exact ⟨hp, hp'⟩
  | call c k ih => exact fun o ho => ih _ (hp o ho) (hp' o ho)

/-- Inputs that are worked out from others: the runs are among the runs on all inputs. -/
lemma wp_comap {ω' : Type} {g : C → ω' → ω} {A' : ω' → Prop} {Q : Except ε α → σ → Prop}
    (hg : ∀ c i, A' i → A (g c i)) {p : Prog C R ε α} {s : σ} (hp : p.wp h A Q s) :
    p.wp (fun c i s => h c (g c i) s) A' Q s := by
  induction p generalizing s with
  | ret a => exact hp
  | fail e => exact hp
  | call c k ih => exact fun i hi => ih _ (hp _ (hg c i hi))

/-- The sequencing rule: a failure of the first part is the outcome of the whole. -/
lemma wp_bind {Q : Except ε β → σ → Prop} {p : Prog C R ε α} {f : α → Prog C R ε β} {s : σ}
    (hp : p.wp h A
      (fun x s' => match x with
        | Except.ok a => (f a).wp h A Q s'
        | Except.error e => Q (Except.error e) s') s) :
    (p.bind f).wp h A Q s := by
  induction p generalizing s with
  | ret a => exact hp
  | fail e => exact hp
  | call c k ih => exact fun o ho => ih _ (hp o ho)

/-- The rule for a watched program: every end is a value. -/
lemma wp_attempt {Q : Except δ (Except ε α) → σ → Prop} {p : Prog C R ε α} {s : σ}
    (hp : p.wp h A (fun x s' => Q (Except.ok x) s') s) :
    (p.attempt : Prog C R δ (Except ε α)).wp h A Q s := by
  induction p generalizing s with
  | ret a => exact hp
  | fail e => exact hp
  | call c k ih => exact fun o ho => ih _ (hp o ho)

lemma wp_mapErr {Q : Except δ α → σ → Prop} {f : ε → δ} {p : Prog C R ε α} {s : σ}
    (hp : p.wp h A (fun x s' => Q (x.mapError f) s') s) : (p.mapErr f).wp h A Q s := by
  induction p generalizing s with
  | ret a => exact hp
  | fail e => exact hp
  | call c k ih => exact fun o ho => ih _ (hp o ho)

/-- **The frame rule.**  A relation that every command of a class keeps with the starting state
is kept by every program issuing only commands of that class. -/
theorem wp_of_allCalls {P : C → Prop} {T : σ → σ → Prop}
    (hrefl : ∀ s, T s s) (htrans : ∀ s t u, T s t → T t u → T s u)
    (hstep : ∀ c o s, P c → A o → T s (h c o s).2) {p : Prog C R ε α} (hp : p.AllCalls P)
    (s : σ) : p.wp h A (fun _ s' => T s s') s := by
  induction p generalizing s with
  | ret a => exact hrefl s
  | fail e => exact hrefl s
  | call c k ih =>
      intro o ho
      refine wp_mono (fun _ s' hs' => ?_) (ih _ (hp.2 _) (h c o s).2)
      exact htrans _ _ _ (hstep c o s hp.1 ho) hs'

/-! ## The last call

A handler that notes the command it answers, for statements about where a run has ended.
-/

/-- The command that a run issues last. -/
def lastCall (p : Prog C R ε α) (h : Handler C R ω σ) (os : ℕ → ω) (s : σ) : Option C :=
  (p.trace h os s).getLast?.map Prod.fst

/-- A handler that remembers the command it answered last. -/
def marking (h : Handler C R ω σ) : Handler C R ω (σ × Option C) :=
  fun c o s => ((h c o s.1).1, (h c o s.1).2, some c)

/-- Marking the last call changes neither the outcome nor the state. -/
lemma run_marking (h : Handler C R ω σ) (p : Prog C R ε α) (os : ℕ → ω) (s : σ) (m : Option C) :
    p.run (marking h) os (s, m)
      = ((p.run h os s).1, (p.run h os s).2, (p.lastCall h os s).or m) := by
  induction p generalizing os s m with
  | ret a => rfl
  | fail e => rfl
  | call c k ih =>
      have hlast : ((call c k).lastCall h os s)
          = ((k (h c (os 0) s).1).lastCall h (fun n => os (n + 1)) (h c (os 0) s).2).or (some c) := by
        rw [lastCall, lastCall, trace, List.getLast?_cons]
        cases ((k (h c (os 0) s).1).trace h (fun n => os (n + 1)) (h c (os 0) s).2).getLast? <;> rfl
      rw [run_call, hlast, Option.or_assoc]
      exact ih _ _ _ _

/-- A statement about the end of a run and the command that was its last. -/
lemma wp_marking_sound {h : Handler C R ω σ} {A : ω → Prop} {Q : Except ε α → σ → Option C → Prop}
    {p : Prog C R ε α} {s : σ} (hp : p.wp (marking h) A (fun x t => Q x t.1 t.2) (s, none))
    (os : ℕ → ω) (hos : ∀ n, A (os n)) :
    Q (p.run h os s).1 (p.run h os s).2 (p.lastCall h os s) := by
  have hsound := wp_sound hp os hos
  rw [run_marking, Option.or_none] at hsound
  exact hsound

/-! ## What was answered

A handler that keeps the commands with their answers, for statements about why a run has ended so.
-/

/-- A handler that keeps the commands it answered, with the answers. -/
def recording (h : Handler C R ω σ) : Handler C R ω (σ × List (Answered C R)) :=
  fun c o s => ((h c o s.1).1, (h c o s.1).2, s.2 ++ [⟨c, (h c o s.1).1⟩])

/-- Recording the answers changes neither the outcome nor the state. -/
lemma run_recording (h : Handler C R ω σ) (p : Prog C R ε α) (os : ℕ → ω) (s : σ)
    (l : List (Answered C R)) :
    p.run (recording h) os (s, l)
      = ((p.run h os s).1, (p.run h os s).2, l ++ p.answers h os s) := by
  induction p generalizing os s l with
  | ret a => simp [run, answers]
  | fail e => simp [run, answers]
  | call c k ih =>
      rw [run_call, answers, ← List.singleton_append, ← List.append_assoc]
      exact ih _ _ _ _

/-- A statement about the end of a run and all that was answered on the way. -/
lemma wp_recording_sound {h : Handler C R ω σ} {A : ω → Prop}
    {Q : Except ε α → σ → List (Answered C R) → Prop} {p : Prog C R ε α} {s : σ}
    (hp : p.wp (recording h) A (fun x t => Q x t.1 t.2) (s, [])) (os : ℕ → ω) (hos : ∀ n, A (os n)) :
    Q (p.run h os s).1 (p.run h os s).2 (p.answers h os s) := by
  have hsound := wp_sound hp os hos
  rw [run_recording, List.nil_append] at hsound
  exact hsound

/-- What holds of all runs holds of the recorded ones. -/
lemma wp_recording {h : Handler C R ω σ} {A : ω → Prop} {Q : Except ε α → σ → Prop}
    {p : Prog C R ε α} {s : σ} (hp : p.wp h A Q s) (l : List (Answered C R)) :
    p.wp (recording h) A (fun x t => Q x t.1) (s, l) := by
  induction p generalizing s l with
  | ret a => exact hp
  | fail e => exact hp
  | call c k ih => exact fun o ho => ih _ (hp o ho) _

/-! ## Possible outcomes

What holds at the end of some run.  The rules are those of weakest preconditions with an input to
choose at each command.
-/

/-- Some run of `p` from a state ends in `Q`. -/
def can (h : Handler C R ω σ) (Q : Except ε α → σ → Prop) : Prog C R ε α → σ → Prop
  | ret a, s => Q (Except.ok a) s
  | fail e, s => Q (Except.error e) s
  | call c k, s => ∃ o, (k (h c o s).1).can h Q (h c o s).2

/-- What can happen happens on some inputs. -/
theorem can_sound [Inhabited ω] {Q : Except ε α → σ → Prop} {p : Prog C R ε α} {s : σ}
    (hp : p.can h Q s) : ∃ os, Q (p.run h os s).1 (p.run h os s).2 := by
  induction p generalizing s with
  | ret a => exact ⟨fun _ => default, hp⟩
  | fail e => exact ⟨fun _ => default, hp⟩
  | call c k ih =>
      obtain ⟨o, ho⟩ := hp
      obtain ⟨os, hos⟩ := ih _ ho
      refine ⟨fun n => n.casesOn o os, ?_⟩
      exact hos

lemma can_call {Q : Except ε α → σ → Prop} {c : C} {k : R c → Prog C R ε α} {s t : σ} {r : R c}
    (o : ω) (ho : h c o s = (r, t)) (hk : (k r).can h Q t) : (call c k).can h Q s :=
  ⟨o, by rw [ho]; exact hk⟩

/-- The rule of consequence, for a run that exists. -/
lemma can_mono {Q Q' : Except ε α → σ → Prop} (hQ : ∀ x s, Q x s → Q' x s) {p : Prog C R ε α}
    {s : σ} (hp : p.can h Q s) : p.can h Q' s := by
  induction p generalizing s with
  | ret a => exact hQ _ _ hp
  | fail e => exact hQ _ _ hp
  | call c k ih =>
      obtain ⟨o, ho⟩ := hp
      exact ⟨o, ih _ ho⟩

/-- The sequencing rule, for a run that exists. -/
lemma can_bind {Q : Except ε β → σ → Prop} {p : Prog C R ε α} {f : α → Prog C R ε β} {s : σ}
    (hp : p.can h
      (fun x s' => match x with
        | Except.ok a => (f a).can h Q s'
        | Except.error e => Q (Except.error e) s') s) :
    (p.bind f).can h Q s := by
  induction p generalizing s with
  | ret a => exact hp
  | fail e => exact hp
  | call c k ih =>
      obtain ⟨o, ho⟩ := hp
      exact ⟨o, ih _ ho⟩

/-- The rule for a watched program, for a run that exists. -/
lemma can_attempt {Q : Except δ (Except ε α) → σ → Prop} {p : Prog C R ε α} {s : σ}
    (hp : p.can h (fun x s' => Q (Except.ok x) s') s) : p.attempt.can h Q s := by
  induction p generalizing s with
  | ret a => exact hp
  | fail e => exact hp
  | call c k ih =>
      obtain ⟨o, ho⟩ := hp
      exact ⟨o, ih _ ho⟩

/-- The rule for a relabelled failure, for a run that exists. -/
lemma can_mapErr {Q : Except δ α → σ → Prop} {f : ε → δ} {p : Prog C R ε α} {s : σ}
    (hp : p.can h (fun x s' => Q (x.mapError f) s') s) : (p.mapErr f).can h Q s := by
  induction p generalizing s with
  | ret a => exact hp
  | fail e => exact hp
  | call c k ih =>
      obtain ⟨o, ho⟩ := hp
      exact ⟨o, ih _ ho⟩

/-! ## Invariants of a program

A property of states that a program keeps, whatever it is answered.
-/

/-- Every run of `p` that starts in `I` ends in `I`, however it ends. -/
def Keeps (h : Handler C R ω σ) (A : ω → Prop) (I : σ → Prop) (p : Prog C R ε α) : Prop :=
  ∀ s, I s → p.wp h A (fun _ s' => I s') s

variable {I : σ → Prop}

lemma Keeps.ret (a : α) : (ret a : Prog C R ε α).Keeps h A I := fun _ hs => hs

lemma Keeps.fail (e : ε) : (fail e : Prog C R ε α).Keeps h A I := fun _ hs => hs

lemma Keeps.bind {p : Prog C R ε α} {f : α → Prog C R ε β} (hp : p.Keeps h A I)
    (hf : ∀ a, (f a).Keeps h A I) : (p.bind f).Keeps h A I := by
  intro s hs
  refine wp_bind (wp_mono (fun x s' hs' => ?_) (hp s hs))
  cases x with
  | ok a => exact hf a s' hs'
  | error e => exact hs'

lemma Keeps.attempt {p : Prog C R ε α} (hp : p.Keeps h A I) :
    (p.attempt : Prog C R δ (Except ε α)).Keeps h A I := fun s hs => wp_attempt (hp s hs)

/-- Commands that keep an invariant make programs that keep it. -/
lemma Keeps.of_allCalls {P : C → Prop} (hstep : ∀ c o s, P c → A o → I s → I (h c o s).2)
    {p : Prog C R ε α} (hp : p.AllCalls P) : p.Keeps h A I := by
  intro s hs
  induction p generalizing s with
  | ret a => exact hs
  | fail e => exact hs
  | call c k ih => exact fun o ho => ih _ (hp.2 _) _ (hstep c o s hp.1 ho hs)

/-! ## What is issued, and when

A property of commands and of the states in which they are issued, along every run.
-/

/-- Every command of every run is issued in a state where `P` holds of it. -/
def Issues (h : Handler C R ω σ) (P : C → σ → Prop) : Prog C R ε α → σ → Prop
  | ret _, _ => True
  | fail _, _ => True
  | call c k, s => P c s ∧ ∀ o, (k (h c o s).1).Issues h P (h c o s).2

/-- **What is issued, run by run**: a property of the commands and of the states they meet holds of the
program if and only if it holds along every trace. -/
theorem issues_iff_trace [Inhabited ω] {P : C → σ → Prop} {p : Prog C R ε α} {s : σ} :
    p.Issues h P s ↔ ∀ os, ∀ x ∈ p.trace h os s, P x.1 x.2 := by
  induction p generalizing s with
  | ret a => simp [Issues, trace]
  | fail e => simp [Issues, trace]
  | call c k ih =>
      constructor
      · intro hp os x hx
        rcases List.mem_cons.mp hx with rfl | hx
        · exact hp.1
        · exact (ih _).mp (hp.2 (os 0)) _ x hx
      · intro hp
        refine ⟨hp (fun _ => default) (c, s) (List.mem_cons_self ..), fun o => (ih _).mpr ?_⟩
        intro os x hx
        exact hp (fun n => n.casesOn o os) x (List.mem_cons_of_mem _ hx)

/-- A sequence: what the second part issues, in the states the first part can end in. -/
lemma Issues.bind {P : C → σ → Prop} {p : Prog C R ε α} {f : α → Prog C R ε β} {s : σ}
    (hp : p.Issues h P s)
    (hf : p.wp h (fun _ => True) (fun x s' => ∀ a, x = Except.ok a → (f a).Issues h P s') s) :
    (p.bind f).Issues h P s := by
  induction p generalizing s with
  | ret a => exact hf a rfl
  | fail e => trivial
  | call c k ih => exact ⟨hp.1, fun o => ih _ (hp.2 o) (hf o trivial)⟩

/-- A sequence whose second part is fine in any state. -/
lemma Issues.bind_of_forall {P : C → σ → Prop} {p : Prog C R ε α} {f : α → Prog C R ε β} {s : σ}
    (hp : p.Issues h P s) (hf : ∀ a s, (f a).Issues h P s) : (p.bind f).Issues h P s := by
  induction p generalizing s with
  | ret a => exact hf a s
  | fail e => trivial
  | call c k ih => exact ⟨hp.1, fun o => ih _ (hp.2 o)⟩

/-- What a sequence issues includes what its first part does. -/
lemma Issues.of_bind {P : C → σ → Prop} {p : Prog C R ε α} {f : α → Prog C R ε β} {s : σ}
    (hp : (p.bind f).Issues h P s) : p.Issues h P s := by
  induction p generalizing s with
  | ret a => trivial
  | fail e => trivial
  | call c k ih => exact ⟨hp.1, fun o => ih _ (hp.2 o)⟩

/-- A sequence: what the second part issues where a run of the first part gets to. -/
lemma Issues.of_run {P : C → σ → Prop} {p : Prog C R ε α} {f : α → Prog C R ε β} {os : ℕ → ω}
    {s s' : σ} {a : α} (hp : (p.bind f).Issues h P s) (hrun : p.run h os s = (Except.ok a, s')) :
    (f a).Issues h P s' := by
  induction p generalizing os s with
  | ret b =>
      obtain ⟨hb, rfl⟩ := Prod.mk.inj hrun
      obtain rfl := Except.ok.inj hb
      exact hp
  | fail e => exact absurd (Prod.mk.inj hrun).1 (by simp)
  | call c k ih => exact ih _ (hp.2 _) hrun

@[simp] lemma issues_mapErr {P : C → σ → Prop} {p : Prog C R ε α} {f : ε → δ} {s : σ} :
    (p.mapErr f).Issues h P s ↔ p.Issues h P s := by
  induction p generalizing s with
  | ret a => exact Iff.rfl
  | fail e => exact Iff.rfl
  | call c k ih => exact and_congr_right fun _ => forall_congr' fun _ => ih _

@[simp] lemma issues_attempt {P : C → σ → Prop} {p : Prog C R ε α} {s : σ} :
    (p.attempt : Prog C R δ (Except ε α)).Issues h P s ↔ p.Issues h P s := by
  induction p generalizing s with
  | ret a => exact Iff.rfl
  | fail e => exact Iff.rfl
  | call c k ih => exact and_congr_right fun _ => forall_congr' fun _ => ih _

/-- Commands of a class, issued in states that they keep. -/
lemma Issues.of_allCalls {Q : C → Prop} {P : C → σ → Prop}
    (hstep : ∀ c o s, Q c → I s → I (h c o s).2) (hP : ∀ c s, Q c → I s → P c s)
    {p : Prog C R ε α} (hp : p.AllCalls Q) {s : σ} (hs : I s) : p.Issues h P s := by
  induction p generalizing s with
  | ret a => trivial
  | fail e => trivial
  | call c k ih => exact ⟨hP c s hp.1 hs, fun o => ih _ (hp.2 _) (hstep c o s hp.1 hs)⟩

end

/-! ## One program after another

A list of programs, each run to its end before the next.
-/

variable {ι : Type}

/-- The state after a list of programs, each run to its end before the next begins. -/
def runAll (h : Handler C R ω σ) (body : ι → Prog C R ε α) : List (ι × (ℕ → ω)) → σ → σ
  | [], s => s
  | x :: xs, s => runAll h body xs ((body x.1).run h x.2 s).2

/-- Every program of the list is admissible in the state it starts from. -/
def AllAlong (h : Handler C R ω σ) (body : ι → Prog C R ε α)
    (Adm : σ → ι → (ℕ → ω) → Prop) : List (ι × (ℕ → ω)) → σ → Prop
  | [], _ => True
  | x :: xs, s => Adm s x.1 x.2 ∧ AllAlong h body Adm xs ((body x.1).run h x.2 s).2

/-- **The invariant rule for lists of programs.** -/
theorem runAll_invariant {h : Handler C R ω σ} {body : ι → Prog C R ε α}
    {Adm : σ → ι → (ℕ → ω) → Prop} {I : σ → Prop}
    (hstep : ∀ s i os, I s → Adm s i os → I ((body i).run h os s).2)
    {xs : List (ι × (ℕ → ω))} {s : σ} (hs : I s) (hxs : AllAlong h body Adm xs s) :
    I (runAll h body xs s) := by
  induction xs generalizing s with
  | nil => exact hs
  | cons x xs ih => exact ih (hstep s x.1 x.2 hs hxs.1) hxs.2

end Prog

end Library
