import LuksEnroll.Library.Run

/-!
# Programs against a table of answers

Where nothing is known of the other side, its answers are arbitrary: `Prog.free` takes them from the
inputs, one function from commands to answers for every call.

A table is one such function for the whole run, and a run against a table can be computed without a
state: `Prog.outcome` is its end and `Prog.issued` what it asked for.  For a program that never asks
for the same thing twice nothing is lost: `Prog.Fresh.tabulated` finds for every run a table with the
same outcome and the same answers.
-/

namespace Library

namespace Prog

variable {C : Type} {R : C → Type} {ε α β : Type}

/-- Every answer is an input. -/
def free : Handler C R ((c : C) → R c) Unit := fun c table s => (table c, s)

/-! ## Tables

A table answers every command, the same each time.  Over a table a run has a result that does not
depend on when it is asked (`outcome`), the commands it issues can be listed (`issued`), and so can
the commands with their answers (`talk`).
-/

section

variable (table : (c : C) → R c)

/-- How a program ends. -/
def outcome : Prog C R ε α → Except ε α
  | ret a => Except.ok a
  | fail e => Except.error e
  | call c k => (k (table c)).outcome

/-- The commands it issues, in order. -/
def issued : Prog C R ε α → List C
  | ret _ => []
  | fail _ => []
  | call c k => c :: (k (table c)).issued

/-- The same with their answers. -/
def talk (p : Prog C R ε α) : List (Answered C R) := (p.issued table).map fun c => ⟨c, table c⟩

@[simp] lemma outcome_ret (a : α) : (ret a : Prog C R ε α).outcome table = Except.ok a := rfl

@[simp] lemma outcome_fail (e : ε) :
    (fail e : Prog C R ε α).outcome table = Except.error e := rfl

@[simp] lemma outcome_call (c : C) (k : R c → Prog C R ε α) :
    (call c k).outcome table = (k (table c)).outcome table := rfl

@[simp] lemma outcome_perform (c : C) :
    (perform c : Prog C R ε (R c)).outcome table = Except.ok (table c) := rfl

@[simp] lemma issued_ret (a : α) : (ret a : Prog C R ε α).issued table = [] := rfl

@[simp] lemma issued_fail (e : ε) : (fail e : Prog C R ε α).issued table = [] := rfl

@[simp] lemma issued_call (c : C) (k : R c → Prog C R ε α) :
    (call c k).issued table = c :: (k (table c)).issued table := rfl

@[simp] lemma issued_perform (c : C) : (perform c : Prog C R ε (R c)).issued table = [c] := rfl

variable {table}

/-- An exchange is a command that was issued, with its entry in the table. -/
lemma mem_talk {p : Prog C R ε α} {c : C} {r : R c} :
    (⟨c, r⟩ : Answered C R) ∈ p.talk table ↔ c ∈ p.issued table ∧ r = table c := by
  simp only [talk, List.mem_map]
  constructor
  · rintro ⟨c', hc', heq⟩
    obtain ⟨rfl, hr⟩ := Sigma.mk.inj heq
    exact ⟨hc', (eq_of_heq hr).symm⟩
  · rintro ⟨hc, rfl⟩
    exact ⟨c, hc, rfl⟩

lemma answers_free (table : (c : C) → R c) (p : Prog C R ε α) :
    p.answers free (fun _ => table) () = p.talk table := by
  induction p with
  | ret a => rfl
  | fail e => rfl
  | call c k ih => exact congrArg (List.cons _) (ih _)

lemma run_free (table : (c : C) → R c) (p : Prog C R ε α) :
    (p.run free (fun _ => table) ()).1 = p.outcome table := by
  induction p with
  | ret a => rfl
  | fail e => rfl
  | call c k ih => exact ih _

/-- The outcome of a sequence whose first part returns. -/
lemma outcome_bind_ok {p : Prog C R ε α} {f : α → Prog C R ε β} {a : α}
    (hp : p.outcome table = Except.ok a) : (p.bind f).outcome table = (f a).outcome table := by
  induction p with
  | ret b => rw [bind_ret, Except.ok.inj hp]
  | fail e => cases hp
  | call c k ih => exact ih _ hp

/-- A failure of the first part is the outcome of the sequence. -/
lemma outcome_bind_error {p : Prog C R ε α} {f : α → Prog C R ε β} {e : ε}
    (hp : p.outcome table = Except.error e) : (p.bind f).outcome table = Except.error e := by
  induction p with
  | ret b => cases hp
  | fail e' => rw [bind_fail, outcome_fail, Except.error.inj hp]
  | call c k ih => exact ih _ hp

@[simp] lemma outcome_ofExcept (x : Except ε α) :
    (ofExcept x : Prog C R ε α).outcome table = x := by
  cases x <;> rfl

/-- A sequence that returns has a first part that returned. -/
lemma exists_of_outcome_bind {p : Prog C R ε α} {f : α → Prog C R ε β} {b : β}
    (h : (p.bind f).outcome table = Except.ok b) :
    ∃ a, p.outcome table = Except.ok a ∧ (f a).outcome table = Except.ok b := by
  cases hp : p.outcome table with
  | error e =>
      rw [outcome_bind_error hp] at h
      cases h
  | ok a => exact ⟨a, rfl, (outcome_bind_ok hp).symm.trans h⟩

/-- What is asked for by a sequence: first by its first part, then by its second. -/
lemma issued_bind_ok {p : Prog C R ε α} {f : α → Prog C R ε β} {a : α}
    (hp : p.outcome table = Except.ok a) :
    (p.bind f).issued table = p.issued table ++ (f a).issued table := by
  induction p with
  | ret b => rw [bind_ret, Except.ok.inj hp, issued_ret, List.nil_append]
  | fail e => cases hp
  | call c k ih => exact congrArg (List.cons c) (ih _ hp)

/-- After a failure nothing more is asked for. -/
lemma issued_bind_error {p : Prog C R ε α} {f : α → Prog C R ε β} {e : ε}
    (hp : p.outcome table = Except.error e) : (p.bind f).issued table = p.issued table := by
  induction p with
  | ret b => cases hp
  | fail e' => rfl
  | call c k ih => exact congrArg (List.cons c) (ih _ hp)

@[simp] lemma outcome_attempt {δ : Type} (p : Prog C R ε α) :
    (p.attempt : Prog C R δ (Except ε α)).outcome table = Except.ok (p.outcome table) := by
  induction p with
  | ret a => rfl
  | fail e => rfl
  | call c k ih => exact ih _

@[simp] lemma issued_attempt {δ : Type} (p : Prog C R ε α) :
    (p.attempt : Prog C R δ (Except ε α)).issued table = p.issued table := by
  induction p with
  | ret a => rfl
  | fail e => rfl
  | call c k ih => exact congrArg (List.cons c) (ih _)

/-- What is asked for is what the program can ask for. -/
lemma AllCalls.of_mem_issued {P : C → Prop} {p : Prog C R ε α} (hp : p.AllCalls P) {c : C}
    (hc : c ∈ p.issued table) : P c := by
  induction p with
  | ret a => simp at hc
  | fail e => simp at hc
  | call c' k ih =>
      rcases List.mem_cons.mp hc with rfl | hc
      · exact hp.1
      · exact ih _ (hp.2 _) hc

/-- Tables that agree on what a program can ask for. -/
lemma outcome_congr {P : C → Prop} {table' : (c : C) → R c} (ht : ∀ c, P c → table c = table' c)
    {p : Prog C R ε α} (hp : p.AllCalls P) :
    p.outcome table = p.outcome table' ∧ p.talk table = p.talk table' := by
  induction p with
  | ret a => exact ⟨rfl, rfl⟩
  | fail e => exact ⟨rfl, rfl⟩
  | call c k ih =>
      obtain ⟨hout, htalk⟩ := ih (table c) (hp.2 _)
      simp only [talk, outcome_call, issued_call, List.map_cons] at htalk ⊢
      rw [← ht c hp.1, hout, htalk]
      exact ⟨rfl, rfl⟩

end

/-! ## Values a program can return

What a program returns whatever it is answered.  This is needed where a later part runs over a list
that an earlier part returned.
-/

/-- Every value that can be returned satisfies `Q`. -/
def Returns (Q : α → Prop) : Prog C R ε α → Prop
  | ret a => Q a
  | fail _ => True
  | call _ k => ∀ r, (k r).Returns Q

/-- The rule of consequence for what is returned. -/
lemma Returns.mono {Q Q' : α → Prop} (hQ : ∀ a, Q a → Q' a) {p : Prog C R ε α}
    (hp : p.Returns Q) : p.Returns Q' := by
  induction p with
  | ret a => exact hQ a hp
  | fail e => trivial
  | call c k ih => exact fun r => ih r (hp r)

/-- The sequencing rule for what is returned. -/
lemma Returns.bind {Q : β → Prop} {p : Prog C R ε α} {f : α → Prog C R ε β}
    (hp : p.Returns fun a => (f a).Returns Q) : (p.bind f).Returns Q := by
  induction p with
  | ret a => exact hp
  | fail e => trivial
  | call c k ih => exact fun r => ih r (hp r)

/-- What holds of every value holds of what is returned. -/
lemma returns_of_forall {Q : α → Prop} (hQ : ∀ a, Q a) (p : Prog C R ε α) : p.Returns Q := by
  induction p with
  | ret a => exact hQ a
  | fail e => trivial
  | call c k ih => exact fun r => ih r

/-- A sequence issues what its parts issue, the second on what the first can return. -/
lemma AllCalls.bind_of_returns {P : C → Prop} {p : Prog C R ε α} {f : α → Prog C R ε β}
    (hp : p.AllCalls P) (hf : p.Returns fun a => (f a).AllCalls P) : (p.bind f).AllCalls P := by
  induction p with
  | ret a => exact hf
  | fail e => trivial
  | call c k ih => exact ⟨hp.1, fun r => ih r (hp.2 r) (hf r)⟩

/-! ## Programs that do not repeat themselves

Where no command can be issued twice, the answers of any run make a table, and the run is one over
that table.
-/

/-- No command is issued twice, except where there is nothing to answer. -/
def Fresh : Prog C R ε α → Prop
  | ret _ => True
  | fail _ => True
  | call c k => ∀ r, (k r).AllCalls (fun c' => c' = c → Subsingleton (R c)) ∧ (k r).Fresh

/-- Where a command has one possible answer, asking twice is asking once. -/
lemma fresh_of_subsingleton {p : Prog C R ε α} (hp : p.AllCalls fun c => Subsingleton (R c)) :
    p.Fresh := by
  induction p with
  | ret a => trivial
  | fail e => trivial
  | call c k ih =>
      intro r
      refine ⟨AllCalls.mono ?_ (hp.2 r), ih r (hp.2 r)⟩
      intro c' _ _
      exact hp.1

/-- A sequence whose two parts ask for different things. -/
lemma Fresh.bind {K L : C → Prop} (hKL : ∀ c, K c → ¬ L c) {p : Prog C R ε α}
    {f : α → Prog C R ε β} (hp : p.Fresh) (hK : p.AllCalls K)
    (hf : p.Returns fun a => (f a).Fresh ∧ (f a).AllCalls L) : (p.bind f).Fresh := by
  induction p with
  | ret a => exact hf.1
  | fail e => trivial
  | call c k ih =>
      intro r
      refine ⟨?_, ih r (hp r).2 (hK.2 r) (hf r)⟩
      have hrest : (k r).Returns fun a =>
          (f a).AllCalls (fun c' => c' = c → Subsingleton (R c)) := by
        refine Returns.mono (fun a ha => AllCalls.mono (fun c' hc' heq => ?_) ha.2) (hf r)
        exact absurd (heq ▸ hc') (hKL c hK.1)
      exact AllCalls.bind_of_returns (hp r).1 hrest

lemma Fresh.bind_silent {p : Prog C R ε α} {f : α → Prog C R ε β} (hp : p.Fresh)
    (hf : ∀ a, (f a).AllCalls fun _ => False) : (p.bind f).Fresh := by
  induction p with
  | ret a => exact fresh_of_subsingleton (AllCalls.mono (fun _ h => h.elim) (hf a))
  | fail e => trivial
  | call c k ih =>
      intro r
      refine ⟨AllCalls.bind (hp r).1 fun a => ?_, ih r (hp r).2⟩
      exact AllCalls.mono (fun _ h => h.elim) (hf a)

/-- A watched program asks for nothing twice that it did not ask for twice. -/
lemma Fresh.attempt {δ : Type} {p : Prog C R ε α} (hp : p.Fresh) :
    (p.attempt : Prog C R δ (Except ε α)).Fresh := by
  induction p with
  | ret a => trivial
  | fail e => trivial
  | call c k ih => exact fun r => ⟨AllCalls.attempt (hp r).1, ih r (hp r).2⟩

/-- **A program that does not repeat itself** cannot tell answers that change from a table. -/
theorem Fresh.tabulated {p : Prog C R ε α} (hp : p.Fresh) (os : ℕ → (c : C) → R c) :
    ∃ table, (p.run free os ()).1 = p.outcome table ∧ p.answers free os () = p.talk table := by
  classical
  induction p generalizing os with
  | ret a => exact ⟨os 0, rfl, rfl⟩
  | fail e => exact ⟨os 0, rfl, rfl⟩
  | call c k ih =>
      obtain ⟨rest, hout, htalk⟩ := ih (os 0 c) (hp _).2 fun n => os (n + 1)
      -- the rest of the program does not ask for `c` again, or there is one answer only
      have hsame : ∀ c', (c' = c → Subsingleton (R c)) →
          rest c' = Function.update rest c (os 0 c) c' := by
        intro c' hc'
        by_cases heq : c' = c
        · subst heq
          exact (hc' rfl).elim _ _
        · exact (Function.update_of_ne heq _ _).symm
      obtain ⟨hout', htalk'⟩ := outcome_congr hsame (hp (os 0 c)).1
      refine ⟨Function.update rest c (os 0 c), ?_, ?_⟩
      · rw [outcome_call, Function.update_self, ← hout', ← hout]
        rfl
      · rw [talk, issued_call, List.map_cons, Function.update_self, ← talk, ← htalk', ← htalk]
        rfl

/-! ## Loops that collect

A loop over a list that keeps what some of its steps return.
-/

section Gather

variable {ι κ : Type} {f : ι → Prog C R ε (Option κ)} {xs : List ι}

/-- What a step finds at each element, in order. -/
def gather (f : ι → Prog C R ε (Option κ)) : List ι → Prog C R ε (List κ)
  | [] => ret []
  | x :: xs => (f x).bind fun y => (gather f xs).bind fun ys => ret (y.toList ++ ys)

lemma gather_allCalls {P : C → Prop} (hf : ∀ x ∈ xs, (f x).AllCalls P) :
    (gather f xs).AllCalls P := by
  induction xs with
  | nil => trivial
  | cons x xs ih =>
      rw [List.forall_mem_cons] at hf
      exact AllCalls.bind hf.1 fun y => AllCalls.bind (ih hf.2) fun ys => trivial

lemma gather_returns {Q : κ → Prop} (hf : ∀ x ∈ xs, (f x).Returns fun o => ∀ y ∈ o, Q y) :
    (gather f xs).Returns fun ys => ∀ y ∈ ys, Q y := by
  induction xs with
  | nil => simp [gather, Returns]
  | cons x xs ih =>
      rw [List.forall_mem_cons] at hf
      refine Returns.bind (Returns.mono (fun o ho => ?_) hf.1)
      refine Returns.bind (Returns.mono (fun ys hys => ?_) (ih hf.2))
      intro y hy
      rcases List.mem_append.mp hy with hy | hy
      · exact ho y (Option.mem_toList.mp hy)
      · exact hys y hy

/-- A loop that keeps some of what it goes through keeps the order. -/
lemma gather_returns_sublist {g : ι → κ}
    (hf : ∀ x ∈ xs, (f x).Returns fun o => o = none ∨ o = some (g x)) :
    (gather f xs).Returns fun ys => ys.Sublist (xs.map g) := by
  induction xs with
  | nil => simp [gather, Returns]
  | cons x xs ih =>
      rw [List.forall_mem_cons] at hf
      refine Returns.bind (Returns.mono (fun o ho => ?_) hf.1)
      refine Returns.bind (Returns.mono (fun ys hys => ?_) (ih hf.2))
      rcases ho with rfl | rfl
      · exact hys.cons _
      · exact hys.cons_cons _

/-- A loop whose steps ask for different things. -/
lemma gather_fresh {K : ι → C → Prop} (hf : ∀ x ∈ xs, (f x).Fresh ∧ (f x).AllCalls (K x))
    (hK : xs.Pairwise fun x y => ∀ c, K x c → ¬ K y c) : (gather f xs).Fresh := by
  induction xs with
  | nil => trivial
  | cons x xs ih =>
      rw [List.forall_mem_cons] at hf
      rw [List.pairwise_cons] at hK
      -- what the rest asks for is what its steps ask for
      have hrest : (gather f xs).AllCalls fun c => ∃ y ∈ xs, K y c :=
        gather_allCalls fun y hy => AllCalls.mono (fun c hc => ⟨y, hy, hc⟩) (hf.2 y hy).2
      refine Fresh.bind (K := K x) (fun c hc => ?_) hf.1.1 hf.1.2
        (returns_of_forall (fun o => ⟨?_, AllCalls.bind hrest fun ys => trivial⟩) _)
      · rintro ⟨y, hy, hc'⟩
        exact hK.1 y hy c hc hc'
      · exact Fresh.bind_silent (ih hf.2 hK.2) fun ys => trivial

/-- Against a table it collects what every round collects. -/
lemma gather_outcome {table : (c : C) → R c} {g : ι → Option κ}
    (hf : ∀ x ∈ xs, (f x).outcome table = Except.ok (g x)) :
    (gather f xs).outcome table = Except.ok (xs.filterMap g) := by
  induction xs with
  | nil => rfl
  | cons x xs ih =>
      rw [List.forall_mem_cons] at hf
      rw [gather, outcome_bind_ok hf.1, outcome_bind_ok (ih hf.2), outcome_ret, List.filterMap_cons]
      cases g x <;> rfl

lemma gather_issued {table : (c : C) → R c} {g : ι → Option κ}
    (hf : ∀ x ∈ xs, (f x).outcome table = Except.ok (g x)) :
    (gather f xs).issued table = xs.flatMap fun x => (f x).issued table := by
  induction xs with
  | nil => rfl
  | cons x xs ih =>
      rw [List.forall_mem_cons] at hf
      rw [gather, issued_bind_ok hf.1, issued_bind_ok (gather_outcome hf.2), issued_ret,
        List.append_nil, ih hf.2, List.flatMap_cons]

end Gather

end Prog

end Library
