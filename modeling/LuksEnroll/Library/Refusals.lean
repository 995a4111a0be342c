import LuksEnroll.Library.Run

/-!
# Refused commands

A place a program runs in can refuse some of its commands, as a read-only mount refuses writes.  This
file compares the runs of one program in two such places, one that refuses a class of commands and one
that leaves it to the environment what becomes of them.

* `refusing` — the handler of the place that refuses: the same handler, on the input of the
  environment that makes the command fail.
* `withoutText` — a run up to the text of its failure.
* `Prog.Indifferent` — wherever the program issues a command of the class, the command fails and ends
  the program, refused or not, and leaves the same state.

An indifferent program has the same outcomes in both places (`Indifferent.withoutText_eq`).  Programs
without commands of the class are indifferent (`Indifferent.of_allCalls`), and so is a sequence whose
first part is, and whose second is after every way the first can end well (`Indifferent.bind`).
-/

namespace Library

variable {C : Type} {R : C → Type} {ω σ ε α β : Type}

/-- The handler that refuses a class of commands: `refuse` turns an input of the environment into one
on which the command fails. -/
def refusing (h : Handler C R ω σ) (refused : C → Bool) (refuse : ω → ω) : Handler C R ω σ :=
  fun c o s => h c (if refused c then refuse o else o) s

/-- The result of a run, with the text of a failure left out. -/
def withoutText (x : Except ε α × σ) : Option α × σ := (x.1.toOption, x.2)

namespace Prog

variable {h : Handler C R ω σ} {refused : C → Bool} {refuse : ω → ω}

/-- Refusing a class of commands makes no difference to the program: each of them fails in any case,
and the program ends there.  What it returns otherwise satisfies `Q`. -/
def Indifferent (h : Handler C R ω σ) (refused : C → Bool) (refuse : ω → ω) (Q : α → σ → Prop) :
    Prog C R ε α → σ → Prop
  | ret a, s => Q a s
  | fail _, _ => True
  | call c k, s => ∀ o,
      if refused c then
        (∃ e, k (h c o s).1 = fail e) ∧ (∃ e, k (h c (refuse o) s).1 = fail e)
          ∧ (h c (refuse o) s).2 = (h c o s).2
      else (k (h c o s).1).Indifferent h refused refuse Q (h c o s).2

/-- **An indifferent program has the same outcomes, refused or not.** -/
theorem Indifferent.withoutText_eq {Q : α → σ → Prop} {p : Prog C R ε α} {s : σ}
    (hp : p.Indifferent h refused refuse Q s) (os : ℕ → ω) :
    withoutText (p.run (refusing h refused refuse) os s) = withoutText (p.run h os s) := by
  induction p generalizing s os with
  | ret a => rfl
  | fail e => rfl
  | call c k ih =>
      have hstep := hp (os 0)
      rw [run_call, run_call]
      by_cases hc : refused c = true
      · -- both runs end here, each with a text of its own
        rw [if_pos hc] at hstep
        obtain ⟨⟨e, hfail⟩, ⟨e', hfail'⟩, hsame⟩ := hstep
        simp only [refusing, if_pos hc, hfail, hfail', hsame]
        rfl
      · rw [if_neg hc] at hstep
        simp only [refusing, if_neg hc]
        exact ih _ hstep _

lemma Indifferent.mono {Q Q' : α → σ → Prop} (hQ : ∀ a s, Q a s → Q' a s) {p : Prog C R ε α} {s : σ}
    (hp : p.Indifferent h refused refuse Q s) : p.Indifferent h refused refuse Q' s := by
  induction p generalizing s with
  | ret a => exact hQ a s hp
  | fail e => trivial
  | call c k ih =>
      intro o
      have hstep := hp o
      by_cases hc : refused c = true
      · rw [if_pos hc] at hstep ⊢
        exact hstep
      · rw [if_neg hc] at hstep ⊢
        exact ih _ hstep

/-- The sequencing rule: the second part is indifferent wherever the first can end well. -/
lemma Indifferent.bind {Q : β → σ → Prop} {p : Prog C R ε α} {f : α → Prog C R ε β} {s : σ}
    (hp : p.Indifferent h refused refuse (fun a t => (f a).Indifferent h refused refuse Q t) s) :
    (p.bind f).Indifferent h refused refuse Q s := by
  induction p generalizing s with
  | ret a => exact hp
  | fail e => trivial
  | call c k ih =>
      intro o
      have hstep := hp o
      by_cases hc : refused c = true
      · rw [if_pos hc] at hstep ⊢
        obtain ⟨⟨e, hfail⟩, ⟨e', hfail'⟩, hsame⟩ := hstep
        exact ⟨⟨e, by simp only [hfail, bind_fail]⟩, ⟨e', by simp only [hfail', bind_fail]⟩, hsame⟩
      · rw [if_neg hc] at hstep ⊢
        exact ih _ hstep

/-- A program that issues no command of the class, and what is known of its runs. -/
lemma Indifferent.of_allCalls {Q : Except ε α → σ → Prop} {p : Prog C R ε α} {s : σ}
    (hp : p.AllCalls fun c => refused c = false) (hQ : p.wp h (fun _ => True) Q s) :
    p.Indifferent h refused refuse (fun a t => Q (Except.ok a) t) s := by
  induction p generalizing s with
  | ret a => exact hQ
  | fail e => trivial
  | call c k ih =>
      intro o
      rw [if_neg (by simp [hp.1])]
      exact ih _ (hp.2 _) (hQ o trivial)

end Prog

end Library
