import Mathlib.Data.Nat.Notation
import Mathlib.Logic.Function.Basic

/-!
# Programs over a command signature

A program is a tree: it returns, it fails, or it issues one command and continues with the
answer.  `C` is the type of commands and `R c` the type of answers to `c`, so the same program
text can be run alone, run against a faulty environment, or interleaved with others — the tree
does not say who answers.

* `Prog.bind`, `Prog.attempt`, `Prog.mapErr` — sequencing, and the two ways of handling a
  failure: look at it as a value, or relabel it.
* `Prog.AllCalls P` — every command the program can ever issue satisfies `P`.
* `Prog.Residual p q` — `q` is what is left of `p` after some of its commands were answered.
  This is how a statement about an interleaving says *where* a thread stands.
-/

namespace Library

/-- A program issuing commands `c : C`, answered in `R c`, failing with an `ε`. -/
inductive Prog (C : Type) (R : C → Type) (ε α : Type) : Type
  | ret (a : α)
  | fail (e : ε)
  | call (c : C) (k : R c → Prog C R ε α)

namespace Prog

variable {C : Type} {R : C → Type} {ε δ α β γ : Type}

/-! ## Sequencing and failure

Programs are trees of commands, with a value or an error at the end.  Sequencing grafts one onto the
ends of another, and a failure can be caught or worded.
-/

/-- Sequencing: a failure skips the rest. -/
def bind : Prog C R ε α → (α → Prog C R ε β) → Prog C R ε β
  | ret a, f => f a
  | fail e, _ => fail e
  | call c k, f => call c fun r => (k r).bind f

/-- `do` blocks and early returns are those of this monad, so that a program can be written as the
source has it. -/
instance : Monad (Prog C R ε) where
  pure := ret
  bind := bind

/-- Issue one command and return its answer. -/
def perform (c : C) : Prog C R ε (R c) := call c ret

/-- The outcome as a value: `attempt p` never fails. -/
def attempt : Prog C R ε α → Prog C R δ (Except ε α)
  | ret a => ret (Except.ok a)
  | fail e => ret (Except.error e)
  | call c k => call c fun r => (k r).attempt

/-- Relabel the failure. -/
def mapErr (f : ε → δ) : Prog C R ε α → Prog C R δ α
  | ret a => ret a
  | fail e => fail (f e)
  | call c k => call c fun r => (k r).mapErr f

/-- A value that is already an outcome. -/
def ofExcept : Except ε α → Prog C R ε α
  | Except.ok a => ret a
  | Except.error e => fail e

@[simp] lemma pure_def (a : α) : (Pure.pure a : Prog C R ε α) = ret a := rfl

@[simp] lemma bind_def (p : Prog C R ε α) (f : α → Prog C R ε β) : p >>= f = p.bind f := rfl

@[simp] lemma bind_ret (a : α) (f : α → Prog C R ε β) : (ret a).bind f = f a := rfl

@[simp] lemma bind_fail (e : ε) (f : α → Prog C R ε β) :
    (fail e : Prog C R ε α).bind f = fail e := rfl

@[simp] lemma bind_call (c : C) (k : R c → Prog C R ε α) (f : α → Prog C R ε β) :
    (call c k).bind f = call c fun r => (k r).bind f := rfl

@[simp] lemma ofExcept_ok (a : α) : (ofExcept (Except.ok a) : Prog C R ε α) = ret a := rfl

@[simp] lemma ofExcept_error (e : ε) :
    (ofExcept (Except.error e) : Prog C R ε α) = fail e := rfl

/-- Sequencing is associative, which lets a proof cut a program wherever it likes. -/
lemma bind_assoc (p : Prog C R ε α) (f : α → Prog C R ε β) (g : β → Prog C R ε γ) :
    (p.bind f).bind g = p.bind fun a => (f a).bind g := by
  induction p with
  | ret a => rfl
  | fail e => rfl
  | call c k ih =>
      simp only [bind_call]
      exact congrArg _ (funext ih)

/-! ## What a program can ever issue

On whatever answers.  The rules follow the ways of putting programs together, so that a function of
a model is checked by the functions it is made of.
-/

/-- Every command that can occur in the tree satisfies `P`. -/
def AllCalls (P : C → Prop) : Prog C R ε α → Prop
  | ret _ => True
  | fail _ => True
  | call c k => P c ∧ ∀ r, (k r).AllCalls P

@[simp] lemma allCalls_ret (P : C → Prop) (a : α) : (ret a : Prog C R ε α).AllCalls P := trivial

@[simp] lemma allCalls_fail (P : C → Prop) (e : ε) : (fail e : Prog C R ε α).AllCalls P := trivial

@[simp] lemma allCalls_call (P : C → Prop) (c : C) (k : R c → Prog C R ε α) :
    (call c k).AllCalls P ↔ P c ∧ ∀ r, (k r).AllCalls P := Iff.rfl

@[simp] lemma allCalls_ofExcept (P : C → Prop) (x : Except ε α) :
    (ofExcept x : Prog C R ε α).AllCalls P := by
  cases x <;> trivial

@[simp] lemma allCalls_perform (P : C → Prop) (c : C) :
    (perform c : Prog C R ε (R c)).AllCalls P ↔ P c := by
  simp [perform]

/-- The commands of a sequence are those of its parts. -/
lemma AllCalls.bind {P : C → Prop} {p : Prog C R ε α} {f : α → Prog C R ε β}
    (hp : p.AllCalls P) (hf : ∀ a, (f a).AllCalls P) : (p.bind f).AllCalls P := by
  induction p with
  | ret a => exact hf a
  | fail e => trivial
  | call c k ih => exact ⟨hp.1, fun r => ih r (hp.2 r)⟩

/-- Looking at a failure asks for nothing more. -/
lemma AllCalls.attempt {P : C → Prop} {p : Prog C R ε α} (hp : p.AllCalls P) :
    (p.attempt : Prog C R δ (Except ε α)).AllCalls P := by
  induction p with
  | ret a => trivial
  | fail e => trivial
  | call c k ih => exact ⟨hp.1, fun r => ih r (hp.2 r)⟩

lemma AllCalls.mapErr {P : C → Prop} {p : Prog C R ε α} (f : ε → δ) (hp : p.AllCalls P) :
    (p.mapErr f).AllCalls P := by
  induction p with
  | ret a => trivial
  | fail e => trivial
  | call c k ih => exact ⟨hp.1, fun r => ih r (hp.2 r)⟩

lemma AllCalls.mono {P Q : C → Prop} (hPQ : ∀ c, P c → Q c) {p : Prog C R ε α}
    (hp : p.AllCalls P) : p.AllCalls Q := by
  induction p with
  | ret a => trivial
  | fail e => trivial
  | call c k ih => exact ⟨hPQ c hp.1, fun r => ih r (hp.2 r)⟩

/-! ## Where a thread stands

What is left of a program after some of its commands were answered.
-/

/-- `Residual p q`: answering some commands of `p` leaves `q`. -/
inductive Residual : Prog C R ε α → Prog C R ε α → Prop
  | refl (p : Prog C R ε α) : Residual p p
  | step {c : C} {k : R c → Prog C R ε α} {q : Prog C R ε α} (r : R c) :
      Residual (k r) q → Residual (call c k) q

/-- When the command that is next is answered, the rest is left. -/
lemma Residual.answer {p : Prog C R ε α} {c : C} {k : R c → Prog C R ε α}
    (h : Residual p (call c k)) (r : R c) : Residual p (k r) := by
  generalize hq : call c k = q at h
  induction h with
  | refl p => subst hq; exact Residual.step r (Residual.refl _)
  | step r' _ ih => exact Residual.step r' (ih hq)

/-- What is left of a program asks for nothing that the program did not ask for. -/
lemma Residual.allCalls {P : C → Prop} {p q : Prog C R ε α} (h : Residual p q)
    (hp : p.AllCalls P) : q.AllCalls P := by
  induction h with
  | refl _ => exact hp
  | step r _ ih => exact ih (hp.2 r)

/-- What is left of a part, followed by what follows the part. -/
lemma Residual.bind {p q : Prog C R ε α} (h : Residual p q) (f : α → Prog C R ε β) :
    Residual (p.bind f) (q.bind f) := by
  induction h with
  | refl _ => exact Residual.refl _
  | step r _ ih => exact Residual.step r ih

/-- What is left of a program that is watched is watched itself. -/
lemma Residual.attempt {p q : Prog C R ε α} (h : Residual p q) :
    Residual (p.attempt : Prog C R δ (Except ε α)) q.attempt := by
  induction h with
  | refl _ => exact Residual.refl _
  | step r _ ih => exact Residual.step r ih

/-- A command pending in a sequence is pending in its first part, still followed by the second, or
it is pending in the second. -/
lemma Residual.call_of_bind {p : Prog C R ε α} {f : α → Prog C R ε β} {c : C}
    {k : R c → Prog C R ε β} (h : Residual (p.bind f) (call c k)) :
    (∃ k', Residual p (call c k') ∧ k = fun r => (k' r).bind f)
      ∨ ∃ a, Residual p (ret a) ∧ Residual (f a) (call c k) := by
  induction p with
  | ret a => exact Or.inr ⟨a, Residual.refl _, h⟩
  | fail e => cases h
  | call c' k' ih =>
      cases h with
      | refl _ => exact Or.inl ⟨k', Residual.refl _, rfl⟩
      | step r hr =>
          rcases ih r hr with ⟨k'', hk, rfl⟩ | ⟨a, ha, hq⟩
          · exact Or.inl ⟨k'', Residual.step r hk, rfl⟩
          · exact Or.inr ⟨a, Residual.step r ha, hq⟩

/-- The other way round: what is left of a watched program comes from what is left of the program. -/
lemma Residual.call_of_attempt {p : Prog C R ε α} {c : C} {k : R c → Prog C R δ (Except ε α)}
    (h : Residual p.attempt (call c k)) :
    ∃ k', Residual p (call c k') ∧ k = fun r => (k' r).attempt := by
  induction p with
  | ret a => cases h
  | fail e => cases h
  | call c' k' ih =>
      cases h with
      | refl _ => exact ⟨k', Residual.refl _, rfl⟩
      | step r hr =>
          obtain ⟨k'', hk, rfl⟩ := ih r hr
          exact ⟨k'', Residual.step r hk, rfl⟩

/-! ## The last command

A program whose value is decided by the answer to its last command.
-/

/-- Whenever answering a command ends the program with a value, `P` relates the command, the
answer and the value. -/
def Last (P : (c : C) → R c → α → Prop) (p : Prog C R ε α) : Prop :=
  ∀ c k, Residual p (call c k) → ∀ r a, k r = ret a → P c r a

/-- A program that only returns has no last command, so nothing is asked of it. -/
lemma Last.ret (P : (c : C) → R c → α → Prop) (a : α) : (ret a : Prog C R ε α).Last P := by
  intro c k hres
  cases hres

/-- A sequence that is just a return is two returns. -/
lemma bind_eq_ret {p : Prog C R ε α} {f : α → Prog C R ε β} {b : β} (h : p.bind f = ret b) :
    ∃ a, p = ret a ∧ f a = ret b := by
  cases p with
  | ret a => exact ⟨a, rfl, h⟩
  | fail e => cases h
  | call c k => cases h

/-- The last command of a sequence is the last of its second part, which must have one unless what
it returns at once is unconstrained. -/
lemma Last.bind {P : (c : C) → R c → β → Prop} {p : Prog C R ε α} {f : α → Prog C R ε β}
    (hf : ∀ a, (f a).Last P) (hret : ∀ a b, f a = Prog.ret b → ∀ c r, P c r b) :
    (p.bind f).Last P := by
  intro c k hres r b hb
  rcases Residual.call_of_bind hres with ⟨k', -, rfl⟩ | ⟨a, -, ha⟩
  · obtain ⟨a, -, ha⟩ := bind_eq_ret hb
    exact hret a b ha c r
  · exact hf a c k ha r b hb

end Prog

end Library
