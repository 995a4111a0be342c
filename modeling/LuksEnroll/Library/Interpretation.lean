import LuksEnroll.Library.Answering

/-!
# Programs whose commands are programs

A command of one signature can stand for a program over another: the step that one level takes as a
whole is a sequence of calls at the level below.  `Prog.interp` puts these programs in the place of
the commands.

What the lower level can ask for is what the programs of the commands can ask for
(`AllCalls.interp`), and a run there is a run of the upper level against some answers (`run_interp`).
So what is proved for every answer above holds of every run below.
-/

namespace Library

namespace Prog

variable {C D : Type} {R : C → Type} {S : D → Type} {ε α : Type}

/-- Every command is replaced by its program. -/
def interp (impl : (c : C) → Prog D S ε (R c)) : Prog C R ε α → Prog D S ε α
  | ret a => ret a
  | fail e => fail e
  | call c k => (impl c).bind fun r => (k r).interp impl

/-- Some run issues this command. -/
def CanIssue (p : Prog C R ε α) (c : C) : Prop := ∃ k, Residual p (call c k)

/-- A program issues only what some run of it issues. -/
lemma allCalls_canIssue (p : Prog C R ε α) : p.AllCalls p.CanIssue := by
  induction p with
  | ret a => trivial
  | fail e => trivial
  | call c k ih =>
      refine ⟨⟨k, Residual.refl _⟩, fun r => (ih r).mono ?_⟩
      rintro c' ⟨k', hk'⟩
      exact ⟨k', Residual.step r hk'⟩

/-- The calls of an interpretation are those of the programs of its commands. -/
lemma AllCalls.interp {P : C → Prop} {Q : D → Prop} {impl : (c : C) → Prog D S ε (R c)}
    (himpl : ∀ c, P c → (impl c).AllCalls Q) {p : Prog C R ε α} (hp : p.AllCalls P) :
    (p.interp impl).AllCalls Q := by
  induction p with
  | ret a => trivial
  | fail e => trivial
  | call c k ih => exact AllCalls.bind (himpl c hp.1) fun r => ih r (hp.2 r)

/-- **A run below is a run above**, against the answers that the programs of the commands find. -/
theorem run_interp {ω σ : Type} {H : Handler D S ω σ} {impl : (c : C) → Prog D S ε (R c)}
    (hret : ∀ c os s, ∃ r, ((impl c).run H os s).1 = Except.ok r) (p : Prog C R ε α)
    (os : ℕ → ω) (s : σ) :
    ∃ tables : ℕ → (c : C) → R c, ((p.interp impl).run H os s).1 = (p.run free tables ()).1 := by
  induction p generalizing os s with
  | ret a => exact ⟨fun _ c => (hret c os s).choose, rfl⟩
  | fail e => exact ⟨fun _ c => (hret c os s).choose, rfl⟩
  | call c k ih =>
      have hrun := (hret c os s).choose_spec
      obtain ⟨tables, htables⟩ := ih (hret c os s).choose (after ((impl c).steps H os s) os)
        ((impl c).run H os s).2
      refine ⟨fun n => n.casesOn (fun c' => (hret c' os s).choose) fun m => tables m, ?_⟩
      rw [Prog.interp, run_bind_ok (Prod.ext hrun rfl), htables]
      rfl

end Prog

end Library
