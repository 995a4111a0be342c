import LuksEnroll.Library.Run

/-!
# Programs that are answered alike

Two programs match if they issue commands in step that the handler treats alike: in every state in
an invariant, and on every input, the state is the same afterwards, the invariant holds again, and
what the two programs do with their answers matches.  The commands themselves may differ, as two
spellings of one name do, and so may the types of their answers.

Matching programs have the same runs (`Matches.run_eq`).
-/

namespace Library

namespace Prog

variable {C : Type} {R : C → Type} {ω σ ε δ α β : Type}

/-- The programs issue commands in step, and are answered alike wherever `I` holds. -/
def Matches (h : Handler C R ω σ) (I : σ → Prop) : Prog C R ε α → Prog C R ε α → Prop
  | ret a, q => q = ret a
  | fail e, q => q = fail e
  | call c k, q => ∃ c' k', q = call c' k' ∧ ∀ o s, I s →
      (h c o s).2 = (h c' o s).2 ∧ I (h c o s).2 ∧
        (k (h c o s).1).Matches h I (k' (h c' o s).1)

variable {h : Handler C R ω σ} {I : σ → Prop}

/-- **Matching programs have the same runs.** -/
theorem Matches.run_eq {p q : Prog C R ε α} (hpq : p.Matches h I q) {s : σ} (hs : I s)
    (os : ℕ → ω) : p.run h os s = q.run h os s := by
  induction p generalizing q os s with
  | ret a => rw [show q = ret a from hpq]
  | fail e => rw [show q = fail e from hpq]
  | call c k ih =>
      obtain ⟨c', k', rfl, halike⟩ := hpq
      obtain ⟨hstate, hI, hk⟩ := halike (os 0) s hs
      rw [run_call, run_call, ← hstate]
      exact ih _ hk hI _

lemma Matches.bind {p q : Prog C R ε α} {f g : α → Prog C R ε β} (hpq : p.Matches h I q)
    (hfg : ∀ a, (f a).Matches h I (g a)) : (p.bind f).Matches h I (q.bind g) := by
  induction p generalizing q with
  | ret a =>
      rw [show q = ret a from hpq]
      exact hfg a
  | fail e =>
      rw [show q = fail e from hpq]
      rfl
  | call c k ih =>
      obtain ⟨c', k', rfl, halike⟩ := hpq
      refine ⟨c', _, rfl, fun o s hs => ?_⟩
      obtain ⟨hstate, hI, hk⟩ := halike o s hs
      exact ⟨hstate, hI, ih _ hk⟩

/-- Watched programs match if the programs do. -/
lemma Matches.attempt {p q : Prog C R ε α} (hpq : p.Matches h I q) :
    (p.attempt : Prog C R δ (Except ε α)).Matches h I q.attempt := by
  induction p generalizing q with
  | ret a =>
      rw [show q = ret a from hpq]
      rfl
  | fail e =>
      rw [show q = fail e from hpq]
      rfl
  | call c k ih =>
      obtain ⟨c', k', rfl, halike⟩ := hpq
      refine ⟨c', _, rfl, fun o s hs => ?_⟩
      obtain ⟨hstate, hI, hk⟩ := halike o s hs
      exact ⟨hstate, hI, ih _ hk⟩

/-- Relabelling the failures of matching programs leaves them matching. -/
lemma Matches.mapErr (f : ε → δ) {p q : Prog C R ε α} (hpq : p.Matches h I q) :
    (p.mapErr f).Matches h I (q.mapErr f) := by
  induction p generalizing q with
  | ret a =>
      rw [show q = ret a from hpq]
      rfl
  | fail e =>
      rw [show q = fail e from hpq]
      rfl
  | call c k ih =>
      obtain ⟨c', k', rfl, halike⟩ := hpq
      refine ⟨c', _, rfl, fun o s hs => ?_⟩
      obtain ⟨hstate, hI, hk⟩ := halike o s hs
      exact ⟨hstate, hI, ih _ hk⟩

/-- A program matches itself, if all its commands keep the invariant. -/
lemma Matches.of_allCalls {K : C → Prop} (hK : ∀ c o s, K c → I s → I (h c o s).2)
    {p : Prog C R ε α} (hp : p.AllCalls K) : p.Matches h I p := by
  induction p with
  | ret a => rfl
  | fail e => rfl
  | call c k ih => exact ⟨c, k, rfl, fun o s hs => ⟨rfl, hK c o s hp.1 hs, ih _ (hp.2 _)⟩⟩

end Prog

end Library
