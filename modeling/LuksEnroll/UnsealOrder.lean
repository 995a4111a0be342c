import LuksEnroll.Esys
import LuksEnroll.Library.Interpretation
import LuksEnroll.Library.Sorting
import LuksEnroll.Unsealing

/-!
# In which order tokens are unsealed

A wrong PIN counts against the dictionary-attack protection of the TPM, so it matters which tokens
`unseal_from_tokens` presents, and in which order.  With a PIN it begins with the tokens that need
one; without a PIN it leaves those out.

Here one attempt, `try_unseal_token`, is a single command with an arbitrary outcome, and
`unseal_attempts_in_order` gives the whole list of attempts for every list of tokens.  Below it
the attempt is the sequence of TPM calls that it is (`unsealOnTpm`); the calls are then those of the
tokens that are attempted.

Besides the order the theorem says where the attempts end: at the first success, whose secret is
returned, or after the last token, with the error that is reported then.
-/

namespace LuksEnroll

open Library
open Prog (AllCalls free)

/-! ## Attempts

The loop of the source over attempts that end as they please.  That this is the loop of the service
is `unsealOnTpm_run`.
-/

/-- One attempt. -/
inductive AttemptCmd : Type
  | tryUnsealToken (token : Tpm2TokenRef) (pin : String)

abbrev AttemptReply : AttemptCmd → Type
  | AttemptCmd.tryUnsealToken _ _ => Except String Bytes

abbrev Attempt (α : Type) := Prog AttemptCmd AttemptReply String α

/-- The loop of `unseal_from_tokens`. -/
def tryCandidateTokens (pin : String) : List Tpm2TokenRef → String → Attempt Bytes
  | [], lastError => Prog.fail lastError
  | token :: rest, _ => do
      match ← Prog.perform (AttemptCmd.tryUnsealToken token pin) with
      | Except.ok secret => return secret
      | Except.error e => tryCandidateTokens pin rest ("Token " ++ token.tokenId ++ ": " ++ e)

/-- `unseal_from_tokens`, as the attempts it makes. -/
def unsealAttempts (tokens : List Tpm2TokenRef) (pin : String) : Attempt Bytes :=
  if tokens.isEmpty then Prog.fail "No systemd-tpm2 token found"
  else tryCandidateTokens pin (candidateTokens tokens (decide (pin ≠ "")))
    "No systemd-tpm2 token could be unsealed"

/-- Attempts with fixed outcomes. -/
def fixedOutcomes (tryUnseal : Tpm2TokenRef → String → Except String Bytes) :
    (c : AttemptCmd) → AttemptReply c
  | AttemptCmd.tryUnsealToken token pin => tryUnseal token pin

/-- With fixed outcomes this is `unsealFromTokens`. -/
lemma outcome_unsealAttempts (tryUnseal : Tpm2TokenRef → String → Except String Bytes)
    (tokens : List Tpm2TokenRef) (pin : String) :
    (unsealAttempts tokens pin).outcome (fixedOutcomes tryUnseal)
      = unsealFromTokens tryUnseal tokens pin := by
  have hloop : ∀ (candidates : List Tpm2TokenRef) (lastError : String),
      (tryCandidateTokens pin candidates lastError).outcome (fixedOutcomes tryUnseal)
        = unsealFirst tryUnseal pin candidates lastError := by
    intro candidates
    induction candidates with
    | nil => intro lastError; rfl
    | cons token rest ih =>
        intro lastError
        rw [unsealFirst, tryCandidateTokens]
        show Prog.outcome (fixedOutcomes tryUnseal) ((Prog.perform _).bind _) = _
        rw [Prog.outcome_bind_ok (Prog.outcome_perform _ _), fixedOutcomes]
        cases tryUnseal token pin with
        | ok secret => rfl
        | error e => exact ih _
  unfold unsealAttempts unsealFromTokens
  split_ifs
  · rfl
  · exact hloop _ _

/-! ## The order

With a PIN the tokens that want one come first; without, those are left out.
-/

/-- With a PIN the tokens that need one and then the others, without a PIN only the others; each in
the order of the header. -/
def attemptOrder (tokens : List Tpm2TokenRef) (pin : String) : List Tpm2TokenRef :=
  if pin = "" then tokens.filter fun t => !t.pinRequired
  else tokens.filter Tpm2TokenRef.pinRequired ++ tokens.filter fun t => !t.pinRequired

/-- **The sort and the filter give this order.** -/
lemma candidateTokens_eq (tokens : List Tpm2TokenRef) (pin : String) :
    candidateTokens tokens (decide (pin ≠ "")) = attemptOrder tokens pin := by
  rw [candidateTokens, insertionSort_flag]
  by_cases hpin : pin = ""
  · simp [attemptOrder, hpin, List.filter_append, List.filter_filter]
  · simp [attemptOrder, hpin, List.filter_append, List.filter_filter]

/-- An attempt and its outcome. -/
def attempted (pin : String) (token : Tpm2TokenRef) (outcome : Except String Bytes) :
    Answered AttemptCmd AttemptReply :=
  ⟨AttemptCmd.tryUnsealToken token pin, outcome⟩

/-- The failed attempts of a run. -/
def failures (pin : String) (failed : List (Tpm2TokenRef × String)) :
    List (Answered AttemptCmd AttemptReply) :=
  failed.map fun x => attempted pin x.1 (Except.error x.2)

/-- The error after these failures: tagged with the last token's id, or the default. -/
def errorAfter (default : String) (failed : List (Tpm2TokenRef × String)) : String :=
  (failed.getLast?.map fun x => "Token " ++ x.1.tokenId ++ ": " ++ x.2).getD default

/-- What a run of attempts in this order can be: it stops at the first that unseals and hands over its
secret, or every one has failed. -/
inductive TriedInOrder (pin default : String) (order : List Tpm2TokenRef) :
    List (Answered AttemptCmd AttemptReply) → Except String Bytes → Prop
  | unsealed (failed : List (Tpm2TokenRef × String)) (token : Tpm2TokenRef)
      (rest : List Tpm2TokenRef) (secret : Bytes)
      (horder : order = failed.map Prod.fst ++ token :: rest) :
      TriedInOrder pin default order
        (failures pin failed ++ [attempted pin token (Except.ok secret)]) (Except.ok secret)
  | exhausted (failed : List (Tpm2TokenRef × String)) (horder : order = failed.map Prod.fst) :
      TriedInOrder pin default order (failures pin failed)
        (Except.error (errorAfter default failed))

lemma TriedInOrder.cons {pin default e : String} {order : List Tpm2TokenRef} {token : Tpm2TokenRef}
    {log : List (Answered AttemptCmd AttemptReply)} {result : Except String Bytes}
    (h : TriedInOrder pin ("Token " ++ token.tokenId ++ ": " ++ e) order log result) :
    TriedInOrder pin default (token :: order) (attempted pin token (Except.error e) :: log) result := by
  cases h with
  | unsealed failed token' rest secret horder =>
      exact TriedInOrder.unsealed ((token, e) :: failed) token' rest secret (by simp [horder])
  | exhausted failed horder =>
      have herror : errorAfter ("Token " ++ token.tokenId ++ ": " ++ e) failed
          = errorAfter default ((token, e) :: failed) := by
        rw [errorAfter, errorAfter, List.getLast?_cons]
        cases failed.getLast? <;> rfl
      rw [herror]
      exact TriedInOrder.exhausted ((token, e) :: failed) (by simp [horder])

lemma tryCandidateTokens_tried (pin : String) (candidates : List Tpm2TokenRef) (lastError : String)
    (os : ℕ → (c : AttemptCmd) → AttemptReply c) :
    TriedInOrder pin lastError candidates
      ((tryCandidateTokens pin candidates lastError).answers free os ())
      ((tryCandidateTokens pin candidates lastError).run free os ()).1 := by
  induction candidates generalizing lastError os with
  | nil => exact TriedInOrder.exhausted [] rfl
  | cons token rest ih =>
      have hstep : ∀ r, os 0 (AttemptCmd.tryUnsealToken token pin) = r →
          TriedInOrder pin lastError (token :: rest)
            ((tryCandidateTokens pin (token :: rest) lastError).answers free os ())
            ((tryCandidateTokens pin (token :: rest) lastError).run free os ()).1 := by
        intro r hr
        simp only [tryCandidateTokens, Prog.perform, Prog.bind_def, Prog.bind_call, Prog.bind_ret,
          Prog.answers, Prog.run, free, hr]
        cases r with
        | ok secret => exact TriedInOrder.unsealed [] token rest secret rfl
        | error e => exact (ih _ fun n => os (n + 1)).cons
      exact hstep _ rfl

/-! ## The calls of the TPM

Each attempt becomes the calls of one token, with the PIN where the token wants one.
-/

/-- An attempt as the calls of the TPM that it consists of. -/
def attemptOnTpm (var : String → Option String) :
    (c : AttemptCmd) → Prog EsysCmd EsysReply String (AttemptReply c)
  | AttemptCmd.tryUnsealToken token pin => (tryUnsealToken var token pin).attempt

/-- `unseal_from_tokens` down to the TPM. -/
def unsealOnTpm (var : String → Option String) (tokens : List Tpm2TokenRef) (pin : String) :
    Esys String Bytes := (unsealAttempts tokens pin).interp (attemptOnTpm var)

/-- Presented to the TPM: a call that an attempt at one of these tokens makes. -/
def PresentsOneOf (var : String → Option String) (tokens : List Tpm2TokenRef) (pin : String)
    (c : EsysCmd) : Prop := ∃ t ∈ tokens, (tryUnsealToken var t pin).CanIssue c

lemma unsealAttempts_calls (tokens : List Tpm2TokenRef) (pin : String) :
    (unsealAttempts tokens pin).AllCalls fun c =>
      ∃ t ∈ attemptOrder tokens pin, c = AttemptCmd.tryUnsealToken t pin := by
  have hloop : ∀ (candidates : List Tpm2TokenRef) (lastError : String),
      (tryCandidateTokens pin candidates lastError).AllCalls fun c =>
        ∃ t ∈ candidates, c = AttemptCmd.tryUnsealToken t pin := by
    intro candidates
    induction candidates with
    | nil => intro lastError; trivial
    | cons token rest ih =>
        intro lastError
        refine AllCalls.bind ((Prog.allCalls_perform _ _).mpr ⟨token, by simp, rfl⟩) fun r => ?_
        cases r with
        | ok secret => trivial
        | error e =>
            refine (ih _).mono ?_
            rintro c ⟨t, ht, hc⟩
            exact ⟨t, List.mem_cons_of_mem _ ht, hc⟩
  rw [unsealAttempts]
  split_ifs
  · trivial
  · rw [← candidateTokens_eq]
    exact hloop _ _

/-- On the TPM a run is a run of attempts. -/
theorem unsealOnTpm_run (var : String → Option String) (tokens : List Tpm2TokenRef) (pin : String)
    {ω σ : Type} (H : Handler EsysCmd EsysReply ω σ) (os : ℕ → ω) (s : σ) :
    ∃ outcomes, ((unsealOnTpm var tokens pin).run H os s).1
      = ((unsealAttempts tokens pin).run free outcomes ()).1 := by
  refine Prog.run_interp (fun c os s => ?_) _ os s
  cases c with
  | tryUnsealToken token pin =>
      rw [attemptOnTpm, Prog.run_attempt]
      exact ⟨_, rfl⟩

/-- The error when there was nothing to attempt. -/
def noAttemptError (tokens : List Tpm2TokenRef) : String :=
  if tokens.isEmpty then "No systemd-tpm2 token found"
  else "No systemd-tpm2 token could be unsealed"

lemma unsealAttempts_tried (tokens : List Tpm2TokenRef) (pin : String)
    (outcomes : ℕ → (c : AttemptCmd) → AttemptReply c) :
    TriedInOrder pin (noAttemptError tokens) (attemptOrder tokens pin)
      ((unsealAttempts tokens pin).answers free outcomes ())
      ((unsealAttempts tokens pin).run free outcomes ()).1 := by
  rw [unsealAttempts, noAttemptError]
  split_ifs with hempty
  · rw [List.isEmpty_iff.mp hempty]
    have horder : attemptOrder [] pin = [] := by simp [attemptOrder]
    rw [horder]
    exact TriedInOrder.exhausted [] rfl
  · rw [candidateTokens_eq]
    exact tryCandidateTokens_tried pin _ _ outcomes

/-- This is what attempts in this order come to. -/
def EndsInOrder (tokens : List Tpm2TokenRef) (pin : String) (result : Except String Bytes) : Prop :=
  ∃ log, TriedInOrder pin (noAttemptError tokens) (attemptOrder tokens pin) log result

/-- **The order of the attempts.**  For every list of tokens, every PIN and whatever the outcomes:
the tokens are attempted in this order until the first that unseals, whose secret is returned; if none
does, the error is tagged with the token that was attempted last, or is the default when none was.
Without a PIN no token that needs one is presented to the TPM.  What is returned comes about in this way
also where every token has an outcome of its own (`unsealFromTokens`), and down on the TPM, in every run
against whatever it answers. -/
theorem unseal_attempts_in_order (tokens : List Tpm2TokenRef) (pin : String)
    (outcomes : ℕ → (c : AttemptCmd) → AttemptReply c) :
    TriedInOrder pin
        (if tokens.isEmpty then "No systemd-tpm2 token found"
          else "No systemd-tpm2 token could be unsealed")
        (attemptOrder tokens pin)
        ((unsealAttempts tokens pin).answers free outcomes ())
        ((unsealAttempts tokens pin).run free outcomes ()).1
      ∧ (∀ var, (unsealOnTpm var tokens pin).AllCalls
          (PresentsOneOf var (tokens.filter fun t => !t.pinRequired || decide (pin ≠ "")) pin))
      ∧ (∀ tryUnseal, EndsInOrder tokens pin (unsealFromTokens tryUnseal tokens pin))
      ∧ ∀ (var : String → Option String) (ω σ : Type) (H : Handler EsysCmd EsysReply ω σ)
          (os : ℕ → ω) (s : σ), EndsInOrder tokens pin ((unsealOnTpm var tokens pin).run H os s).1 := by
  refine ⟨unsealAttempts_tried tokens pin outcomes, fun var => ?_, fun tryUnseal => ?_,
    fun var ω σ H os s => ?_⟩
  · refine AllCalls.interp ?_ (unsealAttempts_calls tokens pin)
    rintro c ⟨t, ht, rfl⟩
    refine (Prog.allCalls_canIssue (tryUnsealToken var t pin)).attempt.mono fun c hc => ⟨t, ?_, hc⟩
    rw [attemptOrder] at ht
    split_ifs at ht with hpin
    · simpa [hpin] using ht
    · simp only [List.mem_append, List.mem_filter] at ht
      rcases ht with ht | ht
      · simp [ht.1, hpin]
      · simp [ht.1, hpin]
  · rw [← outcome_unsealAttempts, ← Prog.run_free]
    exact ⟨_, unsealAttempts_tried tokens pin fun _ => fixedOutcomes tryUnseal⟩
  · obtain ⟨outcomes, hrun⟩ := unsealOnTpm_run var tokens pin H os s
    rw [hrun]
    exact ⟨_, unsealAttempts_tried tokens pin outcomes⟩

end LuksEnroll
