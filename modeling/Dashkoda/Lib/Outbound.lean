import Dashkoda.Lib.Proc

/-!
# Redirected and repeated requests

A client asks for an address, follows the redirections by hand, so many of them at most, and starts
over after a passing failure, so many times at most.  What every single request keeps, the whole
exchange keeps, and the requests are counted.
-/

namespace Lib

namespace Outbound

variable {ε σ υ ρ : Type}

section Client

variable (request : υ → Proc ε σ ρ) (redirected : ρ → Bool) (target : υ → ρ → Proc ε σ υ)
  (settle : ρ → Proc ε σ ρ)
  (tooMany : ε)

/-- One chain: a redirection is resolved, and may be refused, before it is followed. -/
def follow : Nat → υ → Proc ε σ ρ
  | 0, _ => throw tooMany
  | hops + 1, current => do
    let response ← request current
    if redirected response then
      let next ← target current response
      follow hops next
    else settle response

variable (once : Proc ε σ ρ) (passing : ε → Bool) (pause : Nat → ε → Proc ε σ Unit)

/-- Nobody waits after the last attempt. -/
def waitFor (left number : Nat) (error : ε) : Proc ε σ Unit :=
  if left = 0 then pure () else pause number error

/-- `for number in range(attempts)`: a passing failure is kept, and raised when no attempt is
left. -/
def retry : Nat → Nat → ε → Proc ε σ ρ
  | 0, _, last => throw last
  | left + 1, number, _ => tryCatch once fun error =>
    if passing error then do
      waitFor pause left number error
      retry left (number + 1) error
    else throw error

end Client

/-! ## What the exchange keeps -/

section Rules

variable {request : υ → Proc ε σ ρ} {redirected : ρ → Bool} {target : υ → ρ → Proc ε σ υ}
  {settle : ρ → Proc ε σ ρ}
  {tooMany : ε} {once : Proc ε σ ρ} {passing : ε → Bool} {pause : Nat → ε → Proc ε σ Unit}

/-- `Idle n` holds between two requests when `n` of them have been made, `Held n` while a response
is at hand. -/
theorem wp_follow (Allowed : υ → Prop) (Idle : Nat → σ → Prop) (Held : Nat → υ → ρ → σ → Prop)
    (Post : Nat → ρ → σ → Prop) (Raised : Nat → ε → σ → Prop)
    (hrequest : ∀ n current s, Allowed current → Idle n s →
      Proc.wp (request current) (Held (n + 1) current) (Raised (n + 1)) s)
    (htarget : ∀ n current response s, redirected response = true → Held n current response s →
      Proc.wp (target current response) (fun next s' => Allowed next ∧ Idle n s') (Raised n) s)
    (hsettle : ∀ n current response s, redirected response = false → Held n current response s →
      Proc.wp (settle response) (Post n) (Raised n) s)
    (htooMany : ∀ n s, 0 < n → Idle n s → Raised n tooMany s)
    (hops n : Nat) (hsome : 0 < n + hops) {current : υ} {s : σ} (hcurrent : Allowed current)
    (hidle : Idle n s) :
    Proc.wp (follow request redirected target settle tooMany hops current)
      (fun response s' => ∃ m ≤ n + hops, Post m response s')
        (fun error s' => ∃ m ≤ n + hops, Raised m error s') s := by
  induction hops generalizing n current s with
  | zero => exact ⟨n, Nat.le_refl n, htooMany n s hsome hidle⟩
  | succ hops ih =>
    unfold follow
    rw [Proc.wp_bind]
    refine Proc.wp_mono (hrequest n current s hcurrent hidle) (fun response s' hheld => ?_)
      fun error s' hraised => ⟨n + 1, by omega, hraised⟩
    cases hredirected : redirected response with
    | false =>
      rw [if_neg (by simp)]
      exact Proc.wp_mono (hsettle _ current response s' hredirected hheld)
        (fun _ _ hpost => ⟨n + 1, by omega, hpost⟩)
        fun _ _ hraised => ⟨n + 1, by omega, hraised⟩
    | true =>
      rw [if_pos rfl, Proc.wp_bind]
      refine Proc.wp_mono (htarget _ current response s' hredirected hheld)
        (fun next s'' hnext => ?_)
        fun _ _ hraised => ⟨n + 1, by omega, hraised⟩
      -- the chain goes on with one hop less and one request more
      have hrest := ih (n + 1) (by omega) hnext.1 hnext.2
      rw [show n + 1 + hops = n + (hops + 1) by omega] at hrest
      exact hrest

/-- `Idle number n` holds before the attempt of that number when `n` requests have been made. -/
theorem wp_retry (per total : Nat) (Idle : Nat → Nat → σ → Prop) (Post : Nat → ρ → σ → Prop)
    (Failed : Nat → Nat → ε → σ → Prop) (Raised : Nat → ε → σ → Prop)
    (honce : ∀ number n s, number < total → Idle number n s →
      Proc.wp once (fun response s' => ∃ m ≤ n + per, Post m response s')
        (fun error s' => ∃ m ≤ n + per, Failed number m error s') s)
    (hpause : ∀ number n error s, number + 1 < total → passing error = true →
      Failed number n error s →
      Proc.wp (pause number error) (fun _ => Idle (number + 1) n) (Raised n) s)
    (hlast : ∀ number n error s, number + 1 = total → passing error = true →
      Failed number n error s → Raised n error s)
    (hother : ∀ number n error s, passing error = false → Failed number n error s →
      Raised n error s)
    {left number n : Nat} {last : ε} {s : σ} (hleft : 0 < left) (htotal : number + left = total)
    (hidle : Idle number n s) :
    Proc.wp (retry once passing pause left number last)
      (fun response s' => ∃ m ≤ n + left * per, Post m response s')
      (fun error s' => ∃ m ≤ n + left * per, Raised m error s') s := by
  induction left generalizing number n last s with
  | zero => exact absurd hleft (Nat.lt_irrefl 0)
  | succ left ih =>
    unfold retry
    rw [Proc.wp_tryCatch]
    have hstep : (left + 1) * per = per + left * per := by rw [Nat.succ_mul, Nat.add_comm]
    refine Proc.wp_mono (honce number n s (by omega) hidle) ?_ ?_
    · rintro response s' ⟨m, hm, hpost⟩
      exact ⟨m, by omega, hpost⟩
    · rintro error s' ⟨m, hm, hfailed⟩
      cases hpassing : passing error with
      | false =>
        rw [if_neg (by simp)]
        exact ⟨m, by omega, hother number m error s' hpassing hfailed⟩
      | true =>
        rw [if_pos rfl, Proc.wp_bind]
        unfold waitFor
        cases left with
        | zero =>
          rw [if_pos rfl]
          exact ⟨m, by omega, hlast number m error s' (by omega) hpassing hfailed⟩
        | succ left =>
          rw [if_neg (Nat.succ_ne_zero left)]
          refine Proc.wp_mono (hpause number m error s' (by omega) hpassing hfailed)
            (fun _ s'' hnext => ?_)
            fun _ _ hraised => ⟨m, by omega, hraised⟩
          refine Proc.wp_mono (ih (by omega) (by omega) hnext) ?_ ?_
          · rintro response s₃ ⟨k, hk, hpost⟩
            exact ⟨k, by omega, hpost⟩
          · rintro error s₃ ⟨k, hk, hraised⟩
            exact ⟨k, by omega, hraised⟩

end Rules

end Outbound

end Lib
