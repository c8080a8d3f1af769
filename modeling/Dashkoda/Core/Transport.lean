import Dashkoda.Core.JsonValue
import Dashkoda.Lib.Outbound
import Dashkoda.Lib.PyInt
import Dashkoda.Lib.UrlSplit
import Mathlib.Data.Rat.Defs
import Mathlib.Algebra.Order.Ring.Rat
import Mathlib.Tactic.Linarith
import Mathlib.Tactic.NormNum
import Mathlib.Tactic.Positivity

/-!
# Asking a server

What the clients share: addresses, requests and responses, the headers that a server controls, and
the delay it may ask for.  A server is any machine that answers one request after another.
-/

open Lib

namespace Dashkoda.Core

namespace Transport

/-! ## Floats -/

/-- A float: a number, an infinity, or not a number. -/
inductive PyFloat
  | finite (value : ℚ)
  | infinity (negative : Bool)
  | notANumber
  deriving DecidableEq

namespace PyFloat

def truthy : PyFloat → Bool
  | .finite value => value ≠ 0
  | _ => true

/-- `min(value, limit)`: no comparison with what is not a number holds. -/
def capAt (limit : ℚ) : PyFloat → PyFloat
  | .finite value => if limit < value then .finite limit else .finite value
  | .infinity false => .finite limit
  | .infinity true => .infinity true
  | .notANumber => .notANumber

/-- What `time.sleep(value)` raises. -/
def sleepError : PyFloat → Option Uncaught
  | .finite value =>
    -- the nanoseconds are a signed word
    if value * 1000000000 < -9223372036854775808 ∨ 9223372036854775808 ≤ value * 1000000000 then
      some .overflowError
    else if value < 0 then some .valueError
    else none
  | .infinity _ => some .overflowError
  | .notANumber => some .valueError

theorem finite_of_sleepError {delay : PyFloat} (h : delay.sleepError = none) :
    ∃ value, delay = .finite value ∧ 0 ≤ value := by
  unfold sleepError at h
  split at h
  · rename_i value
    split at h
    · cases h
    · split at h
      · cases h
      · rename_i hnegative
        exact ⟨value, rfl, not_lt.mp hnegative⟩
  · cases h
  · cases h

end PyFloat

/-- The standard library, as far as it decides here. -/
structure NetLibraries where
  /-- `int` and `str.lower` -/
  classes : CharClasses
  /-- `str.isdigit` of one character. -/
  isdigit : Char → Bool
  netlocCheck : NetlocCheck
  /-- `urljoin`; `none` is the `ValueError`. -/
  urljoin : String → String → Option String
  /-- `ipaddress.ip_address`: whether the address is global; `none` is the `ValueError`. -/
  ipAddress : String → Option Bool
  /-- `float` of a text; `none` is the `ValueError`. -/
  float : String → Option PyFloat

/-! ## Requests and responses -/

structure Request where
  url : String
  headers : List (String × String)
  deriving DecidableEq

/-- `requests.RequestException`: its class, and whether it is a `Timeout`. -/
structure RequestException where
  name : String
  timeout : Bool
  deriving DecidableEq

structure Response where
  statusCode : Nat
  /-- `response.headers.get` -/
  headers : String → Option String
  url : String
  /-- What `iter_content` yields, and what it raises after that. -/
  chunks : List (List UInt8)
  broken : Option RequestException

/-- A server that has been asked so far. -/
structure Wire (σ : Type) where
  server : σ
  exchanges : List (Request × Except RequestException Response)
  pauses : List PyFloat
  /-- The responses that have not been closed. -/
  unclosed : Nat

/-- A server nobody has asked yet. -/
def Wire.fresh {σ : Type} (server : σ) : Wire σ :=
  { server, exchanges := [], pauses := [], unclosed := 0 }

section Session

variable {ε σ α : Type}

/-- `session.get` -/
def ask (serve : σ → Request → Except RequestException Response × σ)
    (refused : RequestException → ε) (request : Request) :
    Proc ε (Wire σ) Response := fun wire =>
  let answer := serve wire.server request
  let asked :=
    { wire with server := answer.2, exchanges := wire.exchanges ++ [(request, answer.1)] }
  match answer.1 with
  | .ok response => (.ok response, { asked with unclosed := wire.unclosed + 1 })
  | .error error => (.error (refused error), asked)

/-- `response.close()` -/
def close : Proc ε (Wire σ) Unit := modify fun wire => { wire with unclosed := wire.unclosed - 1 }

/-- `try: …  finally: response.close()` -/
def closing (x : Proc ε (Wire σ) α) : Proc ε (Wire σ) α := do
  let a ← Proc.onError x fun _ => close
  close
  return a

/-- `time.sleep` -/
def sleep (uncaught : Uncaught → ε) (delay : PyFloat) : Proc ε (Wire σ) Unit :=
  match delay.sleepError with
  | some error => throw (uncaught error)
  | none => modify fun wire => { wire with pauses := wire.pauses ++ [delay] }

end Session

/-! ## What a server controls -/

section Headers

variable (libraries : NetLibraries)

/-- The scheme and the hostname of `urlparse(url)`. -/
structure ParsedUrl where
  scheme : String
  hostname : Option String
  deriving DecidableEq

/-- `parts.hostname` -/
def hostname (netloc : List Char) : Option String :=
  let hostinfo := (netloc.reverse.takeWhile (· ≠ '@')).reverse
  let host :=
    if '[' ∈ hostinfo then ((hostinfo.dropWhile (· ≠ '[')).tail).takeWhile (· ≠ ']')
    else hostinfo.takeWhile (· ≠ ':')
  if host = [] then none
  else some (libraries.classes.lower (String.ofList (host.takeWhile (· ≠ '%'))) ++
    String.ofList (host.dropWhile (· ≠ '%')))

/-- `urlparse(url)`; `none` is the `ValueError`. -/
def urlparse (url : String) : Option ParsedUrl :=
  (Url.urlsplit libraries.netlocCheck url.toList).map fun parts =>
    { scheme := String.ofList parts.scheme, hostname := hostname libraries parts.netloc }

/-- `parts.scheme.lower()`: a scheme is ASCII. -/
def lowerScheme (scheme : String) : String := String.ofList (scheme.toList.map Char.toLower)

/-- `hostname.lower().rstrip(".")` -/
def bareHost (name : String) : String :=
  String.ofList ((libraries.classes.lower name).toList.reverse.dropWhile (· = '.')).reverse

/-- `host.strip("[]")` -/
def unbracketed (host : String) : String :=
  let bracket (c : Char) : Bool := c = '[' || c = ']'
  String.ofList ((host.toList.dropWhile bracket).reverse.dropWhile bracket).reverse

/-- `_content_type` -/
def contentType (response : Response) : String :=
  let declared := (response.headers "Content-Type").getD ""
  libraries.classes.lower (PyText.strip (String.ofList (declared.toList.takeWhile (· ≠ ';'))))

/-- `_final_host` -/
def finalHost (response : Response) : String :=
  match urlparse libraries response.url with
  | none => ""
  | some parts => libraries.classes.lower (parts.hostname.getD "")

def MAX_RETRY_SLEEP_SECONDS : ℚ := 30

/-- `_retry_after` -/
def retryAfter (response : Response) : Option PyFloat :=
  match response.headers "Retry-After" with
  | none => none
  | some raw =>
    if raw = "" then none else (libraries.float raw).map (PyFloat.capAt MAX_RETRY_SLEEP_SECONDS)

/-- `error.retry_after or min(2.0**attempt, MAX_RETRY_SLEEP_SECONDS)` -/
def delayFor (asked : Option PyFloat) (attempt : Nat) : PyFloat :=
  match asked with
  | some delay =>
    if delay.truthy then delay else .finite (min (2 ^ attempt) MAX_RETRY_SLEEP_SECONDS)
  | none => .finite (min (2 ^ attempt) MAX_RETRY_SLEEP_SECONDS)

/-- The `Content-Length` that is looked at: digits, which `int` may still refuse. -/
def declaredSize (response : Response) : Except Uncaught (Option Int) :=
  match response.headers "Content-Length" with
  | none => .ok none
  | some declared =>
    let digits := (PyText.strip declared).toList
    if declared ≠ "" ∧ digits ≠ [] ∧ digits.all libraries.isdigit then
      match PyInt.parse libraries.classes declared.toList with
      | none => .error .valueError
      | some size => .ok (some size)
    else .ok none

end Headers

def RETRYABLE_STATUSES : List Nat := [429, 500, 502, 503, 504]

def REDIRECT_STATUSES : List Nat := [301, 302, 303, 307, 308]

def BLOCKED_HOSTNAMES : List String := ["localhost", "localhost.localdomain", "ip6-localhost"]

/-! ## Lemmas -/

section Lemmas

variable {ε σ α : Type} {serve : σ → Request → Except RequestException Response × σ}
  {refused : RequestException → ε}
  {post : α → Wire σ → Prop} {raised : ε → Wire σ → Prop}

/-- A request is written down with its answer, and a response stays open. -/
theorem wp_ask {request : Request} {wire : Wire σ} {post : Response → Wire σ → Prop}
    (hok : ∀ response wire', wire'.exchanges = wire.exchanges ++ [(request, .ok response)] →
      wire'.pauses = wire.pauses →
      wire'.unclosed = wire.unclosed + 1 → post response wire')
    (herror : ∀ error wire', wire'.exchanges = wire.exchanges ++ [(request, .error error)] →
      wire'.pauses = wire.pauses → wire'.unclosed = wire.unclosed → raised (refused error) wire') :
    Proc.wp (ask serve refused request) post raised wire := by
  unfold Proc.wp ask
  dsimp only
  cases hanswer : (serve wire.server request).1 with
  | ok response => exact hok response _ rfl rfl rfl
  | error error => exact herror error _ rfl rfl rfl

theorem wp_closing {x : Proc ε (Wire σ) α} {wire : Wire σ}
    (h : Proc.wp x (fun a wire' => post a { wire' with unclosed := wire'.unclosed - 1 })
      (fun error wire' => raised error { wire' with unclosed := wire'.unclosed - 1 }) wire) :
    Proc.wp (closing x) post raised wire := by
  unfold closing close
  simp only [Proc.wp_bind, Proc.wp_onError, Proc.wp_modify, Proc.wp_pure]
  exact h

theorem wp_sleep {uncaught : Uncaught → ε} {delay : PyFloat} {wire : Wire σ}
    {post : Unit → Wire σ → Prop}
    (hslept : delay.sleepError = none → post () { wire with pauses := wire.pauses ++ [delay] })
    (hraised : ∀ error, delay.sleepError = some error → raised (uncaught error) wire) :
    Proc.wp (sleep uncaught delay) post raised wire := by
  unfold sleep
  cases hdelay : delay.sleepError with
  | none => exact hslept hdelay
  | some error => exact hraised error hdelay

theorem capAt_le {limit value : ℚ} {delay : PyFloat} (h : delay.capAt limit = .finite value) :
    value ≤ limit := by
  unfold PyFloat.capAt at h
  split at h
  · split at h
    · exact le_of_eq (PyFloat.finite.inj h).symm
    · rename_i hle
      exact PyFloat.finite.inj h ▸ not_lt.mp hle
  · exact le_of_eq (PyFloat.finite.inj h).symm
  · cases h
  · cases h

/-- A delay that can be slept is at most half a minute. -/
theorem delayFor_bounds {libraries : NetLibraries} {asked : Option PyFloat} {attempt : Nat}
    (hasked : asked = none ∨ ∃ response, asked = retryAfter libraries response)
    (h : (delayFor asked attempt).sleepError = none) :
    ∃ value, delayFor asked attempt = .finite value ∧ 0 ≤ value ∧
    value ≤ MAX_RETRY_SLEEP_SECONDS := by
  obtain ⟨value, hvalue, hnonneg⟩ := PyFloat.finite_of_sleepError h
  refine ⟨value, hvalue, hnonneg, ?_⟩
  have hbackoff : delayFor none attempt = .finite value → value ≤ MAX_RETRY_SLEEP_SECONDS :=
      fun hnone =>
    PyFloat.finite.inj hnone ▸ min_le_right _ _
  cases hasked with
  | inl hnone => exact hbackoff (hnone ▸ hvalue)
  | inr hsome =>
    obtain ⟨response, hresponse⟩ := hsome
    unfold delayFor at hvalue
    split at hvalue
    · rename_i delay
      split at hvalue
      · unfold retryAfter at hresponse
        split at hresponse
        · cases hresponse
        · split at hresponse
          · cases hresponse
          · obtain ⟨raw, -, hraw⟩ := Option.map_eq_some_iff.mp hresponse.symm
            exact capAt_le (hraw.trans hvalue)
      · exact hbackoff hvalue
    · exact hbackoff hvalue

/-- The client's own delays can always be slept. -/
theorem sleepError_backoff (attempt : Nat) :
    (PyFloat.finite (min (2 ^ attempt) MAX_RETRY_SLEEP_SECONDS)).sleepError = none := by
  have hnonneg : (0 : ℚ) ≤ min (2 ^ attempt) MAX_RETRY_SLEEP_SECONDS :=
    le_min (by positivity) (by unfold MAX_RETRY_SLEEP_SECONDS; norm_num)
  have hsmall : min (2 ^ attempt) MAX_RETRY_SLEEP_SECONDS ≤ 30 := min_le_right _ _
  unfold PyFloat.sleepError
  dsimp only
  rw [if_neg (by rintro (h | h) <;> linarith), if_neg (not_lt.mpr hnonneg)]

/-- A server's delay is the same before every attempt. -/
theorem sleepError_delayFor {asked : Option PyFloat} {attempt : Nat} (attempt' : Nat)
    (h : (delayFor asked attempt).sleepError = none) :
      (delayFor asked attempt').sleepError = none := by
  unfold delayFor at h ⊢
  split at h
  · split at h
    · rename_i htruthy
      rw [if_pos htruthy]
      exact h
    · rename_i htruthy
      rw [if_neg htruthy]
      exact sleepError_backoff attempt'
  · exact sleepError_backoff attempt'

end Lemmas

end Transport

end Dashkoda.Core
