import Dashkoda.Core.Transport

/-!
# A client that follows redirections by hand

The two clients ask alike and report differently.  What each says of a failure is a field here; what
both keep is proved once: every address that is asked for has been approved, the requests are few,
and a response that is given up is closed.
-/

open Lib

namespace Dashkoda.Core

namespace Transport

/-- What a client says, and how far it goes. -/
structure Client (ε : Type) where
  headers : List (String × String)
  /-- How an exception of the transport is reported. -/
  refused : RequestException → ε
  /-- Where a redirection leads, if that may be asked for. -/
  resolve : String → Response → Except ε String
  /-- How a status of 400 and above is reported. -/
  statusError : Response → ε
  tooManyRedirects : ε
  failed : ε
  uncaught : Uncaught → ε
  /-- An exception worth another attempt, with the delay that was asked for. -/
  asksAgain : ε → Option (Option PyFloat)
  maxRedirects : Nat
  maxAttempts : Nat

def isRedirect (response : Response) : Bool := response.statusCode ∈ REDIRECT_STATUSES

namespace Client

variable {ε σ : Type} (client : Client ε)
  (serve : σ → Request → Except RequestException Response × σ)

/-- `_request_once` -/
def requestOnce (url : String) : Proc ε (Wire σ) Response :=
  ask serve client.refused { url, headers := client.headers }

/-- `_require_success` -/
def requireSuccess (response : Response) : Proc ε (Wire σ) Response :=
  if response.statusCode < 400 then pure response
  else do
    close
    throw (client.statusError response)

def redirectTarget (current : String) (response : Response) : Proc ε (Wire σ) String := do
  close
  Proc.ofExcept (client.resolve current response)

/-- `_follow` -/
def follow (url : String) : Proc ε (Wire σ) Response :=
  Outbound.follow (client.requestOnce serve) isRedirect client.redirectTarget client.requireSuccess
    client.tooManyRedirects (client.maxRedirects + 1) url

def pauseAfter (attempt : Nat) (error : ε) : Proc ε (Wire σ) Unit :=
  match client.asksAgain error with
  | none => throw error
  | some asked => sleep client.uncaught (delayFor asked attempt)

/-- `_fetch`, `_attempt` -/
def attempts (url : String) : Proc ε (Wire σ) Response :=
  Outbound.retry (client.follow serve url) (fun error => (client.asksAgain error).isSome)
    client.pauseAfter
    client.maxAttempts 0 client.failed

/-! ## What is expected of the reports -/

/-- What makes an exception that is not the client's own escape before a response is read. -/
def Slips (attempt : Nat) (exchange : Request × Except RequestException Response) : Prop :=
  ∃ response, exchange.2 = .ok response ∧
    if isRedirect response then ∃ error, client.resolve exchange.1.url response =
      .error (client.uncaught error)
    else 400 ≤ response.statusCode ∧ attempt + 1 < client.maxAttempts ∧ ∃ asked,
      client.asksAgain (client.statusError response) = some asked ∧
      (delayFor asked attempt).sleepError ≠ none

/-- The reports of a client: only a redirection escapes on its own, and only a server asks for a
delay. -/
structure Reports (libraries : NetLibraries) (Approved : String → Prop) : Prop where
  resolve : ∀ {current response next}, client.resolve current response = .ok next → Approved next
  resolve_final : ∀ {current response error}, client.resolve current response = .error error →
    client.asksAgain error = none
  refused : ∀ error, client.asksAgain (client.refused error) = some none
  statusError : ∀ {response asked}, client.asksAgain (client.statusError response) = some asked →
    asked = retryAfter libraries response
  statusError_own : ∀ response error, client.statusError response ≠ client.uncaught error
  tooMany : client.asksAgain client.tooManyRedirects = none ∧
    ∀ error, client.tooManyRedirects ≠ client.uncaught error
  uncaught : ∀ error, client.asksAgain (client.uncaught error) = none
  attempts : 0 < client.maxAttempts

end Client

/-! ## One request, one redirection -/

section Steps

variable {ε σ : Type} {client : Client ε}
  {serve : σ → Request → Except RequestException Response × σ}
  {libraries : NetLibraries} {Approved : String → Prop}

/-- What is on record before the attempt of this number, after so many requests. -/
structure OnRecord (client : Client ε) (Approved : String → Prop) (number n : Nat)
    (wire : Wire σ) : Prop where
  approved : ∀ exchange ∈ wire.exchanges, Approved exchange.1.url ∧
    exchange.1.headers = client.headers
  requests : wire.exchanges.length = n
  attempts : wire.pauses.length = number
  pauses : ∀ delay ∈ wire.pauses, ∃ value, delay = .finite value ∧ 0 ≤ value ∧
    value ≤ MAX_RETRY_SLEEP_SECONDS

/-- An exchange whose response, if there is one, is not for reading. -/
def Unread (exchange : Request × Except RequestException Response) : Prop :=
  ∀ response, exchange.2 = .ok response → isRedirect response = true ∨ 400 ≤ response.statusCode

/-- Between two requests no response is open, and nothing has slipped. -/
structure Idle (client : Client ε) (Approved : String → Prop) (number n : Nat)
    (wire : Wire σ) : Prop
    extends OnRecord client Approved number n wire where
  unclosed : wire.unclosed = 0
  quiet : ∀ exchange, wire.exchanges.getLast? = some exchange → Unread exchange ∧
    ¬ client.Slips number exchange

/-- The response at hand is the last one, and open. -/
structure Held (client : Client ε) (Approved : String → Prop) (number n : Nat) (current : String)
    (response : Response)
    (wire : Wire σ) : Prop extends OnRecord client Approved number n wire where
  unclosed : wire.unclosed = 1
  last : ∃ request, request.url = current ∧ wire.exchanges.getLast? = some (request, .ok response)

/-- How an exception of one attempt is explained by the last exchange. -/
structure Explained (client : Client ε) (libraries : NetLibraries) (number : Nat)
    (exchange : Request × Except RequestException Response) (error : ε) : Prop where
  unread : Unread exchange
  final : client.asksAgain error = none →
    ((∃ uncaught, error = client.uncaught uncaught) ↔ client.Slips number exchange)
  again : ∀ {asked}, client.asksAgain error = some asked →
    (asked = none ∨ ∃ response, asked = retryAfter libraries response) ∧
      ∀ attempt, client.Slips attempt exchange ↔
        attempt + 1 < client.maxAttempts ∧ (delayFor asked attempt).sleepError ≠ none

structure Failed (client : Client ε) (libraries : NetLibraries) (Approved : String → Prop)
    (number n : Nat) (error : ε)
    (wire : Wire σ) : Prop extends OnRecord client Approved number n wire where
  unclosed : wire.unclosed = 0
  explained : ∃ exchange, wire.exchanges.getLast? = some exchange ∧
    Explained client libraries number exchange error

/-- A response that is no redirection and no failure is left open for its reader. -/
structure Answered (client : Client ε) (Approved : String → Prop) (number n : Nat)
    (response : Response)
    (wire : Wire σ) : Prop extends OnRecord client Approved number n wire where
  unclosed : wire.unclosed = 1
  last : ∃ request, wire.exchanges.getLast? = some (request, .ok response)
  final : isRedirect response = false ∧ response.statusCode < 400

/-- An approved request goes on record. -/
theorem onRecord_asked {number n : Nat} {wire wire' : Wire σ} {url : String}
    {answer : Except RequestException Response} (h : OnRecord client Approved number n wire)
    (hurl : Approved url)
    (hexchanges : wire'.exchanges = wire.exchanges ++
      [({ url, headers := client.headers }, answer)])
    (hpauses : wire'.pauses = wire.pauses) : OnRecord client Approved number (n + 1) wire' where
  approved := by
    rw [hexchanges]
    intro exchange hmem
    cases List.mem_append.mp hmem with
    | inl hbefore => exact h.approved exchange hbefore
    | inr hnew =>
      rw [List.mem_singleton.mp hnew]
      exact ⟨hurl, rfl⟩
  requests := by rw [hexchanges, List.length_append, h.requests]; rfl
  attempts := by rw [hpauses, h.attempts]
  pauses := by rw [hpauses]; exact h.pauses

theorem onRecord_closed {number n : Nat} {wire : Wire σ}
    (h : OnRecord client Approved number n wire) :
    OnRecord client Approved number n { wire with unclosed := wire.unclosed - 1 } where
  approved := h.approved
  requests := h.requests
  attempts := h.attempts
  pauses := h.pauses

theorem wp_requestOnce (reports : client.Reports libraries Approved) {number n : Nat} {url : String}
    {wire : Wire σ} (hurl : Approved url)
    (h : Idle client Approved number n wire) :
    Proc.wp (client.requestOnce serve url) (Held client Approved number (n + 1) url)
      (Failed client libraries Approved number (n + 1)) wire := by
  unfold Client.requestOnce
  refine wp_ask (fun response wire' hexchanges hpauses hopen => ?_)
    fun error wire' hexchanges hpauses hopen => ?_
  · exact {
      toOnRecord := onRecord_asked h.toOnRecord hurl hexchanges hpauses
      unclosed := by rw [hopen, h.unclosed]
      last := ⟨_, rfl, by rw [hexchanges, List.getLast?_concat]⟩ }
  · have hquiet (attempt : Nat) : ¬ client.Slips attempt
        ({ url, headers := client.headers }, .error error) := by
      rintro ⟨response, hresponse, -⟩
      cases hresponse
    refine {
      toOnRecord := onRecord_asked h.toOnRecord hurl hexchanges hpauses
      unclosed := by rw [hopen, h.unclosed]
      explained := ⟨_, by rw [hexchanges, List.getLast?_concat], ?_⟩ }
    -- the client's own delay can always be slept
    refine ⟨?_, fun hnone => ?_, fun hasked => ?_⟩
    · rintro response hresponse
      cases hresponse
    · rw [reports.refused error] at hnone
      cases hnone
    · rw [reports.refused error] at hasked
      cases hasked
      exact ⟨.inl rfl, fun attempt => iff_of_false (hquiet attempt) fun hslept =>
        hslept.2 (sleepError_backoff attempt)⟩

theorem wp_redirectTarget (reports : client.Reports libraries Approved) {number n : Nat}
    {current : String} {response : Response} {wire : Wire σ}
    (hredirect : isRedirect response = true)
    (h : Held client Approved number n current response wire) :
    Proc.wp (client.redirectTarget current response)
      (fun next wire' => Approved next ∧ Idle client Approved number n wire')
      (Failed client libraries Approved number n) wire := by
  obtain ⟨request, hcurrent, hlast⟩ := h.last
  have hslips : client.Slips number (request, .ok response) ↔
      ∃ error, client.resolve current response = .error (client.uncaught error) := by
    unfold Client.Slips
    constructor
    · rintro ⟨other, hother, hslip⟩
      cases hother
      rw [if_pos hredirect, hcurrent] at hslip
      exact hslip
    · intro hslip
      refine ⟨response, rfl, ?_⟩
      rw [if_pos hredirect, hcurrent]
      exact hslip
  have hunread : Unread (request, .ok response) := fun other hother => by
    cases hother
    exact .inl hredirect
  have hunclosed : wire.unclosed - 1 = 0 := by rw [h.unclosed]
  unfold Client.redirectTarget close
  simp only [Proc.wp_bind, Proc.wp_modify]
  refine Proc.wp_ofExcept (fun next hnext => ?_) fun error herror => ?_
  · refine ⟨reports.resolve hnext, onRecord_closed h.toOnRecord, hunclosed, ?_⟩
    intro exchange hexchange
    cases hlast.symm.trans hexchange
    refine ⟨hunread, fun hslip => ?_⟩
    obtain ⟨error, herror⟩ := hslips.mp hslip
    cases hnext.symm.trans herror
  · refine ⟨onRecord_closed h.toOnRecord, hunclosed, (request, .ok response), hlast, hunread,
      fun _ => ?_,
      fun hasked => ?_⟩
    · rw [hslips, herror]
      constructor
      · rintro ⟨uncaught, heq⟩
        exact ⟨uncaught, congrArg Except.error heq⟩
      · rintro ⟨uncaught, heq⟩
        exact ⟨uncaught, Except.error.inj heq⟩
    · rw [reports.resolve_final herror] at hasked
      cases hasked

theorem explained_statusError (reports : client.Reports libraries Approved) {number : Nat}
    {request : Request} {response : Response} (hredirect : isRedirect response = false)
    (hstatus : 400 ≤ response.statusCode) :
    Explained client libraries number (request, .ok response) (client.statusError response) := by
  have hslips (attempt : Nat) : client.Slips attempt (request, .ok response) ↔
      attempt + 1 < client.maxAttempts ∧ ∃ asked,
        client.asksAgain (client.statusError response) = some asked ∧
        (delayFor asked attempt).sleepError ≠ none := by
    unfold Client.Slips
    constructor
    · rintro ⟨other, hother, hslip⟩
      cases hother
      rw [if_neg (by rw [hredirect]; exact Bool.false_ne_true)] at hslip
      exact hslip.2
    · intro hslip
      refine ⟨response, rfl, ?_⟩
      rw [if_neg (by rw [hredirect]; exact Bool.false_ne_true)]
      exact ⟨hstatus, hslip⟩
  refine ⟨fun other hother => ?_, fun hnone => ?_, fun {asked} hasked =>
    ⟨.inr ⟨response, reports.statusError hasked⟩, fun attempt => ?_⟩⟩
  · cases hother
    exact .inr hstatus
  · refine iff_of_false (by rintro ⟨error, heq⟩; exact reports.statusError_own response error heq)
      fun hslip => ?_
    obtain ⟨-, asked, hasked, -⟩ := (hslips number).mp hslip
    cases hnone.symm.trans hasked
  · rw [hslips]
    refine and_congr_right fun _ => ⟨?_, fun hfails => ⟨asked, hasked, hfails⟩⟩
    rintro ⟨other, hother, hfails⟩
    cases hasked.symm.trans hother
    exact hfails

theorem wp_requireSuccess (reports : client.Reports libraries Approved) {number n : Nat}
    {current : String} {response : Response} {wire : Wire σ}
    (hredirect : isRedirect response = false)
    (h : Held client Approved number n current response wire) :
    Proc.wp (client.requireSuccess response) (Answered client Approved number n)
      (Failed client libraries Approved number n) wire := by
  obtain ⟨request, -, hlast⟩ := h.last
  unfold Client.requireSuccess
  split
  · rename_i hstatus
    exact
      { toOnRecord := h.toOnRecord
        unclosed := h.unclosed
        last := ⟨request, hlast⟩
        final := ⟨hredirect, hstatus⟩ }
  · rename_i hstatus
    unfold close
    simp only [Proc.wp_bind, Proc.wp_modify, Proc.wp_throw]
    exact {
      toOnRecord := onRecord_closed h.toOnRecord
      unclosed := by show wire.unclosed - 1 = 0; rw [h.unclosed]
      explained := ⟨_, hlast, explained_statusError reports hredirect (by omega)⟩ }

theorem failed_tooManyRedirects (reports : client.Reports libraries Approved) {number n : Nat}
    {wire : Wire σ} (h : Idle client Approved number n wire)
    (hasked : wire.exchanges ≠ []) :
    Failed client libraries Approved number n client.tooManyRedirects wire := by
  obtain ⟨exchange, hlast⟩ : ∃ exchange, wire.exchanges.getLast? = some exchange :=
    ⟨_, List.getLast?_eq_some_getLast hasked⟩
  refine {
    toOnRecord := h.toOnRecord
    unclosed := h.unclosed
    explained := ⟨exchange, hlast, (h.quiet exchange hlast).1, fun _ => ?_, fun hagain => ?_⟩ }
  · exact iff_of_false (by rintro ⟨error, heq⟩; exact reports.tooMany.2 error heq)
      (h.quiet exchange hlast).2
  · rw [reports.tooMany.1] at hagain
    cases hagain

/-! ## The whole exchange -/

/-- How the attempts end when they raise. -/
structure GivenUp (client : Client ε) (Approved : String → Prop) (n : Nat) (error : ε)
    (wire : Wire σ) : Prop where
  onRecord : OnRecord client Approved wire.pauses.length n wire
  attempts : wire.pauses.length < client.maxAttempts
  unclosed : wire.unclosed = 0
  unread : ∀ exchange, wire.exchanges.getLast? = some exchange → Unread exchange
  escapes : (∃ uncaught, error = client.uncaught uncaught) ↔
    ∃ exchange, wire.exchanges.getLast? = some exchange ∧ client.Slips wire.pauses.length exchange

/-- An exception that ends the attempts escapes where its exchange slips. -/
theorem Failed.givenUp (reports : client.Reports libraries Approved) {number n : Nat} {error : ε}
    {wire : Wire σ} (h : Failed client libraries Approved number n error wire)
    (hnumber : number < client.maxAttempts)
    (hlast : (client.asksAgain error).isSome = true → number + 1 = client.maxAttempts) :
    GivenUp client Approved n error wire := by
  obtain ⟨exchange, hexchange, hexplained⟩ := h.explained
  have hpauses := h.attempts
  refine ⟨hpauses.symm ▸ h.toOnRecord, hpauses.symm ▸ hnumber, h.unclosed,
    fun other hother => ?_, ?_⟩
  · cases hexchange.symm.trans hother
    exact hexplained.unread
  have honly : (∃ other, wire.exchanges.getLast? = some other ∧ client.Slips number other) ↔
      client.Slips number exchange := by
    constructor
    · rintro ⟨other, hother, hslip⟩
      cases hexchange.symm.trans hother
      exact hslip
    · exact fun hslip => ⟨exchange, hexchange, hslip⟩
  rw [hpauses, honly]
  cases hagain : client.asksAgain error with
  | none => exact hexplained.final hagain
  | some asked =>
    refine iff_of_false (fun hsome => ?_) fun hslip => ?_
    · obtain ⟨uncaught, heq⟩ := hsome
      rw [heq, reports.uncaught] at hagain
      cases hagain
    · have hmore := (((hexplained.again hagain).2 number).mp hslip).1
      have := hlast (by rw [hagain]; rfl)
      omega

theorem wp_follow (reports : client.Reports libraries Approved) {number n : Nat} {url : String}
    {wire : Wire σ} (hurl : Approved url)
    (h : Idle client Approved number n wire) :
    Proc.wp (client.follow serve url)
      (fun response wire' => ∃ m ≤ n + (client.maxRedirects + 1),
        Answered client Approved number m response wire')
      (fun error wire' => ∃ m ≤ n + (client.maxRedirects + 1),
        Failed client libraries Approved number m error wire')
      wire := by
  unfold Client.follow
  refine Outbound.wp_follow Approved (Idle client Approved number) (Held client Approved number)
    (Answered client Approved number) (Failed client libraries Approved number) ?_ ?_ ?_ ?_
      (client.maxRedirects + 1) n
    (by omega) hurl h
  · intro m current wire' hcurrent hidle
    exact wp_requestOnce reports hcurrent hidle
  · intro m current response wire' hredirect hheld
    exact wp_redirectTarget reports hredirect hheld
  · intro m current response wire' hredirect hheld
    exact wp_requireSuccess reports hredirect hheld
  · intro m wire' hsome hidle
    exact failed_tooManyRedirects reports hidle
      (List.length_pos_iff.mp (hidle.requests.symm ▸ hsome))

/-- After a delay the next attempt may begin; a delay that cannot be slept escapes. -/
theorem wp_pauseAfter {number n : Nat} {error : ε} {wire : Wire σ}
    (hnumber : number + 1 < client.maxAttempts) (hagain : (client.asksAgain error).isSome = true)
    (h : Failed client libraries Approved number n error wire) :
    Proc.wp (client.pauseAfter number error) (fun _ => Idle client Approved (number + 1) n)
      (GivenUp client Approved n)
      wire := by
  obtain ⟨exchange, hexchange, hexplained⟩ := h.explained
  obtain ⟨asked, hasked⟩ := Option.isSome_iff_exists.mp hagain
  obtain ⟨hserver, hslips⟩ := hexplained.again hasked
  unfold Client.pauseAfter
  rw [hasked]
  refine wp_sleep (fun hslept => ?_) fun uncaught hfails => ?_
  · refine ⟨⟨h.approved, h.requests, ?_, ?_⟩, h.unclosed, ?_⟩
    · rw [List.length_append, h.attempts]
      rfl
    · intro delay hdelay
      cases List.mem_append.mp hdelay with
      | inl hbefore => exact h.pauses delay hbefore
      | inr hnew =>
        rw [List.mem_singleton.mp hnew]
        exact delayFor_bounds hserver hslept
    · -- what was slept once could be slept again
      intro other hother
      cases hexchange.symm.trans hother
      refine ⟨hexplained.unread, fun hslip => ?_⟩
      exact ((hslips (number + 1)).mp hslip).2 (sleepError_delayFor (number + 1) hslept)
  · refine ⟨h.attempts.symm ▸
      h.toOnRecord, by rw [h.attempts]; omega, h.unclosed, fun other hother => ?_, ?_⟩
    · cases hexchange.symm.trans hother
      exact hexplained.unread
    rw [h.attempts]
    exact iff_of_true ⟨uncaught, rfl⟩
      ⟨exchange, hexchange, (hslips number).mpr ⟨hnumber, by rw [hfails]; simp⟩⟩

def Obtained (client : Client ε) (Approved : String → Prop) (n : Nat) (response : Response)
    (wire : Wire σ) : Prop :=
  ∃ number < client.maxAttempts, Answered client Approved number n response wire

theorem wp_attempts (reports : client.Reports libraries Approved) {url : String} {server : σ}
    (hurl : Approved url) :
    Proc.wp (client.attempts serve url)
      (fun response wire => ∃ m ≤ client.maxAttempts * (client.maxRedirects + 1),
        Obtained client Approved m response wire)
      (fun error wire => ∃ m ≤ client.maxAttempts * (client.maxRedirects + 1),
        GivenUp client Approved m error wire)
      (Wire.fresh server) := by
  have hfresh : Idle client Approved 0 0 (Wire.fresh server) := {
    approved := fun _ h => (List.not_mem_nil h).elim
    requests := rfl
    attempts := rfl
    pauses := fun _ h => (List.not_mem_nil h).elim
    unclosed := rfl
    quiet := fun _ h => nomatch h }
  unfold Client.attempts
  rw [← Nat.zero_add (client.maxAttempts * (client.maxRedirects + 1))]
  refine Outbound.wp_retry (client.maxRedirects + 1) client.maxAttempts (Idle client Approved)
    (Obtained client Approved)
    (fun number n error wire => number < client.maxAttempts ∧
      Failed client libraries Approved number n error wire)
    (GivenUp client Approved) ?_ ?_ ?_ ?_ reports.attempts (Nat.zero_add client.maxAttempts) hfresh
  · intro number n wire hnumber hidle
    refine Proc.wp_mono (wp_follow reports hurl hidle) (fun response wire' hanswered => ?_)
      fun error wire' hfailed => ?_
    · obtain ⟨m, hm, h⟩ := hanswered
      exact ⟨m, hm, number, hnumber, h⟩
    · obtain ⟨m, hm, h⟩ := hfailed
      exact ⟨m, hm, hnumber, h⟩
  · intro number n error wire hmore hagain hfailed
    exact wp_pauseAfter hmore hagain hfailed.2
  · intro number n error wire hlast _ hfailed
    exact hfailed.2.givenUp reports hfailed.1 fun _ => hlast
  · intro number n error wire hother hfailed
    refine hfailed.2.givenUp reports hfailed.1 fun hagain => ?_
    rw [hother] at hagain
    cases hagain

end Steps

end Transport

end Dashkoda.Core
