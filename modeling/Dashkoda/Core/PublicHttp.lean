import Dashkoda.Core.Client

/-!
# Fetching one public resource

Every address is checked against the caller's hosts before it is asked for, the first one and every
one a server redirects to.  A chain of redirections is short, there are few attempts, and a body is
read up to a cap.
-/

open Lib

namespace Dashkoda.Core

namespace PublicHttp

open Transport

def USER_AGENT : String := "DashKoda/1.0 (+internal Chamber dashboard; contact via koda.ee)"

def MAX_REDIRECTS : Nat := 3

def MAX_ATTEMPTS : Nat := 3

inductive FetchFailure
  | notFound
  | refused
  | rateLimited
  | serverError
  | timeout
  | transport
  | tooLarge
  | unexpectedContent
  | empty
  | redirect
  | notAllowed
  | unknown
  deriving DecidableEq

structure PublicFetchError where
  message : String
  failure : FetchFailure := .unknown
  statusCode : Option Nat := none
  deriving DecidableEq

/-- `RetryableFetchError` is a `PublicFetchError`; anything else is not the module's own. -/
inductive FetchExn
  | fetchError (error : PublicFetchError)
  | retryable (error : PublicFetchError) (retryAfter : Option PyFloat)
  | uncaught (error : Uncaught)
  deriving DecidableEq

structure FetchResult where
  statusCode : Nat
  content : List UInt8
  contentType : String
  etag : String
  lastModified : String
  finalHost : String
  deriving DecidableEq

/-- The keyword arguments of `fetch`. -/
structure FetchCall where
  allowedHosts : List String
  accept : String
  maxBytes : Nat
  expectedContentTypes : Option (List String)
  etag : String
  lastModified : String

section Fetch

variable (libraries : NetLibraries)

def notAllowed (message : String) : Except PublicFetchError String :=
  .error { message, failure := .notAllowed }

def requireAllowedUrl (allowedHosts : List String) (url : String) :
    Except PublicFetchError String :=
  match urlparse libraries url with
  | none => notAllowed "Vigane URL."
  | some parts =>
    if lowerScheme parts.scheme ≠ "https" then notAllowed "Lubatud on ainult HTTPS."
    else
      let name := parts.hostname.getD ""
      if name = "" then notAllowed "URL-il puudub hostinimi."
      else
        let host := bareHost libraries name
        if host ∈ BLOCKED_HOSTNAMES then notAllowed "Kohalikule hostile ei pöörduta."
        else if (libraries.ipAddress (unbracketed host)).isSome then
          notAllowed "IP-aadressile ei pöörduta."
        else if host ∉ allowedHosts then notAllowed s!"Host {host} ei ole lubatud allikate hulgas."
        else .ok host

def requestHeaders (call : FetchCall) : List (String × String) :=
  [("User-Agent", USER_AGENT), ("Accept", call.accept)] ++
    (if call.etag ≠ "" then [("If-None-Match", call.etag)] else []) ++
    (if call.lastModified ≠ "" then [("If-Modified-Since", call.lastModified)] else [])

/-- How `_request_once` reports what the transport raised. -/
def transportError (error : RequestException) : FetchExn :=
  if error.timeout then .retryable { message := "Päring aegus.", failure := .timeout } none
  else .retryable { message := s!"Ühendus ebaõnnestus: {error.name}.", failure := .transport } none

/-- How `_require_success` reports a status of 400 and above. -/
def statusError (response : Response) : FetchExn :=
  let status := response.statusCode
  if status = 404 then
    .fetchError
      { message := "Allikat ei leitud (404).", failure := .notFound, statusCode := some status }
  else if status = 401 ∨ status = 403 then
    .fetchError
      { message := s!"Allikas keeldus ligipääsust ({status})."
        failure := .refused
        statusCode := some status }
  else if status = 429 then
    .retryable
      { message := "Allikas piiras päringute sagedust (429)."
        failure := .rateLimited
        statusCode := some status }
      (retryAfter libraries response)
  else if status ∈ RETRYABLE_STATUSES then
    .retryable
      { message := s!"Allikas vastas koodiga {status}."
        failure := .serverError
        statusCode := some status }
      (retryAfter libraries response)
  else .fetchError
    { message := s!"Allikas vastas koodiga {status}."
      failure := .unknown
      statusCode := some status }

/-- The body up to the cap, and what stopped the reading. -/
def readChunks (maxBytes : Nat) (broken : Option RequestException) :
    List UInt8 → List (List UInt8) → Except PublicFetchError (List UInt8)
  | content, [] => match broken with
    | none => .ok content
    | some error =>
      .error { message := s!"Vastuse lugemine katkes: {error.name}.", failure := .transport }
  | content, chunk :: rest =>
    if maxBytes < (content ++ chunk).length then
      .error
        { message := s!"Vastus ületab lubatud suuruse ({maxBytes} baiti).", failure := .tooLarge }
    else readChunks maxBytes broken (content ++ chunk) rest

/-- `_read_capped` -/
def readCapped (maxBytes : Nat) (response : Response) : Except PublicFetchError (List UInt8) :=
  readChunks maxBytes response.broken [] (response.chunks.filter (· ≠ []))

/-- What `fetch` makes of the last response. -/
def fetchResult (call : FetchCall) (response : Response) : Except FetchExn FetchResult :=
  if response.statusCode = 304 then
    let etag := (response.headers "ETag").getD ""
    let lastModified := (response.headers "Last-Modified").getD ""
    .ok
      { statusCode := 304, content := [], contentType := contentType libraries response,
        etag := if etag = "" then call.etag else etag,
        lastModified := if lastModified = "" then call.lastModified else lastModified,
        finalHost := finalHost libraries response }
  else
    let type := contentType libraries response
    let named := if type = "" then "(määramata)" else type
    if call.expectedContentTypes.any (type ∉ ·) then
      .error (.fetchError
        { message := s!"Ootamatu sisutüüp: {named}.", failure := .unexpectedContent })
    else match declaredSize libraries response with
      | .error error => .error (.uncaught error)
      | .ok declared =>
        if declared.any ((call.maxBytes : Int) < ·) then
          .error (.fetchError
            { message := s!"Vastus on liiga suur: {declared.getD 0} baiti. " ++
                s!"Lubatud kuni {call.maxBytes} baiti."
              failure := .tooLarge })
        else match readCapped call.maxBytes response with
          | .error error => .error (.fetchError error)
          | .ok content =>
            if content = [] then
              .error (.fetchError { message := "Vastus oli tühi.", failure := .empty })
            else .ok
              { statusCode := response.statusCode, content, contentType := type,
                etag := (response.headers "ETag").getD "", lastModified :=
                  (response.headers "Last-Modified").getD "",
                finalHost := finalHost libraries response }

/-- Where a redirection leads, and whether that may be asked for. -/
def resolve (call : FetchCall) (current : String) (response : Response) : Except FetchExn String :=
  match response.headers "Location" with
  | none =>
    .error
      (.fetchError { message := "Ümbersuunamine ei sisaldanud sihtkohta.", failure := .redirect })
  | some location =>
    if location = "" then
      .error
        (.fetchError { message := "Ümbersuunamine ei sisaldanud sihtkohta.", failure := .redirect })
    else match libraries.urljoin current location with
      | none => .error (.uncaught .valueError)
      | some target => match requireAllowedUrl libraries call.allowedHosts target with
        | .error error => .error (.fetchError error)
        | .ok _ => .ok target

def asksAgain : FetchExn → Option (Option PyFloat)
  | .retryable _ asked => some asked
  | _ => none

/-- `_request_once`, `_require_success`, `_follow` and `_attempt` of one call. -/
def client (call : FetchCall) : Client FetchExn where
  headers := requestHeaders call
  refused := transportError
  resolve := resolve libraries call
  statusError := statusError libraries
  tooManyRedirects :=
    .fetchError
      { message := s!"Liiga palju ümbersuunamisi (üle {MAX_REDIRECTS}).", failure := .redirect }
  failed := .fetchError { message := "Päring ebaõnnestus." }
  uncaught := .uncaught
  asksAgain := asksAgain
  maxRedirects := MAX_REDIRECTS
  maxAttempts := MAX_ATTEMPTS

def fetch {σ : Type} (serve : σ → Request → Except RequestException Response × σ) (call : FetchCall)
    (url : String) :
    Proc FetchExn (Wire σ) FetchResult := do
  let _ ← Proc.ofExcept ((requireAllowedUrl libraries call.allowedHosts url).mapError .fetchError)
  let response ← (client libraries call).attempts serve url
  closing (Proc.ofExcept (fetchResult libraries call response))

end Fetch

/-! ## What a fetch may do -/

/-- HTTPS, on a named host of the list. -/
def Confined (libraries : NetLibraries) (allowedHosts : List String) (url : String) : Prop :=
  ∃ parts name, urlparse libraries url = some parts ∧ lowerScheme parts.scheme = "https" ∧
    parts.hostname = some name ∧ bareHost libraries name ∈ allowedHosts ∧
    bareHost libraries name ∉ BLOCKED_HOSTNAMES ∧
    libraries.ipAddress (unbracketed (bareHost libraries name)) = none

/-- What the last response has to look like for its body to be returned. -/
structure ReadOff (call : FetchCall) (response : Response) (result : FetchResult) : Prop where
  status : result.statusCode = response.statusCode
  final : isRedirect response = false ∧ response.statusCode < 400
  /-- An unchanged resource has no body. -/
  unchanged : response.statusCode = 304 → result.content = []
  whole : response.statusCode ≠ 304 → response.broken = none ∧
    result.content = response.chunks.flatten ∧
    result.content ≠ [] ∧ ∀ types, call.expectedContentTypes = some types →
    result.contentType ∈ types
  capped : result.content.length ≤ call.maxBytes

/-- What makes another exception than the module's own escape: a redirection that cannot be joined,
digits that are no number, or a delay that cannot be slept before the next attempt. -/
def Slips (libraries : NetLibraries) (call : FetchCall) (attempt : Nat)
    (exchange : Request × Except RequestException Response) : Prop :=
  ∃ response, exchange.2 = .ok response ∧
    if isRedirect response then
      ∃ location, response.headers "Location" = some location ∧ location ≠ "" ∧
        libraries.urljoin exchange.1.url location = none
    else if response.statusCode < 400 then
      response.statusCode ≠ 304 ∧ call.expectedContentTypes.any
        (contentType libraries response ∉ ·) = false ∧
        ∃ error, declaredSize libraries response = .error error
    else
      response.statusCode ∈ RETRYABLE_STATUSES ∧ attempt + 1 < MAX_ATTEMPTS ∧
        (delayFor (retryAfter libraries response) attempt).sleepError ≠ none

structure FetchContract {σ : Type} (libraries : NetLibraries) (call : FetchCall)
    (out : Except FetchExn FetchResult)
    (wire : Wire σ) : Prop where
  /-- Nothing is asked for but HTTPS addresses of the listed hosts, and always with the same
  headers. -/
  confined : ∀ exchange ∈ wire.exchanges,
    Confined libraries call.allowedHosts exchange.1.url ∧ exchange.1.headers = requestHeaders call
  bounded : wire.exchanges.length ≤ MAX_ATTEMPTS * (MAX_REDIRECTS + 1)
  /-- No server makes the client wait long, or often. -/
  pauses : wire.pauses.length < MAX_ATTEMPTS ∧
    ∀ delay ∈ wire.pauses, ∃ value, delay = .finite value ∧ 0 ≤ value ∧
    value ≤ MAX_RETRY_SLEEP_SECONDS
  closed : wire.unclosed = 0
  result : ∀ result, out = .ok result → ∃ request response,
    wire.exchanges.getLast? = some (request, .ok response) ∧ ReadOff call response result
  escapes : (∃ error, out = .error (.uncaught error)) ↔
    ∃ exchange, wire.exchanges.getLast? = some exchange ∧
    Slips libraries call wire.pauses.length exchange

/-! ## The client -/

section Reports

variable {libraries : NetLibraries} {call : FetchCall}

theorem confined_of_requireAllowedUrl {allowedHosts : List String} {url host : String}
    (h : requireAllowedUrl libraries allowedHosts url = .ok host) :
      Confined libraries allowedHosts url := by
  unfold requireAllowedUrl notAllowed at h
  split at h
  · cases h
  · rename_i parts hparts
    dsimp only at h
    split at h
    · cases h
    · rename_i hscheme
      split at h
      · cases h
      · rename_i hname
        split at h
        · cases h
        · rename_i hblocked
          split at h
          · cases h
          · rename_i haddress
            split at h
            · cases h
            · rename_i hlisted
              cases hhost : parts.hostname with
              | none => exact absurd (by rw [hhost]; rfl) hname
              | some name =>
                rw [hhost, Option.getD_some] at hblocked haddress hlisted
                exact ⟨parts, name, hparts, not_not.mp hscheme, hhost, not_not.mp hlisted, hblocked,
                  by simpa using haddress⟩

theorem asksAgain_statusError {response : Response} :
    asksAgain (statusError libraries response) =
      if response.statusCode ∈ RETRYABLE_STATUSES then
        some (retryAfter libraries response) else none := by
  have hplain {status : Nat} (h : response.statusCode = status)
      (hfinal : status ∉ RETRYABLE_STATUSES) :
      none = if response.statusCode ∈ RETRYABLE_STATUSES then
        some (retryAfter libraries response) else none := by
    rw [if_neg (by rw [h]; exact hfinal)]
  unfold statusError
  dsimp only
  split
  · rename_i h
    exact hplain h (by decide)
  · split
    · rename_i h
      cases h with
      | inl h => exact hplain h (by decide)
      | inr h => exact hplain h (by decide)
    · split
      · rename_i h
        rw [if_pos (by rw [h]; decide)]
        rfl
      · split
        · rfl
        · rfl

theorem reports (libraries : NetLibraries) (call : FetchCall) :
    (client libraries call).Reports libraries (Confined libraries call.allowedHosts) where
  resolve := by
    intro current response next h
    unfold client resolve at h
    dsimp only at h
    split at h
    · cases h
    · split at h
      · cases h
      · split at h
        · cases h
        · split at h
          · cases h
          · rename_i hallowed
            cases h
            exact confined_of_requireAllowedUrl hallowed
  resolve_final := by
    intro current response error h
    unfold client resolve at h
    dsimp only at h
    split at h
    · cases h
      rfl
    · split at h
      · cases h
        rfl
      · split at h
        · cases h
          rfl
        · split at h
          · cases h
            rfl
          · cases h
  refused := by
    intro error
    show asksAgain (transportError error) = some none
    unfold transportError
    split
    · rfl
    · rfl
  statusError := by
    intro response asked h
    have h' : asksAgain (statusError libraries response) = some asked := h
    rw [asksAgain_statusError] at h'
    split at h'
    · exact (Option.some.inj h').symm
    · cases h'
  statusError_own := by
    intro response error h
    have h' : statusError libraries response = .uncaught error := h
    unfold statusError at h'
    dsimp only at h'
    repeat' split at h'
    all_goals cases h'
  tooMany := ⟨rfl, fun _ h => by cases h⟩
  uncaught := fun _ => rfl
  attempts := Nat.zero_lt_succ 2

/-- What escapes on the way to the last response. -/
theorem client_slips_iff {attempt : Nat} {exchange : Request × Except RequestException Response} :
    (client libraries call).Slips attempt exchange ↔ ∃ response, exchange.2 = .ok response ∧
      if isRedirect response then
        ∃ location, response.headers "Location" = some location ∧ location ≠ "" ∧
          libraries.urljoin exchange.1.url location = none
      else response.statusCode ∈ RETRYABLE_STATUSES ∧ attempt + 1 < MAX_ATTEMPTS ∧
        (delayFor (retryAfter libraries response) attempt).sleepError ≠ none := by
  unfold Client.Slips
  refine exists_congr fun response => and_congr_right fun _ => ?_
  split
  · show (∃ error, resolve libraries call exchange.1.url response = .error (.uncaught error)) ↔ _
    unfold resolve
    constructor
    · rintro ⟨error, h⟩
      split at h
      · cases h
      · rename_i location hlocation
        split at h
        · cases h
        · rename_i hne
          split at h
          · rename_i hjoined
            exact ⟨location, hlocation, hne, hjoined⟩
          · split at h
            · cases h
            · cases h
    · rintro ⟨location, hlocation, hne, hjoined⟩
      exact ⟨.valueError, by rw [hlocation]; dsimp only; rw [if_neg hne, hjoined]⟩
  · show (400 ≤ response.statusCode ∧ attempt + 1 < MAX_ATTEMPTS ∧ ∃ asked,
      asksAgain (statusError libraries response) = some asked ∧
      (delayFor asked attempt).sleepError ≠ none) ↔ _
    rw [asksAgain_statusError]
    constructor
    · rintro ⟨-, hmore, asked, hasked, hfails⟩
      split at hasked
      · rename_i hretryable
        cases hasked
        exact ⟨hretryable, hmore, hfails⟩
      · cases hasked
    · rintro ⟨hretryable, hmore, hfails⟩
      have hstatus : ∀ status ∈ RETRYABLE_STATUSES, 400 ≤ status := by decide
      exact ⟨hstatus _ hretryable, hmore, _, if_pos hretryable, hfails⟩

end Reports

/-! ## The contract -/

theorem readChunks_eq_ok {maxBytes : Nat} {broken : Option RequestException}
    {content out : List UInt8} {chunks : List (List UInt8)} (hcontent : content.length ≤ maxBytes)
    (h : readChunks maxBytes broken content chunks = .ok out) :
    broken = none ∧ out = content ++ chunks.flatten ∧ out.length ≤ maxBytes := by
  induction chunks generalizing content with
  | nil =>
    unfold readChunks at h
    split at h
    · cases h
      exact ⟨rfl, (List.append_nil _).symm, hcontent⟩
    · cases h
  | cons chunk rest ih =>
    unfold readChunks at h
    split at h
    · cases h
    · rename_i hfits
      obtain ⟨hbroken, hout, hlength⟩ := ih (by omega) h
      refine ⟨hbroken, ?_, hlength⟩
      rw [hout, List.flatten_cons, List.append_assoc]

section Contract

variable {libraries : NetLibraries} {call : FetchCall}

theorem readOff_of_fetchResult {response : Response} {result : FetchResult}
    (hfinal : isRedirect response = false ∧ response.statusCode < 400)
    (h : fetchResult libraries call response = .ok result) : ReadOff call response result := by
  unfold fetchResult at h
  split at h
  · rename_i hunchanged
    cases h
    exact ⟨hunchanged.symm, hfinal, fun _ => rfl, fun hne => absurd hunchanged hne, Nat.zero_le _⟩
  · rename_i hchanged
    dsimp only at h
    split at h
    · cases h
    · rename_i htypes
      split at h
      · cases h
      · split at h
        · cases h
        · split at h
          · cases h
          · rename_i content hcontent
            split at h
            · cases h
            · rename_i hnonempty
              cases h
              obtain ⟨hbroken, hall, hlength⟩ := readChunks_eq_ok (Nat.zero_le _) hcontent
              refine ⟨rfl, hfinal, fun h => absurd h hchanged, fun _ =>
                ⟨hbroken, ?_, hnonempty, ?_⟩, hlength⟩
              · rw [hall, List.nil_append, List.flatten_filter_ne_nil]
              · intro types hexpected
                rw [hexpected] at htypes
                simpa using htypes

/-- The reader itself only lets a `Content-Length` escape. -/
theorem fetchResult_uncaught_iff {response : Response}
    (hfinal : isRedirect response = false ∧ response.statusCode < 400) (attempt : Nat)
    (request : Request) :
    (∃ error, fetchResult libraries call response = .error (.uncaught error)) ↔
      Slips libraries call attempt (request, .ok response) := by
  have hslips : Slips libraries call attempt (request, .ok response) ↔
      response.statusCode ≠ 304 ∧ call.expectedContentTypes.any
        (contentType libraries response ∉ ·) = false ∧
        ∃ error, declaredSize libraries response = .error error := by
    unfold Slips
    constructor
    · rintro ⟨other, hother, hslip⟩
      cases hother
      rw [if_neg (by rw [hfinal.1]; exact Bool.false_ne_true), if_pos hfinal.2] at hslip
      exact hslip
    · intro hslip
      refine ⟨response, rfl, ?_⟩
      rw [if_neg (by rw [hfinal.1]; exact Bool.false_ne_true), if_pos hfinal.2]
      exact hslip
  rw [hslips]
  unfold fetchResult
  split
  · rename_i hunchanged
    exact iff_of_false (by rintro ⟨error, h⟩; cases h) fun h => h.1 hunchanged
  · rename_i hchanged
    dsimp only
    split
    · rename_i htypes
      exact iff_of_false (by rintro ⟨error, h⟩; cases h) fun h => by
        rw [htypes] at h; exact Bool.noConfusion h.2.1
    · rename_i htypes
      split
      · rename_i error hdeclared
        exact iff_of_true ⟨error, rfl⟩ ⟨hchanged, by simpa using htypes, error, hdeclared⟩
      · rename_i declared hdeclared
        have hright : ¬ ∃ error, declaredSize libraries response = .error error := by
          rintro ⟨error, herror⟩
          cases hdeclared.symm.trans herror
        refine iff_of_false ?_ fun h => hright h.2.2
        rintro ⟨error, h⟩
        split at h
        · cases h
        · split at h
          · cases h
          · split at h
            · cases h
            · cases h

/-- Before the body is read, the client's slips are all there are. -/
theorem slips_iff_of_unread {attempt : Nat} {exchange : Request × Except RequestException Response}
    (h : Unread exchange) : Slips libraries call attempt exchange ↔
    (client libraries call).Slips attempt exchange := by
  rw [client_slips_iff]
  unfold Slips
  refine exists_congr fun response => and_congr_right fun hresponse => ?_
  cases h response hresponse with
  | inl hredirect => rw [if_pos hredirect, if_pos hredirect]
  | inr hstatus =>
    split
    · exact Iff.rfl
    · rw [if_neg (by omega)]

/-- A fetch keeps its contract whatever the server answers, and is then done with every response. -/
theorem fetch_contract {σ : Type} (libraries : NetLibraries)
    (serve : σ → Request → Except RequestException Response × σ) (call : FetchCall) (url : String)
    (server : σ) :
    let ended := fetch libraries serve call url (Wire.fresh server)
    FetchContract libraries call ended.1 ended.2 := by
  refine Proc.wp.outcome ?_
  unfold fetch
  rw [Proc.wp_bind]
  refine Proc.wp_ofExcept (fun host hallowed => ?_) fun error hrefused => ?_
  · have hurl : Confined libraries call.allowedHosts url := by
      cases hrequired : requireAllowedUrl libraries call.allowedHosts url with
      | ok host' => exact confined_of_requireAllowedUrl hrequired
      | error error =>
        rw [hrequired] at hallowed
        cases hallowed
    rw [Proc.wp_bind]
    refine Proc.wp_mono (wp_attempts (reports libraries call) hurl)
      (fun response wire hobtained => ?_) fun error wire hgivenUp => ?_
    · obtain ⟨n, hn, number, hnumber, hanswered⟩ := hobtained
      obtain ⟨request, hlast⟩ := hanswered.last
      have hclosed : wire.unclosed - 1 = 0 := by rw [hanswered.unclosed]
      have hescapes :=
        @fetchResult_uncaught_iff libraries call response hanswered.final number request
      have honly : (∃ exchange, wire.exchanges.getLast? = some exchange ∧
          Slips libraries call wire.pauses.length exchange) ↔
          Slips libraries call number (request, .ok response) := by
        rw [hanswered.attempts]
        constructor
        · rintro ⟨exchange, hexchange, hslip⟩
          cases hlast.symm.trans hexchange
          exact hslip
        · exact fun hslip => ⟨_, hlast, hslip⟩
      refine wp_closing (Proc.wp_ofExcept (fun result hresult => ?_) fun error herror => ?_)
      · refine ⟨hanswered.approved, hanswered.requests ▸ hn,
          ⟨hanswered.attempts ▸ hnumber, hanswered.pauses⟩, hclosed,
          ?_, ?_⟩
        · rintro other hother
          cases hother
          exact ⟨request, response, hlast, readOff_of_fetchResult hanswered.final hresult⟩
        · refine iff_of_false (by rintro ⟨error, h⟩; cases h) fun hslip => ?_
          obtain ⟨error, herror⟩ := hescapes.mpr (honly.mp hslip)
          cases hresult.symm.trans herror
      · refine ⟨hanswered.approved, hanswered.requests ▸ hn,
          ⟨hanswered.attempts ▸ hnumber, hanswered.pauses⟩, hclosed,
          ?_, ?_⟩
        · rintro result hresult
          cases hresult
        · refine Iff.trans ?_ (hescapes.trans honly.symm)
          rw [herror]
    · obtain ⟨n, hn, hgivenUp⟩ := hgivenUp
      refine ⟨hgivenUp.onRecord.approved, hgivenUp.onRecord.requests ▸ hn,
        ⟨hgivenUp.attempts, hgivenUp.onRecord.pauses⟩, hgivenUp.unclosed, ?_, ?_⟩
      · rintro result hresult
        cases hresult
      · have hslips : (∃ exchange, wire.exchanges.getLast? = some exchange ∧
            Slips libraries call wire.pauses.length exchange) ↔
            ∃ exchange, wire.exchanges.getLast? = some exchange ∧
              (client libraries call).Slips wire.pauses.length exchange :=
          exists_congr fun exchange => and_congr_right fun hlast =>
            slips_iff_of_unread (hgivenUp.unread exchange hlast)
        rw [hslips, ← hgivenUp.escapes]
        constructor
        · rintro ⟨uncaught, h⟩
          exact ⟨uncaught, Except.error.inj h⟩
        · rintro ⟨uncaught, h⟩
          exact ⟨uncaught, congrArg Except.error h⟩
  · -- nothing has been asked for
    refine ⟨fun _ h => (List.not_mem_nil h).elim, Nat.zero_le _,
      ⟨(by decide : 0 < MAX_ATTEMPTS), fun _ h => (List.not_mem_nil h).elim⟩, rfl, ?_, ?_⟩
    · rintro result hresult
      cases hresult
    · refine iff_of_false ?_ fun hslip => ?_
      · rintro ⟨uncaught, h⟩
        cases h
        cases hrequired : requireAllowedUrl libraries call.allowedHosts url with
        | ok host =>
          rw [hrequired] at hrefused
          cases hrefused
        | error error =>
          rw [hrequired] at hrefused
          cases hrefused
      · obtain ⟨exchange, hexchange, -⟩ := hslip
        cases hexchange

end Contract

end PublicHttp

end Dashkoda.Core
