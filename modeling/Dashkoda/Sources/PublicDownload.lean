import Dashkoda.Core.Client
import Dashkoda.Lib.QueryString

/-!
# Downloading one configured workbook

The configured link has to live on a sharing host.  Redirections may lead anywhere that has a name,
over HTTPS.  The body is streamed to a file up to a cap, and the file stays only if it is a workbook
package.
-/

open Lib

namespace Dashkoda.Sources

namespace Download

open Core (Uncaught)
open Core.Transport

def ALLOWED_HOST_DOMAINS : List String :=
  ["sharepoint.com", "onedrive.com", "onedrive.live.com", "1drv.ms"]

def DOWNLOAD_QUERY_PARAMETER : String := "download"

def DOWNLOAD_QUERY_VALUE : String := "1"

def MAX_REDIRECTS : Nat := 5

def MAX_ATTEMPTS : Nat := 3

def REJECTED_CONTENT_TYPES : List String :=
  ["text/html", "text/plain", "text/xml", "application/json", "application/xhtml+xml",
    "application/xml"]

def ZIP_LOCAL_FILE_SIGNATURE : List UInt8 := [0x50, 0x4B, 0x03, 0x04]

def REQUIRED_XLSX_MEMBERS : List String := ["[Content_Types].xml", "xl/workbook.xml"]

/-- `RetryablePublicDownloadError` is a `PublicDownloadError`; anything else is not the module's
own. -/
inductive TransferExn
  | downloadError (message : String)
  | retryable (message : String) (retryAfter : Option PyFloat)
  | uncaught (error : Uncaught)
  deriving DecidableEq

/-- `PublicUrlNotConfigured` is about the configured link. -/
inductive DownloadExn
  | notConfigured (message : String)
  | transfer (error : TransferExn)
  deriving DecidableEq

structure WorkbookSource where
  urlSetting : String
  maxDownloadBytes : Nat
  userAgent : String

/-- What `zipfile` finds in a file: `none` is a `BadZipFile`. -/
structure DownloadLibraries extends NetLibraries where
  sha256 : List UInt8 → String
  isZipfile : List UInt8 → Bool
  namelist : List UInt8 → Except Uncaught (Option (List String))

structure PublicDownload where
  sizeBytes : Nat
  sha256 : String
  contentType : String
  finalHost : String
  deriving DecidableEq

/-- The connection, and the file at the destination. -/
structure Desk (σ : Type) where
  wire : Wire σ
  destination : Option (List UInt8)

section Urls

variable (libraries : DownloadLibraries)

def isAllowedHost (hostname : String) : Bool :=
  ALLOWED_HOST_DOMAINS.any fun domain =>
    hostname = domain || ('.' :: domain.toList).isSuffixOf hostname.toList

/-- `_require_routable_hostname`: the message of the refusal. -/
def requireRoutableHostname (host : String) : Except String Unit :=
  if host ∈ BLOCKED_HOSTNAMES then .error "Kohalikule hostile ei laadita alla."
  else match libraries.ipAddress (unbracketed host) with
    | none => .ok ()
    | some true => .error "IP-aadressile ei laadita alla."
    | some false => .error "Kohalikule või privaatvõrgu aadressile ei laadita alla."

def validatePublicUrl (source : WorkbookSource) (url : String) : Except String String :=
  match urlparse libraries.toNetLibraries url with
  | none => .error s!"{source.urlSetting} ei ole kehtiv URL."
  | some parts =>
    if lowerScheme parts.scheme ≠ "https" then .error s!"{source.urlSetting} peab kasutama HTTPS-i."
    else
      let name := parts.hostname.getD ""
      if name = "" then .error s!"{source.urlSetting}-il puudub hostinimi."
      else
        let host := bareHost libraries.toNetLibraries name
        match requireRoutableHostname libraries host with
        | .error message => .error message
        | .ok () =>
          if isAllowedHost host then .ok host
          else .error
            s!"{source.urlSetting} peab viitama Microsofti OneDrive'i või SharePointi hostile."

/-- The path as `urlparse` and `urlunparse` hand it on: a semicolon with nothing after it is
dropped. -/
def unparsedPath (path : List Char) : List Char :=
  let front := (path.reverse.dropWhile (· ≠ '/')).reverse
  let last := (path.reverse.takeWhile (· ≠ '/')).reverse
  let params := (last.dropWhile (· ≠ ';')).tail
  front ++ if params = [] then last.takeWhile (· ≠ ';') else last

/-- The fields of a query but the download parameter, and that one at the end. -/
def downloadQuery (query : List Char) : List (String × String) :=
  (QueryString.parseAll query).filter (libraries.classes.lower ·.1 ≠ DOWNLOAD_QUERY_PARAMETER) ++
    [(DOWNLOAD_QUERY_PARAMETER, DOWNLOAD_QUERY_VALUE)]

/-- `build_download_url`; `none` is the `ValueError` of `urlparse`. -/
def buildDownloadUrl (url : String) : Option String :=
  (Url.urlsplit libraries.netlocCheck url.toList).map fun parts =>
    String.ofList (Url.urlunsplit
      { parts with
        path := unparsedPath parts.path
        query := QueryString.urlencode (downloadQuery libraries parts.query) })

end Urls

/-! ## The address of the download -/

section Addresses

variable {libraries : DownloadLibraries}

/-- HTTPS, on a host with a name. -/
def Routable (libraries : NetLibraries) (url : String) : Prop :=
  ∃ parts name, urlparse libraries url = some parts ∧ lowerScheme parts.scheme = "https" ∧
    parts.hostname = some name ∧
    bareHost libraries name ∉ BLOCKED_HOSTNAMES ∧
    libraries.ipAddress (unbracketed (bareHost libraries name)) = none

theorem requireRoutableHostname_eq_ok {host : String}
    (h : requireRoutableHostname libraries host = .ok ()) :
    host ∉ BLOCKED_HOSTNAMES ∧ libraries.ipAddress (unbracketed host) = none := by
  unfold requireRoutableHostname at h
  split at h
  · cases h
  · rename_i hblocked
    split at h
    · rename_i haddress
      exact ⟨hblocked, haddress⟩
    · cases h
    · cases h

theorem unparsedPath_isStart (path : List Char) : unparsedPath path <+: path := by
  have hpath : (path.reverse.dropWhile (· ≠ '/')).reverse ++
      (path.reverse.takeWhile (· ≠ '/')).reverse = path := by
    rw [← List.reverse_append, List.takeWhile_append_dropWhile, List.reverse_reverse]
  unfold unparsedPath
  dsimp only
  split
  · refine List.IsPrefix.trans ((List.prefix_append_right_inj _).mpr (List.takeWhile_prefix _)) ?_
    rw [hpath]
  · rw [hpath]

theorem unparsedPath_unparsedPath (path : List Char) :
    unparsedPath (unparsedPath path) = unparsedPath path := by
  let front := (path.reverse.dropWhile (· ≠ '/')).reverse
  let last := (path.reverse.takeWhile (· ≠ '/')).reverse
  -- what is kept of the last segment is still the last segment
  have hsegments (kept : List Char) (hkept : ∀ c ∈ kept, c ∈ last) :
      ((front ++ kept).reverse.dropWhile (· ≠ '/')).reverse = front ∧
        ((front ++ kept).reverse.takeWhile (· ≠ '/')).reverse = kept := by
    have hnone : ∀ c ∈ kept.reverse, decide (c ≠ '/') = true := by
      intro c hc
      have hlast := hkept c (List.mem_reverse.mp hc)
      simpa using List.mem_takeWhile_imp (List.mem_reverse.mp hlast)
    have hfront : front.reverse.takeWhile (· ≠ '/') = [] ∧
        front.reverse.dropWhile (· ≠ '/') = front.reverse := by
      have hhead := List.head?_dropWhile_not (fun c : Char => decide (c ≠ '/')) path.reverse
      rw [List.reverse_reverse]
      cases hdrop : path.reverse.dropWhile (· ≠ '/') with
      | nil => exact ⟨rfl, rfl⟩
      | cons c rest =>
        rw [hdrop] at hhead
        have hc : ¬ decide (c ≠ '/') = true := by simpa using hhead
        exact ⟨List.takeWhile_cons_of_neg hc, List.dropWhile_cons_of_neg hc⟩
    rw [List.reverse_append, List.dropWhile_append_of_pos hnone, List.takeWhile_append_of_pos hnone,
      hfront.1, hfront.2,
      List.append_nil, List.reverse_reverse, List.reverse_reverse]
    exact ⟨rfl, rfl⟩
  have hagain (kept : List Char) (hkept : ∀ c ∈ kept, c ∈ last) : unparsedPath (front ++ kept) =
      front ++ if (kept.dropWhile (· ≠ ';')).tail = [] then kept.takeWhile (· ≠ ';') else kept := by
    unfold unparsedPath
    dsimp only
    rw [(hsegments kept hkept).1, (hsegments kept hkept).2]
  have hpath : unparsedPath path =
      front ++ if (last.dropWhile (· ≠ ';')).tail = [] then
        last.takeWhile (· ≠ ';') else last := rfl
  rw [hpath]
  split
  · have hdropped : (last.takeWhile (· ≠ ';')).dropWhile (· ≠ ';') = [] :=
      List.dropWhile_eq_nil_iff.mpr fun c hc => by simpa using List.mem_takeWhile_imp hc
    rw [hagain _ fun c hc => (List.takeWhile_subset _) hc, hdropped, List.tail_nil, if_pos rfl,
      List.takeWhile_takeWhile]
    simp
  · rename_i hparams
    rw [hagain last fun c hc => hc, if_neg hparams]

theorem scheme_eq_https {check : NetlocCheck} {url : List Char} {parts : SplitUrl}
    (h : Url.urlsplit check url = some parts)
    (hscheme : lowerScheme (String.ofList parts.scheme) = "https") :
    parts.scheme = ['h', 't', 't', 'p', 's'] := by
  unfold lowerScheme at hscheme
  rw [String.toList_ofList, Url.scheme_lower h] at hscheme
  exact String.ofList_injective hscheme

def downloadParts (libraries : DownloadLibraries) (parts : SplitUrl) : SplitUrl :=
  { parts with
    path := unparsedPath parts.path
    query := QueryString.urlencode (downloadQuery libraries parts.query) }

theorem wellFormed_downloadParts {parts : SplitUrl} (h : Url.WellFormed parts) :
    Url.WellFormed (downloadParts libraries parts) where
  scheme := h.scheme
  netloc := h.netloc
  path := by
    have hstart := unparsedPath_isStart parts.path
    refine ⟨?_, fun c hc => h.path.2 c (hstart.subset hc)⟩
    show unparsedPath parts.path = [] ∨ (unparsedPath parts.path).head? = some '/'
    cases hpath : unparsedPath parts.path with
    | nil => exact .inl rfl
    | cons c rest =>
      refine .inr ?_
      obtain ⟨suffix, hsuffix⟩ := hstart
      rw [hpath] at hsuffix
      cases h.path.1 with
      | inl hnil =>
        rw [hnil] at hsuffix
        cases hsuffix
      | inr hslash =>
        rw [← hsuffix] at hslash
        exact hslash
  query := by
    intro c hc
    rcases QueryString.mem_urlencode hc with hencoded | rfl | rfl
    · rintro rfl
      exact absurd hencoded (by decide)
    · decide
    · decide
  safe := by
    have hquery : ∀ c ∈ QueryString.urlencode (downloadQuery libraries parts.query),
        Url.isUnsafe c = false := by
      intro c hc
      have hencoded : ∀ c, Url.isUnsafe c = true → QueryString.isEncoded c = false ∧ c ≠ '=' ∧
          c ≠ '&' := by
        intro c hc
        unfold Url.isUnsafe at hc
        simp only [Bool.or_eq_true, decide_eq_true_eq] at hc
        rcases hc with (rfl | rfl) | rfl <;> decide
      cases hunsafe : Url.isUnsafe c with
      | false => rfl
      | true =>
        obtain ⟨hnot, hequals, hampersand⟩ := hencoded c hunsafe
        rcases QueryString.mem_urlencode hc with hc | hc | hc
        · rw [hnot] at hc
          cases hc
        · exact absurd hc hequals
        · exact absurd hc hampersand
    intro c hc
    have hsafe (h' : c ∈ parts.netloc ∨ c ∈ parts.path ∨ c ∈ parts.fragment) :
        Url.isUnsafe c = false := by
      refine h.safe c ?_
      rw [List.mem_append, List.mem_append, List.mem_append]
      rcases h' with h' | h' | h'
      · exact .inl h'
      · exact .inr (.inl h')
      · exact .inr (.inr (.inr h'))
    rw [List.mem_append, List.mem_append, List.mem_append] at hc
    rcases hc with hc | hc | hc | hc
    · exact hsafe (.inl hc)
    · exact hsafe (.inr (.inl ((unparsedPath_isStart parts.path).subset hc)))
    · exact hquery c hc
    · exact hsafe (.inr (.inr hc))

/-- What `urlparse` finds at an HTTPS address with a host. -/
theorem urlparse_https {libraries : NetLibraries} {url : String} {parsed : ParsedUrl}
    (h : urlparse libraries url = some parsed) (hscheme : lowerScheme parsed.scheme = "https")
    (hname : parsed.hostname.getD "" ≠ "") :
    ∃ parts, Url.urlsplit libraries.netlocCheck url.toList = some parts ∧ Url.WellFormed parts ∧
      libraries.netlocCheck.accepts parts.netloc = true ∧
      parsed.hostname = hostname libraries parts.netloc ∧
      parsed.scheme = "https" := by
  obtain ⟨parts, hparts, hparsed⟩ := Option.map_eq_some_iff.mp h
  rw [← hparsed] at hscheme hname
  have hhttps := scheme_eq_https hparts hscheme
  have hnetloc : parts.netloc ≠ [] := by
    intro hnil
    refine hname ?_
    dsimp only
    rw [hnil]
    rfl
  obtain ⟨hwell, haccepts⟩ := Url.wellFormed_of_urlsplit hparts hhttps hnetloc
  refine ⟨parts, hparts, hwell, haccepts, by rw [← hparsed], ?_⟩
  rw [← hparsed]
  dsimp only
  rw [hhttps]

/-- The first address differs from the configured one in its query, and in an empty parameter of its
path. -/
theorem buildDownloadUrl_spec {source : WorkbookSource} {url host : String}
    (h : validatePublicUrl libraries source url = .ok host) :
    ∃ parts target, Url.urlsplit libraries.netlocCheck url.toList = some parts ∧
      buildDownloadUrl libraries url = some target ∧
      Url.urlsplit libraries.netlocCheck target.toList = some (downloadParts libraries parts) ∧
      Url.WellFormed parts ∧ Routable libraries.toNetLibraries target := by
  unfold validatePublicUrl at h
  split at h
  · cases h
  · rename_i parsed hparsed
    split at h
    · cases h
    · rename_i hscheme
      dsimp only at h
      split at h
      · cases h
      · rename_i hname
        split at h
        · cases h
        · rename_i hroutable
          obtain ⟨hblocked, haddress⟩ := requireRoutableHostname_eq_ok hroutable
          obtain ⟨parts, hparts, hwell, haccepts, hhost, -⟩ :=
            urlparse_https hparsed (not_not.mp hscheme) hname
          have htarget : buildDownloadUrl libraries url =
              some (String.ofList (Url.urlunsplit (downloadParts libraries parts))) := by
            unfold buildDownloadUrl
            rw [hparts]
            rfl
          have hdownload : Url.WellFormed (downloadParts libraries parts) :=
            wellFormed_downloadParts hwell
          have hsplit : Url.urlsplit libraries.netlocCheck
              (Url.urlunsplit (downloadParts libraries parts)) =
              some (downloadParts libraries parts) := Url.urlsplit_urlunsplit hdownload haccepts
          refine ⟨parts, _, hparts, htarget, by rw [String.toList_ofList]; exact hsplit, hwell, ?_⟩
          obtain ⟨name, hsome⟩ : ∃ name, parsed.hostname = some name := by
            cases hhostname : parsed.hostname with
            | none => exact absurd (by rw [hhostname]; rfl) hname
            | some name => exact ⟨name, rfl⟩
          rw [hsome, Option.getD_some] at hblocked haddress
          refine ⟨{ scheme := "https", hostname := parsed.hostname }, name, ?_,
            (by decide : lowerScheme "https" = "https"),
            hsome, hblocked, haddress⟩
          unfold urlparse
          rw [String.toList_ofList, hsplit, Option.map_some, hhost]
          show some _ = some _
          rw [show (downloadParts libraries parts).scheme =
            ['h', 't', 't', 'p', 's'] from hwell.scheme]
          rfl

theorem downloadQuery_downloadQuery
    (hlower : libraries.classes.lower DOWNLOAD_QUERY_PARAMETER = DOWNLOAD_QUERY_PARAMETER)
    (query : List Char) :
    downloadQuery libraries (QueryString.urlencode (downloadQuery libraries query)) = downloadQuery
      libraries query := by
  unfold downloadQuery
  rw [QueryString.parseAll_urlencode, List.filter_append, List.filter_filter,
    List.filter_cons_of_neg (by simpa using hlower), List.filter_nil, List.append_nil]
  simp

/-- The address that is asked for is the configured one with its own query fields and the download
parameter, which occurs once; making it again changes nothing, and it is as valid as the configured
one. -/
theorem buildDownloadUrl_stable {source : WorkbookSource} {url host : String}
    (hlower : libraries.classes.lower DOWNLOAD_QUERY_PARAMETER = DOWNLOAD_QUERY_PARAMETER)
    (h : validatePublicUrl libraries source url = .ok host) :
    ∃ parts target parts', Url.urlsplit libraries.netlocCheck url.toList = some parts ∧
      buildDownloadUrl libraries url = some target ∧
      Url.urlsplit libraries.netlocCheck target.toList = some parts' ∧
      (parts'.scheme, parts'.netloc, parts'.fragment) =
        (parts.scheme, parts.netloc, parts.fragment) ∧
      QueryString.parseAll parts'.query =
        (QueryString.parseAll parts.query).filter
          (libraries.classes.lower ·.1 ≠ DOWNLOAD_QUERY_PARAMETER) ++
          [(DOWNLOAD_QUERY_PARAMETER, DOWNLOAD_QUERY_VALUE)] ∧
      buildDownloadUrl libraries target = some target ∧
      validatePublicUrl libraries source target = .ok host := by
  obtain ⟨parts, target, hparts, htarget, hsplit, hwell, -⟩ := buildDownloadUrl_spec h
  refine ⟨parts, target, _, hparts, htarget, hsplit, rfl, QueryString.parseAll_urlencode _, ?_, ?_⟩
  · have hagain : downloadParts libraries (downloadParts libraries parts) = downloadParts
        libraries parts := by
      unfold downloadParts
      dsimp only
      rw [unparsedPath_unparsedPath, downloadQuery_downloadQuery hlower]
    have hurl : target = String.ofList (Url.urlunsplit (downloadParts libraries parts)) := by
      unfold buildDownloadUrl at htarget
      rw [hparts] at htarget
      exact (Option.some.inj htarget).symm
    unfold buildDownloadUrl
    rw [hsplit]
    show some
      (String.ofList (Url.urlunsplit (downloadParts libraries (downloadParts libraries parts)))) = _
    rw [hagain, ← hurl]
  · have hsame : urlparse libraries.toNetLibraries target =
        urlparse libraries.toNetLibraries url := by
      unfold urlparse
      rw [hsplit, hparts]
      rfl
    rw [← h]
    unfold validatePublicUrl
    rw [hsame]

/-- A library without surprises. -/
def sampleLibraries : DownloadLibraries where
  classes := asciiClasses
  isdigit := Char.isDigit
  netlocCheck := ⟨fun _ => true, fun _ _ => rfl⟩
  urljoin _ url := some url
  ipAddress _ := none
  float _ := none
  sha256 _ := ""
  isZipfile _ := true
  namelist _ := .ok (some REQUIRED_XLSX_MEMBERS)

theorem buildDownloadUrl_stable_sample :
    ∃ parts target parts',
      Url.urlsplit sampleLibraries.netlocCheck
        "https://koda.sharepoint.com/a;?Download=0&b=".toList = some parts ∧
      buildDownloadUrl sampleLibraries "https://koda.sharepoint.com/a;?Download=0&b=" =
        some target ∧
      Url.urlsplit sampleLibraries.netlocCheck target.toList = some parts' ∧
      (parts'.scheme, parts'.netloc, parts'.fragment) =
        (parts.scheme, parts.netloc, parts.fragment) ∧
      QueryString.parseAll parts'.query =
        (QueryString.parseAll parts.query).filter
          (sampleLibraries.classes.lower ·.1 ≠ DOWNLOAD_QUERY_PARAMETER) ++
          [(DOWNLOAD_QUERY_PARAMETER, DOWNLOAD_QUERY_VALUE)] ∧
      buildDownloadUrl sampleLibraries target = some target ∧
      validatePublicUrl sampleLibraries
      { urlSetting := "URL", maxDownloadBytes := 10, userAgent := "" } target =
        .ok "koda.sharepoint.com" :=
  buildDownloadUrl_stable (by decide +kernel) (by rfl)

end Addresses

section Download

variable (libraries : DownloadLibraries)

/-- How `_request_once` reports what the transport raised. -/
def transportError (error : RequestException) : TransferExn :=
  if error.timeout then .retryable "Töövihiku allalaadimine aegus." none
  else .retryable s!"Ühendus ebaõnnestus: {error.name}." none

/-- How `_require_success` reports a status of 400 and above. -/
def statusError (response : Response) : TransferExn :=
  let status := response.statusCode
  if status = 404 then
    .downloadError "Jagamislink ei ole kättesaadav (404). Kontrolli, kas link on endiselt kehtiv."
  else if status = 401 ∨ status = 403 then
    .downloadError
      s!"Jagamislink keeldus ligipääsust ({status}). Anonüümne ligipääs võib olla tühistatud."
  else if status = 429 then
    .retryable "Microsoft piiras päringute sagedust (429)."
      (retryAfter libraries.toNetLibraries response)
  else if status ∈ RETRYABLE_STATUSES then
    .retryable s!"Microsoft vastas koodiga {status}." (retryAfter libraries.toNetLibraries response)
  else .downloadError s!"Töövihiku allalaadimine ebaõnnestus (kood {status})."

def validatedRedirectTarget (current location : String) : Except TransferExn String :=
  match libraries.urljoin current location with
  | none => .error (.downloadError "Ümbersuunamise sihtkoht ei ole kehtiv URL.")
  | some target => match urlparse libraries.toNetLibraries target with
    | none => .error (.downloadError "Ümbersuunamise sihtkoht ei ole kehtiv URL.")
    | some parts =>
      if lowerScheme parts.scheme ≠ "https" then
        .error (.downloadError "Ümbersuunamine HTTPS-ilt mujale ei ole lubatud.")
      else
        let name := parts.hostname.getD ""
        if name = "" then .error (.downloadError "Ümbersuunamise sihtkohal puudub hostinimi.")
        else match requireRoutableHostname libraries (bareHost libraries.toNetLibraries name) with
          | .error message => .error (.downloadError message)
          | .ok () => .ok target

def resolve (current : String) (response : Response) : Except TransferExn String :=
  match response.headers "Location" with
  | none => .error (.downloadError "Ümbersuunamine ei sisaldanud sihtkohta.")
  | some location =>
    if location = "" then .error (.downloadError "Ümbersuunamine ei sisaldanud sihtkohta.")
    else validatedRedirectTarget libraries current location

def asksAgain : TransferExn → Option (Option PyFloat)
  | .retryable _ asked => some asked
  | _ => none

/-- `_fetch`, `_follow`, `_request_once` and `_require_success` for one source. -/
def client (source : WorkbookSource) : Client TransferExn where
  headers := [("User-Agent", source.userAgent), ("Accept", "*/*")]
  refused := transportError
  resolve := resolve libraries
  statusError := statusError libraries
  tooManyRedirects := .downloadError s!"Liiga palju ümbersuunamisi (üle {MAX_REDIRECTS})."
  failed := .downloadError "Töövihiku allalaadimine ebaõnnestus."
  uncaught := .uncaught
  asksAgain := asksAgain
  maxRedirects := MAX_REDIRECTS
  maxAttempts := MAX_ATTEMPTS

/-- `_reject_by_content_type` and `_reject_declared_size` -/
def rejectResponse (source : WorkbookSource) (response : Response) : Except TransferExn Unit :=
  let type := contentType libraries.toNetLibraries response
  if type ∈ REJECTED_CONTENT_TYPES then
    .error (.downloadError (s!"Vastuseks tuli {type} asemel Exceli faili. " ++
      "Kontrolli, kas jagamislink lubab endiselt allalaadimist."))
  else match declaredSize libraries.toNetLibraries response with
    | .error error => .error (.uncaught error)
    | .ok declared =>
      if declared.any ((source.maxDownloadBytes : Int) < ·) then
        .error (.downloadError (s!"Töövihik on liiga suur: {declared.getD 0} baiti. " ++
          s!"Lubatud kuni {source.maxDownloadBytes} baiti."))
      else .ok ()

variable {σ : Type}

/-- One connection, whatever lies at the destination. -/
def onWire {α : Type} (x : Proc TransferExn (Wire σ) α) : Proc TransferExn (Desk σ) α :=
  Proc.onPart Desk.wire (fun wire desk => { desk with wire }) id x

/-- `handle.write(chunk)` -/
def write (chunk : List UInt8) : Proc TransferExn (Desk σ) Unit :=
  modify fun desk => { desk with destination := desk.destination.map (· ++ chunk) }

/-- The loop over the chunks, with what has been fed to the digest so far. -/
def streamChunks (limit : Nat) (broken : Option RequestException) :
    List UInt8 → List (List UInt8) → Proc TransferExn (Desk σ) (List UInt8)
  | digested, [] => match broken with
    | none => pure digested
    | some error =>
      throw (.downloadError (if error.timeout then "Töövihiku allalaadimine aegus."
        else s!"Allalaadimine katkes: {error.name}."))
  | digested, chunk :: rest =>
    if limit < digested.length + chunk.length then
      throw (.downloadError s!"Töövihik ületab lubatud suuruse ({limit} baiti).")
    else do
      write chunk
      streamChunks limit broken (digested ++ chunk) rest

/-- `_stream_to_file`: the size and the checksum. -/
def streamToFile (source : WorkbookSource) (response : Response) :
    Proc TransferExn (Desk σ) (Nat × String) := do
  modify fun desk => { desk with destination := some [] }
  let digested ← streamChunks source.maxDownloadBytes response.broken []
    (response.chunks.filter (· ≠ []))
  if digested.length = 0 then throw (.downloadError "Allalaaditud töövihik on tühi.")
  else pure (digested.length, libraries.sha256 digested)

/-- `_require_xlsx_package` -/
def requireXlsxPackage (bytes : List UInt8) (size : Nat) : Except TransferExn Unit :=
  if size = 0 then .error (.downloadError "Allalaaditud töövihik on tühi.")
  else if bytes.take ZIP_LOCAL_FILE_SIGNATURE.length ≠ ZIP_LOCAL_FILE_SIGNATURE then
    .error (.downloadError "Allalaaditud fail ei ole ZIP-pakend, seega ka mitte XLSX.")
  else if libraries.isZipfile bytes = false then
    .error (.downloadError "Allalaaditud ZIP-pakend on vigane.")
  else match libraries.namelist bytes with
    | .error error => .error (.uncaught error)
    | .ok none => .error (.downloadError "Allalaaditud ZIP-pakend on vigane.")
    | .ok (some names) =>
      let missing := REQUIRED_XLSX_MEMBERS.filter (· ∉ names)
      let listed := ", ".intercalate missing
      if missing = [] then .ok ()
      else
        .error (.downloadError s!"Allalaaditud ZIP-pakend ei ole XLSX töövihik: puuduvad {listed}.")

/-- `destination.unlink(missing_ok=True)` -/
def unlink : Proc TransferExn (Desk σ) Unit := modify fun desk => { desk with destination := none }

variable (serve : σ → Request → Except RequestException Response × σ) (source : WorkbookSource)

def receive (response : Response) : Proc TransferExn (Desk σ) ((Nat × String) × Response) := do
  Proc.ofExcept (rejectResponse libraries source response)
  let file ← streamToFile libraries source response
  return (file, response)

/-- `try: …  finally: response.close()` -/
def closingDesk {α : Type} (x : Proc TransferExn (Desk σ) α) : Proc TransferExn (Desk σ) α := do
  let a ← Proc.onError x fun _ => onWire close
  onWire close
  return a

def transfer (url : String) : Proc TransferExn (Desk σ) ((Nat × String) × Response) := do
  match buildDownloadUrl libraries url with
  | none => throw (.uncaught .valueError)
  | some target =>
    let response ← onWire ((client libraries source).attempts serve target)
    closingDesk (receive libraries source response)

/-- What is done once the link has been found valid. -/
def download (url : String) : Proc TransferExn (Desk σ) PublicDownload := do
  let received ← Proc.onError (transfer libraries serve source url) fun _ => unlink
  let desk ← get
  Proc.onError
    (Proc.ofExcept (requireXlsxPackage libraries (desk.destination.getD []) received.1.1))
      fun _ => unlink
  return {
    sizeBytes := received.1.1
    sha256 := received.1.2
    contentType := contentType libraries.toNetLibraries received.2
    finalHost := finalHost libraries.toNetLibraries received.2 }

/-- `download_public_workbook` of a configured link. -/
def downloadPublicWorkbook (url : String) : Proc DownloadExn (Desk σ) PublicDownload := do
  let _ ← Proc.ofExcept ((validatePublicUrl libraries source url).mapError .notConfigured)
  Proc.onPart id (fun desk _ => desk) .transfer (download libraries serve source url)

end Download

/-! ## What a download may do -/

/-- A file that is a workbook package. -/
structure IsPackage (libraries : DownloadLibraries) (bytes : List UInt8) : Prop where
  signature : bytes.take ZIP_LOCAL_FILE_SIGNATURE.length = ZIP_LOCAL_FILE_SIGNATURE
  isZipfile : libraries.isZipfile bytes = true
  members : ∃ names, libraries.namelist bytes = .ok (some names) ∧
    ∀ member ∈ REQUIRED_XLSX_MEMBERS, member ∈ names

/-- A response whose body goes to the destination whole. -/
structure Streams (libraries : DownloadLibraries) (source : WorkbookSource)
    (response : Response) : Prop where
  accepted : rejectResponse libraries source response = .ok ()
  whole : response.broken = none
  fits : response.chunks.flatten.length ≤ source.maxDownloadBytes
  nonempty : response.chunks.flatten ≠ []

/-- What makes another exception than the module's own escape: a delay that cannot be slept before
the next attempt, digits that are no number, or an archive that fails in an unexpected way. -/
def Slips (libraries : DownloadLibraries) (source : WorkbookSource) (attempt : Nat)
    (exchange : Request × Except RequestException Response) : Prop :=
  ∃ response, exchange.2 = .ok response ∧ isRedirect response = false ∧
    if response.statusCode < 400 then
      (contentType libraries.toNetLibraries response ∉ REJECTED_CONTENT_TYPES ∧
        ∃ error, declaredSize libraries.toNetLibraries response = .error error) ∨
      (Streams libraries source response ∧
        response.chunks.flatten.take ZIP_LOCAL_FILE_SIGNATURE.length = ZIP_LOCAL_FILE_SIGNATURE ∧
        libraries.isZipfile response.chunks.flatten = true ∧
        ∃ error, libraries.namelist response.chunks.flatten = .error error)
    else
      response.statusCode ∈ RETRYABLE_STATUSES ∧ attempt + 1 < MAX_ATTEMPTS ∧
        (delayFor (retryAfter libraries.toNetLibraries response) attempt).sleepError ≠ none

/-- What a download may ask of the servers. -/
structure Proper {σ : Type} (libraries : DownloadLibraries) (source : WorkbookSource)
    (wire : Wire σ) : Prop where
  /-- Nothing is asked for but HTTPS addresses of named hosts, and always with the same headers. -/
  confined : ∀ exchange ∈ wire.exchanges, Routable libraries.toNetLibraries exchange.1.url ∧
    exchange.1.headers = [("User-Agent", source.userAgent), ("Accept", "*/*")]
  bounded : wire.exchanges.length ≤ MAX_ATTEMPTS * (MAX_REDIRECTS + 1)
  pauses : wire.pauses.length < MAX_ATTEMPTS ∧
    ∀ delay ∈ wire.pauses, ∃ value, delay = .finite value ∧ 0 ≤ value ∧
    value ≤ MAX_RETRY_SLEEP_SECONDS
  closed : wire.unclosed = 0

structure DownloadContract {σ : Type} (libraries : DownloadLibraries) (source : WorkbookSource)
    (url : String) (before : Option (List UInt8)) (out : Except DownloadExn PublicDownload)
    (desk : Desk σ) : Prop where
  proper : Proper libraries source desk.wire
  /-- What is reported is what lies at the destination: the whole body of the last response. -/
  file : ∀ download, out = .ok download → ∃ request response, desk.wire.exchanges.getLast? =
    some (request, .ok response) ∧
    desk.destination = some response.chunks.flatten ∧ response.broken = none ∧
    download.sizeBytes = response.chunks.flatten.length ∧ download.sizeBytes ≤
      source.maxDownloadBytes ∧
    download.sha256 = libraries.sha256 response.chunks.flatten ∧
    IsPackage libraries response.chunks.flatten
  /-- A link that is not configured right is not asked for, and nothing is touched. -/
  configured : ∀ message, out = .error (.notConfigured message) ↔
    validatePublicUrl libraries source url = .error message
  untouched : ∀ message, out = .error (.notConfigured message) → desk.wire.exchanges = [] ∧
    desk.destination = before
  /-- After any other exception there is no file. -/
  nothing : ∀ error, out = .error (.transfer error) → desk.destination = none
  escapes : (∃ error, out = .error (.transfer (.uncaught error))) ↔
    ∃ exchange, desk.wire.exchanges.getLast? = some exchange ∧
    Slips libraries source desk.wire.pauses.length exchange

/-! ## The client -/

section Reports

variable {libraries : DownloadLibraries} {source : WorkbookSource}

theorem routable_of_validatedRedirectTarget {current location next : String}
    (h : validatedRedirectTarget libraries current location = .ok next) :
      Routable libraries.toNetLibraries next := by
  unfold validatedRedirectTarget at h
  split at h
  · cases h
  · split at h
    · cases h
    · rename_i target _ parts hparts
      split at h
      · cases h
      · rename_i hscheme
        dsimp only at h
        split at h
        · cases h
        · rename_i hname
          split at h
          · cases h
          · rename_i hroutable
            cases h
            obtain ⟨hblocked, haddress⟩ := requireRoutableHostname_eq_ok hroutable
            cases hhost : parts.hostname with
            | none => exact absurd (by rw [hhost]; rfl) hname
            | some name =>
              rw [hhost, Option.getD_some] at hblocked haddress
              exact ⟨parts, name, hparts, not_not.mp hscheme, hhost, hblocked, haddress⟩

/-- Every error of a redirection is the module's own. -/
theorem resolve_error {current : String} {response : Response} {error : TransferExn}
    (h : resolve libraries current response = .error error) :
      ∃ message, error = .downloadError message := by
  unfold resolve validatedRedirectTarget at h
  dsimp only at h
  split at h
  · cases h
    exact ⟨_, rfl⟩
  · split at h
    · cases h
      exact ⟨_, rfl⟩
    · split at h
      · cases h
        exact ⟨_, rfl⟩
      · split at h
        · cases h
          exact ⟨_, rfl⟩
        · split at h
          · cases h
            exact ⟨_, rfl⟩
          · split at h
            · cases h
              exact ⟨_, rfl⟩
            · split at h
              · cases h
                exact ⟨_, rfl⟩
              · cases h

theorem asksAgain_statusError {response : Response} :
    asksAgain (statusError libraries response) =
      if response.statusCode ∈ RETRYABLE_STATUSES then
        some (retryAfter libraries.toNetLibraries response) else none := by
  have hplain {status : Nat} (h : response.statusCode = status)
      (hfinal : status ∉ RETRYABLE_STATUSES) :
      none = if response.statusCode ∈ RETRYABLE_STATUSES then
        some (retryAfter libraries.toNetLibraries response)
        else none := by
    rw [if_neg (by rw [h]; exact hfinal)]
  unfold statusError
  dsimp only
  split
  · rename_i h
    exact hplain h (by decide)
  · split
    · rename_i h
      cases h with
      | inl h => exact hplain h (by decide)
      | inr h => exact hplain h (by decide)
    · split
      · rename_i h
        rw [if_pos (by rw [h]; decide)]
        rfl
      · split
        · rfl
        · rfl

theorem reports (libraries : DownloadLibraries) (source : WorkbookSource) :
    (client libraries source).Reports libraries.toNetLibraries
      (Routable libraries.toNetLibraries) where
  resolve := by
    intro current response next h
    have h' : resolve libraries current response = .ok next := h
    unfold resolve at h'
    split at h'
    · cases h'
    · split at h'
      · cases h'
      · exact routable_of_validatedRedirectTarget h'
  resolve_final := by
    intro current response error h
    obtain ⟨message, heq⟩ := resolve_error h
    rw [heq]
    rfl
  refused := by
    intro error
    show asksAgain (transportError error) = some none
    unfold transportError
    split
    · rfl
    · rfl
  statusError := by
    intro response asked h
    have h' : asksAgain (statusError libraries response) = some asked := h
    rw [asksAgain_statusError] at h'
    split at h'
    · exact (Option.some.inj h').symm
    · cases h'
  statusError_own := by
    intro response error h
    have h' : statusError libraries response = .uncaught error := h
    unfold statusError at h'
    dsimp only at h'
    repeat' split at h'
    all_goals cases h'
  tooMany := ⟨rfl, fun _ h => by cases h⟩
  uncaught := fun _ => rfl
  attempts := Nat.zero_lt_succ 2

/-- Before the body is read, a delay is all that escapes. -/
theorem slips_iff_of_unread {attempt : Nat} {exchange : Request × Except RequestException Response}
    (h : Unread exchange) : Slips libraries source attempt exchange ↔
    (client libraries source).Slips attempt exchange := by
  unfold Slips Client.Slips
  refine exists_congr fun response => and_congr_right fun hresponse => ?_
  cases hredirect : isRedirect response with
  | true =>
    rw [if_pos rfl]
    refine iff_of_false (fun h => Bool.noConfusion h.1) ?_
    rintro ⟨error, herror⟩
    obtain ⟨message, heq⟩ := resolve_error herror
    cases heq
  | false =>
    have hstatus : 400 ≤ response.statusCode := by
      cases h response hresponse with
      | inl hother => rw [hredirect] at hother; cases hother
      | inr hstatus => exact hstatus
    rw [if_neg (by omega), if_neg Bool.false_ne_true]
    show _ ↔ 400 ≤ response.statusCode ∧ attempt + 1 < MAX_ATTEMPTS ∧ ∃ asked,
      asksAgain (statusError libraries response) = some asked ∧
      (delayFor asked attempt).sleepError ≠ none
    rw [asksAgain_statusError]
    constructor
    · rintro ⟨-, hretryable, hmore, hfails⟩
      exact ⟨hstatus, hmore, _, if_pos hretryable, hfails⟩
    · rintro ⟨-, hmore, asked, hasked, hfails⟩
      split at hasked
      · rename_i hretryable
        cases hasked
        exact ⟨rfl, hretryable, hmore, hfails⟩
      · cases hasked

end Reports

/-! ## The file -/

section File

variable {libraries : DownloadLibraries} {source : WorkbookSource} {σ : Type}

/-- The digest is fed what is written. -/
theorem wp_streamChunks {limit : Nat} {broken : Option RequestException} {digested : List UInt8}
    (chunks : List (List UInt8)) {desk : Desk σ} (hdestination : desk.destination = some digested)
    (hfits : digested.length ≤ limit) :
    Proc.wp (streamChunks limit broken digested chunks)
      (fun out desk' => desk'.wire = desk.wire ∧ desk'.destination = some out ∧ broken = none ∧
        out = digested ++ chunks.flatten ∧ out.length ≤ limit)
      (fun error desk' => desk'.wire = desk.wire ∧ (∃ message, error = .downloadError message) ∧
        ¬ (broken = none ∧ (digested ++ chunks.flatten).length ≤ limit)) desk := by
  induction chunks generalizing digested desk with
  | nil =>
    unfold streamChunks
    split
    · exact ⟨rfl, hdestination, rfl, (List.append_nil digested).symm, hfits⟩
    · exact ⟨rfl, ⟨_, rfl⟩, fun h => nomatch h.1⟩
  | cons chunk rest ih =>
    unfold streamChunks
    split
    · rename_i hlarge
      refine ⟨rfl, ⟨_, rfl⟩, fun h => ?_⟩
      have hlength := h.2
      rw [List.flatten_cons, List.length_append, List.length_append] at hlength
      omega
    · rename_i hsmall
      rw [Proc.wp_bind]
      unfold write
      rw [Proc.wp_modify]
      have hwritten :
          ({ desk with destination := desk.destination.map (· ++ chunk) } : Desk σ).destination =
          some (digested ++ chunk) := by
        rw [hdestination]
        rfl
      have hrest := ih hwritten (by rw [List.length_append]; omega)
      rw [List.flatten_cons, ← List.append_assoc]
      exact hrest

theorem wp_streamToFile {response : Response} {desk : Desk σ} :
    Proc.wp (streamToFile libraries source response)
      (fun file desk' => desk'.wire = desk.wire ∧ desk'.destination = some response.chunks.flatten ∧
        response.broken = none ∧ response.chunks.flatten.length ≤ source.maxDownloadBytes ∧
        response.chunks.flatten ≠ [] ∧
        file = (response.chunks.flatten.length, libraries.sha256 response.chunks.flatten))
      (fun error desk' => desk'.wire = desk.wire ∧ (∃ message, error = .downloadError message) ∧
        ¬ (response.broken = none ∧ response.chunks.flatten.length ≤ source.maxDownloadBytes ∧
          response.chunks.flatten ≠ [])) desk := by
  unfold streamToFile
  rw [Proc.wp_bind, Proc.wp_modify, Proc.wp_bind]
  have hempty : ({ desk with destination := some [] } : Desk σ).destination = some [] := rfl
  have hstream := @wp_streamChunks _ source.maxDownloadBytes response.broken _
    (response.chunks.filter (· ≠ [])) _ hempty
    (Nat.zero_le _)
  rw [List.nil_append, List.flatten_filter_ne_nil] at hstream
  refine Proc.wp_mono hstream ?_ ?_
  · rintro out desk' ⟨hwire, hdestination, hbroken, hout, hlength⟩
    rw [hout] at hdestination hlength ⊢
    split
    · rename_i hempty
      exact ⟨hwire, ⟨_, rfl⟩, fun h => h.2.2 (List.length_eq_zero_iff.mp hempty)⟩
    · rename_i hnonempty
      exact ⟨hwire, hdestination, hbroken, hlength, fun hnil => hnonempty (by rw [hnil]; rfl), rfl⟩
  · rintro error desk' ⟨hwire, hown, hnot⟩
    exact ⟨hwire, hown, fun h => hnot ⟨h.1, h.2.1⟩⟩

theorem rejectResponse_error {response : Response} {error : TransferExn}
    (h : rejectResponse libraries source response = .error error) :
    (∃ uncaught, error = .uncaught uncaught) ↔
      contentType libraries.toNetLibraries response ∉ REJECTED_CONTENT_TYPES ∧
        ∃ uncaught, declaredSize libraries.toNetLibraries response = .error uncaught := by
  unfold rejectResponse at h
  dsimp only at h
  split at h
  · rename_i hrejected
    cases h
    exact iff_of_false (by rintro ⟨_, heq⟩; cases heq) fun h => h.1 hrejected
  · rename_i htype
    split at h
    · rename_i uncaught hdeclared
      cases h
      exact iff_of_true ⟨uncaught, rfl⟩ ⟨htype, uncaught, hdeclared⟩
    · rename_i declared hdeclared
      split at h
      · cases h
        refine iff_of_false (by rintro ⟨_, heq⟩; cases heq) ?_
        rintro ⟨-, uncaught, herror⟩
        cases hdeclared.symm.trans herror
      · cases h

theorem declaredSize_of_rejectResponse {response : Response}
    (h : rejectResponse libraries source response = .ok ()) :
    ¬ ∃ uncaught, declaredSize libraries.toNetLibraries response = .error uncaught := by
  rintro ⟨uncaught, hdeclared⟩
  unfold rejectResponse at h
  dsimp only at h
  split at h
  · cases h
  · rw [hdeclared] at h
    cases h

/-- What `receive` leaves while the response is open. -/
theorem wp_receive {response : Response} {desk : Desk σ} :
    Proc.wp (receive libraries source response)
      (fun out desk' => desk'.wire = desk.wire ∧ desk'.destination = some response.chunks.flatten ∧
        Streams libraries source response ∧
        out =
          ((response.chunks.flatten.length, libraries.sha256 response.chunks.flatten), response))
      (fun error desk' => desk'.wire = desk.wire ∧ ¬ Streams libraries source response ∧
        ((∃ uncaught, error = .uncaught uncaught) ↔
          contentType libraries.toNetLibraries response ∉ REJECTED_CONTENT_TYPES ∧
            ∃ uncaught, declaredSize libraries.toNetLibraries response =
              .error uncaught)) desk := by
  unfold receive
  rw [Proc.wp_bind]
  refine Proc.wp_ofExcept (fun _ haccepted => ?_) fun error herror => ?_
  · rw [Proc.wp_bind]
    refine Proc.wp_mono wp_streamToFile ?_ ?_
    · rintro file desk' ⟨hwire, hdestination, hbroken, hlength, hnonempty, hfile⟩
      exact ⟨hwire, hdestination, ⟨haccepted, hbroken, hlength, hnonempty⟩, by rw [hfile]⟩
    · rintro error desk' ⟨hwire, ⟨message, hown⟩, hnot⟩
      rw [hown]
      refine ⟨hwire, fun h => hnot ⟨h.whole, h.fits, h.nonempty⟩, ?_⟩
      exact iff_of_false (by rintro ⟨_, heq⟩; cases heq) fun h =>
        declaredSize_of_rejectResponse haccepted h.2
  · refine ⟨rfl, fun h => ?_, rejectResponse_error herror⟩
    cases h.accepted.symm.trans herror

theorem isPackage_of_requireXlsxPackage {bytes : List UInt8} {size : Nat}
    (h : requireXlsxPackage libraries bytes size = .ok ()) : IsPackage libraries bytes := by
  unfold requireXlsxPackage at h
  split at h
  · cases h
  · split at h
    · cases h
    · rename_i hsignature
      split at h
      · cases h
      · rename_i hzip
        split at h
        · cases h
        · cases h
        · rename_i names hnames
          dsimp only at h
          split at h
          · rename_i hmissing
            refine ⟨not_not.mp
              hsignature, by simpa using hzip, names, hnames, fun member hmember => ?_⟩
            have hkept := List.filter_eq_nil_iff.mp hmissing member hmember
            simpa using hkept
          · cases h

theorem requireXlsxPackage_error {bytes : List UInt8} {size : Nat} {error : TransferExn}
    (hsize : size ≠ 0)
    (h : requireXlsxPackage libraries bytes size = .error error) :
    (∃ uncaught, error = .uncaught uncaught) ↔
      bytes.take ZIP_LOCAL_FILE_SIGNATURE.length = ZIP_LOCAL_FILE_SIGNATURE ∧
      libraries.isZipfile bytes = true ∧
        ∃ uncaught, libraries.namelist bytes = .error uncaught := by
  unfold requireXlsxPackage at h
  rw [if_neg hsize] at h
  split at h
  · rename_i hsignature
    cases h
    exact iff_of_false (by rintro ⟨_, heq⟩; cases heq) fun h => hsignature h.1
  · rename_i hsignature
    split at h
    · rename_i hzip
      cases h
      refine iff_of_false (by rintro ⟨_, heq⟩; cases heq) fun h => ?_
      rw [hzip] at h
      exact Bool.noConfusion h.2.1
    · rename_i hzip
      have hknown : (∃ uncaught, libraries.namelist bytes = .error uncaught) ↔
          bytes.take ZIP_LOCAL_FILE_SIGNATURE.length = ZIP_LOCAL_FILE_SIGNATURE ∧
          libraries.isZipfile bytes = true ∧
            ∃ uncaught, libraries.namelist bytes = .error uncaught :=
        ⟨fun h => ⟨not_not.mp hsignature, by simpa using hzip, h⟩, fun h => h.2.2⟩
      rw [← hknown]
      split at h
      · rename_i uncaught hnames
        cases h
        exact iff_of_true ⟨uncaught, rfl⟩ ⟨uncaught, hnames⟩
      · rename_i hnames
        cases h
        refine iff_of_false (by rintro ⟨_, heq⟩; cases heq) ?_
        rintro ⟨uncaught, herror⟩
        cases hnames.symm.trans herror
      · rename_i names hnames
        dsimp only at h
        split at h
        · cases h
        · cases h
          refine iff_of_false (by rintro ⟨_, heq⟩; cases heq) ?_
          rintro ⟨uncaught, herror⟩
          cases hnames.symm.trans herror

end File

/-! ## The contract -/

section Contract

variable {libraries : DownloadLibraries} {source : WorkbookSource} {σ : Type}
  {serve : σ → Request → Except RequestException Response × σ}

/-- A response that was handed over slips by its length or by its archive. -/
theorem slips_iff_of_final {attempt : Nat} {request : Request} {response : Response}
    (hfinal : isRedirect response = false ∧ response.statusCode < 400) :
    Slips libraries source attempt (request, .ok response) ↔
      (contentType libraries.toNetLibraries response ∉ REJECTED_CONTENT_TYPES ∧
        ∃ error, declaredSize libraries.toNetLibraries response = .error error) ∨
      (Streams libraries source response ∧
        response.chunks.flatten.take ZIP_LOCAL_FILE_SIGNATURE.length = ZIP_LOCAL_FILE_SIGNATURE ∧
        libraries.isZipfile response.chunks.flatten = true ∧
        ∃ error, libraries.namelist response.chunks.flatten = .error error) := by
  unfold Slips
  constructor
  · rintro ⟨other, hother, -, hslip⟩
    cases hother
    rwa [if_pos hfinal.2] at hslip
  · intro hslip
    exact ⟨response, rfl, hfinal.1, by rw [if_pos hfinal.2]; exact hslip⟩

theorem last_slips_iff {wire : Wire σ} {attempt : Nat}
    {exchange : Request × Except RequestException Response}
    (hlast : wire.exchanges.getLast? = some exchange) :
    (∃ other, wire.exchanges.getLast? = some other ∧ Slips libraries source attempt other) ↔
      Slips libraries source attempt exchange := by
  constructor
  · rintro ⟨other, hother, hslip⟩
    cases hlast.symm.trans hother
    exact hslip
  · exact fun hslip => ⟨exchange, hlast, hslip⟩

/-- The transfer ends with the whole body at the destination, or raises. -/
theorem wp_transfer {url host : String} {server : σ} {before : Option (List UInt8)}
    (h : validatePublicUrl libraries source url = .ok host) :
    Proc.wp (transfer libraries serve source url)
      (fun out desk => Proper libraries source desk.wire ∧ ∃ request response,
        desk.wire.exchanges.getLast? = some (request, .ok response) ∧
        (isRedirect response = false ∧ response.statusCode < 400) ∧
        desk.destination = some response.chunks.flatten ∧ Streams libraries source response ∧
        out =
          ((response.chunks.flatten.length, libraries.sha256 response.chunks.flatten), response))
      (fun error desk => Proper libraries source desk.wire ∧
        ((∃ uncaught, error = .uncaught uncaught) ↔
          ∃ exchange, desk.wire.exchanges.getLast? = some exchange ∧
          Slips libraries source desk.wire.pauses.length exchange))
      { wire := Wire.fresh server, destination := before } := by
  obtain ⟨parts, target, -, htarget, -, -, hroutable⟩ := buildDownloadUrl_spec h
  unfold transfer
  rw [htarget]
  dsimp only
  rw [Proc.wp_bind]
  unfold onWire
  rw [Proc.wp_onPart]
  refine Proc.wp_mono (wp_attempts (reports libraries source) hroutable)
    (fun response wire hobtained => ?_)
    fun error wire hgivenUp => ?_
  · obtain ⟨n, hn, number, hnumber, hanswered⟩ := hobtained
    obtain ⟨request, hlast⟩ := hanswered.last
    have hproper : Proper libraries source { wire with unclosed := wire.unclosed - 1 } :=
      ⟨hanswered.approved, hanswered.requests ▸ hn,
        ⟨hanswered.attempts ▸ hnumber, hanswered.pauses⟩,
        by show wire.unclosed - 1 = 0; rw [hanswered.unclosed]⟩
    unfold closingDesk onWire close
    simp only [Proc.wp_bind, Proc.wp_onError, Proc.wp_onPart, Proc.wp_modify, Proc.wp_pure]
    refine Proc.wp_mono wp_receive ?_ ?_
    · rintro out desk' ⟨hwire, hdestination, hstreams, hout⟩
      rw [hwire]
      exact ⟨hproper, request, response, hlast, hanswered.final, hdestination, hstreams, hout⟩
    · rintro error desk' ⟨hwire, hnot, hescapes⟩
      rw [hwire]
      refine ⟨hproper, ?_⟩
      rw [hescapes, last_slips_iff hlast, slips_iff_of_final hanswered.final]
      exact ⟨Or.inl, fun hslip => hslip.elim id fun hstreams => absurd hstreams.1 hnot⟩
  · obtain ⟨n, hn, hgivenUp⟩ := hgivenUp
    refine ⟨⟨hgivenUp.onRecord.approved, hgivenUp.onRecord.requests ▸ hn,
      ⟨hgivenUp.attempts, hgivenUp.onRecord.pauses⟩, hgivenUp.unclosed⟩, ?_⟩
    have hslips : (∃ exchange, wire.exchanges.getLast? = some exchange ∧
        Slips libraries source wire.pauses.length exchange) ↔
        ∃ exchange, wire.exchanges.getLast? = some exchange ∧
          (client libraries source).Slips wire.pauses.length exchange :=
      exists_congr fun exchange => and_congr_right fun hlast =>
        slips_iff_of_unread (hgivenUp.unread exchange hlast)
    exact hgivenUp.escapes.trans hslips.symm

/-- A download keeps its contract whatever the servers answer. -/
theorem download_contract (libraries : DownloadLibraries)
    (serve : σ → Request → Except RequestException Response × σ) (source : WorkbookSource)
    (url : String) (server : σ)
    (before : Option (List UInt8)) :
    let ended := downloadPublicWorkbook libraries serve source url
      { wire := Wire.fresh server, destination := before }
    DownloadContract libraries source url before ended.1 ended.2 := by
  refine Proc.wp.outcome ?_
  unfold downloadPublicWorkbook
  rw [Proc.wp_bind]
  refine Proc.wp_ofExcept (fun host hvalid => ?_) fun error hrefused => ?_
  · have hok : validatePublicUrl libraries source url = .ok host := by
      cases hvalidated : validatePublicUrl libraries source url with
      | ok host' =>
        rw [hvalidated] at hvalid
        cases hvalid
        rfl
      | error message =>
        rw [hvalidated] at hvalid
        cases hvalid
    have hconfigured (out : Except DownloadExn PublicDownload)
        (h : ∀ message, out ≠ .error (.notConfigured message))
        (message : String) :
        out = .error (.notConfigured message) ↔
        validatePublicUrl libraries source url = .error message := by
      rw [hok]
      exact iff_of_false (h message) fun hother => nomatch hother
    rw [Proc.wp_onPart]
    unfold download unlink
    simp only [Proc.wp_bind, Proc.wp_onError, Proc.wp_modify]
    refine Proc.wp_mono (wp_transfer hok) ?_ ?_
    · rintro out desk ⟨hproper, request, response, hlast, hfinal, hdestination, hstreams, hout⟩
      rw [hout]
      rw [Proc.wp_get]
      dsimp only
      have hsize : response.chunks.flatten.length ≠ 0 := fun hzero =>
        hstreams.nonempty (List.length_eq_zero_iff.mp hzero)
      have hdeclared := declaredSize_of_rejectResponse hstreams.accepted
      rw [hdestination, Option.getD_some]
      refine Proc.wp_ofExcept (fun _ hpackage => ?_) fun error herror => ?_
      · have hispackage := isPackage_of_requireXlsxPackage hpackage
        refine ⟨hproper, ?_, hconfigured _ fun _ h => (nomatch h), fun _ h =>
          (nomatch h), fun _ h => (nomatch h), ?_⟩
        · rintro download hdownload
          cases hdownload
          exact ⟨request, response, hlast, hdestination, hstreams.whole, rfl, hstreams.fits,
            rfl, hispackage⟩
        · refine iff_of_false (by rintro ⟨_, h⟩; cases h) ?_
          rw [last_slips_iff hlast, slips_iff_of_final hfinal]
          rintro (⟨-, hbad⟩ | ⟨-, -, -, uncaught, hnames⟩)
          · exact hdeclared hbad
          · obtain ⟨names, hread, -⟩ := hispackage.members
            cases hread.symm.trans hnames
      · refine ⟨hproper, fun _ h => (nomatch h), hconfigured _ fun _ h => (nomatch h), fun _ h =>
          (nomatch h),
          fun _ _ => rfl, ?_⟩
        show _ ↔ ∃ exchange, desk.wire.exchanges.getLast? = some exchange ∧
          Slips libraries source desk.wire.pauses.length exchange
        rw [last_slips_iff hlast, slips_iff_of_final hfinal]
        have hescapes := requireXlsxPackage_error hsize herror
        constructor
        · rintro ⟨uncaught, h⟩
          cases h
          exact .inr ⟨hstreams, hescapes.mp ⟨uncaught, rfl⟩⟩
        · rintro (⟨-, hbad⟩ | ⟨-, harchive⟩)
          · exact absurd hbad hdeclared
          · obtain ⟨uncaught, heq⟩ := hescapes.mpr harchive
            exact ⟨uncaught, by rw [heq]⟩
    · rintro error desk ⟨hproper, hescapes⟩
      refine ⟨hproper, fun _ h => (nomatch h), hconfigured _ fun _ h => (nomatch h), fun _ h =>
        (nomatch h),
        fun _ _ => rfl, ?_⟩
      refine Iff.trans ?_ hescapes
      constructor
      · rintro ⟨uncaught, h⟩
        cases h
        exact ⟨uncaught, rfl⟩
      · rintro ⟨uncaught, heq⟩
        exact ⟨uncaught, by rw [heq]⟩
  · -- nothing has been asked for
    cases hvalidated : validatePublicUrl libraries source url with
    | ok host =>
      rw [hvalidated] at hrefused
      cases hrefused
    | error message =>
      rw [hvalidated] at hrefused
      cases hrefused
      refine ⟨⟨fun _ h => (List.not_mem_nil h).elim, Nat.zero_le _,
        ⟨(by decide : 0 < MAX_ATTEMPTS), fun _ h => (List.not_mem_nil h).elim⟩, rfl⟩, fun _ h =>
          (nomatch h), ?_,
        fun _ _ => ⟨rfl, rfl⟩, fun _ h => (nomatch h), ?_⟩
      · intro other
        rw [hvalidated]
        constructor
        · intro h
          cases h
          rfl
        · intro h
          cases h
          rfl
      · refine iff_of_false (by rintro ⟨_, h⟩; cases h) ?_
        rintro ⟨exchange, hexchange, -⟩
        cases hexchange

end Contract

end Download

end Dashkoda.Sources
