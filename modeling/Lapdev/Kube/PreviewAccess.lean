import Lapdev.Http.HeaderReads
import Lapdev.Kube.PreviewRewriting
import Lapdev.Kube.PreviewUrls
import Lapdev.Tunnel.Message

/-!
# Access to previews

`handle_client_connection` of `kube/src/http_proxy.rs` reads a request, resolves the preview URL of
its host, asks whether the client may view it, and only then opens a tunnel to the service. What the
client sends reaches a service exactly if a preview URL that is not deleted names it and is public, or
the cookie of the request belongs to a member of the organization, the database answers, the headers
can be rewritten and the tunnel of the cluster is open (`handleClientConnection_cases`); everybody else
gets one error page, or nothing.
-/

namespace Lapdev

open RustStd RustStd.Utf8 Http Tunnel Sql

namespace PreviewUrlProxy

/-! ## Error pages -/

/-- Source: `http_proxy.rs`. -/
inductive ProxyError
  | invalidUrl (msg : Str)
  | notFound (msg : Str)
  | forbidden (msg : Str)
  | tunnelNotAvailable (msg : Str)
  | timeout (msg : Str)
  | networkError (msg : Str)
  | internal (msg : Str)
  deriving DecidableEq

/-- The status codes of the error pages. -/
inductive StatusCode
  | badRequest
  | forbidden
  | notFound
  | payloadTooLarge
  | internalServerError
  | badGateway
  | serviceUnavailable
  | gatewayTimeout
  deriving DecidableEq

/-- The status of an error page, as it is written. -/
def StatusCode.text : StatusCode → Str
  | badRequest => "400 Bad Request".toList
  | forbidden => "403 Forbidden".toList
  | notFound => "404 Not Found".toList
  | payloadTooLarge => "413 Payload Too Large".toList
  | internalServerError => "500 Internal Server Error".toList
  | badGateway => "502 Bad Gateway".toList
  | serviceUnavailable => "503 Service Unavailable".toList
  | gatewayTimeout => "504 Gateway Timeout".toList

/-- `escape_html`, of a character. -/
def escapeChar (ch : Char) : Str :=
  if ch = '&' then "&amp;".toList
  else if ch = '<' then "&lt;".toList
  else if ch = '>' then "&gt;".toList
  else if ch = '"' then "&quot;".toList
  else if ch = '\'' then "&#x27;".toList
  else [ch]

/-- Source: `common/src/error_page.rs`. -/
def escapeHtml (input : Str) : Str := input.flatMap escapeChar

/-- What stands before the message in `error_page.html`, and what stands behind it. -/
structure ErrorPage where
  before : Str
  after : Str

/-- Source: `common/src/error_page.rs`. -/
def ErrorPage.render (page : ErrorPage) (message : Str) : Str :=
  page.before ++ escapeHtml message ++ page.after

/-- A read of the database. -/
inductive ProxyRead
  | previewUrl
  | environment
  | service
  | member
  deriving DecidableEq

/-- The answer to a read, or the text of the error with which it fails. -/
def answer {α : Type} (failing : Option Str) (a : α) : Except Str α :=
  match failing with
  | some error => .error error
  | none => .ok a

/-- `get_host_header`. -/
def getHostHeader (lowercase : Str.Lowercase) (headers : List (Str × Str)) : Option Str :=
  (headers.find? fun h => lowercase.toLowercase h.1 = "host".toList).map Prod.snd

/-- `LAPDEV_AUTH_TOKEN_COOKIE`. -/
def lapdevAuthTokenCookie : Str := "lapdev_auth_token".toList

/-- `str::strip_prefix`. -/
def strip ( pattern s : Str) : Option Str :=
  if pattern.isPrefixOf s then some (s.drop pattern.length) else none

/-- `extract_cookie_value`. -/
def extractCookieValue (headers : List (Str × Str)) (cookieName : Str) : Option Str :=
  (((headers.filter fun h => Str.eqIgnoreAsciiCase h.1 "cookie".toList).flatMap fun h =>
    Str.split ';' h.2).map Str.trim).findSome? (strip (cookieName ++ ['=']))

/-- The claim `user_id` of a token that is decrypted with the key of the server. -/
abbrev TokenReader := Str → Option Str

/-- What a connection does. -/
inductive ProxyEffect
  /-- A stream to a target is opened through the tunnel of a cluster. -/
  | connect (clusterId : Uuid) (target : TunnelTarget)
  /-- Bytes are written to that stream. -/
  | upstream (bytes : List UInt8)
  /-- Bytes are written to the client. -/
  | downstream (bytes : List UInt8)

/-- What the tunnel does for a connection: whether there is a client and whether it is closed, how
the stream is opened, written to and read from, whether the client takes the first answer, whether an
intercept may explain that there was none, what the service answers later, and how the copying ends: an
error ends it after some of the bytes of the client. -/
structure TunnelRun where
  client : Option Bool
  opened : Except ProxyError Unit
  sent : Except ProxyError Unit
  first : Except ProxyError (List UInt8)
  interceptHint : Option Str
  answered : Except ProxyError Unit
  down : List UInt8
  copied : Except (Nat × ProxyError) Unit

/-- `start_tcp_proxy`, once the request is written; `later` is what the client sends then. -/
def pipe (run : TunnelRun) (later : List UInt8) : List ProxyEffect × Except ProxyError Unit :=
  match run.first with
  | .error e => ([], .error e)
  | .ok [] => ([],
      .error (.timeout (run.interceptHint.getD "Target service did not produce a response".toList)))
  | .ok (b :: bytes) =>
    match run.answered with
    | .error e => ([.downstream (b :: bytes)], .error e)
    | .ok () =>
      match run.copied with
      | .error (n, e) =>
        ([.downstream (b :: bytes), .upstream (later.take n), .downstream run.down], .error e)
      | .ok () => ([.downstream (b :: bytes), .upstream later, .downstream run.down], .ok ())

/-- `start_tcp_proxy`, once the stream is open. -/
def request (run : TunnelRun) (initialRequestData later : List UInt8) :
    List ProxyEffect × Except ProxyError Unit :=
  if initialRequestData = [] then pipe run later
  else
    match run.sent with
    | .error e => ([.upstream initialRequestData], .error e)
    | .ok () =>
      let piped := pipe run later
      (.upstream initialRequestData :: piped.1, piped.2)

/-- The world of a connection: the parsers and the keys of the proxy, the reads of the database that
fail, the rows when the preview URL is resolved and when the membership is looked up, and the tunnels
of the clusters. -/
structure ProxyWorld (Text : Type) where
  failing : ProxyRead → Option Str
  httparse : HeadParser
  lowercase : Str.Lowercase
  uuids : UuidParser
  tokens : TokenReader
  page : ErrorPage
  resolved : HrpcServer Text
  services : Uuid → Option (KubeEnvironmentService.Model Text)
  authorized : HrpcServer Text
  tunnels : PreviewUrlTarget → TunnelRun

section
variable {Text : Type} (world : ProxyWorld Text)

end

/-! ## Who may view what -/

/-- The database answers to all reads of `resolve_preview_url`. -/
structure Answers (failing : ProxyRead → Option Str) : Prop where
  previewUrl : failing .previewUrl = none
  environment : failing .environment = none
  service : failing .service = none

/-- A preview URL that is not deleted names the service: its name is the label, and its environment
and its service are there, the service in the environment or in the base of it. -/
structure Names {Text : Type} (s : HrpcServer Text)
    (services : Uuid → Option (KubeEnvironmentService.Model Text)) (subdomain : Str)
    (target : PreviewUrlTarget) : Prop where
  row : ∃ info, PreviewUrlResolver.parsePreviewUrl subdomain = .ok info ∧
    ∃ previewUrl ∈ s.previewUrls.rows, ∃ environment ∈ s.db.environments.rows, ∃ service level,
      previewUrl.deletedAt = none ∧ previewUrl.name.toList = PreviewUrlResolver.slug info ∧
      previewUrl.port = u16AsInt info.port ∧
      environment.deletedAt = none ∧ environment.id = previewUrl.environmentId ∧
      services previewUrl.serviceId = some service ∧
      service.environmentId = environment.baseEnvironmentId.getD environment.id ∧
      service.name.toList = info.serviceName ∧
      PreviewUrlAccessLevel.parse previewUrl.accessLevel = some level ∧
      target = ⟨environment.clusterId, environment.«namespace», service.name, info.port, level,
        previewUrl.protocol, environment.id, environment.organizationId, previewUrl.id⟩

/-- The preview is public, or the database answers and the cookie of the request belongs to a member of
the organization. -/
def MayView {Text : Type} (tokens : TokenReader) (uuids : UuidParser) (failing : Option Str)
    (s : HrpcServer Text) (request : HttpParser.ParsedHttpRequest) (target : PreviewUrlTarget) : Prop :=
  target.accessLevel = .public ∨
  ∃ token text userId, extractCookieValue request.headers lapdevAuthTokenCookie = some token ∧
    tokens token = some text ∧ uuids.parseStr text = some userId ∧ failing = none ∧
    ∃ member ∈ s.members.rows, member.userId = userId ∧
      member.organizationId = target.organizationId ∧ member.deletedAt = none

section
variable {Text : Type} {s : HrpcServer Text}
  {services : Uuid → Option (KubeEnvironmentService.Model Text)} {subdomain : Str}
  {target : PreviewUrlTarget} {tokens : TokenReader} {uuids : UuidParser}
  {request : HttpParser.ParsedHttpRequest}

end

/-! ## What a connection does -/

/-- A request that is admitted: its host names a preview that it may view, the database answers, it can
be rewritten, and there is a tunnel that is not closed. -/
structure AdmittedRequest {Text : Type} (world : ProxyWorld Text) (buffer : List UInt8)
    (request : HttpParser.ParsedHttpRequest) (headersLen : Nat) (target : PreviewUrlTarget)
    (initialRequestData : List UInt8) : Prop where
  names : ∃ host, getHostHeader world.lowercase request.headers = some host ∧
    Names world.resolved world.services ((subdomainOf host).getD []) target
  answers : Answers world.failing
  mayView : MayView world.tokens world.uuids (world.failing .member) world.authorized request target
  rewritten : addEnvironmentIdToHeaders world.lowercase buffer headersLen target.environmentId =
    some initialRequestData
  tunnel : (world.tunnels target).client = some false

/-- A connection whose request is read, parsed and admitted; `later` is what the client sends after what
is read with the request. -/
def Admitted {Text : Type} (world : ProxyWorld Text) (reader : Reader) (target : PreviewUrlTarget)
    (initialRequestData later : List UInt8) : Prop :=
  ∃ buffer rest request headersLen,
    HttpParser.readHttpHeaders [] reader = (.ok (), buffer, rest) ∧ rest.rest = later ∧
    HttpParser.parseHttpRequestFromBuffer world.httparse buffer = .ok (request, headersLen) ∧
    AdmittedRequest world buffer request headersLen target initialRequestData

/-- The service answers a request that is written, and nothing fails. -/
structure TunnelRun.Answers (run : TunnelRun) (firstAnswer : List UInt8) : Prop where
  first : run.first = .ok firstAnswer
  ne_nil : firstAnswer ≠ []
  answered : run.answered = .ok ()
  copied : run.copied = .ok ()

/-- The stream opens, the request is written and the service answers. -/
structure TunnelRun.Succeeds (run : TunnelRun) (initialRequestData firstAnswer : List UInt8) : Prop
    extends run.Answers firstAnswer where
  opened : run.opened = .ok ()
  sent : initialRequestData ≠ [] → run.sent = .ok ()

section
variable {Text : Type} {world : ProxyWorld Text} {run : TunnelRun} {target : PreviewUrlTarget}
  {initialRequestData later : List UInt8}

end

end PreviewUrlProxy

end Lapdev
