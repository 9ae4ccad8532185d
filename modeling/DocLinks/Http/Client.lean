import DocLinks.Check
import DocLinks.Http.FetchError
import DocLinks.Http.Message
import DocLinks.Url.Requestable

namespace DocLinks

/-- How texts are read as addresses, alone or in the page at an address, and for which of them a request can be
written. -/
structure UrlReader where
  parse : Text → Except UrlError Url
  join : Url → Text → Except UrlError Url
  isRequestable : Url → Bool

def UrlReader.standard : UrlReader := ⟨Url.parse, Url.join, Url.isRequestable⟩

/-- What came of asking for a page, and the requests that were made. -/
structure Fetch where
  result : Except FetchError Nat
  requests : List Request

namespace Fetch

def failed (e : FetchError) : Fetch := ⟨.error e, []⟩

/-- A fetch that begins with one more request. -/
def after (request : Request) (f : Fetch) : Fetch := { f with requests := request :: f.requests }

/-- The requests that something came back for. One that times out is the last. -/
def answered (f : Fetch) : List Request :=
  match f.result with
  | .error .timedOut => f.requests.dropLast
  | _ => f.requests

end Fetch

/-- Whether a status asks to go on to another page. -/
def isRedirect (code : Nat) : Bool := code ∈ [301, 302, 303, 307, 308]

/-- The page that a reply leads on to. A location that no request can be written for leads nowhere. -/
def UrlReader.next? (reader : UrlReader) (u : Url) (code : Nat) (location : Option Text) : Option Url :=
  if isRedirect code then
    match location.map (reader.join u) with
    | some (.ok next) => if reader.isRequestable next then some next else none
    | _ => none
  else none

/-- How many redirects are followed. -/
def redirectLimit : Nat := 9

section

variable {m : Type → Type} [Monad m] (reader : UrlReader)

/-- What a reply from an address comes to, or why no server is reached there. There is no `more` where no further
redirect is followed. -/
def Fetch.ofReply (more : Option (Url → m Fetch)) (u : Url) : Except Text Reply → m Fetch
  | .error cause => return .failed (.unreached u cause)
  | .ok .silence => return .after ⟨u.target⟩ (.failed .timedOut)
  | .ok .closed => return .after ⟨u.target⟩ (.failed (.closed u))
  | .ok .garbage => return .after ⟨u.target⟩ (.failed (.garbage u))
  | .ok (.status code location) =>
    match reader.next? u code location, more with
    | none, _ => return .after ⟨u.target⟩ ⟨.ok code, []⟩
    | some _, none => return .after ⟨u.target⟩ (.failed .tooManyRedirects)
    | some next, some more =>
      if next.isHttp then return .after ⟨u.target⟩ (← more next)
      else return .after ⟨u.target⟩ (.failed (.schemeNotAllowed next))

/-- Asks for a page and for those it leads on to. -/
def Fetch.follow (ask : Url → m (Except Text Reply)) : (redirects : Nat) → Url → m Fetch
  | 0, u => do ofReply reader none u (← ask u)
  | redirects + 1, u => do ofReply reader (some (follow ask redirects)) u (← ask u)

/-- Asks for the page that a text is the address of. `timeout` is how many seconds may pass. -/
def Fetch.page (ask : Url → m (Except Text Reply)) (timeout : Option Nat) (link : Text) : m Fetch :=
  match reader.parse link with
  | .error e => return .failed (.noUrl e)
  | .ok u =>
    if !u.hasHost then return .failed (.schemeNotAllowed u)
    else if !u.withoutUser.isHttp then return .failed (.schemeNotAllowed u.withoutUser)
    else if !reader.isRequestable u.withoutUser then return .failed (.unusableUrl u.withoutUser)
    else if timeout = some 0 then return .failed .timedOut
    else follow reader ask redirectLimit u.withoutUser

end

def Fetch.outcome (f : Fetch) : ProbeOutcome :=
  match f.result with
  | .ok code => .status code
  | .error e => .failed e.message

/-- The web as a client meets it: how its addresses are read, and what comes back for a request to one, or why no
server is reached. -/
structure Web where
  reader : UrlReader
  ask : Url → Except Text Reply

/-- Who can be reached at a host and port: the reply to each target, or nothing where connections are refused. -/
abbrev Network := Host → Nat → Option (Text → Reply)

def Network.server? (network : Network) (u : Url) : Option (Text → Reply) := do
  network (← u.authority).host (← u.port?)

/-- The web that a network makes whose servers speak plain HTTP: no secure connection comes about. -/
def Network.web (network : Network) : Web where
  reader := .standard
  ask u :=
    match network.server? u with
    | none => .error "tcp connect error: Connection refused (os error 111)".toList
    | some server =>
      if u.scheme = "http".toList then .ok (server u.target) else .error "unexpected EOF".toList

instance : Coe Network Web := ⟨Network.web⟩

/-- Asks for pages in the web. -/
structure Client where
  web : Web
  /-- Seconds that may pass until there is an answer. -/
  timeout : Option Nat

namespace Client

/-- What comes back for an address. Nothing ever does where no answer comes and any time may pass. -/
def await (c : Client) (u : Url) : Option (Except Text Reply) :=
  match c.web.ask u, c.timeout with
  | .ok .silence, none => none
  | reply, _ => some reply

/-- What comes of asking for a page, unless it never comes to an end. -/
def fetch (c : Client) (link : Text) : Option Fetch := Fetch.page c.web.reader c.await c.timeout link

/-- What a client says of a page. One that would wait for ever counts as out of time here, so that there is an
answer. -/
def probe (c : Client) : Probe := fun link =>
  match c.fetch link with
  | some f => f.outcome
  | none => .failed FetchError.timedOut.message

/-- The requests that something comes back for when several pages are asked for. -/
def requests (c : Client) (links : List Text) : List Request :=
  links.flatMap fun link => ((c.fetch link).map Fetch.answered).getD []

end Client

end DocLinks
