import DocLinks.Url

namespace DocLinks

/-- Why asking for a page fails. -/
inductive FetchError
  | noUrl (e : UrlError)
  | schemeNotAllowed (url : Url)
  | unusableUrl (url : Url)
  /-- No connection comes about, for some cause. -/
  | unreached (url : Url) (cause : Text)
  | closed (url : Url)
  | garbage (url : Url)
  | timedOut
  | tooManyRedirects
deriving DecidableEq

namespace FetchError

def invalidUrl (url : Url) (reason : Text) : Text :=
  "invalid url (builder error for url (".toList ++ url.text ++ "): ".toList ++ reason ++ ")".toList

def failedRequest (url : Url) (reason : Text) : Text :=
  "error sending request for url (".toList ++ url.text ++ "): ".toList ++ reason

def message : FetchError → Text
  | .noUrl e => "invalid url (builder error: ".toList ++ e.message ++ ")".toList
  | .schemeNotAllowed url => invalidUrl url "URL scheme is not allowed".toList
  | .unusableUrl url => invalidUrl url "Parsed Url is not a valid Uri".toList
  | .unreached url cause =>
    "connection failed (".toList ++ failedRequest url ("error trying to connect: ".toList ++ cause) ++ ")".toList
  | .closed url => failedRequest url "connection closed before message completed".toList
  | .garbage url => failedRequest url "invalid HTTP version parsed".toList
  | .timedOut => "request timed out".toList
  | .tooManyRedirects => "too many redirects".toList

end FetchError

end DocLinks
