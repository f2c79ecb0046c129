import ResponseCheck.Http.Request

/-! Settings say how requests are completed: a base for relative URLs, headers for every request,
and options of the connection. -/

namespace ResponseCheck

/-- How requests are completed. -/
structure Settings where
  baseUrl : Option String := none
  headers : Http.Headers := .empty
  proxy : Option String := none
  followRedirects : Bool := true
  timeoutSeconds : Option Nat := none
deriving DecidableEq, Repr

namespace Settings

/-- Whether a URL starts with `http://` or `https://` in any case. -/
def isAbsolute (url : String) : Bool :=
  let start := (Text.asciiLower url).toList
  "http://".toList.isPrefixOf start || "https://".toList.isPrefixOf start

/-- A base and a relative URL with exactly one slash between them. -/
def joinUrl (base url : String) : String :=
  String.ofList (Text.dropEndWhile (· == '/') base.toList ++ '/' :: url.toList.dropWhile (· == '/'))

/-- The full URL of a request: an absolute one stays as it is. -/
def resolveUrl (settings : Settings) (url : String) : String :=
  if isAbsolute url then url
  else match settings.baseUrl with
    | some base => joinUrl base url
    | none => url

/-- The content type that is assumed for bodies. -/
def jsonContentType : String := "application/json"

/-- The headers of every request. -/
def commonHeaders (settings : Settings) : Http.Headers :=
  (Http.Headers.ofList [("content-type", jsonContentType)]).insertAll
    (Http.Headers.lowerNames settings.headers.entries)

/-- The headers for a body: a raw body is not said to be JSON. -/
def bodyHeaders (headers : Http.Headers) (body : Option Http.Body) : Http.Headers :=
  if body.any (·.isRaw) && headers.get? "content-type" == some jsonContentType then
    headers.erase "content-type"
  else headers

/-- The request that is sent. Headers of the request win over those of the settings, whatever the
case of their names; a body is sent only by methods that write. -/
def prepare (settings : Settings) (method : Http.Method) (url : String)
    (options : Http.RequestOptions) : Http.Request :=
  -- A body that is not sent has no say in the headers.
  let body := if method.sendsBody then options.body else none
  { method
    url := settings.resolveUrl url
    headers := (bodyHeaders settings.commonHeaders body).insertAll
      (Http.Headers.lowerNames options.headers)
    payload := body.map (·.payload)
    proxy := settings.proxy
    followRedirects := settings.followRedirects
    timeoutSeconds := settings.timeoutSeconds }

end Settings

end ResponseCheck
