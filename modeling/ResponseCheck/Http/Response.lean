import ResponseCheck.Gzip.Member
import ResponseCheck.Http.Headers
import ResponseCheck.Json.Reader
import ResponseCheck.Text.Utf8

/-! A response is a status, headers with small names and a body of bytes. The body may be
compressed, and it is decoded only when it is asked for. -/

namespace ResponseCheck.Http

/-- Status codes: the numbers of 16 bits. -/
abbrev Status := Fin 65536

/-- The status code with a number. -/
def Status.ofNat? (n : Nat) : Option Status := if h : n < 65536 then some ⟨n, h⟩ else none

/-- A response. -/
structure Response where
  status : Status
  headers : Headers
  body : List UInt8
deriving DecidableEq, Repr

/-- Why a body cannot be decoded. -/
inductive DecodeError where
  | invalidJson (error : Json.ReadError)
  | gzip (error : Gzip.Error)
deriving DecidableEq, Repr

/-- The message of a decoding error. -/
def DecodeError.message : DecodeError → String
  | .invalidJson error => "api request returned invalid json: " ++ error.message
  | .gzip error => "failed to decompress gzip body: " ++ error.message

namespace Response

/-- A response of headers in any case; of names that differ in case only, the last one wins. -/
def make (status : Status) (headers : Headers) (body : List UInt8) : Response :=
  ⟨status, headers.lowered, body⟩

/-- The value of a header, whatever the case of its name. -/
def header? (r : Response) (name : String) : Option String := r.headers.get? (Text.asciiLower name)

/-- Whether the content type says that the body is JSON. -/
def isJson (r : Response) : Bool :=
  (r.header? "content-type").any fun value =>
    Text.occursIn "application/json".toList value.toList

/-- Whether the content encoding says that the body is compressed. -/
def declaresGzip (r : Response) : Bool :=
  (r.header? "content-encoding").any fun value =>
    Text.occursIn "gzip".toList (Text.asciiLower value).toList

/-- The body without compression. A body that does not start like a compressed one is taken as it
is, whatever the headers say. -/
def decodedBody (r : Response) : Except DecodeError (List UInt8) :=
  if r.declaresGzip && [0x1F, 0x8B].isPrefixOf r.body then
    (Gzip.decompress r.body).mapError .gzip
  else .ok r.body

/-- The body as text, leniently; a body that cannot be decompressed is taken as it is. -/
def text (r : Response) : String :=
  match r.decodedBody with
  | .ok bytes => Utf8.decodeLossy bytes
  -- Showing something is better than failing: the text is for readers.
  | .error _ => Utf8.decodeLossy r.body

/-- The body as a JSON value. -/
def json (r : Response) : Except DecodeError Json := do
  (Json.read .buffer (← r.decodedBody)).mapError .invalidJson

end Response

end ResponseCheck.Http
