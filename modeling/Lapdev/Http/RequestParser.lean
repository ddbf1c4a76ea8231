import Lapdev.Http.Head
import Lapdev.RustStd.AsyncRead

/-!
# Reading a request from a buffer

`parse_http_request_from_buffer` of `kube-rpc/src/http_parser.rs`.
-/

namespace Lapdev

open RustStd RustStd.Utf8 Http

namespace HttpParser

/-- Source: `http_parser.rs`. -/
structure ParsedHttpRequest where
  method : Str
  path : Str
  headers : List (Str × Str)

/-- The number of headers the parser has room for. -/
def maxHeaders : Nat := 64

/-- What is kept of a request that was read. -/
def parsedHttpRequest (request : Request) : ParsedHttpRequest where
  method := request.method
  path := request.path
  headers := request.headers.map fun h => (h.1, fromUtf8Lossy h.2)

/-- `parse_http_request_from_buffer`. -/
def parseHttpRequestFromBuffer (httparse : HeadParser) (buffer : List UInt8) :
    Except (ErrorKind × String) (ParsedHttpRequest × Nat) :=
  match httparse.parse maxHeaders buffer with
  | .error e => .error (.invalidData, s!"HTTP parse error: {e}")
  | .ok none => .error (.invalidData, "Incomplete HTTP request")
  | .ok (some (request, headersLen)) => .ok (parsedHttpRequest request, headersLen)

theorem parseHttpRequestFromBuffer_eq_ok {httparse : HeadParser} {buffer : List UInt8}
    {parsed : ParsedHttpRequest} {headersLen : Nat}
    (h : parseHttpRequestFromBuffer httparse buffer = .ok (parsed, headersLen)) :
    ∃ request, httparse.parse maxHeaders buffer = .ok (some (request, headersLen)) ∧
      parsed = parsedHttpRequest request := by
  rw [parseHttpRequestFromBuffer] at h
  split at h
  · cases h
  · cases h
  · next request headersLen' hread =>
    obtain ⟨rfl, rfl⟩ := Prod.mk.inj (Except.ok.inj h)
    exact ⟨request, hread, rfl⟩

end HttpParser

end Lapdev
