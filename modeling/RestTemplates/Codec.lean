import RestTemplates.Diagnostics.Preview
import RestTemplates.Error
import RestTemplates.Json.Record

/-!
# Codecs — how bodies are written and read

A codec says which content type a body has and how it is shown in diagnostics.  A decoder is a codec
with a function from bytes to values; the one for responses without content accepts every body.
-/

namespace RestTemplates

/-- The empty content type means that there is none to speak of. -/
structure Codec where
  contentType : String
  format : BodyFormat
  hasNoContent : Bool
  deriving DecidableEq, Repr

namespace Codec

def json : Codec := ⟨"application/json", .text, false⟩

def text : Codec := ⟨"text/plain; charset=utf-8", .text, false⟩

def binary : Codec := ⟨"application/octet-stream", .binary, false⟩

def noContent : Codec := ⟨"", .text, true⟩

/-- The content type as a header value, if there is one. -/
def headerValue? (codec : Codec) : Option HeaderValue :=
  if codec.contentType = "" then none else some (Utf8.encode codec.contentType)

end Codec

structure Decoder (α : Type) where
  codec : Codec
  decode : Bytes → Except DecodeError α

namespace Decoder

variable {α β : Type}

def map (f : α → β) (decoder : Decoder α) : Decoder β :=
  ⟨decoder.codec, fun bytes => (decoder.decode bytes).map f⟩

/-- Values of a JSON shape. -/
def ofJsonReader (read : Bytes → Except JsonError (α × Bytes)) : Decoder α :=
  ⟨.json, fun bytes => ((read bytes).bind JsonRead.finish).mapError .json⟩

/-- Any JSON document. -/
def json : Decoder Json := ⟨.json, fun bytes => (Json.parse bytes).mapError .json⟩

def jsonNull : Decoder Unit := ofJsonReader JsonRead.unit

def text : Decoder String := ⟨.text, fun bytes => (Utf8.decode bytes).mapError .text⟩

def binary : Decoder Bytes := ⟨.binary, .ok⟩

def noContent : Decoder Unit := ⟨.noContent, fun _ => .ok ()⟩

end Decoder

end RestTemplates
