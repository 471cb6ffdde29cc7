import Snakeskin.Errors

/-! # The runtime

What the client calls outside the repository and takes on trust: the protobuf library, which turns
messages into bytes and back, and `hashlib.sha256`. They are a parameter of the model, `Runtime`;
the assumption that parsing undoes serialising is `Runtime.RoundTrip`, and the runtime that writes
the proto3 wire format is one for which it holds. -/

namespace Snakeskin

open Wire

/-- The libraries the client calls. `SerializeToString` is a function of the message; for a message
with map entries it stands for whatever order of entries the library happens to write. -/
structure Runtime where
  /-- `message.SerializeToString()`. -/
  serializeToString : {α : Type} → [MessageCodec α] → α → Bytes
  /-- `Message.FromString(data)`. -/
  fromString : (α : Type) → [MessageCodec α] → Bytes → Option α
  /-- `hashlib.sha256(data).digest()`. -/
  sha256 : Bytes → Bytes

/-- Parsing undoes serialising, for every message type. -/
def Runtime.RoundTrip (rt : Runtime) : Prop :=
  ∀ {α : Type} [MessageCodec α] (m : α), rt.fromString α (rt.serializeToString m) = some m

/-- The runtime that writes the proto3 wire format, with map entries in the order of their keys. -/
def wireRuntime (sha256 : Bytes → Bytes) : Runtime where
  serializeToString := Wire.encode
  fromString α := Wire.decode α
  sha256 := sha256

/-- The wire format round trips. -/
theorem wireRuntime_roundTrip (sha256 : Bytes → Bytes) : (wireRuntime sha256).RoundTrip :=
  fun m => Wire.decode_encode m

end Snakeskin
