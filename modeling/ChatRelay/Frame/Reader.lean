import ChatRelay.Frame.Codec
import ChatRelay.Session.Endpoint

/-!
# Pulling frames from an endpoint

A `FrameReader` gives one frame at a time from an endpoint. It reads only when what it has received
holds no complete frame. At the end of the stream it gives the frames that are complete, and then
ends; after a fault it has ended as well.
-/

namespace ChatRelay

/-- A decoder that is fed from an endpoint. -/
structure FrameReader where
  decoder : Decoder
  /-- The end of the stream has been read. -/
  atEnd : Bool
  /-- Nothing will be given any more. -/
  finished : Bool
  deriving DecidableEq, Repr, Inhabited

/-- What pulling gives. -/
inductive Pulled
  | frame (payload : Bytes)
  | failed (error : FrameError)
  | ended
  /-- Nothing is there yet. -/
  | nothing
  deriving DecidableEq, Repr, Inhabited

namespace FrameReader

/-- A reader that has read nothing. -/
def new (codec : Codec) : FrameReader := ⟨Decoder.new codec, false, false⟩

/-- How many bytes one read asks for. -/
def chunk : Nat := 8 * 1024

/-- Gives a frame that is complete at the end of the stream, or ends. -/
def pullAtEnd (decoder : Decoder) : Pulled × FrameReader :=
  match decoder.nextAtEnd with
  | (.frame payload, decoder) => (.frame payload, ⟨decoder, true, false⟩)
  | (.failed error, decoder) => (.failed error, ⟨decoder, true, true⟩)
  | (.incomplete, decoder) => (.ended, ⟨decoder, true, true⟩)

/-- Gives a frame that is complete, or reads until there is one. -/
def pullFrom (decoder : Decoder) (endpoint : Endpoint) : Pulled × FrameReader × Endpoint :=
  match decoder.next with
  | (.frame payload, decoder) => (.frame payload, ⟨decoder, false, false⟩, endpoint)
  | (.failed error, decoder) => (.failed error, ⟨decoder, false, true⟩, endpoint)
  | (.incomplete, decoder) =>
    match _answer : endpoint.read chunk with
    | (.bytes (b :: bytes), endpoint) => pullFrom (decoder.feed (b :: bytes)) endpoint
    | (.bytes [], endpoint) =>
      let (pulled, reader) := pullAtEnd decoder
      (pulled, reader, endpoint)
    | (.fault fault, endpoint) =>
      if fault.kind = .wouldBlock then (.nothing, ⟨decoder, false, false⟩, endpoint)
      else (.failed (.io fault), ⟨decoder, false, true⟩, endpoint)
termination_by Endpoint.unread endpoint.arrivals
decreasing_by exact Endpoint.unread_lt_of_read_bytes ‹_›

/-- Gives the next frame, if it is there. -/
def pull (reader : FrameReader) (endpoint : Endpoint) : Pulled × FrameReader × Endpoint :=
  if reader.finished then (.ended, reader, endpoint)
  else if reader.atEnd then
    let (pulled, reader) := pullAtEnd reader.decoder
    (pulled, reader, endpoint)
  else pullFrom reader.decoder endpoint

end FrameReader

end ChatRelay
