import ChatRelay.Frame.Codec

/-!
# Streams of frames

A stream arrives in pieces, cut anywhere. After each piece every complete frame is taken; a fault
ends the stream, and the pieces behind it are not looked at. When a stream ends without a fault,
what is left of it never becomes a frame.
-/

namespace ChatRelay

/-- The bytes cut into pieces of `n`, the last of which may be shorter. -/
def Bytes.pieces (n : Nat) (bytes : Bytes) : List Bytes :=
  match bytes with
  | [] => []
  | b :: rest => (b :: rest.take (n - 1)) :: Bytes.pieces n (rest.drop (n - 1))
termination_by bytes.length
decreasing_by simp only [List.length_drop, List.length_cons]; omega

namespace Decoder

/-- Takes in the pieces one after another, decoding after each, up to the first fault. -/
def feedAll (d : Decoder) : List Bytes → Drained
  | [] => ⟨[], none, d⟩
  | piece :: rest =>
    match (d.feed piece).drain with
    | ⟨frames, none, d'⟩ =>
      let later := feedAll d' rest
      ⟨frames ++ later.frames, later.error, later.decoder⟩
    | failed => failed

/-- Takes in a whole stream: its pieces, and then its end. -/
def readStream (d : Decoder) (pieces : List Bytes) : Drained :=
  match d.feedAll pieces with
  | ⟨frames, none, d'⟩ =>
    let later := d'.drainAtEnd
    ⟨frames ++ later.frames, later.error, later.decoder⟩
  | failed => failed

end Decoder

end ChatRelay
