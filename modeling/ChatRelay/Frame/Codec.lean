import ChatRelay.Bytes
import ChatRelay.Frame.Basic

/-!
# Codecs

A `Codec` holds the framing of one connection, its limit, and what it remembers between two looks
at the bytes received so far. A `Decoder` is a codec with those bytes. One step of a decoder,
`Decoder.next`, takes the first complete frame off the front, or says that none is complete, or
says why there will never be one.

* A line is given without its newline and without one carriage return before that. The limit counts
  what is left; a line that has not ended may be one byte longer, for the carriage return to come.
* A length is four bytes, the most significant first. It is taken off the front as soon as it is
  complete, and is then remembered as pending.

A step that gives a frame makes `Decoder.size` smaller (`Decoder.size_next_lt`), so that stepping
until there is no frame ends.
-/

namespace ChatRelay

/-- The largest payload behind a length. -/
def maxPayload : Nat := 1024 * 1024

/-- The framing of one connection and what is remembered between two looks at its bytes. -/
inductive Codec
  /-- Lines of at most `maxLength` bytes; the first `scanned` bytes at hand hold no newline. -/
  | lines (maxLength : Option Nat) (scanned : Nat)
  /-- Payloads of at most `maxPayload` bytes; a length taken off the front is `pending`. -/
  | lengthPrefixed (maxPayload : Nat) (pending : Option Nat)
  deriving DecidableEq, Repr, Inhabited

namespace Codec

/-- A codec that has seen nothing; the length of a line is only limited in line framing. -/
def new (framing : Framing) (maxLineLength : Option Nat) : Codec :=
  match framing with
  | .lines => .lines maxLineLength 0
  | .lengthPrefixed => .lengthPrefixed ChatRelay.maxPayload none

/-- The framing that a codec speaks. -/
def framing : Codec → Framing
  | .lines .. => .lines
  | .lengthPrefixed .. => .lengthPrefixed

/-- The codec with the same limit that has seen nothing. -/
def reset : Codec → Codec
  | .lines maxLength _ => .lines maxLength 0
  | .lengthPrefixed maxPayload _ => .lengthPrefixed maxPayload none

/-! ## Sending -/

/-- A length as four bytes, the most significant first. -/
def lengthHeader (len : Nat) : Bytes :=
  [(len / 0x1000000).toUInt8, (len / 0x10000).toUInt8, (len / 0x100).toUInt8, len.toUInt8]

/-- The bytes that carry a payload: a line gets a newline unless it ends in one, and a payload
behind its length is refused if no receiver would take it. -/
def encode (codec : Codec) (payload : Bytes) : Except FrameError Bytes :=
  match codec with
  | .lines .. =>
    .ok (if payload.getLast? = some Bytes.newline then payload else payload ++ [Bytes.newline])
  | .lengthPrefixed maxPayload _ =>
    if payload = [] then .error .emptyFrame
    else if payload.length > maxPayload then
      .error (.payloadTooLarge payload.length maxPayload)
    else .ok (lengthHeader payload.length ++ payload)

/-- Puts the bytes that carry a payload behind those that wait to be sent. -/
def encodeInto (codec : Codec) (waiting payload : Bytes) : Except FrameError Unit × Bytes :=
  match codec with
  | .lines .. =>
    let waiting := waiting ++ payload
    (.ok (),
      if payload.getLast? = some Bytes.newline then waiting else waiting ++ [Bytes.newline])
  | .lengthPrefixed maxPayload _ =>
    if payload = [] then (.error .emptyFrame, waiting)
    else if payload.length > maxPayload then
      (.error (.payloadTooLarge payload.length maxPayload), waiting)
    else (.ok (), waiting ++ lengthHeader payload.length ++ payload)

/-- Puts payloads behind those that wait, one after another: what came of each, and what waits. -/
def encodeAll (codec : Codec) (waiting : Bytes) :
    List Bytes → List (Except FrameError Unit) × Bytes
  | [] => ([], waiting)
  | payload :: rest =>
    let (answer, waiting) := codec.encodeInto waiting payload
    let (answers, waiting) := codec.encodeAll waiting rest
    (answer :: answers, waiting)

end Codec

/-! ## Receiving -/

/-- What one step of a decoder answers. -/
inductive Decoded
  /-- A complete frame, taken off the front. -/
  | frame (payload : Bytes)
  /-- No frame is complete yet. -/
  | incomplete
  /-- The stream breaks its framing. -/
  | failed (error : FrameError)
  deriving DecidableEq, Repr, Inhabited

/-- A codec with the bytes received and not yet decoded. -/
structure Decoder where
  codec : Codec
  buffer : Bytes
  deriving DecidableEq, Repr, Inhabited

namespace Decoder

/-- A decoder that has received nothing. -/
def new (codec : Codec) : Decoder := ⟨codec, []⟩

/-- More bytes have been received. -/
def feed (d : Decoder) (bytes : Bytes) : Decoder := { d with buffer := d.buffer ++ bytes }

/-- The bytes before the first newline and those behind it, the first `scanned` bytes being known
to hold none. -/
def splitLine (scanned : Nat) (bytes : Bytes) : Option (Bytes × Bytes) :=
  match (bytes.drop scanned).dropWhile (· != Bytes.newline) with
  | [] => none
  | _ :: rest =>
    some (bytes.take scanned ++ (bytes.drop scanned).takeWhile (· != Bytes.newline), rest)

/-- A line without one carriage return at its end. -/
def stripReturn (line : Bytes) : Bytes :=
  if line.getLast? = some Bytes.carriageReturn then line.dropLast else line

/-- One step over lines. A line that is too long is taken off the front all the same. -/
def nextLine (maxLength : Option Nat) (scanned : Nat) (buffer : Bytes) : Decoded × Decoder :=
  match splitLine scanned buffer with
  | some (line, rest) =>
    (match maxLength.filter (· < (stripReturn line).length) with
      | some max => .failed (.lineTooLong max)
      | none => .frame (stripReturn line),
      ⟨.lines maxLength 0, rest⟩)
  | none =>
    (match maxLength.filter (fun max => min (max + 1) maxSize < buffer.length) with
      | some max => .failed (.lineTooLong max)
      | none => .incomplete,
      ⟨.lines maxLength buffer.length, buffer⟩)

/-- The payload of a known length, once all of it is there. -/
def nextPayload (maxPayload len : Nat) (buffer : Bytes) : Decoded × Decoder :=
  if (buffer.take len).length < len then
    (.incomplete, ⟨.lengthPrefixed maxPayload (some len), buffer⟩)
  else (.frame (buffer.take len), ⟨.lengthPrefixed maxPayload none, buffer.drop len⟩)

/-- The length that four bytes spell, the most significant first. -/
def lengthOf (a b c d : UInt8) : Nat :=
  ((a.toNat * 0x100 + b.toNat) * 0x100 + c.toNat) * 0x100 + d.toNat

/-- One step over payloads behind their lengths. A length out of bounds is taken off the front all
the same. -/
def nextPrefixed (maxPayload : Nat) (pending : Option Nat) (buffer : Bytes) : Decoded × Decoder :=
  match pending, buffer with
  | some len, buffer => nextPayload maxPayload len buffer
  | none, a :: b :: c :: d :: rest =>
    if lengthOf a b c d = 0 then (.failed .emptyFrame, ⟨.lengthPrefixed maxPayload none, rest⟩)
    else if lengthOf a b c d > maxPayload then
      (.failed (.payloadTooLarge (lengthOf a b c d) maxPayload),
        ⟨.lengthPrefixed maxPayload none, rest⟩)
    else nextPayload maxPayload (lengthOf a b c d) rest
  | none, buffer => (.incomplete, ⟨.lengthPrefixed maxPayload none, buffer⟩)

/-- One step: the first complete frame, if there is one. -/
def next (d : Decoder) : Decoded × Decoder :=
  match d.codec with
  | .lines maxLength scanned => nextLine maxLength scanned d.buffer
  | .lengthPrefixed maxPayload pending => nextPrefixed maxPayload pending d.buffer

/-- One step after the last byte of the stream: what can never become a frame is thrown away. -/
def nextAtEnd (d : Decoder) : Decoded × Decoder :=
  match d.next with
  | (.incomplete, d') => (.incomplete, ⟨d'.codec.reset, []⟩)
  | answer => answer

/-! ## Stepping until no frame is left -/

/-- The bytes at hand, and one more for a length that is pending. -/
def size (d : Decoder) : Nat :=
  d.buffer.length +
    match d.codec with
    | .lengthPrefixed _ (some _) => 1
    | _ => 0

theorem splitLine_length {scanned : Nat} {bytes line rest : Bytes}
    (h : splitLine scanned bytes = some (line, rest)) :
    line.length + rest.length + 1 = bytes.length := by
  unfold splitLine at h
  split at h
  · simp at h
  · next c tail hs =>
    simp only [Option.some.injEq, Prod.mk.injEq] at h
    obtain ⟨rfl, rfl⟩ := h
    have hlen := congrArg List.length
      (List.takeWhile_append_dropWhile (p := (· != Bytes.newline)) (l := bytes.drop scanned))
    rw [hs] at hlen
    simp only [List.length_append, List.length_cons, List.length_drop, List.length_take]
      at hlen ⊢
    omega

theorem size_nextPayload_lt {maxPayload len : Nat} {buffer payload : Bytes} {d' : Decoder}
    (h : nextPayload maxPayload len buffer = (.frame payload, d')) :
    d'.size ≤ buffer.length := by
  unfold nextPayload at h
  split at h
  · simp at h
  · simp only [Prod.mk.injEq, Decoded.frame.injEq] at h
    obtain ⟨-, rfl⟩ := h
    simp [size]

/-- A step that gives a frame leaves less to decode. -/
theorem size_next_lt {d d' : Decoder} {payload : Bytes} (h : d.next = (.frame payload, d')) :
    d'.size < d.size := by
  obtain ⟨codec, buffer⟩ := d
  cases codec with
  | lines maxLength scanned =>
    simp only [next, nextLine] at h
    split at h
    · next line rest hs =>
      have hlen := splitLine_length hs
      simp only [Prod.mk.injEq] at h
      obtain ⟨-, rfl⟩ := h
      simp only [size]
      omega
    · simp only [Prod.mk.injEq] at h
      obtain ⟨h, -⟩ := h
      split at h <;> simp at h
  | lengthPrefixed maxPayload pending =>
    simp only [next] at h
    unfold nextPrefixed at h
    split at h
    · have := size_nextPayload_lt h
      simp only [size] at this ⊢
      omega
    · split at h
      · simp at h
      · split at h
        · simp at h
        · have := size_nextPayload_lt h
          simp only [size, List.length_cons] at this ⊢
          omega
    · simp at h

/-- Why stepping came to an end. -/
structure Drained where
  /-- The frames given, in order. -/
  frames : List Bytes
  /-- The fault that ended it, if it was one. -/
  error : Option FrameError
  /-- What is left. -/
  decoder : Decoder
  deriving DecidableEq, Repr, Inhabited

/-- Steps until there is no frame, the frames so far in reverse. -/
def drainFrom (step : Decoder → Decoded × Decoder)
    (smaller : ∀ {d d' payload}, step d = (.frame payload, d') → d'.size < d.size)
    (given : List Bytes) (d : Decoder) : Drained :=
  match _taken : step d with
  | (.frame payload, d') => drainFrom step smaller (payload :: given) d'
  | (.incomplete, d') => ⟨given.reverse, none, d'⟩
  | (.failed error, d') => ⟨given.reverse, some error, d'⟩
termination_by d.size
decreasing_by exact smaller ‹_›

/-- Every frame that is complete, up to the first fault. -/
def drain (d : Decoder) : Drained := drainFrom next size_next_lt [] d

theorem size_nextAtEnd_lt {d d' : Decoder} {payload : Bytes}
    (h : d.nextAtEnd = (.frame payload, d')) : d'.size < d.size := by
  unfold nextAtEnd at h
  split at h
  · simp at h
  · exact size_next_lt h

/-- Every frame that is complete once the stream has ended, up to the first fault. -/
def drainAtEnd (d : Decoder) : Drained := drainFrom nextAtEnd size_nextAtEnd_lt [] d

end Decoder

end ChatRelay
