import ChatRelay.Proofs.Frame.Carried
import Mathlib.Data.List.Basic

/-!
# Encoding and decoding

What an encoder has put on the wire, a decoder with the same framing reads again, however the wire
is cut.

* Over lines every payload is taken, but not every payload comes back as it was: it comes back as
  the lines in it (`linesOf`), each without a carriage return at its end (`lines_round_trip`).
* Behind their lengths some payloads are refused, and leave no trace; the others come back as they
  were. The other way round, what was decoded is encoded to the bytes that it was read from
  (`prefixed_round_trip`):

      decode (encode payloads) = payloads,    encode (decode stream) ++ unfinished = stream.
-/

namespace ChatRelay

/-! ## One payload after another -/

namespace Codec

/-- Encoding behind what waits is encoding alone; a payload that is refused changes nothing. -/
theorem encodeInto_eq (codec : Codec) (waiting payload : Bytes) :
    codec.encodeInto waiting payload =
      match codec.encode payload with
      | .ok frame => (.ok (), waiting ++ frame)
      | .error error => (.error error, waiting) := by
  cases codec with
  | lines maxLength scanned =>
    simp only [encodeInto, encode]
    split
    · rfl
    · rw [List.append_assoc]
  | lengthPrefixed maxPayload pending =>
    unfold encodeInto encode
    dsimp only
    split
    · rfl
    · split
      · rfl
      · dsimp only
        rw [List.append_assoc]

/-- The bytes of all payloads that are not refused. -/
def wire (codec : Codec) (payloads : List Bytes) : Bytes :=
  payloads.flatMap fun payload => (codec.encode payload).toOption.getD []

theorem wire_cons (codec : Codec) (payload : Bytes) (rest : List Bytes) :
    codec.wire (payload :: rest) =
      (codec.encode payload).toOption.getD [] ++ codec.wire rest :=
  List.flatMap_cons

theorem encodeAll_eq (codec : Codec) (waiting : Bytes) (payloads : List Bytes) :
    codec.encodeAll waiting payloads =
      (payloads.map fun payload => (codec.encode payload).map fun _ => (),
        waiting ++ codec.wire payloads) := by
  induction payloads generalizing waiting with
  | nil =>
    show ([], waiting) = ([], waiting ++ [])
    rw [List.append_nil]
  | cons payload rest ih =>
    rw [encodeAll, encodeInto_eq, wire_cons, List.map_cons]
    cases codec.encode payload with
    | error error =>
      show (_ :: (codec.encodeAll waiting rest).1, (codec.encodeAll waiting rest).2) = _
      rw [ih]
      rfl
    | ok frame =>
      show (_ :: (codec.encodeAll (waiting ++ frame) rest).1,
        (codec.encodeAll (waiting ++ frame) rest).2) = _
      rw [ih, List.append_assoc]
      rfl

end Codec

namespace Decoder

/-! ## Lines -/

section
variable {maxLength : Option Nat} {scanned : Nat} {payload : Bytes}

/-- A payload without one newline at its end. -/
def dropNewline (payload : Bytes) : Bytes :=
  if payload.getLast? = some Bytes.newline then payload.dropLast else payload

/-- The lines that a payload is read as. -/
def linesOf (payload : Bytes) : List Bytes :=
  ((dropNewline payload).splitOn Bytes.newline).map stripReturn

theorem encode_lines (maxLength : Option Nat) (scanned : Nat) (payload : Bytes) :
    (Codec.lines maxLength scanned).encode payload =
      .ok (dropNewline payload ++ [Bytes.newline]) := by
  unfold Codec.encode dropNewline
  dsimp only
  split
  · next hlast => rw [List.dropLast_append_getLast? _ hlast]
  · rfl

/-- Behind a last newline every line has ended. -/
theorem lines_terminated (bytes : Bytes) :
    endedLines (bytes ++ [Bytes.newline]) = bytes.splitOn Bytes.newline ∧
      openLine (bytes ++ [Bytes.newline]) = [] := by
  induction bytes using line_induction with
  | opened line h =>
    rw [endedLines_line h, openLine_line h, List.splitOn_eq_singleton h]
    exact ⟨rfl, rfl⟩
  | ended line rest h ih =>
    rw [List.append_assoc, List.cons_append, endedLines_line h, openLine_line h,
      List.splitOn_append_cons_self_of_not_mem h, ih.1]
    exact ⟨rfl, ih.2⟩

theorem lines_wire (maxLength : Option Nat) (scanned : Nat) (payloads : List Bytes) :
    (endedLines ((Codec.lines maxLength scanned).wire payloads)).map stripReturn =
        payloads.flatMap linesOf ∧
      openLine ((Codec.lines maxLength scanned).wire payloads) = [] := by
  induction payloads with
  | nil => exact ⟨rfl, rfl⟩
  | cons payload rest ih =>
    obtain ⟨hended, hopen⟩ := lines_terminated (dropNewline payload)
    rw [Codec.wire_cons, encode_lines]
    show (endedLines (dropNewline payload ++ [Bytes.newline] ++ _)).map stripReturn = _ ∧
      openLine (dropNewline payload ++ [Bytes.newline] ++ _) = _
    rw [endedLines_append (dropNewline payload ++ [Bytes.newline]),
      openLine_append (dropNewline payload ++ [Bytes.newline]), hopen, hended, List.nil_append,
      List.map_append, ih.1, ih.2]
    exact ⟨rfl, rfl⟩

/-- With nothing at hand there is nothing that a decoder of lines can have looked at. -/
theorem eq_new_of_empty {d : Decoder} (hsound : d.Sound) (hreset : d.codec.reset = .lines maxLength 0)
    (hempty : d.buffer = []) : d = Decoder.new (.lines maxLength 0) := by
  obtain ⟨codec, buffer⟩ := d
  subst hempty
  cases codec with
  | lengthPrefixed maxPayload pending => cases hreset
  | lines max scanned =>
    cases hreset
    obtain rfl : scanned = 0 := Nat.le_zero.1 hsound.1
    rfl

theorem lineError_nil (maxLength : Option Nat) : lineError maxLength [] = none := by
  cases maxLength with
  | none => rfl
  | some max => simp [lineError, Overlong, endedLines, openLine]

/-- A stream in which every line has ended within the limit is read to its end. -/
theorem feedAll_ended {pieces : List Bytes} (hended : openLine pieces.flatten = [])
    (hwithin : lineError maxLength pieces.flatten = none)
    (hcount : Countable maxLength pieces.flatten) :
    (Decoder.new (.lines maxLength 0)).feedAll pieces =
      ⟨(endedLines pieces.flatten).map stripReturn, none, Decoder.new (.lines maxLength 0)⟩ := by
  have hreads := feedAll_lines_from maxLength 0 [] pieces (Nat.le_refl _) List.not_mem_nil
    (lineError_nil maxLength) hcount
  have hcarried := carries_feedAll (sound_new (.lines maxLength 0)) pieces
  change ReadsLines _ _ ((Decoder.new (.lines maxLength 0)).feedAll pieces) at hreads
  change Carried _ ((Decoder.new (.lines maxLength 0)).feedAll pieces) at hcarried
  generalize (Decoder.new (.lines maxLength 0)).feedAll pieces = run at hreads hcarried ⊢
  have hall := List.takeWhile_eq_self_iff.2 (within_of_lineError hwithin)
  have herror : run.error = none := hreads.error.trans hwithin
  have hdecoder : run.decoder = Decoder.new (.lines maxLength 0) :=
    eq_new_of_empty hcarried.sound hcarried.reset ((hreads.left herror).trans hended)
  show (⟨run.frames, run.error, run.decoder⟩ : Drained) = _
  rw [hreads.frames, herror, hdecoder, List.nil_append, lineFrames, hall]

/-- Bytes that are one line have no newline among them. -/
theorem not_mem_of_splitOn {bytes line : Bytes} (h : bytes.splitOn Bytes.newline = [line]) :
    Bytes.newline ∉ bytes := by
  intro hmem
  obtain ⟨first, rest, rfl, hfirst⟩ := List.eq_append_cons_of_mem hmem
  rw [List.splitOn_append_cons_self_of_not_mem hfirst] at h
  exact List.splitOn_ne_nil _ _ (List.cons.inj h).2

/-- The payloads that come back as they were. -/
theorem linesOf_eq_singleton_iff (payload : Bytes) :
    linesOf payload = [payload] ↔
      Bytes.newline ∉ payload ∧ payload.getLast? ≠ some Bytes.carriageReturn := by
  have hkept : Bytes.newline ∉ payload → dropNewline payload = payload := fun hnone =>
    if_neg fun hlast => hnone (List.mem_of_getLast? hlast)
  constructor
  · intro h
    obtain ⟨line, hsplit, hstrip⟩ := List.map_eq_singleton_iff.1 h
    have hline := not_mem_of_splitOn hsplit
    rw [List.splitOn_eq_singleton hline, List.singleton_inj] at hsplit
    subst hsplit
    have hnone : Bytes.newline ∉ payload := by
      rw [← hstrip]
      exact not_mem_stripReturn hline
    rw [hkept hnone] at hstrip
    refine ⟨hnone, fun hlast => ?_⟩
    rw [stripReturn, if_pos hlast] at hstrip
    have hlength := congrArg List.length hstrip
    have hpos := List.length_pos_of_mem (List.mem_of_getLast? hlast)
    rw [List.length_dropLast] at hlength
    omega
  · rintro ⟨hnone, hlast⟩
    rw [linesOf, hkept hnone, List.splitOn_eq_singleton hnone, List.map_singleton, stripReturn,
      if_neg hlast]

theorem length_linesOf_pos (payload : Bytes) : 0 < (linesOf payload).length := by
  rw [linesOf, List.length_map]
  exact List.length_pos_of_ne_nil (List.splitOn_ne_nil _ _)

theorem length_le_flatMap_linesOf (payloads : List Bytes) :
    payloads.length ≤ (payloads.flatMap linesOf).length := by
  induction payloads with
  | nil => exact Nat.le_refl 0
  | cons payload rest ih =>
    have hpos := length_linesOf_pos payload
    rw [List.flatMap_cons, List.length_append, List.length_cons]
    omega

/-- Payloads come back as they were if each of them does: what one of them is split into cannot
take the place of another one, because every payload comes back as one line at least. -/
theorem flatMap_linesOf_eq_iff (payloads : List Bytes) :
    payloads.flatMap linesOf = payloads ↔ ∀ payload ∈ payloads, linesOf payload = [payload] := by
  induction payloads with
  | nil => simp
  | cons payload rest ih =>
    rw [List.flatMap_cons, List.forall_mem_cons, ← ih]
    constructor
    · intro h
      have hrest := length_le_flatMap_linesOf rest
      have hlength := congrArg List.length h
      rw [List.length_append, List.length_cons] at hlength
      have hpos := length_linesOf_pos payload
      exact List.append_inj (h.trans List.singleton_append.symm) (by
        rw [List.length_singleton]
        omega)
    · rintro ⟨hfirst, hrest⟩
      rw [hfirst, hrest]
      rfl

/-- **What is written as lines is read as the lines in it.** Any payloads are taken, and however the
wire is cut, a decoder without a limit reads the lines of one after another, each without a carriage
return at its end; it fails nowhere, and has nothing left. What it reads is what was written exactly
if no payload has a newline in it or a carriage return at its end. -/
theorem lines_round_trip (maxLength : Option Nat) (scanned : Nat) (payloads pieces : List Bytes)
    (hpieces : pieces.flatten = ((Codec.lines maxLength scanned).encodeAll [] payloads).2) :
    let sent := (Codec.lines maxLength scanned).encodeAll [] payloads
    let run := (Decoder.new (.lines none 0)).feedAll pieces
    sent.1 = payloads.map (fun _ => .ok ()) ∧
      run = ⟨payloads.flatMap linesOf, none, Decoder.new (.lines none 0)⟩ ∧
      (run.frames = payloads ↔ ∀ payload ∈ payloads,
        Bytes.newline ∉ payload ∧ payload.getLast? ≠ some Bytes.carriageReturn) := by
  intro sent run
  have hsent : sent = _ := Codec.encodeAll_eq (.lines maxLength scanned) [] payloads
  have hwire : pieces.flatten = (Codec.lines maxLength scanned).wire payloads :=
    hpieces.trans (congrArg Prod.snd hsent)
  obtain ⟨hlines, hended⟩ := lines_wire maxLength scanned payloads
  rw [← hwire] at hlines hended
  have hrun : run = ⟨payloads.flatMap linesOf, none, Decoder.new (.lines none 0)⟩ := by
    rw [← hlines]
    exact feedAll_ended hended rfl nofun
  refine ⟨?_, hrun, ?_⟩
  · rw [hsent]
    refine List.map_congr_left fun payload _ => ?_
    rw [encode_lines]
    rfl
  · rw [hrun]
    refine (flatMap_linesOf_eq_iff payloads).trans ?_
    simp only [linesOf_eq_singleton_iff]

/-- Payloads with and without a newline at the end, one with a newline inside, one with a carriage
return at its end, and an empty one. -/
theorem lines_round_trip_split_payload :
    let payloads : List Bytes := [[97, 10], [98, 10, 99], [100, 13], []]
    let pieces : List Bytes := [[97, 10, 98], [10, 99, 10, 100, 13], [10, 10]]
    let run := (Decoder.new (.lines none 0)).feedAll pieces
    pieces.flatten = ((Codec.lines (some 1) 2).encodeAll [] payloads).2 ∧
      run.frames = [[97], [98], [99], [100], []] ∧ run.error = none ∧ run.frames ≠ payloads := by
  intro payloads pieces run
  have hpieces : pieces.flatten = ((Codec.lines (some 1) 2).encodeAll [] payloads).2 := by decide
  obtain ⟨-, hrun, hsame⟩ := lines_round_trip (some 1) 2 payloads pieces hpieces
  refine ⟨hpieces, ?_, ?_, ?_⟩
  · exact (congrArg Drained.frames hrun).trans (by decide)
  · exact congrArg Drained.error hrun
  · intro heq
    exact absurd (hsame.1 heq [98, 10, 99] (by decide)).1 (by decide)

end

/-! ## Payloads behind their lengths -/

section
variable {maxPayload len : Nat} {pending : Option Nat} {payload : Bytes} {payloads : List Bytes}

/-- Four bytes are enough for a length below 2 ^ 32. -/
theorem bigEndian_lengthHeader (h : len < 2 ^ 32) : bigEndian (Codec.lengthHeader len) = len := by
  rw [Codec.lengthHeader, ← lengthOf_eq, lengthOf]
  simp only [Nat.toUInt8, UInt8.toNat_ofNat']
  omega

/-- Four bytes are what spells the length that they spell. -/
theorem lengthHeader_bigEndian {header : Bytes} (h : header.length = 4) :
    Codec.lengthHeader (bigEndian header) = header := by
  match header, h with
  | [a, b, c, e], _ =>
    have ha := a.toNat_lt
    have hb := b.toNat_lt
    have hc := c.toNat_lt
    have he := e.toNat_lt
    rw [← lengthOf_eq, lengthOf, Codec.lengthHeader]
    simp only [List.cons.injEq, ← UInt8.toNat_inj, Nat.toUInt8, UInt8.toNat_ofNat', and_true]
    omega

/-- Payloads one after another, each behind its length. -/
def framed (payloads : List Bytes) : Bytes :=
  payloads.flatMap fun payload => Codec.lengthHeader payload.length ++ payload

theorem framed_cons (payload : Bytes) (rest : List Bytes) :
    framed (payload :: rest) =
      Codec.lengthHeader payload.length ++ (payload ++ framed rest) := by
  rw [framed, List.flatMap_cons, List.append_assoc]
  rfl

/-- Whether a payload is taken by an encoder with this limit. -/
def taken (maxPayload : Nat) (payload : Bytes) : Bool :=
  payload ≠ [] ∧ payload.length ≤ maxPayload

theorem taken_iff : taken maxPayload payload = true ↔
    payload ≠ [] ∧ payload.length ≤ maxPayload :=
  decide_eq_true_iff

theorem encode_of_taken (h : taken maxPayload payload = true) :
    (Codec.lengthPrefixed maxPayload pending).encode payload =
      .ok (Codec.lengthHeader payload.length ++ payload) := by
  obtain ⟨hne, hle⟩ := taken_iff.1 h
  rw [Codec.encode, if_neg hne, if_neg (Nat.not_lt.2 hle)]

theorem encode_of_not_taken (pending : Option Nat) (h : ¬ taken maxPayload payload = true) :
    ∃ error, (Codec.lengthPrefixed maxPayload pending).encode payload = .error error := by
  unfold Codec.encode
  dsimp only
  by_cases hempty : payload = []
  · rw [if_pos hempty]
    exact ⟨_, rfl⟩
  · have hlarge : payload.length > maxPayload := by
      by_contra hle
      exact h (taken_iff.2 ⟨hempty, Nat.not_lt.1 hle⟩)
    rw [if_neg hempty, if_pos hlarge]
    exact ⟨_, rfl⟩

/-- Only what is taken reaches the wire. -/
theorem wire_eq_framed (maxPayload : Nat) (pending : Option Nat) (payloads : List Bytes) :
    (Codec.lengthPrefixed maxPayload pending).wire payloads =
      framed (payloads.filter (taken maxPayload)) := by
  induction payloads with
  | nil => rfl
  | cons payload rest ih =>
    rw [Codec.wire_cons, ih]
    by_cases htaken : taken maxPayload payload = true
    · rw [List.filter_cons_of_pos htaken, framed_cons, encode_of_taken htaken]
      exact List.append_assoc _ _ _
    · obtain ⟨error, herror⟩ := encode_of_not_taken pending htaken
      rw [List.filter_cons_of_neg htaken, herror]
      rfl

/-- What is written behind lengths is read. -/
theorem drain_framed (hmax : maxPayload < 2 ^ 32)
    (htaken : ∀ payload ∈ payloads, taken maxPayload payload = true) :
    (⟨.lengthPrefixed maxPayload none, framed payloads⟩ : Decoder).drain =
      ⟨payloads, none, Decoder.new (.lengthPrefixed maxPayload none)⟩ := by
  induction payloads with
  | nil => exact drain_short (by decide)
  | cons payload rest ih =>
    obtain ⟨hfirst, hrest⟩ := List.forall_mem_cons.1 htaken
    obtain ⟨hne, hle⟩ := taken_iff.1 hfirst
    have hlen : bigEndian (Codec.lengthHeader payload.length) = payload.length :=
      bigEndian_lengthHeader (by omega)
    have hpos := List.length_pos_of_ne_nil hne
    rw [framed_cons, drain_announced (by rfl) (by omega) (by omega), hlen, drain_payload, ih hrest]
    rfl

/-- A run that agrees with one that did not fail has come to the same. -/
theorem Drained.Agrees.eq_of_drain {run whole : Drained} {frames : List Bytes} {d : Decoder}
    (h : run.Agrees whole) (hwhole : whole = ⟨frames, none, d⟩) : run = ⟨frames, none, d⟩ := by
  subst hwhole
  show (⟨run.frames, run.error, run.decoder⟩ : Drained) = _
  rw [h.frames, h.decoder h.error, h.error]

/-- A decoder that is fed a stream in pieces does what it does with the whole stream. -/
theorem feedAll_new_agrees (maxPayload : Nat) (pieces : List Bytes) :
    ((Decoder.new (.lengthPrefixed maxPayload none)).feedAll pieces).Agrees
      (⟨.lengthPrefixed maxPayload none, pieces.flatten⟩ : Decoder).drain := by
  have hfresh : Incomplete maxPayload (Decoder.new (.lengthPrefixed maxPayload none)) :=
    .inl ⟨rfl, Nat.zero_lt_succ 3⟩
  exact feedAll_eq_drain pieces hfresh

/-- What has been received of a frame that is not complete: its length, if that has been taken off
the front, and what stands behind it. -/
def unfinished (d : Decoder) : Bytes :=
  match d.codec with
  | .lengthPrefixed _ (some len) => Codec.lengthHeader len ++ d.buffer
  | _ => d.buffer

/-- What is read without a fault is the payloads that were read, each behind its length, and what is
unfinished. -/
theorem unfinished_eq (maxPayload : Nat) (pending : Option Nat) (buffer : Bytes)
    (h : (⟨.lengthPrefixed maxPayload pending, buffer⟩ : Decoder).drain.error = none) :
    unfinished ⟨.lengthPrefixed maxPayload pending, buffer⟩ =
      framed (⟨.lengthPrefixed maxPayload pending, buffer⟩ : Decoder).drain.frames ++
        (⟨.lengthPrefixed maxPayload pending, buffer⟩ : Decoder).drain.decoder.unfinished := by
  induction pending, buffer using payload_induction maxPayload with
  | short buffer hshort =>
    rw [drain_short hshort]
    rfl
  | empty header rest hlength hzero =>
    rw [drain_empty hlength hzero] at h
    cases h
  | tooLarge header rest hlength hlarge =>
    rw [drain_tooLarge hlength hlarge] at h
    cases h
  | announced header rest hlength hzero hle ih =>
    rw [drain_announced hlength hzero hle] at h ⊢
    rw [← ih h]
    show header ++ rest = Codec.lengthHeader (bigEndian header) ++ rest
    rw [lengthHeader_bigEndian hlength]
  | waiting len buffer hwait =>
    rw [drain_waiting hwait]
    rfl
  | frame payload rest ih =>
    rw [drain_payload] at h ⊢
    have hrest : rest = _ := ih h
    show Codec.lengthHeader payload.length ++ (payload ++ rest) =
      framed (payload :: (⟨.lengthPrefixed maxPayload none, rest⟩ : Decoder).drain.frames) ++
        (⟨.lengthPrefixed maxPayload none, rest⟩ : Decoder).drain.decoder.unfinished
    rw [framed_cons, List.append_assoc, List.append_assoc, ← hrest]

/-- What an encoder answers to a payload, and why. -/
theorem encodeInto_error_iff (maxPayload : Nat) (pending : Option Nat) (waiting payload : Bytes)
    (error : FrameError) :
    ((Codec.lengthPrefixed maxPayload pending).encodeInto waiting payload).1 = .error error ↔
      payload = [] ∧ error = .emptyFrame ∨
        maxPayload < payload.length ∧ error = .payloadTooLarge payload.length maxPayload := by
  unfold Codec.encodeInto
  dsimp only
  by_cases hempty : payload = []
  · subst hempty
    simp [eq_comm]
  · by_cases hlarge : payload.length > maxPayload
    · rw [if_neg hempty, if_pos hlarge]
      simp [hempty, hlarge, eq_comm]
    · rw [if_neg hempty, if_neg hlarge]
      simp [hempty, hlarge]

/-- **What is written behind lengths is read, and what is read is written again.** An encoder
refuses the payloads that are empty or above the limit, and nothing else; one that it refuses
changes nothing. However the wire is cut, a decoder with the same limit reads the payloads that were
not refused; it fails nowhere, and has nothing left. And whatever stream a decoder reads without a
fault, encoding its frames gives the stream up to the frame that is not complete. -/
theorem prefixed_round_trip (maxPayload : Nat) (hmax : maxPayload < 2 ^ 32)
    (pending : Option Nat) :
    let codec : Codec := .lengthPrefixed maxPayload pending
    let fresh := Decoder.new (.lengthPrefixed maxPayload none)
    (∀ waiting payload error, (codec.encodeInto waiting payload).1 = .error error ↔
      payload = [] ∧ error = .emptyFrame ∨
        maxPayload < payload.length ∧ error = .payloadTooLarge payload.length maxPayload) ∧
    (∀ waiting payload error, (codec.encodeInto waiting payload).1 = .error error →
      (codec.encodeInto waiting payload).2 = waiting) ∧
    (∀ payloads pieces : List Bytes, pieces.flatten = (codec.encodeAll [] payloads).2 →
      fresh.feedAll pieces =
        ⟨payloads.filter fun payload => payload ≠ [] ∧ payload.length ≤ maxPayload, none,
          fresh⟩) ∧
    ∀ pieces : List Bytes,
      let run := fresh.feedAll pieces
      run.error = none → Incomplete maxPayload run.decoder ∧
        ∃ consumed, pieces.flatten = consumed ++ run.decoder.unfinished ∧
          codec.encodeAll [] run.frames = (run.frames.map fun _ => .ok (), consumed) := by
  intro codec fresh
  refine ⟨encodeInto_error_iff maxPayload pending, ?_, ?_, ?_⟩
  · intro waiting payload error herror
    rw [Codec.encodeInto_eq] at herror ⊢
    cases hencode : codec.encode payload with
    | error refusal => rfl
    | ok frame =>
      rw [hencode] at herror
      cases herror
  · intro payloads pieces hpieces
    rw [Codec.encodeAll_eq, List.nil_append, wire_eq_framed] at hpieces
    refine (feedAll_new_agrees maxPayload pieces).eq_of_drain ?_
    rw [hpieces]
    exact drain_framed hmax fun payload hpayload => (List.mem_filter.1 hpayload).2
  · intro pieces run hnone
    obtain ⟨hframes, herror, hleft⟩ := feedAll_new_agrees maxPayload pieces
    have hdrained := herror.symm.trans hnone
    have hdecoder : run.decoder = _ := hleft hnone
    refine ⟨hdecoder ▸ incomplete_of_drain maxPayload none pieces.flatten hdrained,
      framed run.frames, ?_, ?_⟩
    · rw [hdecoder, show run.frames = _ from hframes]
      exact unfinished_eq maxPayload none pieces.flatten hdrained
    · have hcarried := carries_feedAll (sound_new (.lengthPrefixed maxPayload none)) pieces
      have htaken : ∀ payload ∈ run.frames, taken maxPayload payload = true :=
        fun payload hpayload => taken_iff.2 (hcarried.carries payload hpayload)
      rw [Codec.encodeAll_eq, List.nil_append, wire_eq_framed, List.filter_eq_self.2 htaken]
      refine congrArg (·, framed run.frames) (List.map_congr_left fun payload hpayload => ?_)
      rw [encode_of_taken (htaken payload hpayload)]
      rfl

/-- Two payloads that are refused among others, and a stream that ends inside a payload. -/
theorem prefixed_round_trip_refused :
    let codec : Codec := .lengthPrefixed 3 (some 2)
    let fresh := Decoder.new (.lengthPrefixed 3 none)
    let payloads : List Bytes := [[1], [], [1, 2, 3, 4], [5, 6, 7]]
    let pieces : List Bytes := [[0, 0, 0, 1, 1, 0, 0], [0, 3, 5, 6, 7]]
    let stream : List Bytes := [[0, 0, 0, 2, 9], [9, 0, 0], [0, 3, 1]]
    3 < 2 ^ 32 ∧
      (codec.encodeInto [8] [1, 2, 3, 4]).1 = .error (.payloadTooLarge 4 3) ∧
      (codec.encodeInto [8] [1, 2, 3, 4]).2 = [8] ∧
      pieces.flatten = (codec.encodeAll [] payloads).2 ∧
      fresh.feedAll pieces = ⟨[[1], [5, 6, 7]], none, fresh⟩ ∧
      (fresh.feedAll stream).error = none ∧ (fresh.feedAll stream).frames = [[9, 9]] ∧
      ∃ consumed, stream.flatten = consumed ++ [0, 0, 0, 3, 1] ∧
        codec.encodeAll [] [[9, 9]] = ([.ok ()], consumed) := by
  intro codec fresh payloads pieces stream
  have hmax : 3 < 2 ^ 32 := by decide
  obtain ⟨hrefused, hsame, hforth, hback⟩ := prefixed_round_trip 3 hmax (some 2)
  have hlarge : (codec.encodeInto [8] [1, 2, 3, 4]).1 = .error (.payloadTooLarge 4 3) :=
    (hrefused [8] [1, 2, 3, 4] _).2 (.inr ⟨by decide, rfl⟩)
  have hpieces : pieces.flatten = (codec.encodeAll [] payloads).2 := by decide
  have hnone : (fresh.feedAll stream).error = none := by decide +kernel
  have hframes : (fresh.feedAll stream).frames = [[9, 9]] := by decide +kernel
  have hleft : (fresh.feedAll stream).decoder.unfinished = [0, 0, 0, 3, 1] := by decide +kernel
  obtain ⟨-, consumed, hstream, hagain⟩ := hback stream hnone
  refine ⟨hmax, hlarge, hsame [8] _ _ hlarge, hpieces, ?_, hnone, hframes, consumed, ?_, ?_⟩
  · exact (hforth payloads pieces hpieces).trans (by decide)
  · exact hstream.trans (congrArg (consumed ++ ·) hleft)
  · rw [show (Decoder.new (.lengthPrefixed 3 none)).feedAll stream = fresh.feedAll stream from rfl,
      hframes] at hagain
    exact hagain

end

end Decoder

end ChatRelay
