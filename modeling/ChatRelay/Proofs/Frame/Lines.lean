import ChatRelay.Proofs.Frame.Drain
import Mathlib.Data.List.TakeWhile

/-!
# Decoding lines

What a decoder of lines makes of a stream does not depend on how the stream is cut into pieces. With
the lines that have ended, each without its newline, and the open line behind the last newline, it
gives

    the lines, each without a carriage return at its end, up to the first that is too long

and fails if there is such a line, or if the open line is longer than the limit and one more. If it
does not fail, the open line is what it keeps (`feedAll_lines`).

The argument is one on streams alone: what is read of `stream ++ more` is what is read of `stream`,
and then, unless that failed, what is read of the open line of `stream` and `more`
(`lines_append_of_none`, `lines_append_of_some`). One look at the bytes at hand reads them in this
sense (`drain_lines`), and the pieces follow by induction.
-/

namespace ChatRelay

namespace Decoder

/-! ## Lines of a stream -/

/-- The lines of a stream that have ended, each without its newline. -/
def endedLines (stream : Bytes) : List Bytes := (stream.splitOn Bytes.newline).dropLast

/-- What stands behind the last newline of a stream. -/
def openLine (stream : Bytes) : Bytes := (stream.splitOn Bytes.newline).getLastD []

/-- Whether a line is within the limit. -/
def within (maxLength : Option Nat) (line : Bytes) : Bool := maxLength.all (line.length ≤ ·)

/-- The frames of a stream: its ended lines without carriage returns, up to the first too long. -/
def lineFrames (maxLength : Option Nat) (stream : Bytes) : List Bytes :=
  ((endedLines stream).map stripReturn).takeWhile (within maxLength)

/-- A stream goes beyond the limit: an ended line is too long, or the open one cannot end in time;
one byte more is granted to it, for the carriage return that may be its last. -/
def Overlong (max : Nat) (stream : Bytes) : Prop :=
  (∃ line ∈ endedLines stream, max < (stripReturn line).length) ∨
    min (max + 1) maxSize < (openLine stream).length

instance (max : Nat) (stream : Bytes) : Decidable (Overlong max stream) :=
  inferInstanceAs (Decidable (_ ∨ _))

/-- The fault of a stream, if it goes beyond the limit. -/
def lineError (maxLength : Option Nat) (stream : Bytes) : Option FrameError :=
  match maxLength with
  | none => none
  | some max => if Overlong max stream then some (.lineTooLong max) else none

/-- Every line has at most as many bytes as a machine word counts. No buffer is ever longer, so this
only matters for the largest limit there is, at which one byte more is not counted. -/
def Countable (maxLength : Option Nat) (stream : Bytes) : Prop :=
  ∀ max ∈ maxLength, max < maxSize ∨ ∀ line ∈ endedLines stream, line.length ≤ maxSize

section
variable {stream line : Bytes}

theorem endedLines_open (h : Bytes.newline ∉ stream) : endedLines stream = [] := by
  rw [endedLines, List.splitOn_eq_singleton h]
  rfl

theorem openLine_open (h : Bytes.newline ∉ stream) : openLine stream = stream := by
  rw [openLine, List.splitOn_eq_singleton h]
  rfl

theorem endedLines_line (h : Bytes.newline ∉ line) (rest : Bytes) :
    endedLines (line ++ Bytes.newline :: rest) = line :: endedLines rest := by
  rw [endedLines, List.splitOn_append_cons_self_of_not_mem h,
    List.dropLast_cons_of_ne_nil (List.splitOn_ne_nil _ _)]
  rfl

theorem openLine_line (h : Bytes.newline ∉ line) (rest : Bytes) :
    openLine (line ++ Bytes.newline :: rest) = openLine rest := by
  rw [openLine, List.splitOn_append_cons_self_of_not_mem h, openLine]
  obtain ⟨first, lines, heq⟩ := List.exists_cons_of_ne_nil (List.splitOn_ne_nil Bytes.newline rest)
  rw [heq]
  rfl

/-- A stream is an open line, or a line, its newline, and a stream. -/
theorem line_induction {P : Bytes → Prop} (opened : ∀ line, Bytes.newline ∉ line → P line)
    (ended : ∀ line rest, Bytes.newline ∉ line → P rest → P (line ++ Bytes.newline :: rest))
    (stream : Bytes) : P stream := by
  induction hn : stream.length using Nat.strongRecOn generalizing stream with
  | ind n ih =>
    by_cases hmem : Bytes.newline ∈ stream
    · obtain ⟨line, rest, rfl, hline⟩ := List.eq_append_cons_of_mem hmem
      refine ended line rest hline (ih rest.length ?_ rest rfl)
      simp only [List.length_append, List.length_cons] at hn
      omega
    · exact opened stream hmem

/-- There is no newline behind the last one. -/
theorem not_mem_openLine (stream : Bytes) : Bytes.newline ∉ openLine stream := by
  induction stream using line_induction with
  | opened line h =>
    rw [openLine_open h]
    exact h
  | ended line rest h ih =>
    rw [openLine_line h]
    exact ih

/-- The lines of a longer stream are those of the stream, and those of its open line and the
rest. -/
theorem endedLines_append (stream more : Bytes) :
    endedLines (stream ++ more) = endedLines stream ++ endedLines (openLine stream ++ more) := by
  induction stream using line_induction with
  | opened line h => rw [endedLines_open h, openLine_open h, List.nil_append]
  | ended line rest h ih =>
    rw [List.append_assoc, List.cons_append, endedLines_line h, endedLines_line h, openLine_line h,
      ih, List.cons_append]

theorem openLine_append (stream more : Bytes) :
    openLine (stream ++ more) = openLine (openLine stream ++ more) := by
  induction stream using line_induction with
  | opened line h => rw [openLine_open h]
  | ended line rest h ih =>
    rw [List.append_assoc, List.cons_append, openLine_line h, openLine_line h, ih]

/-- An open line goes on to be the beginning of the next line that ends, or of the open line. -/
theorem open_goes_on (h : Bytes.newline ∉ line) (more : Bytes) :
    (∃ ending lines, endedLines (line ++ more) = (line ++ ending) :: lines) ∨
      (endedLines (line ++ more) = [] ∧ openLine (line ++ more) = line ++ more) := by
  by_cases hmem : Bytes.newline ∈ more
  · obtain ⟨ending, rest, rfl, hending⟩ := List.eq_append_cons_of_mem hmem
    left
    refine ⟨ending, endedLines rest, ?_⟩
    rw [← List.append_assoc]
    exact endedLines_line (by simp [h, hending]) rest
  · have hnone : Bytes.newline ∉ line ++ more := by simp [h, hmem]
    exact .inr ⟨endedLines_open hnone, openLine_open hnone⟩

/-- A line loses at most one byte. -/
theorem length_le_stripReturn (line : Bytes) : line.length ≤ (stripReturn line).length + 1 := by
  unfold stripReturn
  split
  · rw [List.length_dropLast]
    omega
  · omega

end

/-! ## Reading longer streams -/

section
variable {maxLength : Option Nat} {stream : Bytes}

theorem Countable.openLine {more : Bytes} (h : Countable maxLength (stream ++ more)) :
    Countable maxLength (openLine stream ++ more) := by
  intro max hmax
  rcases h max hmax with hlt | hlines
  · exact .inl hlt
  · right
    intro line hline
    exact hlines line (by simp [endedLines_append stream more, hline])

theorem within_some {max : Nat} {line : Bytes} :
    within (some max) line = true ↔ line.length ≤ max := by
  simp [within]

theorem lineError_some_eq_none {max : Nat} :
    lineError (some max) stream = none ↔ ¬ Overlong max stream := by
  simp [lineError]

/-- If no line that has ended is too long, each is within the limit. -/
theorem within_of_not_long {max : Nat}
    (h : ¬ ∃ line ∈ endedLines stream, max < (stripReturn line).length) :
    ∀ line ∈ (endedLines stream).map stripReturn, within (some max) line = true := by
  intro line hline
  obtain ⟨raw, hraw, rfl⟩ := List.mem_map.1 hline
  exact within_some.2 (Nat.le_of_not_lt fun hlong => h ⟨raw, hraw, hlong⟩)

theorem within_of_lineError (h : lineError maxLength stream = none) :
    ∀ line ∈ (endedLines stream).map stripReturn, within maxLength line = true := by
  cases maxLength with
  | none =>
    intro line _
    rfl
  | some max => exact within_of_not_long fun hlong => lineError_some_eq_none.1 h (.inl hlong)

/-- Lines within the limit are all given. -/
theorem lineFrames_of_within (h : ∀ line ∈ (endedLines stream).map stripReturn,
    within maxLength line = true) (more : Bytes) :
    lineFrames maxLength (stream ++ more) =
      lineFrames maxLength stream ++ lineFrames maxLength (openLine stream ++ more) := by
  have hall : lineFrames maxLength stream = (endedLines stream).map stripReturn := by
    rw [lineFrames, List.takeWhile_eq_self_iff]
    exact h
  rw [hall, lineFrames, endedLines_append, List.map_append, List.takeWhile_append_of_pos h]
  rfl

/-- An open line beyond the limit stays beyond it, and no frame comes of it. -/
theorem overlong_of_open {max : Nat} {line more : Bytes} (hline : Bytes.newline ∉ line)
    (hlong : min (max + 1) maxSize < line.length) (hcount : Countable (some max) (line ++ more)) :
    lineFrames (some max) (line ++ more) = [] ∧ Overlong max (line ++ more) := by
  rcases open_goes_on hline more with ⟨ending, lines, hended⟩ | ⟨hended, hopen⟩
  · have hstrip := length_le_stripReturn (line ++ ending)
    have hcounted := hcount max rfl
    rw [hended] at hcounted
    have hlonger : max < (stripReturn (line ++ ending)).length := by
      rw [List.length_append] at hstrip
      rcases hcounted with hlt | hlines
      · omega
      · have := hlines (line ++ ending) List.mem_cons_self
        rw [List.length_append] at this
        omega
    constructor
    · rw [lineFrames, hended, List.map_cons, List.takeWhile_cons_of_neg]
      simp [within, hlonger]
    · exact .inl ⟨line ++ ending, by simp [hended], hlonger⟩
  · constructor
    · rw [lineFrames, hended]
      rfl
    · right
      rw [hopen, List.length_append]
      omega

/-- What is read of a longer stream is what is read of the stream, and then what is read of its open
line and the rest. -/
theorem lines_append_of_none (h : lineError maxLength stream = none) (more : Bytes) :
    lineFrames maxLength (stream ++ more) =
        lineFrames maxLength stream ++ lineFrames maxLength (openLine stream ++ more) ∧
      lineError maxLength (stream ++ more) = lineError maxLength (openLine stream ++ more) := by
  refine ⟨lineFrames_of_within (within_of_lineError h) more, ?_⟩
  cases maxLength with
  | none => rfl
  | some max =>
    have hwithin := lineError_some_eq_none.1 h
    have hsame : Overlong max (stream ++ more) ↔ Overlong max (openLine stream ++ more) := by
      unfold Overlong
      rw [endedLines_append, openLine_append]
      constructor
      · rintro (⟨line, hline, hlong⟩ | hlong)
        · rcases List.mem_append.1 hline with hold | hnew
          · exact absurd (.inl ⟨line, hold, hlong⟩) hwithin
          · exact .inl ⟨line, hnew, hlong⟩
        · exact .inr hlong
      · rintro (⟨line, hline, hlong⟩ | hlong)
        · exact .inl ⟨line, List.mem_append_right _ hline, hlong⟩
        · exact .inr hlong
    simp only [lineError, hsame]

/-- A stream beyond the limit stays beyond it, and gives no more frames. -/
theorem overlong_append {max : Nat} (h : Overlong max stream) {more : Bytes}
    (hcount : Countable (some max) (stream ++ more)) :
    lineFrames (some max) (stream ++ more) = lineFrames (some max) stream ∧
      Overlong max (stream ++ more) := by
  by_cases hended : ∃ line ∈ endedLines stream, max < (stripReturn line).length
  · obtain ⟨line, hline, hlong⟩ := hended
    constructor
    · rw [lineFrames, endedLines_append, List.map_append, List.takeWhile_append, if_neg]
      · rfl
      · -- Otherwise the line would be within the limit with all others.
        intro hlength
        have hall := (List.takeWhile_prefix (within (some max))).eq_of_length hlength
        have hwithin := List.takeWhile_eq_self_iff.1 hall _ (List.mem_map_of_mem hline)
        rw [within_some] at hwithin
        omega
    · left
      exact ⟨line, by simp [endedLines_append stream more, hline], hlong⟩
  · have hall := within_of_not_long hended
    obtain ⟨hframes, hagain⟩ :=
      overlong_of_open (not_mem_openLine stream) (h.resolve_left hended) hcount.openLine
    constructor
    · rw [lineFrames_of_within hall, hframes, List.append_nil]
    · unfold Overlong at hagain ⊢
      rw [endedLines_append, openLine_append]
      rcases hagain with ⟨line, hline, hlong⟩ | hlong
      · exact .inl ⟨line, List.mem_append_right _ hline, hlong⟩
      · exact .inr hlong

/-- A fault is not undone by what comes after it. -/
theorem lines_append_of_some {error : FrameError} (h : lineError maxLength stream = some error)
    {more : Bytes} (hcount : Countable maxLength (stream ++ more)) :
    lineFrames maxLength (stream ++ more) = lineFrames maxLength stream ∧
      lineError maxLength (stream ++ more) = some error := by
  cases maxLength with
  | none => simp [lineError] at h
  | some max =>
    by_cases hover : Overlong max stream
    · obtain ⟨hframes, hagain⟩ := overlong_append hover hcount
      refine ⟨hframes, ?_⟩
      rw [← h, lineError, lineError, if_pos hover, if_pos hagain]
    · rw [lineError_some_eq_none.2 hover] at h
      simp at h

end

/-! ## Decoding -/

section
variable {maxLength : Option Nat} {scanned : Nat} {buffer line rest : Bytes}

theorem splitLine_open (h : Bytes.newline ∉ buffer) : splitLine scanned buffer = none := by
  have hnone : (buffer.drop scanned).dropWhile (· != Bytes.newline) = [] := by
    rw [List.dropWhile_eq_nil_iff]
    intro b hb
    have hmem := List.mem_of_mem_drop hb
    simp only [bne_iff_ne, ne_eq]
    rintro rfl
    exact h hmem
  rw [splitLine, hnone]

/-- A line is found from wherever in it the search begins. -/
theorem splitLine_line (h : Bytes.newline ∉ line) (hscanned : scanned ≤ line.length) :
    splitLine scanned (line ++ Bytes.newline :: rest) = some (line, rest) := by
  have hall : ∀ b ∈ line.drop scanned, (b != Bytes.newline) = true := by
    intro b hb
    have hmem := List.mem_of_mem_drop hb
    simp only [bne_iff_ne, ne_eq]
    rintro rfl
    exact h hmem
  rw [splitLine, List.drop_append_of_le_length hscanned, List.take_append_of_le_length hscanned,
    List.dropWhile_append_of_pos hall, List.takeWhile_append_of_pos hall]
  simp

/-- One look at an open line. -/
theorem next_open (maxLength : Option Nat) (scanned : Nat) (h : Bytes.newline ∉ buffer) :
    (⟨.lines maxLength scanned, buffer⟩ : Decoder).next =
      (match lineError maxLength buffer with
        | some error => .failed error
        | none => .incomplete,
        ⟨.lines maxLength buffer.length, buffer⟩) := by
  rw [next]
  simp only [nextLine, splitLine_open h]
  cases maxLength with
  | none => rfl
  | some max =>
    have hover : Overlong max buffer ↔ min (max + 1) maxSize < buffer.length := by
      simp [Overlong, endedLines_open h, openLine_open h]
    rw [Option.filter_some]
    by_cases hlong : min (max + 1) maxSize < buffer.length
    · rw [if_pos (decide_eq_true hlong), lineError, if_pos (hover.2 hlong)]
    · rw [if_neg (by simpa using hlong), lineError, if_neg (mt hover.1 hlong)]

/-- One look at a line that has ended within the limit. -/
theorem next_line_within (h : Bytes.newline ∉ line) (hscanned : scanned ≤ line.length)
    (hwithin : within maxLength (stripReturn line) = true) :
    (⟨.lines maxLength scanned, line ++ Bytes.newline :: rest⟩ : Decoder).next =
      (.frame (stripReturn line), ⟨.lines maxLength 0, rest⟩) := by
  rw [next]
  simp only [nextLine, splitLine_line h hscanned]
  cases maxLength with
  | none => rfl
  | some max =>
    rw [within_some] at hwithin
    rw [Option.filter_some, if_neg (by simpa using hwithin)]

/-- One look at a line that has ended and is too long. -/
theorem next_line_long {max : Nat} (h : Bytes.newline ∉ line) (hscanned : scanned ≤ line.length)
    (hlong : max < (stripReturn line).length) :
    (⟨.lines (some max) scanned, line ++ Bytes.newline :: rest⟩ : Decoder).next =
      (.failed (.lineTooLong max), ⟨.lines (some max) 0, rest⟩) := by
  rw [next]
  simp only [nextLine, splitLine_line h hscanned]
  rw [Option.filter_some, if_pos (decide_eq_true hlong)]

theorem overlong_line {max : Nat} (h : Bytes.newline ∉ line) :
    Overlong max (line ++ Bytes.newline :: rest) ↔
      max < (stripReturn line).length ∨ Overlong max rest := by
  simp [Overlong, endedLines_line h, openLine_line h, or_assoc]

theorem lineFrames_line (h : Bytes.newline ∉ line) :
    lineFrames maxLength (line ++ Bytes.newline :: rest) =
      if within maxLength (stripReturn line) then stripReturn line :: lineFrames maxLength rest
      else [] := by
  rw [lineFrames, endedLines_line h, List.map_cons, List.takeWhile_cons]
  rfl

/-- A search that has found no newline goes on inside the first line. -/
theorem scanned_le_line (h : Bytes.newline ∉ (line ++ Bytes.newline :: rest).take scanned) :
    scanned ≤ line.length := by
  by_contra hlt
  apply h
  rw [List.take_append]
  have hpos : scanned - line.length ≠ 0 := by omega
  obtain ⟨n, hn⟩ := Nat.exists_eq_succ_of_ne_zero hpos
  simp [hn]

/-- What is given of the bytes at hand, if no newline is among those that were looked at before. -/
theorem drain_lines (maxLength : Option Nat) (scanned : Nat)
    (hscanned : Bytes.newline ∉ buffer.take scanned) :
    ∃ d, (⟨.lines maxLength scanned, buffer⟩ : Decoder).drain =
        ⟨lineFrames maxLength buffer, lineError maxLength buffer, d⟩ ∧
      (lineError maxLength buffer = none →
        d = ⟨.lines maxLength (openLine buffer).length, openLine buffer⟩) := by
  induction buffer using line_induction generalizing scanned with
  | opened buffer h =>
    have hframes : lineFrames maxLength buffer = [] := by
      rw [lineFrames, endedLines_open h]
      rfl
    have hnext := next_open maxLength scanned h
    refine ⟨⟨.lines maxLength buffer.length, buffer⟩, ?_, fun _ => by rw [openLine_open h]⟩
    cases herror : lineError maxLength buffer with
    | none =>
      rw [herror] at hnext
      rw [drain_of_incomplete hnext, hframes]
    | some error =>
      rw [herror] at hnext
      rw [drain_of_failed hnext, hframes]
  | ended line rest h ih =>
    have hle : scanned ≤ line.length := scanned_le_line hscanned
    by_cases hwithin : within maxLength (stripReturn line) = true
    · obtain ⟨d, hdrain, hleft⟩ := ih 0 (by simp)
      have herror : lineError maxLength (line ++ Bytes.newline :: rest) =
          lineError maxLength rest := by
        cases maxLength with
        | none => rfl
        | some max =>
          have hnot : ¬ max < (stripReturn line).length := Nat.not_lt.2 (within_some.1 hwithin)
          simp [lineError, overlong_line h, hnot]
      refine ⟨d, ?_, ?_⟩
      · rw [drain_of_frame (next_line_within h hle hwithin), hdrain, herror, lineFrames_line h,
          if_pos hwithin]
        rfl
      · rw [herror, openLine_line h]
        exact hleft
    · cases maxLength with
      | none => exact absurd rfl hwithin
      | some max =>
        have hlong : max < (stripReturn line).length := by
          rw [within_some] at hwithin
          omega
        have herror : lineError (some max) (line ++ Bytes.newline :: rest) =
            some (.lineTooLong max) := by
          rw [lineError, if_pos ((overlong_line h).2 (.inl hlong))]
        refine ⟨⟨.lines (some max) 0, rest⟩, ?_, ?_⟩
        · rw [drain_of_failed (next_line_long h hle hlong), lineFrames_line h, if_neg hwithin,
            herror]
        · rw [herror]
          intro hnone
          simp at hnone

/-! ## Pieces -/

/-- What has been made of a stream is what its lines say. -/
structure ReadsLines (maxLength : Option Nat) (stream : Bytes) (run : Drained) : Prop where
  frames : run.frames = lineFrames maxLength stream
  error : run.error = lineError maxLength stream
  left : run.error = none → run.decoder.buffer = openLine stream

/-- The pieces of a stream are read as the stream, behind an open line that was kept. -/
theorem feedAll_lines_from (maxLength : Option Nat) (scanned : Nat) (buffer : Bytes)
    (pieces : List Bytes) (hscanned : scanned ≤ buffer.length) (hopen : Bytes.newline ∉ buffer)
    (hwithin : lineError maxLength buffer = none)
    (hcount : Countable maxLength (buffer ++ pieces.flatten)) :
    ReadsLines maxLength (buffer ++ pieces.flatten)
      ((⟨.lines maxLength scanned, buffer⟩ : Decoder).feedAll pieces) := by
  induction pieces generalizing scanned buffer with
  | nil =>
    rw [List.flatten_nil, List.append_nil]
    constructor
    · rw [lineFrames, endedLines_open hopen]
      rfl
    · exact hwithin.symm
    · intro _
      exact (openLine_open hopen).symm
  | cons piece rest ih =>
    rw [List.flatten_cons, ← List.append_assoc] at hcount ⊢
    have hlooked : Bytes.newline ∉ (buffer ++ piece).take scanned := by
      rw [List.take_append_of_le_length hscanned]
      exact fun hmem => hopen (List.mem_of_mem_take hmem)
    obtain ⟨d, hdrain, hleft⟩ := drain_lines maxLength scanned hlooked
    cases herror : lineError maxLength (buffer ++ piece) with
    | none =>
      rw [herror] at hdrain
      rw [hleft herror] at hdrain
      obtain ⟨hframes, hlater⟩ := lines_append_of_none herror rest.flatten
      have hopened : lineError maxLength (openLine (buffer ++ piece)) = none := by
        have hsame := (lines_append_of_none herror []).2
        rw [List.append_nil, List.append_nil, herror] at hsame
        exact hsame.symm
      have hrest := ih _ _ (Nat.le_refl _) (not_mem_openLine _) hopened hcount.openLine
      rw [feedAll_cons_of_drain rest hdrain]
      constructor
      · rw [hframes, ← hrest.frames]
        rfl
      · rw [hlater, ← hrest.error]
        rfl
      · intro hnone
        exact (hrest.left hnone).trans (openLine_append _ _).symm
    | some error =>
      rw [herror] at hdrain
      obtain ⟨hframes, hlater⟩ := lines_append_of_some herror hcount
      rw [feedAll_cons_of_error rest hdrain]
      constructor
      · exact hframes.symm
      · exact hlater.symm
      · intro hnone
        simp at hnone

/-- **Lines are read alike however the stream is cut.** The frames are the lines that have ended, in
order, without their carriage returns and up to the first that is too long; there is a fault if one
is, or if the open line is beyond the limit; and without a fault the open line is what is kept. -/
theorem feedAll_lines (maxLength : Option Nat) (pieces : List Bytes)
    (hcount : Countable maxLength pieces.flatten) :
    let run := (Decoder.new (.lines maxLength 0)).feedAll pieces
    (run.frames = ((endedLines pieces.flatten).map stripReturn).takeWhile (within maxLength) ∧
      run.error = lineError maxLength pieces.flatten ∧
      (run.error = none → run.decoder.buffer = openLine pieces.flatten)) ∧
    ∀ others : List Bytes, others.flatten = pieces.flatten →
      let again := (Decoder.new (.lines maxLength 0)).feedAll others
      again.frames = run.frames ∧ again.error = run.error ∧
        (run.error = none → again.decoder.buffer = run.decoder.buffer) := by
  have hreads : ∀ others : List Bytes, others.flatten = pieces.flatten →
      ReadsLines maxLength pieces.flatten
        ((Decoder.new (.lines maxLength 0)).feedAll others) := by
    intro others hsame
    have hwithin : lineError maxLength [] = none := by
      cases maxLength with
      | none => rfl
      | some max => simp [lineError, Overlong, endedLines, openLine]
    have h := feedAll_lines_from maxLength 0 [] others (Nat.le_refl _) (by simp) hwithin
      (by rwa [List.nil_append, hsame])
    rw [List.nil_append, hsame] at h
    exact h
  intro run
  have h := hreads pieces rfl
  refine ⟨⟨h.frames, h.error, h.left⟩, ?_⟩
  intro others hsame again
  have h' := hreads others hsame
  have herror : again.error = run.error := h'.error.trans h.error.symm
  refine ⟨h'.frames.trans h.frames.symm, herror, ?_⟩
  intro hnone
  exact (h'.left (herror.trans hnone)).trans (h.left hnone).symm

/-- A carriage return at the limit, its newline in the next piece, and then a line that is too long
but has not ended yet. -/
theorem feedAll_lines_at_limit :
    let pieces : List Bytes := [[97, 98, 13], [10, 97], [98, 99, 100]]
    let run := (Decoder.new (.lines (some 2) 0)).feedAll pieces
    Countable (some 2) pieces.flatten ∧ run.frames = [[97, 98]] ∧
      run.error = some (.lineTooLong 2) := by
  intro pieces run
  have hcount : Countable (some 2) pieces.flatten := by
    intro max hmax
    left
    rw [← Option.some.inj hmax]
    decide
  obtain ⟨⟨hframes, herror, -⟩, -⟩ := feedAll_lines (some 2) pieces hcount
  exact ⟨hcount, hframes.trans (by decide), herror.trans (by decide)⟩

end

end Decoder

end ChatRelay
