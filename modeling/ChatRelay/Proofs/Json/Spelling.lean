import ChatRelay.Json.Record

/-!
# How values are spelled

JSON leaves much to the writer: blanks stand between tokens, characters of a string may be escaped
in several ways, the keys of an object come in any order. A value is therefore given a set of texts,
its spellings, by what it is and not by how it is read.

`Reads reader texts value` says that a reader takes each of these texts for the value, behind any
blanks and before whatever may follow a value, and stops right behind it. Every reader of expected
values is proved to read what is spelled like this (`reads_text`, `reads_natural`, `reads_option`,
`reads_choice`).
-/

namespace ChatRelay.Json

/-- The spellings of something. -/
abbrev Texts := List Char → Prop

/-! ## Tokens and what stands between them -/

/-- A text of blanks alone. -/
def Blanks (text : List Char) : Prop := ∀ c ∈ text, isBlank c = true

/-- The characters that may stand behind a value: blanks, a comma, and closing brackets. -/
def followers : List Char := [' ', '\t', '\n', '\r', ',', ']', '\x7d']

/-- What may stand behind a value: one of these characters and what it begins, or nothing. -/
def Follows (rest : List Char) : Prop := ∀ c ∈ rest.head?, c ∈ followers

theorem blanks_nil : Blanks [] := nofun

theorem follows_nil : Follows [] := nofun

variable {blanks rest : List Char}

theorem follows_cons {c : Char} : Follows (c :: rest) ↔ c ∈ followers := by
  simp [Follows]

theorem mem_followers_of_blank {c : Char} (h : isBlank c = true) : c ∈ followers := by
  simp only [isBlank, Bool.or_eq_true, decide_eq_true_eq] at h
  obtain ((rfl | rfl) | rfl) | rfl := h <;> decide

theorem Blanks.follows (h : Blanks blanks) (hrest : Follows rest) : Follows (blanks ++ rest) := by
  cases blanks with
  | nil => exact hrest
  | cons blank blanks => exact follows_cons.2 (mem_followers_of_blank (h blank List.mem_cons_self))

theorem skipBlanks_append (h : Blanks blanks) (text : List Char) :
    skipBlanks (blanks ++ text) = skipBlanks text :=
  List.dropWhile_append_of_pos h

/-- Blanks are passed over up to the next token. -/
theorem skipBlanks_token (h : Blanks blanks) {c : Char} (hc : isBlank c = false)
    (text : List Char) : skipBlanks (blanks ++ c :: text) = c :: text := by
  rw [skipBlanks_append h]
  exact List.dropWhile_cons_of_neg (by simp [hc])

theorem skipBlanks_blanks (h : Blanks blanks) : skipBlanks blanks = [] := by
  have := skipBlanks_append h []
  rwa [List.append_nil] at this

theorem skipWord_append (word rest : List Char) : skipWord word (word ++ rest) = .ok rest := by
  induction word with
  | nil => rfl
  | cons w word ih =>
    rw [List.cons_append, skipWord, if_pos rfl]
    exact ih

/-- A reader takes each of these texts for a value, and stops behind it. -/
def Reads {α : Type} (reader : Reader α) (texts : Texts) (value : α) : Prop :=
  ∀ blanks text rest, Blanks blanks → texts text → Follows rest →
    reader (blanks ++ (text ++ rest)) = .ok (value, rest)

/-- These texts begin neither with a blank, nor as the end of a list or a null does. -/
def Solid (texts : Texts) : Prop :=
  ∀ text, texts text → ∃ c tail, text = c :: tail ∧ isBlank c = false ∧ c ≠ ']' ∧ c ≠ 'n'

/-- A text that holds one value, with blanks around it. -/
def Whole (texts : Texts) : Texts := fun text =>
  ∃ before inner after, Blanks before ∧ texts inner ∧ Blanks after ∧
    text = before ++ (inner ++ after)

theorem whole_of_texts {texts : Texts} {text : List Char} (h : texts text) : Whole texts text :=
  ⟨[], text, [], blanks_nil, h, blanks_nil, (List.append_nil text).symm⟩

theorem Reads.whole {α : Type} {reader : Reader α} {texts : Texts} {value : α}
    (h : Reads reader texts value) {text : List Char} (htext : Whole texts text) :
    readWhole reader text = .ok value := by
  obtain ⟨before, inner, after, hbefore, hinner, hafter, rfl⟩ := htext
  have hfollows : Follows after := by
    have := hafter.follows follows_nil
    rwa [List.append_nil] at this
  rw [readWhole, h before inner after hbefore hinner hfollows]
  show (if skipBlanks after = [] then pure value else throw Problem.malformed) = _
  rw [if_pos (skipBlanks_blanks hafter)]
  rfl

/-! ## Strings -/

/-- Four hexadecimal digits for a code unit. -/
def UnitDigits (unit : Nat) (digits : List Char) : Prop :=
  ∃ a b c d va vb vc vd, digits = [a, b, c, d] ∧ hexDigit? a = some va ∧ hexDigit? b = some vb ∧
    hexDigit? c = some vc ∧ hexDigit? d = some vd ∧ unit = ((va * 16 + vb) * 16 + vc) * 16 + vd

/-- What stands between the quotes of a string with these characters: each of them as it is, behind
a backslash, or by its code units. -/
inductive Quoted : List Char → Texts
  | nil : Quoted [] []
  | plain {c : Char} {chars text : List Char} (quote : c ≠ '"') (backslash : c ≠ '\\')
      (control : 0x20 ≤ c.toNat) (later : Quoted chars text) : Quoted (c :: chars) (c :: text)
  | escape {letter c : Char} {chars text : List Char} (escaped : escaped? letter = some c)
      (later : Quoted chars text) : Quoted (c :: chars) ('\\' :: letter :: text)
  | unit {unit : Nat} {chars digits text : List Char} (spelled : UnitDigits unit digits)
      (leading : isLeading unit = false) (trailing : isTrailing unit = false)
      (later : Quoted chars text) :
      Quoted (Char.ofNat unit :: chars) ('\\' :: 'u' :: (digits ++ text))
  | pair {first second : Nat} {chars digits digits' text : List Char}
      (spelled : UnitDigits first digits) (leading : isLeading first = true)
      (spelled' : UnitDigits second digits') (trailing : isTrailing second = true)
      (later : Quoted chars text) :
      Quoted (Char.ofNat (joinUnits first second) :: chars)
        ('\\' :: 'u' :: (digits ++ '\\' :: 'u' :: (digits' ++ text)))

/-- The strings with these characters. -/
def text (value : String) : Texts := fun text =>
  ∃ body, Quoted value.toList body ∧ text = '"' :: (body ++ ['"'])

/-- Characters that need no backslash stand for themselves. -/
theorem quoted_plain {chars : List Char}
    (h : ∀ c ∈ chars, c ≠ '"' ∧ c ≠ '\\' ∧ 0x20 ≤ c.toNat) : Quoted chars chars := by
  induction chars with
  | nil => exact .nil
  | cons c chars ih =>
    obtain ⟨quote, backslash, control⟩ := h c List.mem_cons_self
    exact .plain quote backslash control (ih fun d hd => h d (List.mem_cons_of_mem c hd))

theorem text_plain {value : String}
    (h : ∀ c ∈ value.toList, c ≠ '"' ∧ c ≠ '\\' ∧ 0x20 ≤ c.toNat) :
    text value ('"' :: (value.toList ++ ['"'])) :=
  ⟨value.toList, quoted_plain h, rfl⟩

theorem readUnit_digits {unit : Nat} {digits : List Char} (h : UnitDigits unit digits)
    (rest : List Char) : readUnit (digits ++ rest) = .ok (unit, rest) := by
  obtain ⟨a, b, c, d, va, vb, vc, vd, rfl, ha, hb, hc, hd, rfl⟩ := h
  simp only [List.cons_append, List.nil_append, readUnit, ha, hb, hc, hd]

/-- A code unit that is no surrogate is a character by itself. -/
theorem readCodePoint_unit {unit : Nat} {digits : List Char} (h : UnitDigits unit digits)
    (leading : isLeading unit = false) (trailing : isTrailing unit = false) (rest : List Char) :
    readCodePoint (digits ++ rest) = .ok (Char.ofNat unit, rest) := by
  rw [readCodePoint, readUnit_digits h]
  simp only [bind, Except.bind, trailing, leading]
  rfl

/-- A leading and a trailing surrogate are one character together. -/
theorem readCodePoint_pair {first second : Nat} {digits digits' : List Char}
    (h : UnitDigits first digits) (leading : isLeading first = true)
    (h' : UnitDigits second digits') (trailing : isTrailing second = true) (rest : List Char) :
    readCodePoint (digits ++ '\\' :: 'u' :: (digits' ++ rest)) =
      .ok (Char.ofNat (joinUnits first second), rest) := by
  have hfirst : isTrailing first = false := by
    simp only [isLeading, isTrailing, Bool.and_eq_true, decide_eq_true_eq, Bool.and_eq_false_iff,
      decide_eq_false_iff_not] at leading ⊢
    omega
  have hword : skipWord ['\\', 'u'] ('\\' :: 'u' :: (digits' ++ rest)) = .ok (digits' ++ rest) :=
    skipWord_append ['\\', 'u'] _
  rw [readCodePoint, readUnit_digits h]
  simp only [bind, Except.bind, hfirst, leading, hword, readUnit_digits h', trailing]
  rfl

section ReadText

variable (fuel : Nat) (read tail : List Char)

theorem readTextFrom_quote :
    readTextFrom (fuel + 1) read ('"' :: tail) = .ok (String.ofList read.reverse, tail) := rfl

theorem readTextFrom_plain {c : Char} (quote : c ≠ '"') (backslash : c ≠ '\\')
    (control : 0x20 ≤ c.toNat) :
    readTextFrom (fuel + 1) read (c :: tail) = readTextFrom fuel (c :: read) tail := by
  rw [readTextFrom.eq_def]
  simp only [if_neg quote, if_neg backslash, if_neg (Nat.not_lt.2 control)]

theorem readTextFrom_escape {letter c : Char} (escaped : escaped? letter = some c) :
    readTextFrom (fuel + 1) read ('\\' :: letter :: tail) = readTextFrom fuel (c :: read) tail := by
  have hletter : letter ≠ 'u' := by
    rintro rfl
    exact Option.some_ne_none c (escaped.symm.trans rfl)
  rw [readTextFrom, if_neg (by decide), if_pos rfl, escaped]
  exact hletter

theorem readTextFrom_code {c : Char} {digits : List Char}
    (h : readCodePoint digits = .ok (c, tail)) :
    readTextFrom (fuel + 1) read ('\\' :: 'u' :: digits) = readTextFrom fuel (c :: read) tail := by
  rw [readTextFrom, if_neg (by decide), if_pos rfl]
  simp only [h, bind, Except.bind]

end ReadText

/-- What stands between the quotes is read as the characters that it spells. -/
theorem readTextFrom_quoted {chars body : List Char} (h : Quoted chars body) (fuel : Nat)
    (hfuel : body.length < fuel) (read rest : List Char) :
    readTextFrom fuel read (body ++ '"' :: rest) =
      .ok (String.ofList (read.reverse ++ chars), rest) := by
  induction h generalizing fuel read with
  | nil =>
    obtain ⟨fuel, rfl⟩ := Nat.exists_eq_add_one_of_ne_zero (Nat.ne_zero_of_lt hfuel)
    rw [List.append_nil]
    exact readTextFrom_quote fuel read rest
  | plain quote backslash control later ih =>
    obtain ⟨fuel, rfl⟩ := Nat.exists_eq_add_one_of_ne_zero (Nat.ne_zero_of_lt hfuel)
    rw [List.cons_append, readTextFrom_plain fuel read _ quote backslash control,
      ih fuel (Nat.lt_of_succ_lt_succ hfuel)]
    simp
  | escape escaped later ih =>
    obtain ⟨fuel, rfl⟩ := Nat.exists_eq_add_one_of_ne_zero (Nat.ne_zero_of_lt hfuel)
    rw [List.cons_append, List.cons_append, readTextFrom_escape fuel read _ escaped,
      ih fuel (by simp only [List.length_cons] at hfuel; omega)]
    simp
  | unit spelled leading trailing later ih =>
    obtain ⟨fuel, rfl⟩ := Nat.exists_eq_add_one_of_ne_zero (Nat.ne_zero_of_lt hfuel)
    rw [List.cons_append, List.cons_append, List.append_assoc,
      readTextFrom_code fuel read _ (readCodePoint_unit spelled leading trailing _),
      ih fuel (by simp only [List.length_cons, List.length_append] at hfuel; omega)]
    simp
  | pair spelled leading spelled' trailing later ih =>
    obtain ⟨fuel, rfl⟩ := Nat.exists_eq_add_one_of_ne_zero (Nat.ne_zero_of_lt hfuel)
    simp only [List.cons_append, List.append_assoc]
    rw [readTextFrom_code fuel read _ (readCodePoint_pair spelled leading spelled' trailing _),
      ih fuel (by simp only [List.length_cons, List.length_append] at hfuel; omega)]
    simp

theorem readText_text {value : String} {spelled : List Char} (h : text value spelled)
    (rest : List Char) :
    ∃ later, spelled ++ rest = '"' :: later ∧ readText later = .ok (value, rest) := by
  obtain ⟨body, hbody, rfl⟩ := h
  refine ⟨body ++ '"' :: rest, by simp, ?_⟩
  rw [readText, readTextFrom_quoted hbody _ (by simp)]
  simp

/-- A string is read as its characters. -/
theorem reads_text (expected value : String) : Reads (expectText expected) (text value) value := by
  intro blanks spelled rest hblanks hspelled _
  obtain ⟨later, hlater, hread⟩ := readText_text hspelled rest
  rw [hlater, expectText, skipBlanks_token hblanks rfl]
  exact hread

theorem solid_text (value : String) : Solid (text value) := by
  rintro _ ⟨body, -, rfl⟩
  exact ⟨'"', _, rfl, by decide⟩

/-! ## Natural numbers -/

/-- The decimal digits of a number up to a largest one. -/
def natural (largest n : Nat) : Texts := fun text => n ≤ largest ∧ text = Nat.toDigits 10 n

theorem digit?_of_isDigit {c : Char} (h : c.isDigit = true) :
    digit? c = some (c.toNat - '0'.toNat) := by
  rw [Char.isDigit_iff_toNat] at h
  rw [digit?, if_pos]
  exact h

theorem digit?_follower : ∀ c ∈ followers, digit? c = none := by
  simp [followers, digit?]

/-- What follows a value does not go on with a number. -/
theorem Follows.startsWithDigit (h : Follows rest) : startsWithDigit rest = false := by
  cases rest with
  | nil => rfl
  | cons c tail =>
    rw [Json.startsWithDigit, digit?_follower c (follows_cons.1 h), Option.isSome_none]

theorem le_ofDigitChars (digits : List Char) (n : Nat) : n ≤ Nat.ofDigitChars 10 digits n := by
  rw [Nat.ofDigitChars_eq_ofDigitChars_zero]
  have hpos : 0 < 10 ^ digits.length := Nat.pow_pos (by decide)
  exact Nat.le_trans (Nat.le_mul_of_pos_left n hpos) (Nat.le_add_right _ _)

/-- All digits are taken when the number that they spell fits a machine word. -/
theorem takeWord_digits {digits : List Char} (hdigits : ∀ c ∈ digits, c.isDigit = true) (n : Nat)
    (hle : Nat.ofDigitChars 10 digits n ≤ maxSize) (hrest : Follows rest) :
    takeWord n (digits ++ rest) = (Nat.ofDigitChars 10 digits n, rest) := by
  induction digits generalizing n with
  | nil =>
    rw [List.nil_append, Nat.ofDigitChars_nil]
    cases rest with
    | nil => rfl
    | cons c tail => rw [takeWord, digit?_follower c (follows_cons.1 hrest)]
  | cons c digits ih =>
    rw [Nat.ofDigitChars_cons, Nat.mul_comm 10 n] at hle ⊢
    rw [List.cons_append, takeWord, digit?_of_isDigit (hdigits c List.mem_cons_self)]
    dsimp only
    rw [if_pos (Nat.le_trans (le_ofDigitChars digits _) hle)]
    exact ih (fun d hd => hdigits d (List.mem_cons_of_mem c hd)) _ hle

/-- The digits of a number other than zero do not begin with a zero. -/
theorem toDigits_pos {n : Nat} (h : n ≠ 0) :
    ∃ c tail, Nat.toDigits 10 n = c :: tail ∧ c ≠ '0' := by
  induction n using Nat.strongRecOn with
  | ind n ih =>
    rw [Nat.toDigits_eq_if (by decide)]
    split
    · exact ⟨n.digitChar, [], rfl, mt Nat.digitChar_eq_zero.1 h⟩
    · obtain ⟨c, tail, htail, hc⟩ := ih (n / 10) (by omega) (by omega)
      exact ⟨c, tail ++ [(n % 10).digitChar], by rw [htail]; rfl, hc⟩

theorem readAfterDigits_follows (n : Nat) (hrest : Follows rest) :
    readAfterDigits true n rest = .ok (.natural n, rest) := by
  cases rest with
  | nil => rfl
  | cons c tail =>
    have hc : c ∈ followers := follows_cons.1 hrest
    have hpoint : ∀ c ∈ followers, c ≠ '.' ∧ c ≠ 'e' ∧ c ≠ 'E' := by simp [followers]
    obtain ⟨hpoint, hsmall, hcapital⟩ := hpoint c hc
    unfold readAfterDigits
    split
    · next heq => exact absurd (List.cons.inj heq).1 hpoint
    · next heq => exact absurd (List.cons.inj heq).1 hsmall
    · next heq => exact absurd (List.cons.inj heq).1 hcapital
    · rfl

/-- A number is read from its digits if it fits a machine word. -/
theorem readMagnitude_digits {n : Nat} (h : n ≤ maxSize) (hrest : Follows rest) :
    readMagnitude true (Nat.toDigits 10 n ++ rest) = .ok (.natural n, rest) := by
  have hdigits : ∀ c ∈ Nat.toDigits 10 n, c.isDigit = true :=
    fun c hc => Nat.isDigit_of_mem_toDigits (by decide) (by decide) hc
  by_cases hzero : n = 0
  · subst hzero
    rw [Nat.toDigits_zero]
    show (if startsWithDigit rest then _ else readAfterDigits true 0 rest) = _
    rw [hrest.startsWithDigit, if_neg Bool.false_ne_true]
    exact readAfterDigits_follows 0 hrest
  · obtain ⟨c, tail, htail, hc⟩ := toDigits_pos hzero
    have hword : takeWord 0 (Nat.toDigits 10 n ++ rest) = (n, rest) := by
      rw [takeWord_digits hdigits 0 (by rwa [Nat.ofDigitChars_ten_toDigits]) hrest,
        Nat.ofDigitChars_ten_toDigits]
    have hfirst : digit? c = some _ := digit?_of_isDigit (hdigits c (by simp [htail]))
    rw [htail, List.cons_append] at hword ⊢
    unfold readMagnitude
    split
    · next heq => cases heq
    · next heq => exact absurd (List.cons.inj heq).1 hc
    · rw [Json.startsWithDigit, hfirst, hword]
      dsimp only
      rw [hrest.startsWithDigit]
      exact readAfterDigits_follows n hrest

theorem toDigits_cons (n : Nat) :
    ∃ c tail, Nat.toDigits 10 n = c :: tail ∧ c.isDigit = true := by
  obtain ⟨c, tail, htail⟩ := List.exists_cons_of_ne_nil (Nat.toDigits_ne_nil (n := n) (b := 10))
  have hmem : c ∈ Nat.toDigits 10 n := htail ▸ List.mem_cons_self
  exact ⟨c, tail, htail, Nat.isDigit_of_mem_toDigits (by decide) (by decide) hmem⟩

theorem ne_of_isDigit {c d : Char} (h : c.isDigit = true) (hd : d.isDigit = false) : c ≠ d := by
  rintro rfl
  exact Bool.false_ne_true (hd.symm.trans h)

theorem isBlank_of_isDigit {c : Char} (h : c.isDigit = true) : isBlank c = false := by
  simp [isBlank, ne_of_isDigit h]

/-- A number in its range is read from its digits. -/
theorem reads_natural {largest : Nat} (hlargest : largest ≤ maxSize) (expected : String) (n : Nat) :
    Reads (expectNatural largest expected) (natural largest n) n := by
  rintro blanks spelled rest hblanks ⟨hle, rfl⟩ hrest
  obtain ⟨c, tail, htail, hdigit⟩ := toDigits_cons n
  have hmagnitude := readMagnitude_digits (Nat.le_trans hle hlargest) hrest
  rw [htail, List.cons_append] at hmagnitude ⊢
  have hnumber : readNumber (c :: (tail ++ rest)) = .ok (.natural n, rest) := by
    unfold readNumber
    split
    · next heq => exact absurd (List.cons.inj heq).1 (ne_of_isDigit hdigit rfl)
    · exact hmagnitude
  have hfirst : c = '-' ∨ (digit? c).isSome = true := .inr (by rw [digit?_of_isDigit hdigit]; rfl)
  rw [expectNatural, skipBlanks_token hblanks (isBlank_of_isDigit hdigit)]
  dsimp only
  rw [if_pos hfirst, hnumber]
  show (if n ≤ largest then _ else _) = _
  rw [if_pos hle]
  rfl

theorem solid_natural (largest n : Nat) : Solid (natural largest n) := by
  rintro _ ⟨-, rfl⟩
  obtain ⟨c, tail, htail, hdigit⟩ := toDigits_cons n
  exact ⟨c, tail, htail, isBlank_of_isDigit hdigit, ne_of_isDigit hdigit rfl,
    ne_of_isDigit hdigit rfl⟩

/-! ## Options -/

/-- A null for nothing, or what spells the value. -/
def option {α : Type} (spell : α → Texts) : Option α → Texts
  | none => fun text => text = ['n', 'u', 'l', 'l']
  | some a => spell a

theorem reads_option {α : Type} {reader : Reader α} {spell : α → Texts}
    (hreads : ∀ a, Reads reader (spell a) a) (hsolid : ∀ a, Solid (spell a)) (value : Option α) :
    Reads (expectOption reader) (option spell value) value := by
  intro blanks spelled rest hblanks hspelled hrest
  cases value with
  | none =>
    obtain rfl : spelled = _ := hspelled
    have hword : skipWord ['u', 'l', 'l'] ('u' :: 'l' :: 'l' :: rest) = .ok rest :=
      skipWord_append ['u', 'l', 'l'] rest
    show expectOption reader (blanks ++ 'n' :: 'u' :: 'l' :: 'l' :: rest) = _
    rw [expectOption, skipBlanks_token hblanks rfl]
    show Except.map _ (skipWord ['u', 'l', 'l'] ('u' :: 'l' :: 'l' :: rest)) = _
    rw [hword]
    rfl
  | some a =>
    obtain ⟨c, tail, rfl, hblank, -, hnull⟩ := hsolid a spelled hspelled
    have hvalue := hreads a [] _ rest blanks_nil hspelled hrest
    rw [List.nil_append] at hvalue
    rw [List.cons_append] at hvalue ⊢
    rw [expectOption, skipBlanks_token hblanks hblank]
    split
    · next heq => exact absurd (List.cons.inj heq).1 hnull
    · rw [hvalue]
      rfl

/-! ## Named settings -/

/-- The name of a setting as a string, or as the only key of an object with a null. -/
def choice {α : Type} [Choice α] (a : α) : Texts := fun spelled =>
  text (Choice.name a) spelled ∨
    ∃ name before colon null after, text (Choice.name a) name ∧ Blanks before ∧ Blanks colon ∧
      Blanks null ∧ Blanks after ∧
      spelled = '\x7b' :: (before ++ (name ++ (colon ++ ':' ::
        (null ++ 'n' :: 'u' :: 'l' :: 'l' :: (after ++ ['\x7d'])))))

theorem skipColon_blanks (h : Blanks blanks) : skipColon (blanks ++ ':' :: rest) = .ok rest := by
  rw [skipColon, skipBlanks_token h rfl]
  rfl

/-- A setting is read from its name if no other one has it. -/
theorem reads_choice {α : Type} [Choice α] {a : α} (h : Choice.ofName? (Choice.name a) = some a) :
    Reads expectChoice (choice a) a := by
  have hchoice : choiceOf (Choice.name a) = .ok a := by rw [choiceOf, h]
  intro blanks spelled rest hblanks hspelled hrest
  obtain hname | ⟨name, before, colon, null, after, hname, hbefore, hcolon, hnull, hafter, rfl⟩ :=
    hspelled
  · obtain ⟨later, hlater, hread⟩ := readText_text hname rest
    rw [hlater, expectChoice, skipBlanks_token hblanks rfl]
    simp only [hread, hchoice, bind, Except.bind]
    rfl
  · obtain ⟨later, hlater, hread⟩ := readText_text hname (colon ++ ':' ::
      (null ++ 'n' :: 'u' :: 'l' :: 'l' :: (after ++ '\x7d' :: rest)))
    have hword : skipWord ['u', 'l', 'l'] ('u' :: 'l' :: 'l' :: (after ++ '\x7d' :: rest)) =
        .ok (after ++ '\x7d' :: rest) :=
      skipWord_append ['u', 'l', 'l'] _
    simp only [List.cons_append, List.append_assoc, List.nil_append, hlater]
    rw [expectChoice, skipBlanks_token hblanks rfl]
    have hquote : isBlank '"' = false := rfl
    have hn : isBlank 'n' = false := rfl
    have hbracket : isBlank '\x7d' = false := rfl
    simp only [skipBlanks_token hbefore hquote, hread, hchoice, bind, Except.bind,
      skipColon_blanks hcolon, skipBlanks_token hnull hn, hword, skipBlanks_token hafter hbracket]
    rfl

end ChatRelay.Json
