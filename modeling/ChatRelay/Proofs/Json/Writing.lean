import ChatRelay.Config.Writer
import ChatRelay.Proofs.Json.Collections

/-!
# What is written is a spelling

Every writer of values gives one of the spellings of its value: characters are escaped where they
have to be and in a way that stands for them, a number is written in its digits, and items and
entries stand one behind another with a comma between every two. So whatever reads the spellings of
a value reads what is written (`text_writeText`, `list_writeList`, `object_writeRecord`).
-/

namespace ChatRelay.Json

/-! ## Strings -/

/-- A small digit is read as the number that it was written for. -/
theorem hexDigit?_hexDigit : ∀ n < 16, hexDigit? (hexDigit n) = some n := by
  decide

/-- The escape of a control is the two digits of its code behind two zeros. -/
theorem unitDigits_control {n : Nat} (h : n < 0x20) :
    UnitDigits n ['0', '0', hexDigit (n / 16), hexDigit (n % 16)] := by
  have hzero : hexDigit? '0' = some 0 := rfl
  have hfirst := hexDigit?_hexDigit (n / 16) (by omega)
  have hsecond := hexDigit?_hexDigit (n % 16) (by omega)
  exact ⟨_, _, _, _, 0, 0, n / 16, n % 16, rfl, hzero, hzero, hfirst, hsecond, by omega⟩

/-- A character is written as it is, as a letter behind a backslash, or by its code. -/
theorem quoted_writtenChar {chars body : List Char} (later : Quoted chars body) (c : Char) :
    Quoted (c :: chars) (writtenChar c ++ body) := by
  unfold writtenChar
  split
  -- Seven characters have letters of their own.
  case h_1 | h_2 | h_3 | h_4 | h_5 | h_6 | h_7 => exact .escape rfl later
  case h_8 quote backslash _ _ _ _ _ =>
    split
    case isTrue hcontrol =>
      have hleading : isLeading c.toNat = false := by
        simp only [isLeading, Bool.and_eq_false_iff, decide_eq_false_iff_not]
        omega
      have htrailing : isTrailing c.toNat = false := by
        simp only [isTrailing, Bool.and_eq_false_iff, decide_eq_false_iff_not]
        omega
      have hunit := Quoted.unit (unitDigits_control hcontrol) hleading htrailing later
      rwa [Char.ofNat_toNat] at hunit
    case isFalse hshown => exact .plain quote backslash (Nat.le_of_not_lt hshown) later

theorem quoted_written (chars : List Char) : Quoted chars (chars.flatMap writtenChar) := by
  induction chars with
  | nil => exact .nil
  | cons c chars ih =>
    rw [List.flatMap_cons]
    exact quoted_writtenChar ih c

/-- A text is written as one of the strings with its characters. -/
theorem text_writeText (value : String) : text value (writeText value) :=
  ⟨value.toList.flatMap writtenChar, quoted_written value.toList, rfl⟩

/-! ## Numbers, options and settings -/

theorem natural_writeNatural {largest n : Nat} (h : n ≤ largest) :
    natural largest n (writeNatural n) :=
  ⟨h, rfl⟩

theorem option_writeOption {α : Type} {spell : α → Texts} {write : α → List Char} {value : Option α}
    (h : ∀ a ∈ value, spell a (write a)) : option spell value (writeOption write value) := by
  cases value with
  | none => exact rfl
  | some a => exact h a rfl

theorem choice_writeChoice {α : Type} [Choice α] (a : α) : choice a (writeChoice a) :=
  .inl (text_writeText (Choice.name a))

/-! ## Lists and objects -/

section Separated

variable {ι : Type} {spell : ι → Texts}

theorem series_separated {item : ι} {items : List ι} {text : List Char} {texts : List (List Char)}
    (hfirst : spell item text) (h : List.Forall₂ spell items texts) :
    Series spell (item :: items) (separated (text :: texts)) := by
  induction h generalizing item text with
  | nil => exact .last (whole_of_texts hfirst)
  | cons hnext hlater ih => exact .more (whole_of_texts hfirst) (ih hnext)

/-- Texts with a comma between every two spell what each of them spells. -/
theorem inside_separated {items : List ι} {texts : List (List Char)}
    (h : List.Forall₂ spell items texts) : Inside spell items (separated texts) := by
  cases h with
  | nil => exact .inl ⟨rfl, blanks_nil⟩
  | cons hfirst hlater => exact .inr (series_separated hfirst hlater)

theorem list_writeList {write : ι → List Char} (h : ∀ item, spell item (write item))
    (items : List ι) : list spell items (writeList write items) := by
  have hitems : List.Forall₂ spell items (items.map write) := by
    rw [List.forall₂_map_right_iff, List.forall₂_same]
    exact fun item _ => h item
  exact ⟨separated (items.map write), inside_separated hitems, rfl⟩

end Separated

/-- A record is written as an object with the settings of its entries. -/
theorem object_writeRecord {σ : Type} {settings : List (Setting σ)}
    {entries : List (String × List Char)}
    (h : List.Forall₂ (fun setting entry => setting.key = entry.1 ∧ setting.value entry.2) settings
      entries) : object settings (writeRecord entries) := by
  have hentries : List.Forall₂ Setting.entry settings
      (entries.map fun entry => writeText entry.1 ++ ':' :: entry.2) := by
    rw [List.forall₂_map_right_iff]
    refine h.imp fun setting entry hentry => ?_
    have hname : text setting.key (writeText entry.1) := hentry.1 ▸ text_writeText entry.1
    exact Setting.entry_of_value hname hentry.2
  exact ⟨settings, _, .refl settings, inside_separated hentries, rfl⟩

end ChatRelay.Json
