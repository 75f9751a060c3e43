import ChatRelay.Proofs.Json.Spelling
import Mathlib.Data.List.Forall2
import Mathlib.Data.List.Pairwise
import Mathlib.Data.List.Perm.Basic

/-!
# How lists and objects are spelled

The items of a list and the entries of an object are spelled as a `Series`: with blanks around each,
and a comma between every two. A list is read as its items, in their order (`reads_list`). An object
gives some of the fields of a record, in any order and none of them twice; what it gives is put into
the record, and every other field stays as it was (`reads_record`, `reads_given`).
-/

namespace ChatRelay.Json

/-! ## Series -/

/-- Items one after another, with blanks around each and a comma between every two. -/
inductive Series {ι : Type} (spell : ι → Texts) : List ι → Texts
  | last {item : ι} {text : List Char} (whole : Whole (spell item) text) : Series spell [item] text
  | more {item : ι} {items : List ι} {text rest : List Char} (whole : Whole (spell item) text)
      (later : Series spell items rest) : Series spell (item :: items) (text ++ ',' :: rest)

/-- What stands between brackets: a series, or only blanks. -/
def Inside {ι : Type} (spell : ι → Texts) (items : List ι) : Texts := fun text =>
  items = [] ∧ Blanks text ∨ Series spell items text

variable {ι : Type} {spell : ι → Texts} {items : List ι} {blanks text rest : List Char}

theorem Series.length_le (h : Series spell items text) : items.length ≤ text.length + 1 := by
  induction h with
  | last whole => exact Nat.le_add_left 1 _
  | more whole later ih =>
    simp only [List.length_cons, List.length_append]
    omega

theorem Inside.length_le (h : Inside spell items text) : items.length ≤ text.length + 1 := by
  obtain ⟨rfl, -⟩ | hseries := h
  · exact Nat.zero_le _
  · exact hseries.length_le

/-- The comma before an item, unless it is the first one. -/
def lead (first : Bool) : List Char := if first then [] else [',']

/-! ## Lists -/

/-- Items between brackets. -/
def list (spell : ι → Texts) (items : List ι) : Texts := fun text =>
  ∃ inner, Inside spell items inner ∧ text = '[' :: (inner ++ [']'])

section Elements

variable {reader : Reader ι} (fuel : Nat) (read : List ι)

theorem elementsFrom_end (hblanks : Blanks blanks) (rest : List Char) :
    elementsFrom reader (fuel + 1) read (blanks ++ ']' :: rest) = .ok (read.reverse, rest) := by
  rw [elementsFrom, skipBlanks_token hblanks rfl]
  rfl

/-- An item is read behind the comma before it, up to the blanks behind it. -/
theorem elementsFrom_item {texts : Texts} {item : ι} (hreads : Reads reader texts item)
    (hsolid : Solid texts) (hblanks : Blanks blanks) (hwhole : Whole texts text)
    (hrest : Follows rest) :
    ∃ after, Blanks after ∧
      elementsFrom reader (fuel + 1) read (blanks ++ (lead read.isEmpty ++ (text ++ rest))) =
        elementsFrom reader fuel (item :: read) (after ++ rest) := by
  obtain ⟨before, inner, after, hbefore, hinner, hafter, rfl⟩ := hwhole
  obtain ⟨c, tail, rfl, hblank, hbracket, -⟩ := hsolid inner hinner
  have hvalue := hreads [] _ (after ++ rest) blanks_nil hinner (hafter.follows hrest)
  rw [List.nil_append, List.cons_append] at hvalue
  refine ⟨after, hafter, ?_⟩
  simp only [List.append_assoc, List.cons_append]
  cases read with
  | nil =>
    show elementsFrom reader (fuel + 1) []
      (blanks ++ (before ++ c :: (tail ++ (after ++ rest)))) = _
    rw [elementsFrom, skipBlanks_append hblanks, skipBlanks_token hbefore hblank]
    split
    · next heq => cases heq
    · next heq => exact absurd (List.cons.inj heq).1 hbracket
    · simp only [pure, Except.pure, bind, Except.bind, hvalue]
  | cons earlier read =>
    show elementsFrom reader (fuel + 1) (earlier :: read)
      (blanks ++ ',' :: (before ++ c :: (tail ++ (after ++ rest)))) = _
    rw [elementsFrom, skipBlanks_token hblanks rfl]
    split
    · next heq => cases heq
    · next heq => exact absurd (List.cons.inj heq).1 (by decide)
    split
    · next heq => cases heq
    · next later heq _ =>
      obtain rfl := (List.cons.inj heq).2
      rw [skipBlanks_token hbefore hblank]
      split
      · next heq => cases heq
      · next heq => exact absurd (List.cons.inj heq).1 hbracket
      · simp only [pure, Except.pure, bind, Except.bind, hvalue]
    · next hother => exact absurd rfl (hother _)

end Elements

/-- A series of items is read to its end, behind those that were read before. -/
theorem elementsFrom_series {reader : Reader ι} (hreads : ∀ item, Reads reader (spell item) item)
    (hsolid : ∀ item, Solid (spell item)) (h : Series spell items text) (fuel : Nat)
    (hfuel : items.length < fuel) (read : List ι) (hblanks : Blanks blanks) (rest : List Char) :
    elementsFrom reader fuel read (blanks ++ (lead read.isEmpty ++ (text ++ ']' :: rest))) =
      .ok (read.reverse ++ items, rest) := by
  induction h generalizing fuel read blanks with
  | @last item text whole =>
    obtain ⟨fuel, rfl⟩ := Nat.exists_eq_add_of_le' hfuel
    have hrest : Follows (']' :: rest) := follows_cons.2 (by decide)
    obtain ⟨after, hafter, hitem⟩ :=
      elementsFrom_item (fuel + 1) read (hreads item) (hsolid item) hblanks whole hrest
    refine hitem.trans ?_
    rw [elementsFrom_end fuel _ hafter, List.reverse_cons]
  | @more item items text tail whole later ih =>
    obtain ⟨fuel, rfl⟩ := Nat.exists_eq_add_of_le' hfuel
    have hrest : Follows (',' :: (tail ++ ']' :: rest)) := follows_cons.2 (by decide)
    obtain ⟨after, hafter, hitem⟩ :=
      elementsFrom_item (fuel + (items.length + 1)) read (hreads item) (hsolid item) hblanks whole
        hrest
    have htail := ih (fuel + (items.length + 1)) (by omega) (item :: read) hafter
    rw [List.append_assoc, List.cons_append]
    refine hitem.trans (htail.trans ?_)
    rw [List.reverse_cons, List.append_assoc, List.singleton_append]

/-- A list is read as its items. -/
theorem reads_list {reader : Reader ι} (hreads : ∀ item, Reads reader (spell item) item)
    (hsolid : ∀ item, Solid (spell item)) (items : List ι) :
    Reads (expectList reader) (list spell items) items := by
  rintro blanks _ rest hblanks ⟨inner, hinner, rfl⟩ hrest
  have hlength := hinner.length_le
  rw [List.cons_append, List.append_assoc, List.singleton_append, expectList,
    skipBlanks_token hblanks rfl]
  show elementsFrom reader ((inner ++ ']' :: rest).length + 1) [] (inner ++ ']' :: rest) = _
  obtain ⟨rfl, hinner⟩ | hseries := hinner
  · exact elementsFrom_end _ [] hinner rest
  · exact elementsFrom_series hreads hsolid hseries _
      (by rw [List.length_append, List.length_cons]; omega) [] blanks_nil rest

/-! ## Objects -/

/-- One field of a record that is given a value: its key, the spellings of the value, and what it
makes of the record. -/
structure Setting (σ : Type) where
  key : String
  value : Texts
  put : σ → σ

namespace Setting

variable {σ : Type}

/-- The entry of an object for a setting: its key as a string, a colon, and its value. -/
def entry (setting : Setting σ) : Texts := fun spelled =>
  ∃ key colon gap value, Json.text setting.key key ∧ Blanks colon ∧ Blanks gap ∧
    setting.value value ∧ spelled = key ++ (colon ++ ':' :: (gap ++ value))

theorem entry_of_value {setting : Setting σ} {key value : List Char}
    (hkey : Json.text setting.key key) (hvalue : setting.value value) :
    setting.entry (key ++ ':' :: value) :=
  ⟨key, [], [], value, hkey, blanks_nil, blanks_nil, hvalue, rfl⟩

/-- The record with these settings, one after another. -/
def applyAll (settings : List (Setting σ)) (record : σ) : σ :=
  settings.foldl (fun record setting => setting.put record) record

/-- A field has this key, and reads the spellings of the value for what it makes of a record. -/
def KnownTo (fields : List (RecordField σ)) (setting : Setting σ) : Prop :=
  ∃ field, fields.find? (·.name == setting.key) = some field ∧
    Reads field.read setting.value setting.put

/-- Two settings are of different fields, and it does not matter which of them comes first. -/
@[mk_iff]
structure Apart (first second : Setting σ) : Prop where
  key : first.key ≠ second.key
  put : ∀ record, first.put (second.put record) = second.put (first.put record)

instance : Std.Symm (@Apart σ) := ⟨fun _ _ h => ⟨h.key.symm, fun record => (h.put record).symm⟩⟩

/-- The settings of a field: one if it is given a value, and none if it is left out. -/
def given {α : Type} (key : String) (spell : α → Texts) (put : α → σ → σ) (value : Option α) :
    List (Setting σ) :=
  value.toList.map fun a => ⟨key, spell a, put a⟩

end Setting

/-- An object with these settings in any order. -/
def object {σ : Type} (settings : List (Setting σ)) : Texts := fun spelled =>
  ∃ order inner, order.Perm settings ∧ Inside Setting.entry order inner ∧
    spelled = '\x7b' :: (inner ++ ['\x7d'])

section Entries

variable {σ : Type} {fields : List (RecordField σ)} (fuel : Nat) (first : Bool)
  (seen : List String) (record : σ)

theorem entriesFrom_end (hblanks : Blanks blanks) (rest : List Char) :
    entriesFrom fields (fuel + 1) first seen record (blanks ++ '\x7d' :: rest) =
      .ok (record, rest) := by
  rw [entriesFrom, skipBlanks_token hblanks rfl]
  rfl

/-- An entry with a new key is read behind the comma before it, up to the blanks behind it. -/
theorem entriesFrom_entry {setting : Setting σ} (hknown : setting.KnownTo fields)
    (hnew : setting.key ∉ seen) (hblanks : Blanks blanks) (hwhole : Whole setting.entry text)
    (hrest : Follows rest) :
    ∃ after, Blanks after ∧
      entriesFrom fields (fuel + 1) first seen record (blanks ++ (lead first ++ (text ++ rest))) =
        entriesFrom fields fuel false (setting.key :: seen) (setting.put record)
          (after ++ rest) := by
  obtain ⟨before, inner, after, hbefore, hinner, hafter, rfl⟩ := hwhole
  obtain ⟨key, colon, gap, value, hkey, hcolon, hgap, hvalue, rfl⟩ := hinner
  obtain ⟨field, hfield, hreads⟩ := hknown
  obtain ⟨later, hlater, hname⟩ :=
    readText_text hkey (colon ++ ':' :: (gap ++ (value ++ (after ++ rest))))
  have hput := hreads gap value (after ++ rest) hgap hvalue (hafter.follows hrest)
  refine ⟨after, hafter, ?_⟩
  simp only [List.append_assoc, List.cons_append, hlater]
  cases first with
  | true =>
    show entriesFrom fields (fuel + 1) true seen record (blanks ++ (before ++ '"' :: later)) = _
    rw [entriesFrom, skipBlanks_append hblanks, skipBlanks_token hbefore rfl]
    split
    · next heq => cases heq
    · next heq => exact absurd (List.cons.inj heq).1 (by decide)
    · simp only [pure, Except.pure, bind, Except.bind, hname, hfield, if_neg hnew,
        skipColon_blanks hcolon, hput]
  | false =>
    have hquote : skipBlanks (before ++ '"' :: later) = '"' :: later :=
      skipBlanks_token hbefore rfl later
    show entriesFrom fields (fuel + 1) false seen record
      (blanks ++ ',' :: (before ++ '"' :: later)) = _
    rw [entriesFrom, skipBlanks_token hblanks rfl]
    split
    · next heq => cases heq
    · next heq => exact absurd (List.cons.inj heq).1 (by decide)
    · simp only [pure, Except.pure, bind, Except.bind, hquote, hname, hfield, if_neg hnew,
        skipColon_blanks hcolon, hput]

end Entries

section Record

variable {σ : Type} {fields : List (RecordField σ)} {settings order : List (Setting σ)}

/-- A series of entries is read to its end, and puts each setting into the record. -/
theorem entriesFrom_series (h : Series Setting.entry order text)
    (hknown : ∀ setting ∈ order, setting.KnownTo fields) (hapart : order.Pairwise Setting.Apart)
    (fuel : Nat) (hfuel : order.length < fuel) (first : Bool) (seen : List String)
    (hseen : ∀ setting ∈ order, setting.key ∉ seen) (record : σ) (hblanks : Blanks blanks)
    (rest : List Char) :
    entriesFrom fields fuel first seen record
        (blanks ++ (lead first ++ (text ++ '\x7d' :: rest))) =
      .ok (Setting.applyAll order record, rest) := by
  induction h generalizing fuel first seen record blanks with
  | @last setting text whole =>
    obtain ⟨fuel, rfl⟩ := Nat.exists_eq_add_of_le' hfuel
    have hrest : Follows ('\x7d' :: rest) := follows_cons.2 (by decide)
    have hmem : setting ∈ [setting] := List.mem_singleton_self setting
    obtain ⟨after, hafter, hentry⟩ := entriesFrom_entry (fuel + 1) first seen record
      (hknown setting hmem) (hseen setting hmem) hblanks whole hrest
    exact hentry.trans (entriesFrom_end fuel false _ _ hafter rest)
  | @more setting settings text tail whole later ih =>
    obtain ⟨fuel, rfl⟩ := Nat.exists_eq_add_of_le' hfuel
    have hrest : Follows (',' :: (tail ++ '\x7d' :: rest)) := follows_cons.2 (by decide)
    have hmem : setting ∈ setting :: settings := List.mem_cons_self
    rw [List.pairwise_cons] at hapart
    obtain ⟨after, hafter, hentry⟩ := entriesFrom_entry (fuel + (settings.length + 1)) first seen
      record (hknown setting hmem) (hseen setting hmem) hblanks whole hrest
    have hlater : ∀ other ∈ settings, other.key ∉ setting.key :: seen := by
      intro other hother
      rw [List.mem_cons, not_or]
      exact ⟨(hapart.1 other hother).key.symm, hseen other (List.mem_cons_of_mem setting hother)⟩
    have htail := ih (fun other hother => hknown other (List.mem_cons_of_mem setting hother))
      hapart.2 (fuel + (settings.length + 1)) (by omega) false _ hlater (setting.put record) hafter
    rw [List.append_assoc, List.cons_append]
    exact hentry.trans htail

/-- Settings of different fields make the same of a record in any order. -/
theorem Setting.applyAll_perm (h : order.Perm settings) (hapart : order.Pairwise Apart)
    (record : σ) : applyAll order record = applyAll settings record := by
  have hput : ∀ first ∈ order, ∀ second ∈ order, ∀ record,
      first.put (second.put record) = second.put (first.put record) := by
    intro first hfirst second hsecond record
    by_cases heq : first = second
    · rw [heq]
    · exact (hapart.forall hfirst hsecond heq).put record
  exact h.foldl_eq' (fun first hfirst second hsecond => hput second hsecond first hfirst) record

/-- An object is read as the record with its settings, whatever order they come in. -/
theorem reads_record (title : String) (initial : σ)
    (hknown : ∀ setting ∈ settings, setting.KnownTo fields)
    (hapart : settings.Pairwise Setting.Apart) :
    Reads (expectRecord title fields initial) (object settings)
      (Setting.applyAll settings initial) := by
  rintro blanks _ rest hblanks ⟨order, inner, hperm, hinner, rfl⟩ hrest
  have hlength := hinner.length_le
  have horder : order.Pairwise Setting.Apart := hapart.perm hperm.symm fun h => Std.Symm.symm _ _ h
  rw [List.cons_append, List.append_assoc, List.singleton_append, expectRecord,
    skipBlanks_token hblanks rfl, ← Setting.applyAll_perm hperm horder]
  show entriesFrom fields ((inner ++ '\x7d' :: rest).length + 1) true [] initial
    (inner ++ '\x7d' :: rest) = _
  obtain ⟨rfl, hinner⟩ | hseries := hinner
  · exact entriesFrom_end _ true [] initial hinner rest
  · have hfuel : order.length < (inner ++ '\x7d' :: rest).length + 1 := by
      rw [List.length_append, List.length_cons]
      omega
    exact entriesFrom_series hseries
      (fun setting hsetting => hknown setting (hperm.mem_iff.1 hsetting)) horder _ hfuel true []
      (fun _ _ => List.not_mem_nil) initial blanks_nil rest

end Record

/-! ## The settings of one field -/

section Given

variable {σ α β : Type} {fields : List (RecordField σ)}

theorem reads_field {reader : Reader α} {texts : Texts} {a : α} {name : String} {put : α → σ → σ}
    (h : Reads reader texts a) : Reads (field name reader put).read texts (put a) := by
  intro blanks spelled rest hblanks hspelled hrest
  show Except.map _ (reader (blanks ++ (spelled ++ rest))) = _
  rw [h blanks spelled rest hblanks hspelled hrest]
  rfl

namespace Setting

/-- A field has the key of these settings, and reads what spells their values. -/
def Offered (field : RecordField σ) (settings : List (Setting σ)) : Prop :=
  ∀ setting ∈ settings, setting.key = field.name ∧ Reads field.read setting.value setting.put

theorem offered_given {field : RecordField σ} {spell : α → Texts} {put : α → σ → σ}
    {value : Option α} (h : ∀ a, Reads field.read (spell a) (put a)) :
    Offered field (given field.name spell put value) := by
  intro setting hsetting
  obtain ⟨a, -, rfl⟩ := List.mem_map.1 hsetting
  exact ⟨rfl, h a⟩

/-- Settings that are offered by the fields of a record, one after another, are known to it. -/
theorem known_of_offered {groups : List (List (Setting σ))}
    (hnames : (fields.map RecordField.name).Nodup) (h : List.Forall₂ Offered fields groups) :
    ∀ setting ∈ groups.flatten, setting.KnownTo fields := by
  induction h with
  | nil => exact nofun
  | @cons field group fields groups hgroup hgroups ih =>
    rw [List.map_cons, List.nodup_cons] at hnames
    rw [List.flatten_cons, List.forall_mem_append]
    constructor
    · intro setting hsetting
      obtain ⟨hkey, hreads⟩ := hgroup setting hsetting
      exact ⟨field, List.find?_cons_of_pos (by simp [hkey]), hreads⟩
    · intro setting hsetting
      obtain ⟨other, hfind, hreads⟩ := ih hnames.2 setting hsetting
      refine ⟨other, ?_, hreads⟩
      have hname : other.name = setting.key := by simpa using List.find?_some hfind
      have hmem : other.name ∈ fields.map RecordField.name :=
        List.mem_map_of_mem (List.mem_of_find?_eq_some hfind)
      rw [List.find?_cons_of_neg, hfind]
      rw [← hname, beq_iff_eq]
      exact fun heq => hnames.1 (heq ▸ hmem)

/-- These settings together change a record like this. -/
def Changes (settings : List (Setting σ)) (change : σ → σ) : Prop :=
  ∀ record, applyAll settings record = change record

/-- A field that is given a value has it, and one that is left out stays as it was. -/
theorem changes_given {key : String} {spell : α → Texts} {put : α → σ → σ} (get : σ → α)
    (hget : ∀ record, put (get record) record = record) (value : Option α) :
    Changes (given key spell put value)
      (fun record => put (value.getD (get record)) record) := by
  intro record
  cases value with
  | none => exact (hget record).symm
  | some a => rfl

/-- So does a field whose value is made of what is given. -/
theorem changes_given_map {key : String} {spell : α → Texts} (get : σ → β) (put : β → σ → σ)
    (hget : ∀ record, put (get record) record = record) (read : α → β) (value : Option α) :
    Changes (given key spell (fun a => put (read a)) value)
      (fun record => put ((value.map read).getD (get record)) record) := by
  intro record
  cases value with
  | none => exact (hget record).symm
  | some a => rfl

theorem applyAll_append (settings later : List (Setting σ)) (record : σ) :
    applyAll (settings ++ later) record = applyAll later (applyAll settings record) :=
  List.foldl_append

/-- Groups of settings change a record one after another. -/
theorem changes_flatten {groups : List (List (Setting σ))} {changes : List (σ → σ)}
    (h : List.Forall₂ Changes groups changes) :
    Changes groups.flatten
      (fun record => changes.foldl (fun record change => change record) record) := by
  induction h with
  | nil => exact fun record => rfl
  | @cons group change groups changes hgroup hgroups ih =>
    intro record
    rw [List.flatten_cons, applyAll_append, hgroup record]
    exact ih (change record)

end Setting

/-- An object that gives some of the fields of a record is read as what they make of it. -/
theorem reads_given {groups : List (List (Setting σ))} {change : σ → σ} (title : String)
    (initial : σ) (hnames : (fields.map RecordField.name).Nodup)
    (hoffered : List.Forall₂ Setting.Offered fields groups)
    (hapart : groups.flatten.Pairwise Setting.Apart)
    (hchanges : Setting.Changes groups.flatten change) :
    Reads (expectRecord title fields initial) (object groups.flatten) (change initial) := by
  rw [← hchanges initial]
  exact reads_record title initial (Setting.known_of_offered hnames hoffered) hapart

end Given

end ChatRelay.Json
