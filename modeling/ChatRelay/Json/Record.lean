import ChatRelay.Json.Expect

/-!
# Reading records

A record has named fields, each with a reader for its value. It is written as an object, whose keys
come in any order, with unknown ones passed over and known ones at most once; or as a list, which
gives the fields in their order and may stop early. A field that is not given keeps the value that
it had in the record to begin with.
-/

namespace ChatRelay.Json

/-- One field of a record: its key, and a reader that says what its value does to the record. -/
structure RecordField (σ : Type) where
  name : String
  read : Reader (σ → σ)

/-- A field whose value is put into the record as it is. -/
def field {σ α : Type} (name : String) (reader : Reader α) (put : α → σ → σ) : RecordField σ :=
  ⟨name, fun text => (reader text).map fun (value, rest) => (put value, rest)⟩

variable {σ : Type}

/-- The entries of an object behind its opening bracket; `seen` are the known keys so far, and
`first` says that no entry has been read. -/
def entriesFrom (fields : List (RecordField σ)) : (fuel : Nat) → (first : Bool) →
    (seen : List String) → (record : σ) → Reader σ
  | 0, _, _, _, _ => .error .malformed
  | fuel + 1, first, seen, record, text => do
    match skipBlanks text with
    | [] => throw .endOfInput
    | '\x7d' :: rest => return (record, rest)
    | text =>
      let text ← match first, text with
        | true, text => pure text
        | false, ',' :: rest => pure (skipBlanks rest)
        | false, _ => throw .malformed
      match text with
      | [] => throw .endOfInput
      | '"' :: rest =>
        let (key, rest) ← readText rest
        match fields.find? (·.name == key) with
        | none =>
          let rest ← skipValue (← skipColon rest)
          entriesFrom fields fuel false seen record rest
        | some field =>
          if key ∈ seen then throw (.unexpected s!"duplicate field `{key}`")
          let (put, rest) ← field.read (← skipColon rest)
          entriesFrom fields fuel false (key :: seen) (put record) rest
      | _ => throw .malformed

/-- The end of a list after its last field. -/
def endOfPositions (record : σ) : Reader σ := fun text =>
  match skipBlanks text with
  | [] => .error .endOfInput
  | ']' :: rest => .ok (record, rest)
  | _ => .error .malformed

/-- The fields of a record in their order, behind the opening bracket of a list. -/
def positionsFrom : List (RecordField σ) → (first : Bool) → (record : σ) → Reader σ
  | [], _, record, text => endOfPositions record text
  | field :: fields, first, record, text => do
    match skipBlanks text with
    | [] => throw .endOfInput
    | ']' :: rest => return (record, rest)
    | text =>
      let text ← match first, text with
        | true, text => pure text
        | false, ',' :: rest =>
          match skipBlanks rest with
          | [] => throw .endOfInput
          | ']' :: _ => throw .malformed
          | text => pure text
        | false, _ => throw .malformed
      let (put, rest) ← field.read text
      positionsFrom fields false (put record) rest

/-- A record that begins as `initial`; `title` is what it is called in a message. -/
def expectRecord (title : String) (fields : List (RecordField σ)) (initial : σ) : Reader σ :=
  fun text =>
  match skipBlanks text with
  | '\x7b' :: rest => entriesFrom fields (rest.length + 1) true [] initial rest
  | '[' :: rest => positionsFrom fields true initial rest
  | text => unexpectedNext ("struct " ++ title) text

end ChatRelay.Json
