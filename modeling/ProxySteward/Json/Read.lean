import ProxySteward.Json.Scan

/-!
# Reading typed values from JSON

A reader takes the bytes from where it stands and gives back a value and the bytes after it.
Readers of single values are combined into readers of records and of maps.

## Records

A record is written as an object, or as an array of its fields in their order.  In an object a name
that is no field is passed over together with its value, and a field given twice is of the wrong
type at its second name.  In an array the fields at the end may be left out, but nothing may follow
the last one.  Either way a required field must be there.

A record is built up from a start value: `Field.read` reads the value of one field and puts it in.

## Buffered values

A value whose type depends on its own content is read as a whole first.  Unlike a value that is
passed over, it is checked throughout: its strings must be texts, its numbers must lie in the range
of doubles, and it may be nested only so deep.
-/

namespace ProxySteward
namespace Json

open Text

/-- A reader of values. -/
abbrev Reader (α : Type) := Bytes → Read α

/-! ## Single values -/

/-- A truth value. -/
def flag (input : Bytes) : Read Bool :=
  match skipBlank input with
  | 0x74 :: rest => (word trueWord (0x74 :: rest)).map fun rest => (true, rest)
  | 0x66 :: rest => (word falseWord (0x66 :: rest)).map fun rest => (false, rest)
  | rest => .error (mistypedAt rest)

/-- A string. -/
def string (input : Bytes) : Read Text :=
  match skipBlank input with
  | 0x22 :: rest => stringText rest
  | rest => .error (mistypedAt rest)

/-- Whether a number has 64 bits. -/
def isCount (i : Int) : Bool := Int64.minValue.toInt ≤ i && i ≤ Int64.maxValue.toInt

/-- The 64-bit number that is written as a whole number. -/
def Numeral.count? (n : Numeral) : Option Int := n.whole?.filter isCount

/-- A 64-bit number. -/
def count (input : Bytes) : Read Int :=
  match skipBlank input with
  | b :: rest =>
    if startsNumber b then
      match finiteNumeral (b :: rest) with
      | .ok (n, rest) => match n.count? with
        | some i => .ok (i, rest)
        | none => .error .mistyped
      | .error f => .error f
    else .error (mistypedAt (b :: rest))
  | [] => .error .malformed

/-- A value, or null. -/
def optional {α : Type} (read : Reader α) (input : Bytes) : Read (Option α) :=
  match skipBlank input with
  | 0x6E :: rest => (word nullWord (0x6E :: rest)).map fun rest => (none, rest)
  | rest => (read rest).map fun (a, rest) => (some a, rest)

/-! ## Objects and arrays -/

/-- The bytes after the colon behind a name. -/
def afterColon (input : Bytes) : Except JsonFault Bytes :=
  match skipBlank input with
  | 0x3A :: rest => .ok rest
  | _ => .error .malformed

/-- Where the next name of an object starts, from behind its quote, or the bytes after the object;
`first` says that no member stands before. -/
def nextName (first : Bool) (input : Bytes) : Except JsonFault (Bytes ⊕ Bytes) :=
  match first, skipBlank input with
  | _, 0x7D :: rest => .ok (.inr rest)
  | true, 0x22 :: rest => .ok (.inl rest)
  | false, 0x2C :: rest => match skipBlank rest with
    | 0x22 :: rest => .ok (.inl rest)
    | _ => .error .malformed
  | _, _ => .error .malformed

/-- Where the next element of an array starts, or the bytes after the array. -/
def nextElement (first : Bool) (input : Bytes) : Except JsonFault (Bytes ⊕ Bytes) :=
  match first, skipBlank input with
  | _, 0x5D :: rest => .ok (.inr rest)
  | true, rest => .ok (.inl rest)
  | false, 0x2C :: rest => match skipBlank rest with
    | 0x5D :: _ => .error .malformed
    | rest => .ok (.inl rest)
  | _, _ => .error .malformed

/-- The members of an object from behind its brace.  `member` gets the name and the bytes behind it,
so it reads the colon too.  Each round reads a name, so `rounds` may be the number of bytes and one
more. -/
def membersFrom {σ : Type} (member : Text → σ → Reader σ) :
    (rounds : Nat) → (first : Bool) → σ → Reader σ
  | 0, _, _, _ => .error .malformed
  | n + 1, first, s, input =>
    match nextName first input with
    | .error f => .error f
    | .ok (.inr rest) => .ok (s, rest)
    | .ok (.inl rest) => match stringText rest with
      | .error f => .error f
      | .ok (name, rest) => match member name s rest with
        | .error f => .error f
        | .ok (s, rest) => membersFrom member n false s rest

/-- The members of an object from behind its brace, put into a value one after another. -/
def members {σ : Type} (member : Text → σ → Reader σ) (s : σ) (input : Bytes) : Read σ :=
  membersFrom member (input.length + 1) true s input

/-- The elements of an array from behind its bracket. -/
def elementsFrom {σ : Type} (element : σ → Reader σ) :
    (rounds : Nat) → (first : Bool) → σ → Reader σ
  | 0, _, _, _ => .error .malformed
  | n + 1, first, s, input =>
    match nextElement first input with
    | .error f => .error f
    | .ok (.inr rest) => .ok (s, rest)
    | .ok (.inl rest) => match element s rest with
      | .error f => .error f
      | .ok (s, rest) => elementsFrom element n false s rest

/-- The elements of an array from behind its bracket, put into a value one after another. -/
def elements {σ : Type} (element : σ → Reader σ) (s : σ) (input : Bytes) : Read σ :=
  elementsFrom element (input.length + 1) true s input

/-- A map: `entry` puts a name and its value in. -/
def map {σ α : Type} (value : Reader α) (entry : Text → α → σ → σ) (s : σ)
    (input : Bytes) : Read σ :=
  match skipBlank input with
  | 0x7B :: rest =>
    members (fun name s rest =>
      match afterColon rest with
      | .error f => .error f
      | .ok rest => (value rest).map fun (a, rest) => (entry name a s, rest)) s rest
  | rest => .error (mistypedAt rest)

/-! ## Records -/

/-- A field of a record: how its value is put into the record. -/
structure Field (σ : Type) where
  name : Text
  required : Bool
  read : σ → Reader σ

/-- A field whose value is put in by `set`. -/
def Field.of {σ α : Type} (name : String) (required : Bool) (value : Reader α)
    (set : α → σ → σ) : Field σ where
  name := name.toList
  required := required
  read := fun s input => (value input).map fun (a, rest) => (set a s, rest)

/-- A record as an array, from behind its bracket. -/
def positions {σ : Type} (first : Bool) : List (Field σ) → σ → Reader σ
  | [], s, input => match skipBlank input with
    | 0x5D :: rest => .ok (s, rest)
    | _ => .error .malformed
  | field :: fields, s, input => match nextElement first input with
    | .error f => .error f
    | .ok (.inr rest) =>
      if (field :: fields).any (·.required) then .error .mistyped else .ok (s, rest)
    | .ok (.inl rest) => match field.read s rest with
      | .error f => .error f
      | .ok (s, rest) => positions false fields s rest

/-- One member of a record; the state holds the names of the fields read before. -/
def fieldMember {σ : Type} (fields : List (Field σ)) (name : Text) (s : σ × List Text)
    (input : Bytes) : Read (σ × List Text) :=
  match fields.find? (·.name = name) with
  | some field =>
    if s.2.contains name then .error .mistyped
    else match afterColon input with
      | .error f => .error f
      | .ok rest => (field.read s.1 rest).map fun (v, rest) => ((v, name :: s.2), rest)
  | none => match afterColon input with
    | .error f => .error f
    | .ok rest => (skip rest).map fun rest => (s, rest)

/-- A record, built up from a start value. -/
def fields {σ : Type} (fs : List (Field σ)) (start : σ) (input : Bytes) : Read σ :=
  match skipBlank input with
  | 0x5B :: rest => positions true fs start rest
  | 0x7B :: rest => match members (fieldMember fs) (start, []) rest with
    | .error f => .error f
    | .ok ((v, seen), rest) =>
      if fs.any fun field => field.required && !seen.contains field.name then .error .mistyped
      else .ok (v, rest)
  | rest => .error (mistypedAt rest)

/-! ## Buffered values -/

/-- What is kept of a value that was read as a whole. -/
inductive Buffered where
  | null
  | count (i : Int)
  | object (members : List (Text × Buffered))
  | other

/-- A scalar, read as a whole. -/
def bufferedScalar (input : Bytes) : Read Buffered :=
  match input with
  | [] => .error .malformed
  | b :: rest =>
    if b = 0x6E then (word nullWord input).map fun rest => (.null, rest)
    else if b = 0x74 then (word trueWord input).map fun rest => (.other, rest)
    else if b = 0x66 then (word falseWord input).map fun rest => (.other, rest)
    else if b = 0x22 then (stringText rest).map fun (_, rest) => (.other, rest)
    else if startsNumber b then
      (finiteNumeral input).map fun (n, rest) =>
        (match n.count? with
        | some i => .count i
        | none => .other, rest)
    else .error .malformed

/-- A value, read as a whole, with at most `depth` containers inside each other. -/
def buffered : (depth : Nat) → Reader Buffered
  | 0, input => match skipBlank input with
    | 0x5B :: _ => .error .malformed
    | 0x7B :: _ => .error .malformed
    | rest => bufferedScalar rest
  | depth + 1, input => match skipBlank input with
    | 0x5B :: rest =>
      (elements (fun (_ : Unit) rest => (buffered depth rest).map fun (_, rest) => ((), rest))
        () rest).map fun (_, rest) => (.other, rest)
    | 0x7B :: rest =>
      (members (fun name ms rest => match afterColon rest with
        | .error f => .error f
        | .ok rest => (buffered depth rest).map fun (v, rest) => (ms ++ [(name, v)], rest))
        [] rest).map fun (ms, rest) => (.object ms, rest)
    | rest => bufferedScalar rest

/-- The value of a whole text, with nothing but blanks behind it. -/
def whole {α : Type} (read : Reader α) (input : Bytes) : Except JsonFault α :=
  match read input with
  | .error f => .error f
  | .ok (a, rest) => if (skipBlank rest).isEmpty then .ok a else .error .malformed

end Json
end ProxySteward
