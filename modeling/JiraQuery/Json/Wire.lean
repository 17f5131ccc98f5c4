import JiraQuery.Json.Basic

/-!
# Values on the wire

How values are written as documents and read from them. Reading converts nothing: a document of
another kind, a number out of range and a `null` in place of a value are refused. A `Record` gives
access to the fields of a structure, by name in an object and by position in a list; a field that is
not there may have a default.
-/

namespace JiraQuery

/-- Values with a form on the wire. -/
class Wire (α : Type) where
  encode : α → Json
  decode? : Json → Option α

export Wire (encode decode?)

instance : Wire String where
  encode := .str
  decode? := Json.text?

instance : Wire Bool where
  encode := .bool
  decode? := Json.bool?

instance : Wire UInt32 where
  encode n := .int n.toNat
  decode? j := (j.intIn? 0 0xFFFFFFFF).map fun n => UInt32.ofNat n.toNat

instance : Wire UInt64 where
  encode n := .int n.toNat
  decode? j := (j.intIn? 0 0xFFFFFFFFFFFFFFFF).map fun n => UInt64.ofNat n.toNat

instance : Wire Int64 where
  encode n := .int n.toInt
  decode? j := (j.intIn? (-0x8000000000000000) 0x7FFFFFFFFFFFFFFF).map Int64.ofInt

instance {α : Type} [Wire α] : Wire (List α) where
  encode xs := .arr (xs.map encode)
  decode? j := j.items?.bind (·.mapM decode?)

/-- What is missing is written as `null`. -/
instance {α : Type} [Wire α] : Wire (Option α) where
  encode x := (x.map encode).getD .null
  decode? j := if j.isNull then some none else (decode? j).map some

/-- The fields of a structure, as found on the wire. -/
inductive Record
  | named (members : Members Json)
  | positional (items : List Json)

namespace Record

/-- The record that a document holds, of whatever length. -/
def ofJson? : Json → Option Record
  | .obj ms => some (.named ms)
  | .arr xs => some (.positional xs)
  | _ => none

/-- The record that a document holds, if it has no more than `arity` positions. -/
def ofJsonWithin? (arity : Nat) (j : Json) : Option Record :=
  match ofJson? j with
  | some (.positional xs) => if xs.length ≤ arity then some (.positional xs) else none
  | r => r

/-- The field at a position, which has a name in an object. -/
def find? : Record → Nat → String → Option Json
  | .named ms, _, name => ms.get? name
  | .positional xs, i, _ => xs[i]?

variable {α : Type} [Wire α]

/-- A field that has to be there. -/
def required (r : Record) (i : Nat) (name : String) : Option α :=
  (r.find? i name).bind decode?

/-- A field that may be left out. -/
def withDefault (r : Record) (i : Nat) (name : String) (default : α) : Option α :=
  match r.find? i name with
  | none => some default
  | some j => decode? j

/-- A field that may be left out or `null`. -/
def optional (r : Record) (i : Nat) (name : String) : Option (Option α) :=
  r.withDefault i name none

end Record

/-! ## Reading back -/

/-- A form on the wire that reads back. -/
class LawfulWire (α : Type) [Wire α] : Prop where
  decode_encode (x : α) : decode? (encode x) = some x
  encode_ne_null (x : α) : (encode x).isNull = false

attribute [simp] LawfulWire.decode_encode

instance : LawfulWire String := ⟨fun _ => rfl, fun _ => rfl⟩

instance : LawfulWire Bool := ⟨fun _ => rfl, fun _ => rfl⟩

instance : LawfulWire UInt32 where
  decode_encode n := by
    have := n.toNat_lt
    simp only [encode, decode?, Json.intIn?]
    rw [if_pos (by omega)]
    simp
  encode_ne_null _ := rfl

instance : LawfulWire UInt64 where
  decode_encode n := by
    have := n.toNat_lt
    simp only [encode, decode?, Json.intIn?]
    rw [if_pos (by omega)]
    simp
  encode_ne_null _ := rfl

theorem mapM_decode_encode {α : Type} [Wire α] [LawfulWire α] (xs : List α) :
    (xs.map encode).mapM decode? = some xs := by
  induction xs with
  | nil => rfl
  | cons x xs ih => simp [LawfulWire.decode_encode, ih]

instance {α : Type} [Wire α] [LawfulWire α] : LawfulWire (List α) where
  decode_encode xs := mapM_decode_encode xs
  encode_ne_null _ := rfl

/-- A value that may be missing reads back too. -/
@[simp] theorem decode_encode_option {α : Type} [Wire α] [LawfulWire α] (x : Option α) :
    decode? (encode x) = some x := by
  cases x with
  | none => rfl
  | some x =>
    show (if (encode x).isNull then some none else (decode? (encode x)).map some) = _
    rw [LawfulWire.encode_ne_null, LawfulWire.decode_encode]
    rfl

/-! ## Reading the fields of an object -/

namespace Record

variable {α : Type} [Wire α] {ms : Members Json} {i : Nat} {name : String}

@[simp] theorem ofJsonWithin?_obj (arity : Nat) (ms : Members Json) :
    ofJsonWithin? arity (.obj ms) = some (.named ms) := rfl

@[simp] theorem required_named : (named ms).required i name = (ms.get? name).bind (decode? (α := α)) :=
  rfl

@[simp] theorem withDefault_named {d : α} :
    (named ms).withDefault i name d = ((ms.get? name).map decode?).getD (some d) := by
  cases h : ms.get? name <;> simp [withDefault, find?, h]

@[simp] theorem optional_named :
    (named ms).optional (α := α) i name = ((ms.get? name).map decode?).getD (some none) :=
  withDefault_named

end Record

end JiraQuery
