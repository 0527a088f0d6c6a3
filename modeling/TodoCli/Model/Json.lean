import TodoCli.Model.Text

/-!
# JSON as `serde_json` reads and writes it

The client reads every response body with `Response::json` (`serde_json::from_slice` into a type
with a derived `Deserialize`) and writes `--format json` output with `serde_json::to_string_pretty`.
A body is modelled after the text layer: one JSON document (`JsonValue`), or anything that is not
one (`Body.invalid`). What the derived impls accept of a document is modelled by the primitives
here, which the types of `api.rs` assemble in `TodoCli.Model.Api`:

* an integer field of a Rust width `w` accepts an integer literal in `[-2^(w-1), 2^(w-1))` and
  nothing else (`SInt.fromJson`); a fraction, an exponent or `null` is refused;
* a struct is read from an object, where unknown keys are skipped, a known key given twice is an
  error (`duplicate_field`), a missing `Option` field is `None` and any other missing field an
  error, or from an array holding the fields in declaration order (`visit_seq`), which
  `serde_json` also accepts for a struct.

`serde_json`'s limit of 128 nested containers is not modelled.
-/

namespace TodoCli

/-- A JSON document. A number literal `serde_json` keeps as an integer is `int`; one with a
fraction or an exponent is `float`, whose value no type of this program reads or writes. -/
inductive JsonValue where
  | null
  | bool (b : Bool)
  | int (n : Int)
  | float
  | string (s : String)
  | array (xs : List JsonValue)
  | object (fields : List (String × JsonValue))

/-- A response body as `Response::json` reads it: one JSON document, or anything else (bytes
that are not one document, or a body whose transfer failed). -/
inductive Body where
  | json (v : JsonValue)
  | invalid

/-- A Rust signed integer of `w` bits. -/
structure SInt (w : Nat) where
  val : Int
  range : -2 ^ (w - 1) ≤ val ∧ val < 2 ^ (w - 1)
  deriving DecidableEq

/-- `i64`. -/
abbrev I64 := SInt 64

/-- `i32`. -/
abbrev I32 := SInt 32

/-! ## Reading -/

/-- `Deserialize for iN`: an integer literal within the width. -/
def SInt.fromJson {w : Nat} : JsonValue → Option (SInt w)
  | .int n => if h : -2 ^ (w - 1) ≤ n ∧ n < 2 ^ (w - 1) then some ⟨n, h⟩ else none
  | _ => none

/-- `Deserialize for String`. -/
def stringFromJson : JsonValue → Option String
  | .string s => some s
  | _ => none

/-- `Deserialize for bool`. -/
def boolFromJson : JsonValue → Option Bool
  | .bool b => some b
  | _ => none

/-- `Deserialize for Option<T>`: `null` is `None`, anything else a `T`. -/
def optionFromJson {α : Type} (dec : JsonValue → Option α) : JsonValue → Option (Option α)
  | .null => some none
  | v => some <$> dec v

/-- `Deserialize for Vec<T>`, element by element in order. -/
def seqFromJson {α : Type} (dec : JsonValue → Option α) : List JsonValue → Option (List α)
  | [] => some []
  | v :: vs => do
    let a ← dec v
    let as ← seqFromJson dec vs
    pure (a :: as)

/-- `Deserialize for Vec<T>`: an array. -/
def vecFromJson {α : Type} (dec : JsonValue → Option α) : JsonValue → Option (List α)
  | .array xs => seqFromJson dec xs
  | _ => none

/-- What `visit_map` finds for a known field: `some none` if the key is absent, `some (some v)`
if it occurs once, and `none` (`duplicate_field`) if it occurs more than once. -/
def fieldEntry (fields : List (String × JsonValue)) (name : String) :
    Option (Option JsonValue) :=
  match fields.filter (·.1 == name) with
  | [] => some none
  | [(_, v)] => some (some v)
  | _ => none

/-- A field without a default: present once, and readable. -/
def requiredField {α : Type} (fields : List (String × JsonValue)) (name : String)
    (dec : JsonValue → Option α) : Option α :=
  match fieldEntry fields name with
  | some (some v) => dec v
  | _ => none

/-- A field of type `Option<T>`: `None` when absent, read as an `Option<T>` when present once. -/
def optionalField {α : Type} (fields : List (String × JsonValue)) (name : String)
    (dec : JsonValue → Option α) : Option (Option α) :=
  match fieldEntry fields name with
  | some none => some none
  | some (some v) => optionFromJson dec v
  | none => none

/-- `Response::json::<T>()`: the body read as a `T`. -/
def Body.decode {α : Type} (dec : JsonValue → Option α) : Body → Option α
  | .json v => dec v
  | .invalid => none

@[simp] theorem Body.decode_json {α : Type} (dec : JsonValue → Option α) (v : JsonValue) :
    (Body.json v).decode dec = dec v := rfl

@[simp] theorem Body.decode_invalid {α : Type} (dec : JsonValue → Option α) :
    Body.invalid.decode dec = none := rfl

@[simp] theorem SInt.fromJson_int {w : Nat} (n : Int) (h : -2 ^ (w - 1) ≤ n ∧ n < 2 ^ (w - 1)) :
    SInt.fromJson (w := w) (.int n) = some ⟨n, h⟩ := by
  simp [SInt.fromJson, h]

/-- An integer within its width reads back as itself. -/
@[simp] theorem SInt.fromJson_val {w : Nat} (x : SInt w) : SInt.fromJson (.int x.val) = some x := by
  simp [SInt.fromJson, x.range]

/-- A sequence reads element by element: the result has one element per element read, in the
same order. -/
theorem seqFromJson_length {α : Type} {dec : JsonValue → Option α} :
    ∀ {vs : List JsonValue} {as : List α}, seqFromJson dec vs = some as → as.length = vs.length
  | [], _, h => by cases h; rfl
  | v :: vs, as, h => by
    simp only [seqFromJson, Option.bind_eq_bind, Option.bind_eq_some, Option.pure_def,
      Option.some.injEq] at h
    obtain ⟨a, -, as', hs, rfl⟩ := h
    simp [seqFromJson_length hs]

/-- A sequence of encodings reads back as the sequence encoded. -/
theorem seqFromJson_map {α : Type} {dec : JsonValue → Option α} {enc : α → JsonValue}
    (h : ∀ a, dec (enc a) = some a) : ∀ as : List α, seqFromJson dec (as.map enc) = some as
  | [] => rfl
  | a :: as => by simp [seqFromJson, h, seqFromJson_map h as]

/-- A key occurring once reads as its value. -/
theorem fieldEntry_unique {fields : List (String × JsonValue)} {name : String} {v : JsonValue}
    (h : fields.filter (·.1 == name) = [(name, v)]) : fieldEntry fields name = some (some v) := by
  simp [fieldEntry, h]

/-! ## Writing -/

/-- A hexadecimal digit as `serde_json` writes it, in lower case. -/
def hexDigit (n : Nat) : Char := if n < 10 then Char.ofNat (48 + n) else Char.ofNat (87 + n)

/-- How `serde_json` writes one character of a string: `"`, `\`, and the control characters
below U+0020 escaped (the short forms where JSON has one, `\u00XX` otherwise), the rest as is. -/
def escapeChar (c : Char) : List Char :=
  if c = '"' then ['\\', '"']
  else if c = '\\' then ['\\', '\\']
  else if c = '\n' then ['\\', 'n']
  else if c = '\r' then ['\\', 'r']
  else if c = '\t' then ['\\', 't']
  else if c.toNat = 8 then ['\\', 'b']
  else if c.toNat = 12 then ['\\', 'f']
  else if c.toNat < 0x20 then ['\\', 'u', '0', '0', hexDigit (c.toNat / 16), hexDigit (c.toNat % 16)]
  else [c]

/-- A string literal as `serde_json` writes it. -/
def quote (s : String) : String := ⟨'"' :: s.data.flatMap escapeChar ++ ['"']⟩

/-- The indentation `PrettyFormatter` writes at a depth: two spaces a level. -/
def indent (depth : Nat) : String := ⟨List.replicate (2 * depth) ' '⟩

mutual

/-- `serde_json::to_string_pretty` of a document at a nesting depth: an empty container on one
line, any other with one element per line, each indented one level deeper. `float` never reaches
the printer: no value this program serializes holds one. -/
def JsonValue.pretty (depth : Nat) : JsonValue → String
  | .null => "null"
  | .bool b => if b then "true" else "false"
  | .int n => toString n
  | .float => ""
  | .string s => quote s
  | .array [] => "[]"
  | .array (x :: xs) =>
    "[\n" ++ indent (depth + 1) ++ x.pretty (depth + 1) ++ prettyElems (depth + 1) xs ++ "\n" ++
      indent depth ++ "]"
  | .object [] => "\x7b\x7d"
  | .object ((k, v) :: fs) =>
    "\x7b\n" ++ indent (depth + 1) ++ quote k ++ ": " ++ v.pretty (depth + 1) ++
      prettyFields (depth + 1) fs ++ "\n" ++ indent depth ++ "\x7d"

/-- The elements of an array after its first, each on a line of its own. -/
def prettyElems (depth : Nat) : List JsonValue → String
  | [] => ""
  | x :: xs => ",\n" ++ indent depth ++ x.pretty depth ++ prettyElems depth xs

/-- The members of an object after its first, each on a line of its own. -/
def prettyFields (depth : Nat) : List (String × JsonValue) → String
  | [] => ""
  | (k, v) :: fs => ",\n" ++ indent depth ++ quote k ++ ": " ++ v.pretty depth ++ prettyFields depth fs

end

/-- `serde_json::to_string_pretty`. -/
def toStringPretty (v : JsonValue) : String := v.pretty 0

end TodoCli
