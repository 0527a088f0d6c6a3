import TodoCli.Model.Api
import TodoCli.Model.Toml

/-!
# JSON text as `serde_json` reads and writes it

`TodoCli.Model.Json` models a body after the text layer. This module adds the text itself, on
both sides of the wire:

* the reader, `fromStr` and `fromSlice`, after `serde_json`'s parser: JSON whitespace between
  tokens, the literals, strings with every escape JSON has (surrogate pairs included, a lone
  surrogate refused, a control character refused unescaped), numbers in JSON's grammar (no
  leading zero, a fraction and an exponent each with at least one digit), arrays and objects
  without trailing commas, and nothing but whitespace after the document;
* the writer, `JsonValue.write`, after `serde_json::Serializer` with its `Formatter`: the
  formatter decides the whitespace, the serializer the tokens. `compactFormatter` is the one
  `serde_json::to_vec` uses, and so `RequestBuilder::json` (`api.rs:98`): `Request.bodyBytes` are
  the bytes a request's body goes out as.

A number is read as this program's decoders see it: an integer of any length is `int`, whose
range each decoder checks, and a number with a fraction or an exponent is `float`, which no
decoder accepts; so is `-0`, which `serde_json` reads as the float `-0.0`. The parser's own range
checks on floats fail only where a decoder refuses the number anyway. The reader reads every
string strictly, as `parse_str` does; `serde_json` is laxer only in the strings of fields a
decoder skips.
-/

namespace TodoCli

/-! ## Whitespace and strings -/

/-- JSON whitespace (`parse_whitespace`): space, line feed, tab and carriage return. -/
def isJsonWs (c : Char) : Bool := c = ' ' || c = '\n' || c = '\t' || c = '\r'

/-- The text after its leading whitespace. -/
def skipWs : List Char → List Char
  | c :: cs => if isJsonWs c then skipWs cs else c :: cs
  | [] => []

/-- The value of four hexadecimal digits (`decode_hex_escape`). -/
def hex4 (a b c d : Char) : Option Nat := do
  pure ((← hexValue a) * 4096 + (← hexValue b) * 256 + (← hexValue c) * 16 + (← hexValue d))

/-- The character a one-character escape names (`parse_escape`): `\"`, `\\`, `\/`, `\b`, `\f`,
`\n`, `\r` and `\t`. -/
def shortEscape (e : Char) : Option Char :=
  if e = '"' then some '"' else if e = '\\' then some '\\' else if e = '/' then some '/'
  else if e = 'b' then some (Char.ofNat 8) else if e = 'f' then some (Char.ofNat 12)
  else if e = 'n' then some '\n' else if e = 'r' then some '\r' else if e = 't' then some '\t'
  else none

/-- The trailing half of a surrogate pair, `\uXXXX` with XXXX in `DC00`-`DFFF`, and what follows it. -/
def lowSurrogate : List Char → Option (Nat × List Char)
  | x :: y :: a :: b :: c :: d :: rest =>
    match hex4 a b c d with
    | some m => if x = '\\' ∧ y = 'u' ∧ 0xDC00 ≤ m ∧ m ≤ 0xDFFF then some (m, rest) else none
    | none => none
  | _ => none

/-- `parse_escape` after the backslash: the character an escape names and what follows it.
`\uXXXX` outside the surrogates names its character; a leading surrogate must be followed by the
escape of a trailing one, and the pair names one character past U+FFFF. -/
def readEscape : List Char → Option (Char × List Char)
  | e :: rest =>
    match shortEscape e with
    | some ch => some (ch, rest)
    | none =>
      match rest with
      | a :: b :: c :: d :: rest =>
        if e = 'u' then
          match hex4 a b c d with
          | none => none
          | some n =>
            if n < 0xD800 ∨ 0xDFFF < n then some (Char.ofNat n, rest)
            else if 0xDC00 ≤ n then none
            else (lowSurrogate rest).map fun (m, rest) =>
              (Char.ofNat ((n - 0xD800) * 0x400 + (m - 0xDC00) + 0x10000), rest)
        else none
      | _ => none
  | [] => none

theorem lowSurrogate_length {cs r : List Char} {m : Nat} (h : lowSurrogate cs = some (m, r)) :
    r.length < cs.length := by
  unfold lowSurrogate at h
  repeat' split at h
  all_goals simp_all
  omega

/-- An escape consumes at least its first character. -/
theorem readEscape_length {cs r : List Char} {c : Char} (h : readEscape cs = some (c, r)) :
    r.length < cs.length := by
  unfold readEscape at h
  repeat' split at h
  all_goals simp_all
  · omega
  · obtain ⟨m, hl, -⟩ := h
    have := lowSurrogate_length hl
    omega

/-- `parse_str` after the opening quote: the string's characters and what follows the closing
quote. A control character is refused unescaped. -/
def readString : List Char → Option (List Char × List Char)
  | [] => none
  | c :: rest =>
    if c = '"' then some ([], rest)
    else if c = '\\' then
      match h : readEscape rest with
      | some (ch, r) =>
        have := readEscape_length h
        (readString r).map fun (cs, t) => (ch :: cs, t)
      | none => none
    else if c.toNat < 0x20 then none
    else (readString rest).map fun (cs, t) => (c :: cs, t)
termination_by cs => cs.length

theorem readString_quote (rest : List Char) : readString ('"' :: rest) = some ([], rest) := by
  rw [readString]; rfl

theorem readString_escape {rest r : List Char} {ch : Char} (h : readEscape rest = some (ch, r)) :
    readString ('\\' :: rest) = (readString r).map fun (cs, t) => (ch :: cs, t) := by
  rw [readString, if_neg (by decide), if_pos rfl]
  split <;> simp_all

theorem readString_char {c : Char} (rest : List Char) (hq : c ≠ '"') (hb : c ≠ '\\')
    (hc : ¬c.toNat < 0x20) : readString (c :: rest) = (readString rest).map fun (cs, t) => (c :: cs, t) := by
  rw [readString, if_neg hq, if_neg hb, if_neg hc]

/-! ## Numbers -/

/-- The value of a run of decimal digits, accumulated as `parse_integer` does. -/
def significand (ds : List Char) : Nat := ds.foldl (fun n d => 10 * n + (d.toNat - 48)) 0

/-- `parse_exponent` after `e` or `E`: an optional sign and at least one digit. -/
def readExponent (cs : List Char) : Option (List Char) :=
  let cs := match cs with
    | c :: r => if c = '+' ∨ c = '-' then r else cs
    | [] => []
  match cs.span Char.isDigit with
  | ([], _) => none
  | (_, r) => some r

/-- An optional exponent, `e` or `E` and `parse_exponent`; the flag says whether the number is a
float so far. -/
def readExponentPart (isFloat : Bool) (cs : List Char) : Option (Bool × List Char) :=
  match cs with
  | c :: r => if c = 'e' ∨ c = 'E' then (readExponent r).map (true, ·) else some (isFloat, cs)
  | [] => some (isFloat, [])

/-- What may follow the integer part (`parse_number`): a fraction, `.` and at least one digit,
and an exponent, each optional. The flag says whether either was there. -/
def readNumberTail (cs : List Char) : Option (Bool × List Char) :=
  match cs with
  | c :: r =>
    if c = '.' then
      match r.span Char.isDigit with
      | ([], _) => none
      | (_, r) => readExponentPart true r
    else readExponentPart false cs
  | [] => some (false, [])

/-- `parse_integer` after the sign: `0`, or digits without a leading zero, then the tail. -/
def readNumber (negative : Bool) (cs : List Char) : Option (JsonValue × List Char) :=
  let (ds, r) := cs.span Char.isDigit
  if ds = [] ∨ (ds.head? = some '0' ∧ 1 < ds.length) then none
  else (readNumberTail r).map fun (isFloat, r) =>
    if isFloat || (negative && significand ds = 0) then (.float, r)
    else (.int (if negative then -(significand ds : Int) else significand ds), r)

/-! ## Documents -/

/-- A member's key up to its value: the key string, `:`, and the whitespace around the colon. -/
def readKey : List Char → Option (String × List Char)
  | c :: r =>
    if c ≠ '"' then none
    else match readString r with
      | some (k, r) =>
        match skipWs r with
        | c :: r => if c = ':' then some (⟨k⟩, skipWs r) else none
        | [] => none
      | none => none
  | [] => none

/-- `parse_ident`: the rest of a literal after its first character. -/
def readLiteral (rest : List Char) (v : JsonValue) (cs : List Char) : Option (JsonValue × List Char) :=
  if rest.isPrefixOf cs then some (v, cs.drop rest.length) else none

mutual

/-- `parse_value` at a value's first character, with `fuel` bounding the depth of the calls it
makes: a literal, a string, a number, or an array or object and its elements. -/
def readValue : Nat → List Char → Option (JsonValue × List Char)
  | 0, _ => none
  | _ + 1, [] => none
  | n + 1, c :: r =>
    if c = 'n' then readLiteral "ull".data .null r
    else if c = 't' then readLiteral "rue".data (.bool true) r
    else if c = 'f' then readLiteral "alse".data (.bool false) r
    else if c = '"' then (readString r).map fun (s, r) => (.string ⟨s⟩, r)
    else if c = '-' then readNumber true r
    else if c = '[' then
      let s := skipWs r
      if s.head? = some ']' then some (.array [], s.tail)
      else do
        let (x, r) ← readValue n s
        let (xs, r) ← readElemsTail n r
        pure (.array (x :: xs), r)
    else if c = '\x7b' then
      let s := skipWs r
      if s.head? = some '\x7d' then some (.object [], s.tail)
      else do
        let (k, r) ← readKey s
        let (v, r) ← readValue n r
        let (fs, r) ← readFieldsTail n r
        pure (.object ((k, v) :: fs), r)
    else readNumber false (c :: r)

/-- The elements of an array after its first (`SeqAccess::next_element`): `,` and a value each,
up to the closing bracket. -/
def readElemsTail : Nat → List Char → Option (List JsonValue × List Char)
  | 0, _ => none
  | n + 1, cs =>
    match skipWs cs with
    | c :: r =>
      if c = ',' then do
        let (x, r) ← readValue n (skipWs r)
        let (xs, r) ← readElemsTail n r
        pure (x :: xs, r)
      else if c = ']' then some ([], r)
      else none
    | [] => none

/-- The members of an object after its first (`MapAccess::next_key`): `,`, a key and a value
each, up to the closing brace. -/
def readFieldsTail : Nat → List Char → Option (List (String × JsonValue) × List Char)
  | 0, _ => none
  | n + 1, cs =>
    match skipWs cs with
    | c :: r =>
      if c = ',' then do
        let (k, r) ← readKey (skipWs r)
        let (v, r) ← readValue n r
        let (fs, r) ← readFieldsTail n r
        pure ((k, v) :: fs, r)
      else if c = '\x7d' then some ([], r)
      else none
    | [] => none

end

/-- `serde_json::from_str`: one document between optional whitespace. Every call of the reader
consumes a character before it makes another, so the text's length bounds their depth. -/
def fromStr (s : String) : Option JsonValue :=
  match readValue (s.length + 1) (skipWs s.data) with
  | some (v, r) => if skipWs r = [] then some v else none
  | none => none

/-- `serde_json::from_slice`: the bytes as UTF-8 text, read by `fromStr`. -/
def fromSlice (bytes : List UInt8) : Option JsonValue := fromUtf8 bytes >>= fromStr

/-! ## Writing -/

/-- The whitespace a `serde_json::ser::Formatter` writes around the tokens: before each element
or key of a container at a depth, before the closing bracket of a non-empty container at a depth,
and after a key's colon. -/
structure Formatter where
  beginValue : Nat → String
  endContainer : Nat → String
  afterColon : String

/-- `CompactFormatter`: no whitespace at all. -/
def compactFormatter : Formatter := ⟨fun _ => "", fun _ => "", ""⟩

/-- `PrettyFormatter` with its default two-space indent. -/
def prettyFormatter : Formatter :=
  ⟨fun d => "\n" ++ indent d, fun d => "\n" ++ indent d, " "⟩

mutual

/-- `Serializer` with a formatter, at a nesting depth: an empty container as its two brackets,
any other with `,` between its elements and `:` after each key. -/
def JsonValue.write (f : Formatter) (depth : Nat) : JsonValue → String
  | .null => "null"
  | .bool b => if b then "true" else "false"
  | .int n => toString n
  | .float => ""
  | .string s => quote s
  | .array [] => "[]"
  | .array (x :: xs) =>
    "[" ++ f.beginValue (depth + 1) ++ x.write f (depth + 1) ++ writeElems f (depth + 1) xs ++
      f.endContainer depth ++ "]"
  | .object [] => "\x7b\x7d"
  | .object ((k, v) :: fs) =>
    "\x7b" ++ f.beginValue (depth + 1) ++ quote k ++ ":" ++ f.afterColon ++ v.write f (depth + 1) ++
      writeFields f (depth + 1) fs ++ f.endContainer depth ++ "\x7d"

/-- The elements of an array after its first. -/
def writeElems (f : Formatter) (depth : Nat) : List JsonValue → String
  | [] => ""
  | x :: xs => "," ++ f.beginValue depth ++ x.write f depth ++ writeElems f depth xs

/-- The members of an object after its first. -/
def writeFields (f : Formatter) (depth : Nat) : List (String × JsonValue) → String
  | [] => ""
  | (k, v) :: fs =>
    "," ++ f.beginValue depth ++ quote k ++ ":" ++ f.afterColon ++ v.write f depth ++
      writeFields f depth fs

end

/-- `serde_json::to_vec`: the compact text's UTF-8 bytes. -/
def toVec (v : JsonValue) : List UInt8 := utf8Bytes (v.write compactFormatter 0)

/-- The bytes a request's body goes out as: `RequestBuilder::json` serializes it with `to_vec`. -/
def Request.bodyBytes (r : Request) : Option (List UInt8) := r.body.map toVec

end TodoCli
