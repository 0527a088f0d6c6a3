import TodoCli.Model.Config

/-!
# A settings codec

`Config` meets the `toml` crate through the interface `Toml`. This module builds one codec that
meets it, on the form TOML gives a document with one string key: the empty document for no URL
(the serializer leaves a `None` field out), and otherwise the line `api_url = "…"`, the URL
written as a TOML basic string. `basicEscape` escapes what TOML requires escaped (the quote, the
backslash and the control characters other than tab) and `parseBasic` reads a basic string back,
every escape of TOML's included; `parseBasic_escape` is the round trip on which `basicToml`'s law
rests, for every string: quotes, backslashes, newlines and characters past ASCII included.
-/

namespace TodoCli

/-- An upper-case hexadecimal digit. -/
def hexUpper (n : Nat) : Char := if n < 10 then Char.ofNat (48 + n) else Char.ofNat (55 + n)

/-- The value of a hexadecimal digit of either case. -/
def hexValue (c : Char) : Option Nat :=
  if '0' ≤ c ∧ c ≤ '9' then some (c.toNat - 48)
  else if 'A' ≤ c ∧ c ≤ 'F' then some (c.toNat - 55)
  else if 'a' ≤ c ∧ c ≤ 'f' then some (c.toNat - 87)
  else none

/-- A control character TOML forbids unescaped in a basic string: below U+0020 except tab, and
U+007F. -/
def needsUnicodeEscape (c : Char) : Bool := (c.toNat < 0x20 && c ≠ '\t') || c.toNat = 0x7F

/-- One character of a basic string: the short escapes TOML has, `\u00XX` for the other control
characters, and the character itself otherwise. -/
def basicEscape (c : Char) : List Char :=
  if c = '"' then ['\\', '"']
  else if c = '\\' then ['\\', '\\']
  else if c = '\n' then ['\\', 'n']
  else if c = '\r' then ['\\', 'r']
  else if c.toNat = 8 then ['\\', 'b']
  else if c.toNat = 12 then ['\\', 'f']
  else if needsUnicodeEscape c then ['\\', 'u', '0', '0', hexUpper (c.toNat / 16), hexUpper (c.toNat % 16)]
  else [c]

/-- The character a `\uXXXX` escape names, if it is a Unicode scalar value. -/
def unicodeEscape (a b c d : Char) : Option Char := do
  let v := (← hexValue a) * 4096 + (← hexValue b) * 256 + (← hexValue c) * 16 + (← hexValue d)
  if v.isValidChar then some (Char.ofNat v) else none

/-- A basic string's body up to its closing quote: its characters, and what follows the quote. -/
def parseBasic : List Char → Option (List Char × List Char)
  | [] => none
  | '"' :: rest => some ([], rest)
  | '\\' :: e :: rest =>
    let cons (c : Char) (r : Option (List Char × List Char)) := r.map fun (cs, t) => (c :: cs, t)
    match e, rest with
    | 'b', rest => cons (Char.ofNat 8) (parseBasic rest)
    | 't', rest => cons '\t' (parseBasic rest)
    | 'n', rest => cons '\n' (parseBasic rest)
    | 'f', rest => cons (Char.ofNat 12) (parseBasic rest)
    | 'r', rest => cons '\r' (parseBasic rest)
    | '"', rest => cons '"' (parseBasic rest)
    | '\\', rest => cons '\\' (parseBasic rest)
    | 'u', a :: b :: c :: d :: rest =>
      match unicodeEscape a b c d with
      | some ch => cons ch (parseBasic rest)
      | none => none
    | _, _ => none
  | c :: rest =>
    if needsUnicodeEscape c then none else (parseBasic rest).map fun (cs, t) => (c :: cs, t)

/-- The key, `=` and the opening quote of the settings line. -/
def apiUrlKey : List Char := "api_url = \"".data

/-- The settings document for a URL. -/
def basicToString : Option String → String
  | none => ""
  | some u => ⟨apiUrlKey ++ u.data.flatMap basicEscape ++ ['"', '\n']⟩

/-- Reading a settings document: the empty one, or the settings line. -/
def basicFromStr (s : String) : Option (Option String) :=
  if s.data = [] then some none
  else if apiUrlKey.isPrefixOf s.data then
    match parseBasic (s.data.drop apiUrlKey.length) with
    | some (u, ['\n']) | some (u, []) => some (some ⟨u⟩)
    | _ => none
  else none

/-- The `\u00XX` escape of an ASCII character names it, decided over all 128. -/
theorem unicodeEscape_hexUpper : ∀ n < 128,
    unicodeEscape '0' '0' (hexUpper (n / 16)) (hexUpper (n % 16)) = some (Char.ofNat n) := by
  decide

/-- The escape of a character reads back as the character, whatever follows it. -/
theorem parseBasic_basicEscape (c : Char) (t : List Char) :
    parseBasic (basicEscape c ++ t) = (parseBasic t).map fun (cs, r) => (c :: cs, r) := by
  unfold basicEscape
  split_ifs with h1 h2 h3 h4 h5 h6 h7
  · subst h1; rfl
  · subst h2; rfl
  · subst h3; rfl
  · subst h4; rfl
  · rw [← Char.ofNat_toNat c, h5]; rfl
  · rw [← Char.ofNat_toNat c, h6]; rfl
  · have hlt : c.toNat < 128 := by
      simp only [needsUnicodeEscape, Bool.or_eq_true, Bool.and_eq_true, decide_eq_true_eq] at h7
      omega
    have hesc := unicodeEscape_hexUpper c.toNat hlt
    rw [Char.ofNat_toNat] at hesc
    simp [parseBasic, hesc]
  · rw [List.singleton_append, parseBasic.eq_12 c t h1 (fun _ _ h _ => h2 h), if_neg h7]

/-- A basic string's escaped body and closing quote read back as the string and what follows. -/
theorem parseBasic_escape (cs t : List Char) :
    parseBasic (cs.flatMap basicEscape ++ '"' :: t) = some (cs, t) := by
  induction cs with
  | nil => rfl
  | cons c cs ih => simp [List.append_assoc, parseBasic_basicEscape, ih]

/-- The codec: `basicFromStr` reads back what `basicToString` writes. -/
theorem basicFromStr_basicToString (u : Option String) :
    basicFromStr (basicToString u) = some u := by
  cases u with
  | none => rfl
  | some u =>
    have hp : apiUrlKey.isPrefixOf (apiUrlKey ++ u.data.flatMap basicEscape ++ ['"', '\n']) :=
      by simp [List.isPrefixOf_iff_prefix]
    simp [basicFromStr, basicToString, hp, List.append_assoc, parseBasic_escape]

/-- The basic-string settings codec. -/
def basicToml : Toml := ⟨basicFromStr, basicToString, basicFromStr_basicToString⟩

end TodoCli
