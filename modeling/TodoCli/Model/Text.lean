import Mathlib

/-!
# The text primitives of the Rust standard library that the client relies on

`todo-cli` handles text in four places whose exact behaviour decides what it does: it checks
the bytes of a line read from standard input and of the settings file as UTF-8 (`read_line`,
`read_to_string`), it trims a line with `str::trim` (the delete confirmation, `main.rs:176`, and
the password prompt, `main.rs:219`), it compares the confirmation with `eq_ignore_ascii_case`
(`main.rs:176`), and it strips the base URL's trailing slashes with `trim_end_matches`
(`api.rs:74`). Each is modelled here as the standard library computes it: UTF-8 validity by the
byte ranges of `core::str::validations::run_utf8_validation`, whitespace by Unicode's
`White_Space` property (`char::is_whitespace`), and the case-insensitive comparison byte by byte.
-/

namespace TodoCli

/-! ## UTF-8 -/

/-- `core::str::utf8_char_width`: the length of the sequence a lead byte starts, `0` for a byte
that starts none. -/
def utf8CharWidth (a : UInt8) : Nat :=
  if a < 0x80 then 1 else if a < 0xC2 then 0 else if a < 0xE0 then 2 else if a < 0xF0 then 3
  else if a < 0xF5 then 4 else 0

/-- A continuation byte, `%x80-BF`. -/
def isCont (b : UInt8) : Bool := 0x80 ≤ b && b ≤ 0xBF

/-- The second byte `run_utf8_validation` accepts after the lead byte `a` of a sequence of three
or four bytes: the ranges that exclude overlong forms, surrogates and code points past U+10FFFF. -/
def secondOk (a b : UInt8) : Bool :=
  if a = 0xE0 then 0xA0 ≤ b && b ≤ 0xBF
  else if a = 0xED then 0x80 ≤ b && b ≤ 0x9F
  else if a = 0xF0 then 0x90 ≤ b && b ≤ 0xBF
  else if a = 0xF4 then 0x80 ≤ b && b ≤ 0x8F
  else isCont b

/-- The characters a byte sequence encodes, when it is valid UTF-8 (`str::from_utf8`). -/
def decodeChars : List UInt8 → Option (List Char)
  | [] => some []
  | a :: rest =>
    match utf8CharWidth a, rest with
    | 1, rest => (Char.ofNat a.toNat :: ·) <$> decodeChars rest
    | 2, b :: rest =>
      if isCont b then (Char.ofNat (a.toNat % 32 * 64 + b.toNat % 64) :: ·) <$> decodeChars rest
      else none
    | 3, b :: c :: rest =>
      if secondOk a b && isCont c then
        (Char.ofNat (a.toNat % 16 * 4096 + b.toNat % 64 * 64 + c.toNat % 64) :: ·) <$>
          decodeChars rest
      else none
    | 4, b :: c :: d :: rest =>
      if secondOk a b && isCont c && isCont d then
        (Char.ofNat (a.toNat % 8 * 262144 + b.toNat % 64 * 4096 + c.toNat % 64 * 64 +
          d.toNat % 64) :: ·) <$> decodeChars rest
      else none
    | _, _ => none

/-- `String::from_utf8`: the string a byte sequence encodes, if it is valid UTF-8. -/
def fromUtf8 (bs : List UInt8) : Option String := String.mk <$> decodeChars bs

/-- `str::as_bytes`: the UTF-8 encoding of a string. -/
def utf8Bytes (s : String) : List UInt8 := s.data.flatMap String.utf8EncodeChar

/-! ## Whitespace and trimming -/

/-- `char::is_whitespace`: the code points with Unicode's `White_Space` property. -/
def isWhitespace (c : Char) : Bool :=
  let n := c.toNat
  (0x09 ≤ n && n ≤ 0x0D) || n = 0x20 || n = 0x85 || n = 0xA0 || n = 0x1680 ||
    (0x2000 ≤ n && n ≤ 0x200A) || n = 0x2028 || n = 0x2029 || n = 0x202F || n = 0x205F ||
    n = 0x3000

/-- `str::trim`: the string without its leading and trailing whitespace. -/
def trim (s : String) : String :=
  ⟨((s.data.dropWhile isWhitespace).reverse.dropWhile isWhitespace).reverse⟩

/-- `str::trim_end_matches` with a character pattern: the string without every trailing copy
of `c`. -/
def trimEndMatches (s : String) (c : Char) : String :=
  ⟨(s.data.reverse.dropWhile (· == c)).reverse⟩

/-- How `<str as Debug>` writes a character (`char::escape_debug`): the escapes Rust gives the
quote, the backslash and the ASCII control characters. Characters from U+0080 on are written as
they are; the Unicode tables by which Rust escapes some of those are not modelled. -/
def escapeDebugChar (c : Char) : List Char :=
  if c.toNat = 0 then ['\\', '0']
  else if c = '\t' then ['\\', 't']
  else if c = '\r' then ['\\', 'r']
  else if c = '\n' then ['\\', 'n']
  else if c = '\\' then ['\\', '\\']
  else if c = '"' then ['\\', '"']
  else if c.toNat < 0x20 || c.toNat = 0x7F then
    ['\\', 'u', '\x7b'] ++ Nat.toDigits 16 c.toNat ++ ['\x7d']
  else [c]

/-- `<str as Debug>::fmt`: the string quoted, its characters escaped. -/
def debugString (s : String) : String := ⟨'"' :: s.data.flatMap escapeDebugChar ++ ['"']⟩

/-! ## ASCII case -/

/-- `u8::to_ascii_lowercase`. -/
def toAsciiLowercase (b : UInt8) : UInt8 := if 0x41 ≤ b && b ≤ 0x5A then b + 0x20 else b

/-- `str::eq_ignore_ascii_case`: the same number of bytes, pairwise equal up to ASCII case. -/
def eqIgnoreAsciiCase (s t : String) : Bool :=
  (utf8Bytes s).length == (utf8Bytes t).length &&
    ((utf8Bytes s).zip (utf8Bytes t)).all fun p => toAsciiLowercase p.1 == toAsciiLowercase p.2

/-! ## Reading a line -/

/-- Standard input as a read finds it: the bytes it holds, or a read that fails. -/
inductive Stdin where
  | bytes (bs : List UInt8)
  | failing

/-- The bytes `read_until(b'\n')` consumes: up to and including the first newline, or all. -/
def lineBytes : List UInt8 → List UInt8
  | [] => []
  | b :: bs => if b = 0x0A then [b] else b :: lineBytes bs

/-- `Stdin::read_line` into an empty buffer: the first line, newline included, unless the read
fails or the line is not UTF-8 (`io::ErrorKind::InvalidData`). -/
def readLine : Stdin → Option String
  | .bytes bs => fromUtf8 (lineBytes bs)
  | .failing => none

@[simp] theorem readLine_failing : readLine .failing = none := rfl

@[simp] theorem readLine_bytes (bs : List UInt8) : readLine (.bytes bs) = fromUtf8 (lineBytes bs) :=
  rfl

/-! ## Decoding what was encoded

`String::from_utf8` inverts `str::as_bytes`: the bytes the encoder writes for a character form a
sequence that `run_utf8_validation` accepts and that decodes to the character again. The encoder
is core's `String.utf8EncodeChar`; the proofs read each byte it writes as a number. A character
other than the newline writes no byte `0x0A`, so a line read back ends where the text's newline
is.
-/

theorem UInt8.eq_iff_toNat {a b : UInt8} : a = b ↔ a.toNat = b.toNat :=
  ⟨congrArg _, UInt8.toNat.inj⟩

theorem UInt8.toNat_lor (x y : UInt8) : (x ||| y).toNat = x.toNat ||| y.toNat := BitVec.toNat_or ..

/-- A byte made of the low `k` bits of `x` under the high bits `p`. -/
theorem toNat_and_lor (x m p : UInt8) (k : Nat) (hm : m.toNat = 2 ^ k - 1)
    (hp : ∀ r < 2 ^ k, r ||| p.toNat = r + p.toNat) :
    (x &&& m ||| p).toNat = x.toNat % 2 ^ k + p.toNat := by
  rw [UInt8.toNat_lor, UInt8.and_toNat, hm, Nat.and_pow_two_sub_one_eq_mod]
  exact hp _ (Nat.mod_lt _ (Nat.two_pow_pos k))

theorem toNat_toUInt8 (v : UInt32) : v.toUInt8.toNat = v.toNat % 256 := by
  show (BitVec.ofNat 8 v.toNat).toNat = _
  simp [BitVec.toNat_ofNat]

theorem toNat_shiftRight6 (v : UInt32) : (v >>> 6).toNat = v.toNat / 64 := by
  show (v.toBitVec >>> (UInt32.mod 6 32).toBitVec).toNat = _
  simp [UInt32.toNat, BitVec.toNat_ushiftRight, Nat.shiftRight_eq_div_pow]; rfl

theorem toNat_shiftRight12 (v : UInt32) : (v >>> 12).toNat = v.toNat / 4096 := by
  show (v.toBitVec >>> (UInt32.mod 12 32).toBitVec).toNat = _
  simp [UInt32.toNat, BitVec.toNat_ushiftRight, Nat.shiftRight_eq_div_pow]; rfl

theorem toNat_shiftRight18 (v : UInt32) : (v >>> 18).toNat = v.toNat / 262144 := by
  show (v.toBitVec >>> (UInt32.mod 18 32).toBitVec).toNat = _
  simp [UInt32.toNat, BitVec.toNat_ushiftRight, Nat.shiftRight_eq_div_pow]; rfl

/-- A continuation byte: `10` and six bits of the code point. -/
theorem toNat_cont (v : UInt32) : (v.toUInt8 &&& 0x3f ||| 0x80).toNat = v.toNat % 64 + 128 := by
  rw [toNat_and_lor v.toUInt8 0x3f 0x80 6 rfl (by decide), toNat_toUInt8, Nat.mod_mod_of_dvd _ (by decide)]; rfl

/-- The lead byte of two: `110` and the bits from the sixth on. -/
theorem toNat_lead2 (v : UInt32) :
    ((v >>> 6).toUInt8 &&& 0x1f ||| 0xc0).toNat = v.toNat / 64 % 32 + 192 := by
  rw [toNat_and_lor _ 0x1f 0xc0 5 rfl (by decide), toNat_toUInt8, toNat_shiftRight6,
    Nat.mod_mod_of_dvd _ (by decide)]; rfl

/-- The lead byte of three: `1110` and the bits from the twelfth on. -/
theorem toNat_lead3 (v : UInt32) :
    ((v >>> 12).toUInt8 &&& 0x0f ||| 0xe0).toNat = v.toNat / 4096 % 16 + 224 := by
  rw [toNat_and_lor _ 0x0f 0xe0 4 rfl (by decide), toNat_toUInt8, toNat_shiftRight12,
    Nat.mod_mod_of_dvd _ (by decide)]; rfl

/-- The lead byte of four: `11110` and the bits from the eighteenth on. -/
theorem toNat_lead4 (v : UInt32) :
    ((v >>> 18).toUInt8 &&& 0x07 ||| 0xf0).toNat = v.toNat / 262144 % 8 + 240 := by
  rw [toNat_and_lor _ 0x07 0xf0 3 rfl (by decide), toNat_toUInt8, toNat_shiftRight18,
    Nat.mod_mod_of_dvd _ (by decide)]; rfl

theorem utf8CharWidth_eq (a : UInt8) : utf8CharWidth a =
    if a.toNat < 0x80 then 1 else if a.toNat < 0xC2 then 0 else if a.toNat < 0xE0 then 2
    else if a.toNat < 0xF0 then 3 else if a.toNat < 0xF5 then 4 else 0 := rfl

theorem isCont_eq (b : UInt8) : isCont b = (decide (0x80 ≤ b.toNat) && decide (b.toNat ≤ 0xBF)) :=
  rfl

theorem secondOk_eq (a b : UInt8) : secondOk a b =
    if a.toNat = 0xE0 then decide (0xA0 ≤ b.toNat) && decide (b.toNat ≤ 0xBF)
    else if a.toNat = 0xED then decide (0x80 ≤ b.toNat) && decide (b.toNat ≤ 0x9F)
    else if a.toNat = 0xF0 then decide (0x90 ≤ b.toNat) && decide (b.toNat ≤ 0xBF)
    else if a.toNat = 0xF4 then decide (0x80 ≤ b.toNat) && decide (b.toNat ≤ 0x8F)
    else isCont b := by
  simp only [secondOk, UInt8.eq_iff_toNat]; rfl

theorem isCont_cont (v : UInt32) : isCont (v.toUInt8 &&& 0x3f ||| 0x80) = true := by
  simp only [isCont_eq, toNat_cont, Bool.and_eq_true, decide_eq_true_eq]; omega

/-- Decoding the bytes of a character gives the character back, whatever follows them. -/
theorem decodeChars_utf8EncodeChar (c : Char) (rest : List UInt8) :
    decodeChars (String.utf8EncodeChar c ++ rest) = (c :: ·) <$> decodeChars rest := by
  have hv : c.toNat < 0xd800 ∨ (0xdfff < c.toNat ∧ c.toNat < 0x110000) := c.valid
  have hn : c.val.toNat = c.toNat := rfl
  have e1 : c.val ≤ 127 ↔ c.toNat ≤ 127 := Iff.rfl
  have e2 : c.val ≤ 2047 ↔ c.toNat ≤ 2047 := Iff.rfl
  have e3 : c.val ≤ 65535 ↔ c.toNat ≤ 65535 := Iff.rfl
  have decoded : ∀ k, k = c.toNat →
      (Char.ofNat k :: ·) <$> decodeChars rest = (c :: ·) <$> decodeChars rest := by
    rintro _ rfl; rw [Char.ofNat_toNat]
  unfold String.utf8EncodeChar; dsimp only
  simp only [e1, e2, e3]
  split_ifs with h1 h2 h3 <;> simp only [List.cons_append, List.nil_append]
  · rw [decodeChars.eq_2 _ _ (by rw [utf8CharWidth_eq, toNat_toUInt8, hn, if_pos (by omega)])]
    exact decoded _ (by rw [toNat_toUInt8, hn]; omega)
  · rw [decodeChars.eq_3 _ _ _ (by
        rw [utf8CharWidth_eq, toNat_lead2, hn, if_neg (by omega), if_neg (by omega), if_pos (by omega)]),
      if_pos (isCont_cont _)]
    exact decoded _ (by rw [toNat_lead2, toNat_cont, hn]; omega)
  · rw [decodeChars.eq_4 _ _ _ _ (by
        rw [utf8CharWidth_eq, toNat_lead3, hn, if_neg (by omega), if_neg (by omega), if_neg (by omega),
          if_pos (by omega)]), if_pos]
    · exact decoded _ (by rw [toNat_lead3, toNat_cont, toNat_cont, toNat_shiftRight6, hn]; omega)
    · simp only [isCont_cont, Bool.and_true, secondOk_eq, isCont_eq, toNat_lead3, toNat_cont,
        toNat_shiftRight6, hn]
      split_ifs <;> simp only [Bool.and_eq_true, decide_eq_true_eq] <;> omega
  · rw [decodeChars.eq_5 _ _ _ _ _ (by
        rw [utf8CharWidth_eq, toNat_lead4, hn, if_neg (by omega), if_neg (by omega), if_neg (by omega),
          if_neg (by omega), if_pos (by omega)]), if_pos]
    · exact decoded _ (by
        rw [toNat_lead4, toNat_cont, toNat_cont, toNat_cont, toNat_shiftRight6, toNat_shiftRight12, hn]
        omega)
    · simp only [isCont_cont, Bool.and_true, secondOk_eq, isCont_eq, toNat_lead4, toNat_cont,
        toNat_shiftRight12, hn]
      split_ifs <;> simp only [Bool.and_eq_true, decide_eq_true_eq] <;> omega

theorem decodeChars_flatMap (cs : List Char) :
    decodeChars (cs.flatMap String.utf8EncodeChar) = some cs := by
  induction cs with
  | nil => rfl
  | cons c cs ih => rw [List.flatMap_cons, decodeChars_utf8EncodeChar, ih]; rfl

/-- `String::from_utf8(s.as_bytes())` is `s`. -/
theorem fromUtf8_utf8Bytes (s : String) : fromUtf8 (utf8Bytes s) = some s := by
  rw [fromUtf8, utf8Bytes, decodeChars_flatMap]; rfl

/-! ## Encoding what was decoded

Conversely, `run_utf8_validation` accepts only encodings: the character it decodes from each
sequence it accepts is one the encoder writes as that same sequence. Its byte ranges are exactly
the ones that exclude overlong forms, surrogates and code points past U+10FFFF, so each decoded
number is a valid character and the encoder's branch for it is the sequence's width.
-/

theorem Char.toNat_ofNat_of_valid {n : Nat} (h : n.isValidChar) : (Char.ofNat n).toNat = n := by
  simp only [Char.ofNat, h, dif_pos, Char.ofNatAux, Char.toNat]
  rfl

/-- The bytes of a character, read as numbers. -/
theorem utf8EncodeChar_toNat (c : Char) : (String.utf8EncodeChar c).map UInt8.toNat =
    if c.toNat ≤ 127 then [c.toNat]
    else if c.toNat ≤ 2047 then [c.toNat / 64 % 32 + 192, c.toNat % 64 + 128]
    else if c.toNat ≤ 65535 then
      [c.toNat / 4096 % 16 + 224, c.toNat / 64 % 64 + 128, c.toNat % 64 + 128]
    else [c.toNat / 262144 % 8 + 240, c.toNat / 4096 % 64 + 128, c.toNat / 64 % 64 + 128,
      c.toNat % 64 + 128] := by
  have hn : c.val.toNat = c.toNat := rfl
  have e1 : c.val ≤ 127 ↔ c.toNat ≤ 127 := Iff.rfl
  have e2 : c.val ≤ 2047 ↔ c.toNat ≤ 2047 := Iff.rfl
  have e3 : c.val ≤ 65535 ↔ c.toNat ≤ 65535 := Iff.rfl
  unfold String.utf8EncodeChar; dsimp only
  simp only [e1, e2, e3]
  split_ifs with h1 <;>
    simp only [List.map, toNat_toUInt8, toNat_lead2, toNat_lead3, toNat_lead4, toNat_cont,
      toNat_shiftRight6, toNat_shiftRight12, hn]
  rw [Nat.mod_eq_of_lt (by omega)]

/-- The lead bytes of each width. -/
theorem utf8CharWidth_bounds (a : UInt8) :
    (utf8CharWidth a = 1 → a.toNat < 0x80) ∧ (utf8CharWidth a = 2 → 0xC2 ≤ a.toNat ∧ a.toNat < 0xE0) ∧
      (utf8CharWidth a = 3 → 0xE0 ≤ a.toNat ∧ a.toNat < 0xF0) ∧
      (utf8CharWidth a = 4 → 0xF0 ≤ a.toNat ∧ a.toNat < 0xF5) := by
  refine ⟨?_, ?_, ?_, ?_⟩ <;> intro h <;> rw [utf8CharWidth_eq] at h <;> split_ifs at h <;> omega

theorem isCont_bounds {b : UInt8} (h : isCont b = true) : 0x80 ≤ b.toNat ∧ b.toNat ≤ 0xBF := by
  simpa [isCont_eq] using h

/-- The second bytes `run_utf8_validation` accepts after each lead byte. -/
theorem secondOk_bounds {a b : UInt8} (h : secondOk a b = true) :
    (a.toNat = 0xE0 → 0xA0 ≤ b.toNat) ∧ (a.toNat = 0xED → b.toNat ≤ 0x9F) ∧
      (a.toNat = 0xF0 → 0x90 ≤ b.toNat) ∧ (a.toNat = 0xF4 → b.toNat ≤ 0x8F) ∧
      0x80 ≤ b.toNat ∧ b.toNat ≤ 0xBF := by
  rw [secondOk_eq] at h
  split_ifs at h <;> simp only [isCont_eq, Bool.and_eq_true, decide_eq_true_eq] at h <;> omega

theorem utf8EncodeChar_eq {c : Char} {bs : List UInt8}
    (h : (String.utf8EncodeChar c).map UInt8.toNat = bs.map UInt8.toNat) : String.utf8EncodeChar c = bs :=
  List.map_injective_iff.mpr (fun _ _ => UInt8.toNat.inj) h

/-- The character a sequence of each width decodes to is encoded into that sequence again. -/
theorem utf8EncodeChar_decoded1 {a : UInt8} (ha : utf8CharWidth a = 1) :
    String.utf8EncodeChar (Char.ofNat a.toNat) = [a] := by
  have := (utf8CharWidth_bounds a).1 ha
  apply utf8EncodeChar_eq
  rw [utf8EncodeChar_toNat, Char.toNat_ofNat_of_valid (by unfold Nat.isValidChar; omega), if_pos (by omega)]
  rfl

theorem utf8EncodeChar_decoded2 {a b : UInt8} (ha : utf8CharWidth a = 2) (hb : isCont b = true) :
    String.utf8EncodeChar (Char.ofNat (a.toNat % 32 * 64 + b.toNat % 64)) = [a, b] := by
  have := (utf8CharWidth_bounds a).2.1 ha
  have := isCont_bounds hb
  apply utf8EncodeChar_eq
  rw [utf8EncodeChar_toNat, Char.toNat_ofNat_of_valid (by unfold Nat.isValidChar; omega),
    if_neg (by omega), if_pos (by omega)]
  simp only [List.map, List.cons.injEq, and_true]; omega

theorem utf8EncodeChar_decoded3 {a b c : UInt8} (ha : utf8CharWidth a = 3) (h : (secondOk a b && isCont c) = true) :
    String.utf8EncodeChar (Char.ofNat (a.toNat % 16 * 4096 + b.toNat % 64 * 64 + c.toNat % 64)) = [a, b, c] := by
  rw [Bool.and_eq_true] at h
  have := (utf8CharWidth_bounds a).2.2.1 ha
  have := secondOk_bounds h.1
  have := isCont_bounds h.2
  apply utf8EncodeChar_eq
  rw [utf8EncodeChar_toNat, Char.toNat_ofNat_of_valid (by unfold Nat.isValidChar; omega),
    if_neg (by omega), if_neg (by omega), if_pos (by omega)]
  simp only [List.map, List.cons.injEq, and_true]; omega

theorem utf8EncodeChar_decoded4 {a b c d : UInt8} (ha : utf8CharWidth a = 4)
    (h : (secondOk a b && isCont c && isCont d) = true) :
    String.utf8EncodeChar (Char.ofNat (a.toNat % 8 * 262144 + b.toNat % 64 * 4096 + c.toNat % 64 * 64 +
      d.toNat % 64)) = [a, b, c, d] := by
  simp only [Bool.and_eq_true] at h
  have := (utf8CharWidth_bounds a).2.2.2 ha
  have := secondOk_bounds h.1.1
  have := isCont_bounds h.1.2
  have := isCont_bounds h.2
  apply utf8EncodeChar_eq
  rw [utf8EncodeChar_toNat, Char.toNat_ofNat_of_valid (by unfold Nat.isValidChar; omega),
    if_neg (by omega), if_neg (by omega), if_neg (by omega)]
  simp only [List.map, List.cons.injEq, and_true]; omega

theorem cons_map_eq_some {c : Char} {x : Option (List Char)} {cs : List Char}
    (h : (c :: ·) <$> x = some cs) : ∃ cs', x = some cs' ∧ cs = c :: cs' := by
  cases x with
  | none => cases h
  | some cs' => cases h; exact ⟨cs', rfl, rfl⟩

/-- What `str::from_utf8` decodes is encoded back into the bytes it was decoded from. -/
theorem decodeChars_sound : ∀ {bs : List UInt8} {cs : List Char}, decodeChars bs = some cs →
    cs.flatMap String.utf8EncodeChar = bs := by
  intro bs
  induction bs using decodeChars.induct with
  | case1 => intro cs h; cases h; rfl
  | case2 a rest ha ih =>
    intro cs h
    rw [decodeChars.eq_2 a rest ha] at h
    obtain ⟨cs', h', rfl⟩ := cons_map_eq_some h
    rw [List.flatMap_cons, utf8EncodeChar_decoded1 ha, ih h']; rfl
  | case3 a b rest ha hb ih =>
    intro cs h
    rw [decodeChars.eq_3 a b rest ha, if_pos hb] at h
    obtain ⟨cs', h', rfl⟩ := cons_map_eq_some h
    rw [List.flatMap_cons, utf8EncodeChar_decoded2 ha hb, ih h']; rfl
  | case4 a b rest ha hb => intro cs h; rw [decodeChars.eq_3 a b rest ha, if_neg hb] at h; cases h
  | case5 a b c rest ha hbc ih =>
    intro cs h
    rw [decodeChars.eq_4 a b c rest ha, if_pos hbc] at h
    obtain ⟨cs', h', rfl⟩ := cons_map_eq_some h
    rw [List.flatMap_cons, utf8EncodeChar_decoded3 ha hbc, ih h']; rfl
  | case6 a b c rest ha hbc => intro cs h; rw [decodeChars.eq_4 a b c rest ha, if_neg hbc] at h; cases h
  | case7 a b c d rest ha hbcd ih =>
    intro cs h
    rw [decodeChars.eq_5 a b c d rest ha, if_pos hbcd] at h
    obtain ⟨cs', h', rfl⟩ := cons_map_eq_some h
    rw [List.flatMap_cons, utf8EncodeChar_decoded4 ha hbcd, ih h']; rfl
  | case8 a b c d rest ha hbcd =>
    intro cs h; rw [decodeChars.eq_5 a b c d rest ha, if_neg hbcd] at h; cases h
  | case9 a rest h1 h2 h3 h4 => intro cs h; rw [decodeChars.eq_6 a rest h1 h2 h3 h4] at h; cases h

/-- `String::from_utf8` accepts exactly the encodings of strings, and gives the string encoded. -/
theorem fromUtf8_eq_some {bs : List UInt8} {s : String} : fromUtf8 bs = some s ↔ utf8Bytes s = bs := by
  constructor
  · intro h
    obtain ⟨cs, hcs, rfl⟩ : ∃ cs, decodeChars bs = some cs ∧ String.mk cs = s := by
      simpa [fromUtf8] using h
    exact decodeChars_sound hcs
  · rintro rfl; exact fromUtf8_utf8Bytes s

/-- Only the newline writes the byte `0x0A`. -/
theorem utf8EncodeChar_ne_newline {c : Char} (hc : c ≠ '\n') :
    ∀ b ∈ String.utf8EncodeChar c, b ≠ 0x0A := by
  have hc' : c.toNat ≠ 10 := fun h => hc (by rw [← Char.ofNat_toNat c, h])
  rintro b hb rfl
  have h := utf8EncodeChar_toNat c ▸ List.mem_map_of_mem UInt8.toNat hb
  split_ifs at h <;>
    simp only [List.mem_cons, List.mem_singleton, List.not_mem_nil, or_false,
      show (0x0A : UInt8).toNat = 10 from rfl] at h <;> omega

theorem lineBytes_append {xs : List UInt8} (h : ∀ b ∈ xs, b ≠ 0x0A) (ys : List UInt8) :
    lineBytes (xs ++ ys) = xs ++ lineBytes ys := by
  induction xs with
  | nil => rfl
  | cons x xs ih =>
    simp only [List.mem_cons, forall_eq_or_imp] at h
    simp [lineBytes, h.1, ih h.2]

/-- A line typed without a newline in it, then a newline: `read_line` gives the line and its
newline, whatever follows. -/
theorem readLine_typed {s : String} (hs : '\n' ∉ s.data) (more : List UInt8) :
    readLine (.bytes (utf8Bytes s ++ 0x0A :: more)) = some (s ++ "\n") := by
  have hb : ∀ b ∈ utf8Bytes s, b ≠ 0x0A := by
    simp only [utf8Bytes, List.mem_flatMap]
    rintro b ⟨c, hc, hb⟩
    exact utf8EncodeChar_ne_newline (fun h => hs (h ▸ hc)) b hb
  have hs : utf8Bytes (s ++ "\n") = utf8Bytes s ++ [0x0A] := by
    rw [utf8Bytes, String.data_append, List.flatMap_append]; rfl
  rw [readLine_bytes, lineBytes_append hb, lineBytes, if_pos rfl, ← hs, fromUtf8_utf8Bytes]

/-- Trailing whitespace is what `trim` removes. -/
theorem trim_append_whitespace (s : String) (c : Char) (hc : isWhitespace c = true) :
    trim (s ++ ⟨[c]⟩) = trim s := by
  simp only [trim, String.data_append, List.dropWhile_append]
  split
  · rename_i h
    simp only [List.isEmpty_iff] at h
    simp [h, hc]
  · simp [List.reverse_append, hc]

/-! ## The confirmation letter -/

/-- A character below 128 is its own one byte. -/
theorem utf8EncodeChar_of_lt {c : Char} (h : c.toNat < 128) :
    String.utf8EncodeChar c = [UInt8.ofNat c.toNat] := by
  have hv : c.val ≤ 0x7f := by
    rw [UInt32.le_def, BitVec.le_def]; simp [Char.toNat, UInt32.toNat] at h ⊢; omega
  simp [String.utf8EncodeChar, hv]; rfl

/-- A character from 128 on takes more than one byte. -/
theorem utf8EncodeChar_length_ne_one {c : Char} (h : 128 ≤ c.toNat) :
    (String.utf8EncodeChar c).length ≠ 1 := by
  have hv : ¬ c.val ≤ 0x7f := by
    rw [UInt32.le_def, BitVec.le_def]; simp [Char.toNat, UInt32.toNat] at h ⊢; omega
  rw [String.length_utf8EncodeChar]; unfold Char.utf8Size; dsimp only
  split_ifs with h1 <;> first | exact absurd h1 hv | decide

/-- Every character takes at least one byte. -/
theorem utf8Bytes_length_ge (cs : List Char) : cs.length ≤ (utf8Bytes ⟨cs⟩).length := by
  induction cs with
  | nil => simp [utf8Bytes]
  | cons c cs ih =>
    have := c.utf8Size_pos
    simp only [utf8Bytes, List.flatMap_cons, List.length_append, String.length_utf8EncodeChar,
      List.length_cons] at ih ⊢
    omega

/-- Equal strings up to ASCII case have equally many bytes. -/
theorem eqIgnoreAsciiCase_length {s t : String} (h : eqIgnoreAsciiCase s t = true) :
    (utf8Bytes s).length = (utf8Bytes t).length := by
  simp only [eqIgnoreAsciiCase, Bool.and_eq_true, beq_iff_eq] at h
  exact h.1

/-- The one-character ASCII strings equal to `"y"` up to ASCII case, decided over all 128. -/
theorem eqIgnoreAsciiCase_y_ascii : ∀ n < 128,
    (eqIgnoreAsciiCase ⟨[Char.ofNat n]⟩ "y" = true ↔ Char.ofNat n = 'y' ∨ Char.ofNat n = 'Y') := by
  decide

/-- A string equals `"y"` up to ASCII case exactly when it is `"y"` or `"Y"`. -/
theorem eqIgnoreAsciiCase_y (s : String) :
    eqIgnoreAsciiCase s "y" = true ↔ s = "y" ∨ s = "Y" := by
  obtain ⟨cs⟩ := s
  have hy : ∀ c, (⟨[c]⟩ : String) = "y" ∨ (⟨[c]⟩ : String) = "Y" ↔ c = 'y' ∨ c = 'Y' := by
    intro c; simp only [String.ext_iff, List.singleton_inj]
  rcases cs with _ | ⟨c, _ | ⟨d, cs⟩⟩
  · decide
  · rw [hy]
    by_cases hc : c.toNat < 128
    · rw [← Char.ofNat_toNat c]; exact eqIgnoreAsciiCase_y_ascii _ hc
    · refine iff_of_false (fun h => ?_) ?_
      · have := eqIgnoreAsciiCase_length h
        simp only [utf8Bytes, List.flatMap_cons, List.flatMap_nil, List.append_nil] at this
        exact utf8EncodeChar_length_ne_one (by omega) this
      · rintro (rfl | rfl) <;> exact hc (by decide)
  · refine iff_of_false (fun h => ?_) ?_
    · have h1 := eqIgnoreAsciiCase_length h
      have h2 := utf8Bytes_length_ge (c :: d :: cs)
      simp only [List.length_cons] at h2
      rw [h1, show (utf8Bytes "y").length = 1 from rfl] at h2; omega
    · rintro (h | h) <;> simp [String.ext_iff] at h

end TodoCli
