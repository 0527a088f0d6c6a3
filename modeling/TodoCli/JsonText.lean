import TodoCli.Model.JsonRead
import TodoCli.Timestamps
import TodoCli.Wire
import TodoCli.Listing

/-!
# JSON text on both sides of the client

The client writes JSON text in two places: every request body, which `RequestBuilder::json`
serializes with `serde_json::to_vec` (`api.rs:98`), and the output of `--format json`, which
`print_todo` and `print_todos` write with `serde_json::to_string_pretty` (`output.rs:10`,
`output.rs:31`). This module proves that the reader reads both back:

* `readValue_write`: the reader inverts the writer under any formatter that writes only
  whitespace, for every document without a float, at every depth, followed by anything that ends
  a value; the pieces are `readString_escaped` for strings (every character, quotes, backslashes
  and control characters included) and `readNumber_toDigits` for integers;
* `fromStr_write`: a whole text reads back, the fuel of `fromStr` sufficing
  (`size_le_length`);
* `printTodo_json_text`: the lines `--format json` prints read back as the task or the list;
* `invoke_bodies_read_back`: the bytes of every request body an invocation sends read back as the
  body.
-/

namespace TodoCli

/-! ## Documents the writer writes -/

mutual

/-- A document without a `float`. The writer writes a `float` as nothing; no document of this
program holds one. -/
def JsonValue.noFloat : JsonValue → Bool
  | .float => false
  | .array xs => noFloatElems xs
  | .object fs => noFloatFields fs
  | _ => true

/-- Elements without a `float`. -/
def noFloatElems : List JsonValue → Bool
  | [] => true
  | x :: xs => x.noFloat && noFloatElems xs

/-- Members without a `float`. -/
def noFloatFields : List (String × JsonValue) → Bool
  | [] => true
  | (_, v) :: fs => v.noFloat && noFloatFields fs

end

mutual

/-- The fuel the reader spends on a document: one for each value and one for each container's
end. -/
def JsonValue.size : JsonValue → Nat
  | .array xs => sizeElems xs
  | .object fs => sizeFields fs
  | _ => 1

/-- The fuel of an array's elements after its first, its end included. -/
def sizeElems : List JsonValue → Nat
  | [] => 1
  | x :: xs => 1 + x.size + sizeElems xs

/-- The fuel of an object's members after its first, its end included. -/
def sizeFields : List (String × JsonValue) → Nat
  | [] => 1
  | (_, v) :: fs => 1 + v.size + sizeFields fs

end

/-- Every character is JSON whitespace. -/
def Blank (ws : List Char) : Prop := ∀ c ∈ ws, isJsonWs c = true

/-- A formatter writes only whitespace. -/
def Formatter.Blank (f : Formatter) : Prop :=
  (∀ d, TodoCli.Blank (f.beginValue d).data) ∧ (∀ d, TodoCli.Blank (f.endContainer d).data) ∧
    TodoCli.Blank f.afterColon.data

/-- What may follow a value: nothing, whitespace, or a delimiter. -/
def Delimited (r : List Char) : Prop :=
  ∀ c ∈ r.head?, isJsonWs c = true ∨ c = ',' ∨ c = ']' ∨ c = '\x7d'

theorem compactFormatter_blank : compactFormatter.Blank := by
  simp [Formatter.Blank, Blank, compactFormatter]

theorem prettyFormatter_blank : prettyFormatter.Blank := by
  have h : ∀ d, Blank ("\n" ++ indent d).data := fun d c hc => by
    simp only [indent, String.data_append, List.mem_append, List.mem_replicate] at hc
    rcases hc with hc | ⟨-, rfl⟩
    · simp at hc; simp [hc, isJsonWs]
    · rfl
  exact ⟨h, h, by simp [Blank, isJsonWs, prettyFormatter]⟩

/-! ## Whitespace and delimiters -/

theorem skipWs_blank {ws : List Char} (h : Blank ws) (t : List Char) : skipWs (ws ++ t) = skipWs t := by
  induction ws with
  | nil => rfl
  | cons c ws ih =>
    simp only [Blank, List.mem_cons, forall_eq_or_imp] at h
    simp [skipWs, h.1, ih h.2]

theorem skipWs_cons {c : Char} (h : isJsonWs c = false) (t : List Char) : skipWs (c :: t) = c :: t := by
  simp [skipWs, h]

theorem Delimited.blank_append {ws t : List Char} (hws : Blank ws) (ht : Delimited t) :
    Delimited (ws ++ t) := by
  cases ws with
  | nil => exact ht
  | cons c ws => exact fun _ h => by cases h; exact .inl (hws _ (List.mem_cons_self _ _))

theorem Delimited.nil : Delimited [] := fun _ h => nomatch h

theorem Delimited.of_head {c : Char} (t : List Char) (h : c = ',' ∨ c = ']' ∨ c = '\x7d') :
    Delimited (c :: t) := fun _ hc => by cases hc; exact .inr h

/-- A delimited text starts no number and continues none. -/
theorem Delimited.head {c : Char} {t : List Char} (h : Delimited (c :: t)) :
    c.isDigit = false ∧ c ≠ '.' ∧ c ≠ 'e' ∧ c ≠ 'E' := by
  have := h c rfl
  simp only [isJsonWs, Bool.or_eq_true, decide_eq_true_eq] at this
  rcases this with (((rfl | rfl) | rfl) | rfl) | rfl | rfl | rfl <;> decide

/-! ## Strings -/

theorem hex4_hexDigit : ∀ n < 32, hex4 '0' '0' (hexDigit (n / 16)) (hexDigit (n % 16)) = some n := by
  decide

/-- The `\u00XX` escape of a control character names it. -/
theorem readEscape_control {c : Char} (h : c.toNat < 0x20) (t : List Char) :
    readEscape ('u' :: '0' :: '0' :: hexDigit (c.toNat / 16) :: hexDigit (c.toNat % 16) :: t) =
      some (c, t) := by
  simp [readEscape, shortEscape, hex4_hexDigit c.toNat h, show c.toNat < 0xD800 by omega]

/-- The escape of a character reads back as the character, whatever follows it: one case for
each branch of `escapeChar`, each read by `readEscape` or as the character itself. -/
theorem readString_escapeChar (c : Char) (t : List Char) :
    readString (escapeChar c ++ t) = (readString t).map fun (cs, r) => (c :: cs, r) := by
  rw [escapeChar]
  by_cases h1 : c = '"'
  · rw [if_pos h1, h1]; exact readString_escape rfl
  rw [if_neg h1]
  by_cases h2 : c = '\\'
  · rw [if_pos h2, h2]; exact readString_escape rfl
  rw [if_neg h2]
  by_cases h3 : c = '\n'
  · rw [if_pos h3, h3]; exact readString_escape rfl
  rw [if_neg h3]
  by_cases h4 : c = '\r'
  · rw [if_pos h4, h4]; exact readString_escape rfl
  rw [if_neg h4]
  by_cases h5 : c = '\t'
  · rw [if_pos h5, h5]; exact readString_escape rfl
  rw [if_neg h5]
  by_cases h6 : c.toNat = 8
  · rw [if_pos h6, ← Char.ofNat_toNat c, h6]; exact readString_escape rfl
  rw [if_neg h6]
  by_cases h7 : c.toNat = 12
  · rw [if_pos h7, ← Char.ofNat_toNat c, h7]; exact readString_escape rfl
  rw [if_neg h7]
  by_cases h8 : c.toNat < 0x20
  · rw [if_pos h8]; exact readString_escape (readEscape_control h8 t)
  · rw [if_neg h8]; exact readString_char t h1 h2 h8

/-- A string's escaped characters and the closing quote read back as the characters. -/
theorem readString_escaped (cs t : List Char) :
    readString (cs.flatMap escapeChar ++ '"' :: t) = some (cs, t) := by
  induction cs with
  | nil => exact readString_quote t
  | cons c cs ih => simp [List.append_assoc, readString_escapeChar, ih]

theorem skipWs_quote (k : String) (t : List Char) : skipWs ((quote k).data ++ t) = (quote k).data ++ t :=
  rfl

theorem readKey_quote (k : String) {ws : List Char} (hws : Blank ws) (t : List Char) :
    readKey ((quote k).data ++ ':' :: (ws ++ t)) = some (k, skipWs t) := by
  simp [readKey, quote, List.append_assoc, readString_escaped, skipWs_cons (c := ':') (by decide),
    skipWs_blank hws]

/-! ## Integers

`toString` writes an integer as `-` for a negative one and the digits of its magnitude, the first
of them `0` only for zero; `readNumber` reads such digits back to their value.
-/

theorem foldl_significand (a : Nat) (ds : List Char) :
    ds.foldl (fun n d => 10 * n + (d.toNat - 48)) a = a * 10 ^ ds.length + digitsValue ds := by
  induction ds generalizing a with
  | nil => simp [digitsValue]
  | cons d ds ih => simp only [List.foldl_cons, ih, digitsValue, List.length_cons, pow_succ]; ring

/-- The first digit `Nat.toDigits` writes, nonzero for a nonzero number. -/
theorem toDigitsCore_head (fuel n : Nat) (ds : List Char) (hn : n < fuel) :
    ∃ q rest, Nat.toDigitsCore 10 fuel n ds = Nat.digitChar q :: rest ∧ q < 10 ∧ (0 < n → 0 < q) := by
  induction fuel generalizing n ds with
  | zero => omega
  | succ fuel ih =>
    simp only [Nat.toDigitsCore]
    split_ifs with h
    · exact ⟨n % 10, ds, rfl, Nat.mod_lt _ (by norm_num), by omega⟩
    · obtain ⟨q, rest, he, hq, hq0⟩ := ih (n / 10) _ (by omega)
      exact ⟨q, rest, he, hq, fun _ => hq0 (by omega)⟩

/-- A digit is no whitespace, no closing bracket and no literal's or string's first character. -/
theorem digitChar_head {q : Nat} (hq : q < 10) :
    (Nat.digitChar q).isDigit = true ∧ isJsonWs (Nat.digitChar q) = false ∧ Nat.digitChar q ≠ ']' ∧
      Nat.digitChar q ≠ '\x7d' := by
  interval_cases q <;> decide

theorem span_digits {ds r : List Char} (hd : ∀ c ∈ ds, c.isDigit) (hr : Delimited r) :
    (ds ++ r).span Char.isDigit = (ds, r) := by
  rw [List.span_eq_take_drop, List.takeWhile_append_of_pos hd, List.dropWhile_append_of_pos hd]
  cases r with
  | nil => simp
  | cons c t => simp [List.takeWhile_cons, List.dropWhile_cons, hr.head.1]

theorem readNumberTail_delimited {r : List Char} (hr : Delimited r) :
    readNumberTail r = some (false, r) := by
  cases r with
  | nil => rfl
  | cons c t =>
    obtain ⟨-, h1, h2, h3⟩ := hr.head
    simp [readNumberTail, readExponentPart, h1, h2, h3]

/-- The digits of a natural read back as it, negated after a sign. -/
theorem readNumber_toDigits (negative : Bool) (m : Nat) {r : List Char} (hr : Delimited r)
    (hm : negative = true → 0 < m) :
    readNumber negative (Nat.toDigits 10 m ++ r) =
      some (.int (if negative then -(m : Int) else m), r) := by
  obtain ⟨hv, hdig⟩ := toDigitsCore_digits (m + 1) m [] (by omega)
  have hval : significand (Nat.toDigits 10 m) = m := by
    rw [significand, foldl_significand, Nat.toDigits, hv]; simp [digitsValue]
  have hlead : ¬(Nat.toDigits 10 m = [] ∨
      ((Nat.toDigits 10 m).head? = some '0' ∧ 1 < (Nat.toDigits 10 m).length)) := by
    obtain ⟨q, rest, he, hq, hq0⟩ := toDigitsCore_head (m + 1) m [] (by omega)
    rcases Nat.eq_zero_or_pos m with rfl | hpos
    · decide
    · have hd := (digitChar_digit hq).1
      rw [Nat.toDigits, he]
      rintro (h | ⟨h, -⟩) <;> simp only [reduceCtorEq, List.head?_cons, Option.some.injEq] at h
      rw [h] at hd
      have := hq0 hpos
      simp at hd
      omega
  have hdig' : ∀ c ∈ Nat.toDigits 10 m, c.isDigit := hdig (by simp)
  simp only [readNumber, span_digits hdig' hr, if_neg hlead, readNumberTail_delimited hr, hval]
  cases negative <;> simp_all [Nat.pos_iff_ne_zero]

/-- A digit starts a number: none of the other branches of `readValue` reads it. -/
theorem readValue_digit {n : Nat} {c : Char} (t : List Char) (hc : c.isDigit = true) :
    readValue (n + 1) (c :: t) = readNumber false (c :: t) := by
  have h : ∀ x : Char, x.isDigit = false → c ≠ x := fun x hx h => by
    rw [h, hx] at hc; exact Bool.false_ne_true hc
  rw [readValue, if_neg (h 'n' rfl), if_neg (h 't' rfl), if_neg (h 'f' rfl), if_neg (h '"' rfl),
    if_neg (h '-' rfl), if_neg (h '[' rfl), if_neg (h '\x7b' rfl)]

theorem readValue_int (n : Nat) (i : Int) {r : List Char} (hr : Delimited r) :
    readValue (n + 1) ((toString i).data ++ r) = some (.int i, r) := by
  cases i with
  | ofNat m =>
    obtain ⟨q, rest, he, hq, -⟩ := toDigitsCore_head (m + 1) m [] (by omega)
    have he' : (toString (Int.ofNat m)).data = Nat.digitChar q :: rest := he
    rw [he', List.cons_append, readValue_digit _ (digitChar_head hq).1, ← List.cons_append, ← he',
      show (toString (Int.ofNat m)).data = Nat.toDigits 10 m from rfl,
      readNumber_toDigits false m hr (by simp)]
    rfl
  | negSucc m =>
    show readNumber true (Nat.toDigits 10 (m + 1) ++ r) = _
    rw [readNumber_toDigits true (m + 1) hr (fun _ => by omega)]
    rfl

/-! ## The writer's text -/

/-- What the writer writes for a document without a float starts with a character that is no
whitespace and closes nothing. -/
theorem write_head (f : Formatter) (d : Nat) {v : JsonValue} (hv : v.noFloat) :
    ∃ c t, (v.write f d).data = c :: t ∧ isJsonWs c = false ∧ c ≠ ']' ∧ c ≠ '\x7d' := by
  cases v with
  | null => exact ⟨_, _, rfl, rfl, by decide, by decide⟩
  | bool b => cases b <;> exact ⟨_, _, rfl, rfl, by decide, by decide⟩
  | int i =>
    cases i with
    | ofNat m =>
      obtain ⟨q, rest, he, hq, -⟩ := toDigitsCore_head (m + 1) m [] (by omega)
      exact ⟨_, _, he, (digitChar_head hq).2⟩
    | negSucc m => exact ⟨_, _, rfl, rfl, by decide, by decide⟩
  | float => cases hv
  | string s => exact ⟨_, _, rfl, rfl, by decide, by decide⟩
  | array xs => cases xs <;> exact ⟨_, _, rfl, rfl, by decide, by decide⟩
  | object fs => cases fs <;> exact ⟨_, _, rfl, rfl, by decide, by decide⟩

theorem write_array_data (f : Formatter) (d : Nat) (x : JsonValue) (xs : List JsonValue) :
    ((JsonValue.array (x :: xs)).write f d).data = '[' :: ((f.beginValue (d + 1)).data ++
      ((x.write f (d + 1)).data ++ ((writeElems f (d + 1) xs).data ++ ((f.endContainer d).data ++
        [']'])))) := by
  simp only [JsonValue.write, String.data_append, List.append_assoc]; rfl

theorem writeElems_cons_data (f : Formatter) (d : Nat) (x : JsonValue) (xs : List JsonValue) :
    (writeElems f d (x :: xs)).data =
      ',' :: ((f.beginValue d).data ++ ((x.write f d).data ++ (writeElems f d xs).data)) := by
  simp only [writeElems, String.data_append, List.append_assoc]; rfl

theorem write_object_data (f : Formatter) (d : Nat) (k : String) (v : JsonValue)
    (fs : List (String × JsonValue)) :
    ((JsonValue.object ((k, v) :: fs)).write f d).data = '\x7b' :: ((f.beginValue (d + 1)).data ++
      ((quote k).data ++ ':' :: (f.afterColon.data ++ ((v.write f (d + 1)).data ++
        ((writeFields f (d + 1) fs).data ++ ((f.endContainer d).data ++ ['\x7d'])))))) := by
  simp only [JsonValue.write, String.data_append, List.append_assoc]; rfl

theorem writeFields_cons_data (f : Formatter) (d : Nat) (k : String) (v : JsonValue)
    (fs : List (String × JsonValue)) :
    (writeFields f d ((k, v) :: fs)).data = ',' :: ((f.beginValue d).data ++ ((quote k).data ++
      ':' :: (f.afterColon.data ++ ((v.write f d).data ++ (writeFields f d fs).data)))) := by
  simp only [writeFields, String.data_append, List.append_assoc]; rfl

theorem writeElems_delimited (f : Formatter) (d : Nat) (xs : List JsonValue) {t : List Char}
    (ht : Delimited t) : Delimited ((writeElems f d xs).data ++ t) := by
  cases xs with
  | nil => exact ht
  | cons x xs => rw [writeElems_cons_data]; exact Delimited.of_head _ (.inl rfl)

theorem writeFields_delimited (f : Formatter) (d : Nat) (fs : List (String × JsonValue))
    {t : List Char} (ht : Delimited t) : Delimited ((writeFields f d fs).data ++ t) := by
  rcases fs with _ | ⟨⟨k, v⟩, fs⟩
  · exact ht
  · rw [writeFields_cons_data]; exact Delimited.of_head _ (.inl rfl)

/-! ## The reader's containers -/

theorem readValue_array_cons {n : Nat} {r s : List Char} (h : skipWs r = s) (hs : ∀ t, s ≠ ']' :: t) :
    readValue (n + 1) ('[' :: r) = (do
      let (x, r) ← readValue n s
      let (xs, r) ← readElemsTail n r
      pure (.array (x :: xs), r)) := by
  have hh : s.head? ≠ some ']' := fun h' => hs s.tail (by cases s <;> simp_all)
  simp [readValue, h, hh]

theorem readValue_object_cons {n : Nat} {r s : List Char} (h : skipWs r = s)
    (hs : ∀ t, s ≠ '\x7d' :: t) :
    readValue (n + 1) ('\x7b' :: r) = (do
      let (k, r) ← readKey s
      let (v, r) ← readValue n r
      let (fs, r) ← readFieldsTail n r
      pure (.object ((k, v) :: fs), r)) := by
  have hh : s.head? ≠ some '\x7d' := fun h' => hs s.tail (by cases s <;> simp_all)
  simp [readValue, h, hh]

theorem JsonValue.size_pos (v : JsonValue) : 0 < v.size := by
  cases v with
  | array xs => cases xs <;> simp only [JsonValue.size, sizeElems] <;> omega
  | object fs => cases fs <;> simp only [JsonValue.size, sizeFields] <;> omega
  | _ => exact Nat.one_pos

/-- The writer's text of a document starts the document: no whitespace to skip, and no closing
bracket. -/
theorem skipWs_write {f : Formatter} {d : Nat} {v : JsonValue} (hv : v.noFloat) (t : List Char) :
    skipWs ((v.write f d).data ++ t) = (v.write f d).data ++ t ∧
      (∀ u, (v.write f d).data ++ t ≠ ']' :: u) ∧ ∀ u, (v.write f d).data ++ t ≠ '\x7d' :: u := by
  obtain ⟨c, t', he, hc, hb, hk⟩ := write_head f d hv
  rw [he, List.cons_append, skipWs_cons hc]
  exact ⟨rfl, fun _ h => hb (List.cons.inj h).1, fun _ h => hk (List.cons.inj h).1⟩

/-! ## The round trip -/

section RoundTrip

variable (f : Formatter)

mutual

/-- **The reader inverts the writer.** For a formatter that writes only whitespace, the text of
every document without a float, at any depth and followed by anything that ends a value, reads
back as the document with enough fuel. -/
theorem readValue_write (hf : f.Blank) : ∀ (v : JsonValue) (d n : Nat) (r : List Char), v.noFloat → v.size ≤ n →
    Delimited r → readValue n ((v.write f d).data ++ r) = some (v, r)
  | .null, _, _ + 1, _, _, _, _ | .bool true, _, _ + 1, _, _, _, _
  | .bool false, _, _ + 1, _, _, _, _ => by simp [JsonValue.write, readValue, readLiteral]
  | .int i, _, n + 1, _, _, _, hr => readValue_int n i hr
  | .string s, _, _ + 1, r, _, _, _ => by
    simp [JsonValue.write, quote, readValue, List.append_assoc, readString_escaped]
  | .array [], _, _ + 1, _, _, _, _ => rfl
  | .object [], _, _ + 1, _, _, _, _ => rfl
  | .array (x :: xs), d, n + 1, r, hv, hs, hr => by
    simp only [JsonValue.noFloat, noFloatElems, Bool.and_eq_true] at hv
    simp only [JsonValue.size, sizeElems] at hs
    obtain ⟨hskip, hnb, -⟩ := skipWs_write (f := f) (d := d + 1) hv.1
      ((writeElems f (d + 1) xs).data ++ ((f.endContainer d).data ++ ']' :: r))
    have hx := readValue_write hf x (d + 1) n _ hv.1 (by omega)
      (writeElems_delimited f (d + 1) xs (.blank_append (hf.2.1 d) (.of_head r (.inr (.inl rfl)))))
    have hxs := readElemsTail_write hf xs (d + 1) n _ r hv.2 (by omega) (hf.2.1 d)
    simp only [write_array_data, List.cons_append, List.append_assoc, List.nil_append]
    rw [readValue_array_cons ((skipWs_blank (hf.1 _) _).trans hskip) hnb, hx]
    simp [hxs]
  | .object ((k, v) :: fs), d, n + 1, r, hv, hs, hr => by
    simp only [JsonValue.noFloat, noFloatFields, Bool.and_eq_true] at hv
    simp only [JsonValue.size, sizeFields] at hs
    obtain ⟨hskip, -, -⟩ := skipWs_write (f := f) (d := d + 1) hv.1
      ((writeFields f (d + 1) fs).data ++ ((f.endContainer d).data ++ '\x7d' :: r))
    have hv' := readValue_write hf v (d + 1) n _ hv.1 (by omega)
      (writeFields_delimited f (d + 1) fs (.blank_append (hf.2.1 d) (.of_head r (.inr (.inr rfl)))))
    have hfs := readFieldsTail_write hf fs (d + 1) n _ r hv.2 (by omega) (hf.2.1 d)
    simp only [write_object_data, List.cons_append, List.append_assoc, List.nil_append]
    rw [readValue_object_cons ((skipWs_blank (hf.1 _) _).trans (skipWs_quote k _))
      (fun _ h => absurd (List.cons.inj h).1 (by decide)), readKey_quote k hf.2.2, hskip]
    simp [hv', hfs]
  | .float, _, _, _, hv, _, _ => nomatch hv
  | v, _, 0, _, _, hs, _ => absurd hs (Nat.not_le.mpr v.size_pos)

/-- The elements of an array after its first read back, up to the closing bracket. -/
theorem readElemsTail_write (hf : f.Blank) : ∀ (xs : List JsonValue) (d n : Nat) (ws r : List Char),
    noFloatElems xs → sizeElems xs ≤ n → Blank ws →
      readElemsTail n ((writeElems f d xs).data ++ (ws ++ ']' :: r)) = some (xs, r)
  | [], _, n + 1, ws, r, _, _, hws => by
    simp [writeElems, readElemsTail, skipWs_blank hws, skipWs_cons (c := ']') (by decide)]
  | x :: xs, d, n + 1, ws, r, hv, hs, hws => by
    simp only [noFloatElems, Bool.and_eq_true] at hv
    simp only [sizeElems] at hs
    obtain ⟨hskip, -, -⟩ := skipWs_write (f := f) (d := d) hv.1 ((writeElems f d xs).data ++ (ws ++ ']' :: r))
    have hx := readValue_write hf x d n _ hv.1 (by omega)
      (writeElems_delimited f d xs (.blank_append hws (.of_head r (.inr (.inl rfl)))))
    have hxs := readElemsTail_write hf xs d n ws r hv.2 (by omega) hws
    simp only [writeElems_cons_data, List.cons_append, List.append_assoc]
    simp [readElemsTail, skipWs_cons (c := ',') (by decide), skipWs_blank (hf.1 d), hskip, hx, hxs]
  | _, _, 0, _, _, _, hs, _ => by cases ‹List JsonValue› <;> simp [sizeElems] at hs

/-- The members of an object after its first read back, up to the closing brace. -/
theorem readFieldsTail_write (hf : f.Blank) : ∀ (fs : List (String × JsonValue)) (d n : Nat) (ws r : List Char),
    noFloatFields fs → sizeFields fs ≤ n → Blank ws →
      readFieldsTail n ((writeFields f d fs).data ++ (ws ++ '\x7d' :: r)) = some (fs, r)
  | [], _, n + 1, ws, r, _, _, hws => by
    simp [writeFields, readFieldsTail, skipWs_blank hws, skipWs_cons (c := '\x7d') (by decide)]
  | (k, v) :: fs, d, n + 1, ws, r, hv, hs, hws => by
    simp only [noFloatFields, Bool.and_eq_true] at hv
    simp only [sizeFields] at hs
    obtain ⟨hskip, -, -⟩ := skipWs_write (f := f) (d := d) hv.1 ((writeFields f d fs).data ++ (ws ++ '\x7d' :: r))
    have hv' := readValue_write hf v d n _ hv.1 (by omega)
      (writeFields_delimited f d fs (.blank_append hws (.of_head r (.inr (.inr rfl)))))
    have hfs := readFieldsTail_write hf fs d n ws r hv.2 (by omega) hws
    simp only [writeFields_cons_data, List.cons_append, List.append_assoc]
    simp [readFieldsTail, skipWs_cons (c := ',') (by decide), skipWs_blank (hf.1 d), skipWs_quote,
      readKey_quote k hf.2.2, hskip, hv', hfs]
  | _, _, 0, _, _, _, hs, _ => by cases ‹List (String × JsonValue)› <;> simp [sizeFields] at hs

end

end RoundTrip

/-! ## Whole texts -/

mutual

/-- The writer writes at least one character for each unit of fuel the reader spends. -/
theorem size_le_length (f : Formatter) :
    ∀ (v : JsonValue) (d : Nat), v.noFloat → v.size ≤ (v.write f d).data.length
  | .null, d, hv | .bool _, d, hv | .int _, d, hv | .string _, d, hv => by
    obtain ⟨c, t, he, -⟩ := write_head f d hv
    simp [JsonValue.size, he]
  | .float, _, hv => nomatch hv
  | .array [], _, _ | .object [], _, _ => by simp [JsonValue.size, sizeElems, sizeFields, JsonValue.write]
  | .array (x :: xs), d, hv => by
    simp only [JsonValue.noFloat, noFloatElems, Bool.and_eq_true] at hv
    have h1 := size_le_length f x (d + 1) hv.1
    have h2 := sizeElems_le_length f xs (d + 1) hv.2
    simp only [write_array_data, JsonValue.size, sizeElems, List.length_cons, List.length_append]
    omega
  | .object ((k, v) :: fs), d, hv => by
    simp only [JsonValue.noFloat, noFloatFields, Bool.and_eq_true] at hv
    have h1 := size_le_length f v (d + 1) hv.1
    have h2 := sizeFields_le_length f fs (d + 1) hv.2
    simp only [write_object_data, JsonValue.size, sizeFields, List.length_cons, List.length_append]
    omega

theorem sizeElems_le_length (f : Formatter) :
    ∀ (xs : List JsonValue) (d : Nat), noFloatElems xs → sizeElems xs ≤ (writeElems f d xs).data.length + 1
  | [], _, _ => le_refl _
  | x :: xs, d, hv => by
    simp only [noFloatElems, Bool.and_eq_true] at hv
    have h1 := size_le_length f x d hv.1
    have h2 := sizeElems_le_length f xs d hv.2
    simp only [writeElems_cons_data, sizeElems, List.length_cons, List.length_append]
    omega

theorem sizeFields_le_length (f : Formatter) :
    ∀ (fs : List (String × JsonValue)) (d : Nat), noFloatFields fs →
      sizeFields fs ≤ (writeFields f d fs).data.length + 1
  | [], _, _ => le_refl _
  | (k, v) :: fs, d, hv => by
    simp only [noFloatFields, Bool.and_eq_true] at hv
    have h1 := size_le_length f v d hv.1
    have h2 := sizeFields_le_length f fs d hv.2
    simp only [writeFields_cons_data, sizeFields, List.length_cons, List.length_append]
    omega

end

/-- **A whole text reads back.** The writer's text of a document without a float, followed by
whitespace, is read by `fromStr` as the document: the fuel the text's length gives suffices. -/
theorem fromStr_write {f : Formatter} (hf : f.Blank) {v : JsonValue} (hv : v.noFloat)
    {ws : List Char} (hws : Blank ws) : fromStr ⟨(v.write f 0).data ++ ws⟩ = some v := by
  have hlen := size_le_length f v 0 hv
  have hd : Delimited ws := by simpa using Delimited.blank_append hws Delimited.nil
  have hread := readValue_write f hf v 0 ((v.write f 0).data ++ ws).length.succ ws hv
    (by simp only [List.length_append]; omega) hd
  have hend : skipWs ws = [] := by simpa using skipWs_blank hws []
  simp only [fromStr, String.length, (skipWs_write hv ws).1, hread, hend, if_true]

/-! ## Pretty printing is writing with the pretty formatter -/

mutual

theorem pretty_eq_write : ∀ (v : JsonValue) (d : Nat), v.pretty d = v.write prettyFormatter d
  | .null, _ | .bool _, _ | .int _, _ | .float, _ | .string _, _ | .array [], _ | .object [], _ => rfl
  | .array (x :: xs), d => by
    rw [JsonValue.pretty, JsonValue.write, pretty_eq_write x, prettyElems_eq_writeElems xs,
      show "[\n" = "[" ++ "\n" from rfl]
    simp only [prettyFormatter, String.append_assoc]
  | .object ((k, v) :: fs), d => by
    rw [JsonValue.pretty, JsonValue.write, pretty_eq_write v, prettyFields_eq_writeFields fs,
      show "\x7b\n" = "\x7b" ++ "\n" from rfl, show ": " = ":" ++ " " from rfl]
    simp only [prettyFormatter, String.append_assoc]

theorem prettyElems_eq_writeElems : ∀ (xs : List JsonValue) (d : Nat),
    prettyElems d xs = writeElems prettyFormatter d xs
  | [], _ => rfl
  | x :: xs, d => by
    rw [prettyElems, writeElems, pretty_eq_write x, prettyElems_eq_writeElems xs,
      show ",\n" = "," ++ "\n" from rfl]
    simp only [prettyFormatter, String.append_assoc]

theorem prettyFields_eq_writeFields : ∀ (fs : List (String × JsonValue)) (d : Nat),
    prettyFields d fs = writeFields prettyFormatter d fs
  | [], _ => rfl
  | (k, v) :: fs, d => by
    rw [prettyFields, writeFields, pretty_eq_write v, prettyFields_eq_writeFields fs,
      show ",\n" = "," ++ "\n" from rfl, show ": " = ":" ++ " " from rfl]
    simp only [prettyFormatter, String.append_assoc]

end

/-- A line of pretty-printed JSON reads back. -/
theorem fromStr_println_pretty {v : JsonValue} (hv : v.noFloat) :
    fromStr (toStringPretty v ++ "\n") = some v := by
  rw [toStringPretty, pretty_eq_write]
  exact fromStr_write prettyFormatter_blank hv (show Blank ['\n'] by simp [Blank, isJsonWs])

/-! ## What the client writes -/

theorem noFloatElems_map {α : Type} {g : α → JsonValue} (h : ∀ a, (g a).noFloat) :
    ∀ as : List α, noFloatElems (as.map g)
  | [] => rfl
  | a :: as => by simp [noFloatElems, h a, noFloatElems_map h as]

theorem Todo.toJson_noFloat (todo : Todo) : todo.toJson.noFloat := rfl

/-- **What `--format json` prints reads back.** For every task and every list of tasks, the line
`print_todo` or `print_todos` writes in JSON mode is one JSON text, which `serde_json` reads, as a
`Todo` or a `Vec<Todo>`, as exactly what was printed: whatever the titles and timestamps hold
(quotes, backslashes, line breaks, control characters, any Unicode) and whatever the ids. -/
theorem printTodo_json_text (env : Env) (todo : Todo) (todos : List Todo) (m : Machine) :
    (∃ s, printTodo env todo "json" m = .ok () { m with stdout := m.stdout ++ [s] } ∧
        (fromStr s).bind Todo.fromJson = some todo) ∧
      ∃ s, printTodos env todos "json" m = .ok () { m with stdout := m.stdout ++ [s] } ∧
        (fromStr s).bind (vecFromJson Todo.fromJson) = some todos :=
  ⟨⟨_, rfl, by rw [fromStr_println_pretty (Todo.toJson_noFloat todo)]; exact Todo.fromJson_toJson todo⟩,
    ⟨_, by rw [printTodos_run]; rfl, by
      rw [fromStr_println_pretty (v := .array (todos.map Todo.toJson))
        (noFloatElems_map Todo.toJson_noFloat todos)]
      exact seqFromJson_map Todo.fromJson_toJson todos⟩⟩

/-- Every body the wire table prescribes is a document without a float. -/
theorem wireRequest_body_noFloat (B : String) (t : Option String) (entered : String) (cmd : Commands) :
    ∀ req ∈ wireRequest B t entered cmd, ∀ v ∈ req.body, v.noFloat := by
  rintro req hreq v hv
  have hupdate : ∀ title completed, (updateBody title completed).noFloat := by
    intro title completed; cases title <;> cases completed <;> rfl
  cases cmd with
  | auth c => cases c <;> simp [wireRequest] at hreq <;> subst hreq <;> simp at hv <;> subst hv <;> rfl
  | update => simp [wireRequest] at hreq; subst hreq; simp at hv; subst hv; exact hupdate _ _
  | _ => simp [wireRequest] at hreq <;> subst hreq <;> simp at hv <;> subst hv <;> rfl

/-- **Request bodies read back.** Whatever the command line, the surroundings and the world, the
bytes every request of an invocation carries as its body read back, as JSON text, as exactly the
body: an email, password or title arrives character for character, and no value adds, drops or
changes a field. -/
theorem invoke_bodies_read_back (toml : Toml) (env : Env) (args : Args) (w : World) :
    ∀ req ∈ (invoke toml env args w).1.requests, ∀ bytes ∈ req.bodyBytes,
      fromSlice bytes = req.body := by
  intro req hmem bytes hbytes
  obtain ⟨hw, -⟩ := invoke_requests_mem toml env args w req hmem
  obtain ⟨v, hv, rfl⟩ : ∃ v, req.body = some v ∧ toVec v = bytes := by
    simpa [Request.bodyBytes] using hbytes
  have hnf := wireRequest_body_noFloat _ _ _ _ req hw v hv
  simpa [hv, fromSlice, toVec, fromUtf8_utf8Bytes] using
    fromStr_write compactFormatter_blank hnf (show Blank [] by simp [Blank])

/-- A title with quotes and a line break reaches the server as it was typed. -/
theorem invoke_bodies_read_back_create :
    let title := "say \"hi\"\n"
    let req := ((ApiClient.new defaultUrl none).createTodo title).request
    fromSlice (toVec (CreateTodoRequest.toJson ⟨title⟩)) = req.body := by
  intro title req
  exact invoke_bodies_read_back basicToml quietEnv ⟨none, none, .create title⟩ ⟨fun _ => none, none⟩ req
    (List.mem_singleton_self _) _ rfl

end TodoCli
