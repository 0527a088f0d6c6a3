import TodoCli.Model.Output

/-!
# Timestamps as `format_datetime` shows them

The server sends each task's `created_at` and `updated_at` as RFC 3339 text, and `print_todo`
shows them through `format_datetime` (`output.rs:72`): the date and time that
`DateTime::parse_from_rfc3339` reads, as `YYYY-MM-DD HH:MM` in the timestamp's own offset, or the
text unchanged when it does not parse. `formatDatetime_rfc3339` says that every timestamp written in
RFC 3339 is shown as its date and time, whatever its seconds (a leap second included), the digits of
its fraction and its offset: the parser reads back what the writer `rfc3339` writes.

The digits are the core of it: `padded` writes a number with `Nat.toDigits` after leading zeros,
and `number` reads a fixed count of digits by place value (`number_padded`).
-/

namespace TodoCli

/-! ## Fixed-width numbers -/

/-- The value of a list of decimal digits, the first the most significant. -/
def digitsValue : List Char → Nat
  | [] => 0
  | c :: cs => (c.toNat - 48) * 10 ^ cs.length + digitsValue cs

/-- `number` reads a run of digits as its value. -/
theorem number_append (ds rest : List Char) (hd : ∀ c ∈ ds, c.isDigit = true) :
    number ds.length (ds ++ rest) = some (digitsValue ds, rest) := by
  induction ds with
  | nil => rfl
  | cons c ds ih =>
    simp only [List.mem_cons, forall_eq_or_imp] at hd
    show number (ds.length + 1) (c :: (ds ++ rest)) = _
    rw [number, if_pos hd.1, ih hd.2]
    rfl

theorem digitsValue_replicate_zero (k : Nat) (ds : List Char) :
    digitsValue (List.replicate k '0' ++ ds) = digitsValue ds := by
  induction k with
  | zero => rfl
  | succ k ih =>
    show (0 : Nat) * _ + digitsValue (List.replicate k '0' ++ ds) = _
    rw [ih, zero_mul, zero_add]

theorem digitChar_digit {d : Nat} (h : d < 10) :
    (Nat.digitChar d).toNat - 48 = d ∧ (Nat.digitChar d).isDigit = true := by
  interval_cases d <;> decide

/-- `Nat.toDigits` writes digits, with the number's value. -/
theorem toDigitsCore_digits (fuel n : Nat) (ds : List Char) (hn : n < fuel) :
    digitsValue (Nat.toDigitsCore 10 fuel n ds) = n * 10 ^ ds.length + digitsValue ds ∧
      ((∀ c ∈ ds, c.isDigit = true) → ∀ c ∈ Nat.toDigitsCore 10 fuel n ds, c.isDigit = true) := by
  induction fuel generalizing n ds with
  | zero => omega
  | succ fuel ih =>
    have hd := digitChar_digit (Nat.mod_lt n (by norm_num : 10 > 0))
    simp only [Nat.toDigitsCore]
    split_ifs with h
    · refine ⟨?_, fun hds => ?_⟩
      · rw [digitsValue, hd.1, Nat.mod_eq_of_lt (by omega : n < 10)]
      · simpa [hd.2] using hds
    · obtain ⟨hv, hdig⟩ := ih (n / 10) (Nat.digitChar (n % 10) :: ds) (by omega)
      refine ⟨?_, fun hds => hdig (by simpa [hd.2] using hds)⟩
      rw [hv, digitsValue, hd.1, List.length_cons, pow_succ]
      conv_rhs => rw [← Nat.div_add_mod n 10]
      ring

/-- A number below `10 ^ w` written with `w` digits reads back. -/
theorem number_padded (w n : Nat) (hw : 0 < w) (hn : n < 10 ^ w) (rest : List Char) :
    number w ((padded w n).data ++ rest) = some (n, rest) := by
  have hL := Nat.toDigitsCore_length 10 (by norm_num) (n + 1) n w hn hw
  obtain ⟨hv, hdig⟩ := toDigitsCore_digits (n + 1) n [] (by omega)
  have hlen : (padded w n).data.length = w := by
    simp only [padded, List.length_append, List.length_replicate, Nat.toDigits]; omega
  have hdigits : ∀ c ∈ (padded w n).data, c.isDigit = true := by
    simp only [padded, List.mem_append, List.mem_replicate]
    rintro c (⟨-, rfl⟩ | hc)
    · rfl
    · exact hdig (by simp) c hc
  have h := number_append _ rest hdigits
  rw [hlen] at h
  rw [h]
  simp only [padded, digitsValue_replicate_zero, Nat.toDigits, hv]
  simp [digitsValue]

/-- A two-digit field reads back. -/
theorem number_two (n : Nat) (hn : n ≤ 99) (rest : List Char) :
    number 2 ((padded 2 n).data ++ rest) = some (n, rest) :=
  number_padded 2 n (by norm_num) (by norm_num; omega) rest

/-! ## RFC 3339 text -/

/-- The offset of a timestamp as RFC 3339 writes it. -/
inductive Offset where
  /-- `Z`. -/
  | utc
  /-- `+hh:mm`. -/
  | east (hours minutes : Nat)
  /-- `-hh:mm`. -/
  | west (hours minutes : Nat)

/-- The text of an offset. -/
def Offset.text : Offset → List Char
  | .utc => ['Z']
  | .east h m => '+' :: (padded 2 h).data ++ ':' :: (padded 2 m).data
  | .west h m => '-' :: (padded 2 h).data ++ ':' :: (padded 2 m).data

/-- An offset of at most 23 hours and 59 minutes. -/
def Offset.Valid : Offset → Prop
  | .utc => True
  | .east h m | .west h m => h ≤ 23 ∧ m ≤ 59

/-- A date of the calendar with a four-digit year, and a time of day. -/
structure Stamp.Valid (d : Stamp) : Prop where
  year : d.year < 10000
  month : 1 ≤ d.month ∧ d.month ≤ 12
  day : 1 ≤ d.day ∧ d.day ≤ daysInMonth d.year d.month
  hour : d.hour ≤ 23
  minute : d.minute ≤ 59

/-- A timestamp as a server writes it in RFC 3339: `YYYY-MM-DDThh:mm:ss`, the digits of a fraction
of a second after a `.` when there are any, and the offset. -/
def rfc3339 (d : Stamp) (second : Nat) (fraction : List Char) (off : Offset) : String :=
  ⟨(padded 4 d.year).data ++ '-' :: (padded 2 d.month).data ++ '-' :: (padded 2 d.day).data ++
    'T' :: (padded 2 d.hour).data ++ ':' :: (padded 2 d.minute).data ++ ':' ::
    (padded 2 second).data ++ (if fraction = [] then [] else '.' :: fraction) ++ off.text⟩

theorem offset_text {off : Offset} (ho : off.Valid) : offset off.text = some [] := by
  have last : ∀ n, n ≤ 99 → number 2 (padded 2 n).data = some (n, []) := fun n hn => by
    simpa using number_two n hn []
  cases off with
  | utc => rfl
  | east h m =>
    simp [Offset.text, offset, number_two h (by have := ho.1; omega), last m (by have := ho.2; omega),
      expect, ho.1, ho.2]
  | west h m =>
    simp [Offset.text, offset, number_two h (by have := ho.1; omega), last m (by have := ho.2; omega),
      expect, ho.1, ho.2]

theorem optionalFraction_text {fraction : List Char} (hf : ∀ c ∈ fraction, c.isDigit = true)
    (off : Offset) :
    optionalFraction ((if fraction = [] then [] else '.' :: fraction) ++ off.text) = some off.text := by
  have hoff : off.text.dropWhile Char.isDigit = off.text := by cases off <;> rfl
  split_ifs with h
  · cases off <;> rfl
  · obtain ⟨c, cs, rfl⟩ := List.exists_cons_of_ne_nil h
    simp only [List.mem_cons, forall_eq_or_imp] at hf
    simp only [List.cons_append, optionalFraction, fraction, hf.1, if_true, List.dropWhile_append,
      List.dropWhile_eq_nil_iff.mpr hf.2, List.isEmpty_nil, hoff]

theorem daysInMonth_le (year month : Nat) : daysInMonth year month ≤ 31 := by
  unfold daysInMonth; split_ifs <;> omega

/-- `parse_from_rfc3339` reads back the date and time of a timestamp written in RFC 3339, whatever
its seconds, fraction and offset. -/
theorem parseRfc3339_rfc3339 {d : Stamp} (hd : d.Valid) {second : Nat} (hs : second ≤ 60)
    {fraction : List Char} (hf : ∀ c ∈ fraction, c.isDigit = true) {off : Offset} (ho : off.Valid) :
    parseRfc3339 (rfc3339 d second fraction off).data = some d := by
  have := daysInMonth_le d.year d.month
  simp only [parseRfc3339, date, time, rfc3339, List.append_assoc, List.cons_append, expect,
    dateTimeSeparator, Option.pure_def, Option.bind_eq_bind, Option.some_bind, eq_self_iff_true,
    true_or, if_true, number_padded 4 d.year (by norm_num) hd.year,
    number_two d.month (by have := hd.month.2; omega), number_two d.day (by have := hd.day.2; omega),
    number_two d.hour (by have := hd.hour; omega), number_two d.minute (by have := hd.minute; omega),
    number_two second (by omega), optionalFraction_text hf, offset_text ho]
  exact if_pos ⟨trivial, hd.month.1, hd.month.2, hd.day.1, hd.day.2, hd.hour, hd.minute, hs⟩

/-- `format_datetime` shows a timestamp written in RFC 3339 as its date and time,
`YYYY-MM-DD HH:MM`, whatever its seconds, fraction and offset. -/
theorem formatDatetime_rfc3339 {d : Stamp} (hd : d.Valid) {second : Nat} (hs : second ≤ 60)
    {fraction : List Char} (hf : ∀ c ∈ fraction, c.isDigit = true) {off : Offset} (ho : off.Valid) :
    formatDatetime (rfc3339 d second fraction off) = d.render := by
  rw [formatDatetime, parseRfc3339_rfc3339 hd hs hf ho]

/-- `2024-01-15T10:30:05.123+09:00` is shown as `2024-01-15 10:30`. -/
theorem formatDatetime_rfc3339_server :
    formatDatetime (rfc3339 ⟨2024, 1, 15, 10, 30⟩ 5 ['1', '2', '3'] (.east 9 0)) =
      "2024-01-15 10:30" :=
  calc formatDatetime (rfc3339 ⟨2024, 1, 15, 10, 30⟩ 5 ['1', '2', '3'] (.east 9 0))
      = Stamp.render ⟨2024, 1, 15, 10, 30⟩ :=
        formatDatetime_rfc3339 ⟨by decide, by decide, by decide, by decide, by decide⟩ (by decide)
          (by decide) ⟨by decide, by decide⟩
    _ = "2024-01-15 10:30" := by decide

end TodoCli
