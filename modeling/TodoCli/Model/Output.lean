import TodoCli.Model.Config

/-!
# `output.rs`: rendering tasks

`print_todos` and `print_todo` write a list of tasks or one task, as pretty JSON when the format
is `"json"` and as text otherwise. In text, a list is a header with the count, an empty line and
one `print_todo_line` per task, or the one line `No todos found.`; a task is a block between two
rules, with its timestamps shown by `format_datetime`.

Colours come from the `colored` crate: with colouring on, a painted string is the style's escape
sequence, the text with the sequence repeated after every reset inside it, and a reset
(`Display for ColoredString`); with it off, the text alone. `format_datetime` shows a timestamp
that `chrono`'s `DateTime::parse_from_rfc3339` accepts as `YYYY-MM-DD HH:MM`, in the timestamp's
own offset, and any other text unchanged.
-/

namespace TodoCli

/-! ## Colours -/

/-- The styles the program paints with. -/
inductive Paint where
  | green | yellow | red | bold | dimmed
  /-- `.strikethrough().dimmed()`. -/
  | strikeDimmed

/-- The parameters of a style's escape sequence, styles before the colour. -/
def Paint.code : Paint → String
  | .green => "32"
  | .yellow => "33"
  | .red => "31"
  | .bold => "1"
  | .dimmed => "2"
  | .strikeDimmed => "2;9"

/-- `ColoredString::escape_inner_reset_sequences`: the style's sequence again after every reset
in the text. -/
def escapeInnerResets (pre : List Char) : List Char → List Char
  | '\x1b' :: '[' :: '0' :: 'm' :: rest => '\x1b' :: '[' :: '0' :: 'm' :: (pre ++ escapeInnerResets pre rest)
  | c :: rest => c :: escapeInnerResets pre rest
  | [] => []

/-- `Display for ColoredString`. -/
def paint (env : Env) (p : Paint) (s : String) : String :=
  if env.colorize then
    let pre := "\x1b[" ++ p.code ++ "m"
    pre ++ ⟨escapeInnerResets pre.data s.data⟩ ++ "\x1b[0m"
  else s

/-! ## Timestamps -/

/-- Exactly `n` ASCII digits at the front of the text, and their value (`scan::number(s, n, n)`). -/
def number : Nat → List Char → Option (Nat × List Char)
  | 0, cs => some (0, cs)
  | n + 1, c :: cs =>
    if c.isDigit then (fun (v, rest) => ((c.toNat - 48) * 10 ^ n + v, rest)) <$> number n cs
    else none
  | _ + 1, [] => none

/-- One expected character at the front (`scan::char`). -/
def expect (e : Char) : List Char → Option (List Char)
  | c :: cs => if c = e then some cs else none
  | [] => none

/-- `scan::nanosecond`: at least one digit, and every digit after it. -/
def fraction : List Char → Option (List Char)
  | c :: cs => if c.isDigit then some (cs.dropWhile Char.isDigit) else none
  | [] => none

/-- `scan::timezone_offset` as RFC 3339 parsing calls it: `Z` or `z`, or a sign (`+`, `-` or
U+2212) with `HH:MM`, hours at most 23 and minutes at most 59. -/
def offset : List Char → Option (List Char)
  | c :: cs =>
    if c = 'Z' ∨ c = 'z' then some cs
    else if c = '+' ∨ c = '-' ∨ c = '−' then do
      let (h, cs) ← number 2 cs
      let cs ← expect ':' cs
      let (m, cs) ← number 2 cs
      if h ≤ 23 ∧ m ≤ 59 then some cs else none
    else none
  | [] => none

/-- The number of days in a month of the proleptic Gregorian calendar. -/
def daysInMonth (year month : Nat) : Nat :=
  if month = 2 then
    if year % 4 = 0 ∧ (year % 100 ≠ 0 ∨ year % 400 = 0) then 29 else 28
  else if month = 4 ∨ month = 6 ∨ month = 9 ∨ month = 11 then 30
  else 31

/-- The fields of a timestamp that its display shows. -/
structure Stamp where
  year : Nat
  month : Nat
  day : Nat
  hour : Nat
  minute : Nat

/-- `YYYY-MM-DD` at the front: year, month, day, and the rest. -/
def date (s : List Char) : Option (Nat × Nat × Nat × List Char) := do
  let (year, s) ← number 4 s
  let s ← expect '-' s
  let (month, s) ← number 2 s
  let s ← expect '-' s
  let (day, s) ← number 2 s
  pure (year, month, day, s)

/-- `hh:mm:ss` at the front: hour, minute, second, and the rest. -/
def time (s : List Char) : Option (Nat × Nat × Nat × List Char) := do
  let (hour, s) ← number 2 s
  let s ← expect ':' s
  let (minute, s) ← number 2 s
  let s ← expect ':' s
  let (second, s) ← number 2 s
  pure (hour, minute, second, s)

/-- The separator of date and time: `T`, `t` or a space. -/
def dateTimeSeparator : List Char → Option (List Char)
  | c :: s => if c = 'T' ∨ c = 't' ∨ c = ' ' then some s else none
  | [] => none

/-- An optional fraction of a second, `.` and its digits. -/
def optionalFraction : List Char → Option (List Char)
  | '.' :: s => fraction s
  | s => some s

/-- `DateTime::parse_from_rfc3339`: a date, a separator, a time, an optional fraction, an offset,
and nothing after; the date a real one, the second at most 60 (a leap second). -/
def parseRfc3339 (s : List Char) : Option Stamp := do
  let (year, month, day, s) ← date s
  let s ← dateTimeSeparator s
  let (hour, minute, second, s) ← time s
  let s ← optionalFraction s >>= offset
  if s = [] ∧ 1 ≤ month ∧ month ≤ 12 ∧ 1 ≤ day ∧ day ≤ daysInMonth year month ∧ hour ≤ 23 ∧
      minute ≤ 59 ∧ second ≤ 60 then
    some ⟨year, month, day, hour, minute⟩
  else none

/-- A number written with at least `width` digits, zero-padded (`{:0width}`). -/
def padded (width n : Nat) : String :=
  ⟨List.replicate (width - (Nat.toDigits 10 n).length) '0' ++ Nat.toDigits 10 n⟩

/-- `format("%Y-%m-%d %H:%M")`. -/
def Stamp.render (d : Stamp) : String :=
  padded 4 d.year ++ "-" ++ padded 2 d.month ++ "-" ++ padded 2 d.day ++ " " ++ padded 2 d.hour ++
    ":" ++ padded 2 d.minute

/-- `output::format_datetime`. -/
def formatDatetime (dt : String) : String :=
  match parseRfc3339 dt.data with
  | some d => d.render
  | none => dt

/-! ## Printing -/

/-- The line `print_todo_line` prints for a task. -/
def todoLine (env : Env) (todo : Todo) : String :=
  let status := if todo.completed then paint env .green "✓" else paint env .yellow "○"
  let title := if todo.completed then paint env .strikeDimmed todo.title else todo.title
  "  " ++ status ++ " #" ++ paint env .dimmed (toString todo.id.val) ++ " " ++ title

/-- `output::print_todo_line`. -/
def printTodoLine (env : Env) (todo : Todo) : Prog Unit := println (todoLine env todo)

/-- `output::print_todos`. -/
def printTodos (env : Env) (todos : List Todo) (format : String) : Prog Unit :=
  if format = "json" then println (toStringPretty (.array (todos.map Todo.toJson)))
  else if todos.isEmpty then println (paint env .dimmed "No todos found.")
  else do
    println (paint env .bold ("📋 " ++ toString todos.length ++ " todos:"))
    println ""
    todos.forM (printTodoLine env)

/-- `output::print_todo_detail`. -/
def printTodoDetail (env : Env) (todo : Todo) : Prog Unit := do
  let status := if todo.completed then paint env .green "Completed" else paint env .yellow "Pending"
  let rule := paint env .dimmed ⟨List.replicate 40 '─'⟩
  println rule
  println ("  " ++ paint env .bold "Todo" ++ " #" ++ toString todo.id.val)
  println ("  " ++ paint env .dimmed "Title" ++ ": " ++ todo.title)
  println ("  " ++ paint env .dimmed "Status" ++ ": " ++ status)
  println ("  " ++ paint env .dimmed "Created" ++ ": " ++ formatDatetime todo.createdAt)
  println ("  " ++ paint env .dimmed "Updated" ++ ": " ++ formatDatetime todo.updatedAt)
  println rule

/-- `output::print_todo`. -/
def printTodo (env : Env) (todo : Todo) (format : String) : Prog Unit :=
  if format = "json" then println (toStringPretty todo.toJson) else printTodoDetail env todo

/-- Printing line by line appends the lines, each with its newline. -/
theorem forM_println_run {α : Type} (f : α → String) :
    ∀ (xs : List α) (m : Machine),
      xs.forM (fun x => println (f x)) m = .ok () { m with stdout := m.stdout ++ xs.map (f · ++ "\n") }
  | [], m => by simp [List.forM]
  | x :: xs, m => by simp [List.forM_cons, forM_println_run f xs]

/-- The lines `print_todos` writes. -/
def todosLines (env : Env) (todos : List Todo) (format : String) : List String :=
  if format = "json" then [toStringPretty (.array (todos.map Todo.toJson))]
  else if todos.isEmpty then [paint env .dimmed "No todos found."]
  else paint env .bold ("📋 " ++ toString todos.length ++ " todos:") :: "" :: todos.map (todoLine env)

/-- `print_todos` writes `todosLines`, each line with its newline, and changes nothing else. -/
theorem printTodos_run (env : Env) (todos : List Todo) (format : String) (m : Machine) :
    printTodos env todos format m =
      .ok () { m with stdout := m.stdout ++ (todosLines env todos format).map (· ++ "\n") } := by
  unfold printTodos todosLines
  split_ifs
  · simp
  · simp
  · have h : printTodoLine env = fun t => println (todoLine env t) := rfl
    simp [h, forM_println_run]

theorem printTodos_outputOnly (env : Env) (todos : List Todo) (format : String) :
    OutputOnly (printTodos env todos format) := by
  intro m; rw [printTodos_run]; rfl

/-- The lines `print_todo` writes. -/
def todoBlock (env : Env) (todo : Todo) (format : String) : List String :=
  if format = "json" then [toStringPretty todo.toJson]
  else
    let status := if todo.completed then paint env .green "Completed" else paint env .yellow "Pending"
    let rule := paint env .dimmed ⟨List.replicate 40 '─'⟩
    [rule, "  " ++ paint env .bold "Todo" ++ " #" ++ toString todo.id.val,
      "  " ++ paint env .dimmed "Title" ++ ": " ++ todo.title,
      "  " ++ paint env .dimmed "Status" ++ ": " ++ status,
      "  " ++ paint env .dimmed "Created" ++ ": " ++ formatDatetime todo.createdAt,
      "  " ++ paint env .dimmed "Updated" ++ ": " ++ formatDatetime todo.updatedAt, rule]

/-- `print_todo` writes `todoBlock`, each line with its newline, and changes nothing else. -/
theorem printTodo_run (env : Env) (todo : Todo) (format : String) (m : Machine) :
    printTodo env todo format m =
      .ok () { m with stdout := m.stdout ++ (todoBlock env todo format).map (· ++ "\n") } := by
  unfold printTodo printTodoDetail todoBlock
  split_ifs <;> simp

theorem printTodo_outputOnly (env : Env) (todo : Todo) (format : String) :
    OutputOnly (printTodo env todo format) := by
  intro m; rw [printTodo_run]; rfl

end TodoCli
