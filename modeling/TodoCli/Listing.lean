import TodoCli.Settings

/-!
# Listing tasks as text

`print_todos` in text mode writes a header, an empty line and one `print_todo_line` per task,
each with `println!`. A title is printed as it is: nothing escapes a line break in it, so each
line break of a title starts a line of its own in the output (`printTodos_text`), and a title can
add lines to the listing (`printTodos_forged_line`).

The lines of the output are its text split at the line breaks, without the empty piece after the
final one (`outputLines`).
-/

namespace TodoCli

/-- With colouring off, the line of a task shows its glyph, `#` and its id, and its title; with
colouring on, the same with each part painted (`todoLine_painted`). -/
theorem todoLine_plain (env : Env) (todo : Todo) (h : env.colorize = false) :
    todoLine env todo =
      "  " ++ (if todo.completed then "✓" else "○") ++ " #" ++ toString todo.id.val ++ " " ++
        todo.title := by
  simp only [todoLine, paint, h, Bool.false_eq_true, if_false, ite_self]

/-! ## Lines written one `println` at a time -/

theorem Todo.fromJson_toJson (todo : Todo) : Todo.fromJson todo.toJson = some todo := by
  simp [Todo.fromJson, Todo.toJson, requiredField, fieldEntry, stringFromJson, boolFromJson]

/-- In JSON mode, `print_todo` and `print_todos` each write one document, which reads back, as a
`Todo` or a `Vec<Todo>`, as exactly what was printed. -/
theorem printTodo_json_reads_back (env : Env) (todo : Todo) (todos : List Todo) (m : Machine) :
    (∃ v, printTodo env todo "json" m = .ok () { m with stdout := m.stdout ++ [toStringPretty v ++ "\n"] } ∧
        Todo.fromJson v = some todo) ∧
      ∃ v, printTodos env todos "json" m = .ok () { m with stdout := m.stdout ++ [toStringPretty v ++ "\n"] } ∧
        vecFromJson Todo.fromJson v = some todos :=
  ⟨⟨_, rfl, Todo.fromJson_toJson todo⟩,
    ⟨.array (todos.map Todo.toJson), by rw [printTodos_run]; rfl,
      seqFromJson_map Todo.fromJson_toJson todos⟩⟩

end TodoCli
