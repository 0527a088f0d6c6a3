import TodoCli.Model.Main

/-!
# Response handling

The seven operations of `ApiClient` handle the server's outcome by one policy, which
`FollowsPolicy` states for an operation: a transport failure is an error under the operation's
send context; a status outside `200..=299` is the error of the operation's failure prefix and the
server's message, whatever the body; a success status gives `Ok` exactly when the body reads as
the operation's Rust type. `delete_todo` reads no body and gives `Ok(())` on every success status.
`ops_follow_policy` checks all seven.

What "reads as the Rust type" means is serde's: an `i64` id, an `i32` `total`, so a list whose
`total` is an integer outside `i32` is refused although the specification calls it an integer
(`listTodos_total_overflow`).
-/

namespace TodoCli

/-- The policy for an operation with send context `sendContext` and failure prefix `failure`,
whose success body is read by `dec` and gives `result`. -/
def FollowsPolicy {α β : Type} (handle : HttpOutcome → Except Error α)
    (sendContext failure : String) (dec : JsonValue → Option β) (result : β → α) : Prop :=
  handle .transportError = .error (.context sendContext .library) ∧
  (∀ status body, isSuccess status = false →
    handle (.response status body) = .error (.bail (failure ++ errorMessage body))) ∧
  (∀ status body a, isSuccess status = true →
    (handle (.response status body) = .ok a ↔ ∃ b, body.decode dec = some b ∧ result b = a))

/-- `StatusCode::is_success`: exactly the statuses `200..=299`. -/
theorem isSuccess_iff (status : Nat) : isSuccess status = true ↔ 200 ≤ status ∧ status < 300 := by
  simp [isSuccess]

/-- The server's message: the `error` string of a body that reads as `ApiError`, and
`"Unknown error"` for every other body, whatever else it holds. -/
theorem errorMessage_eq (body : Body) :
    errorMessage body =
      match body.decode ApiError.fromJson with
      | some e => e.error
      | none => "Unknown error" := by
  unfold errorMessage
  cases body.decode ApiError.fromJson <;> rfl

theorem readResponse_map_followsPolicy {α β : Type} (sendContext failure parseContext : String)
    (dec : JsonValue → Option β) (result : β → α) :
    FollowsPolicy (fun o => (readResponse sendContext failure parseContext dec o).map result)
      sendContext failure dec result := by
  refine ⟨rfl, fun status body hs => by dsimp only; rw [readResponse_failure body hs]; rfl, ?_⟩
  intro status body a hs
  dsimp only
  rw [readResponse_success body hs]
  cases body.decode dec <;> simp [Except.map]

theorem readResponse_followsPolicy {β : Type} (sendContext failure parseContext : String)
    (dec : JsonValue → Option β) :
    FollowsPolicy (readResponse sendContext failure parseContext dec) sendContext failure dec id := by
  refine ⟨rfl, fun status body hs => readResponse_failure body hs, ?_⟩
  intro status body a hs
  rw [readResponse_success body hs]
  cases body.decode dec <;> simp

/-- `delete_todo`: the policy's errors, and `Ok(())` on every success status, whatever the body. -/
theorem deleteResponse_policy :
    deleteResponse .transportError = .error (.context "Failed to delete todo" .library) ∧
      (∀ status body, isSuccess status = false →
        deleteResponse (.response status body) =
          .error (.bail ("Failed to delete todo: " ++ errorMessage body))) ∧
      ∀ status body, isSuccess status = true → deleteResponse (.response status body) = .ok () := by
  refine ⟨rfl, fun status body hs => ?_, fun status body hs => ?_⟩ <;>
    simp [deleteResponse, checkResponse, hs, Except.map]

/-- All seven operations follow the policy, each with its own messages and its Rust type. -/
theorem ops_follow_policy (client : ApiClient) (email password title : String) (task : I64)
    (filter : Option Bool) (newTitle : Option String) (newCompleted : Option Bool) :
    FollowsPolicy (client.login email password).handle "Failed to send login request"
        "Login failed: " AuthResponse.fromJson (fun r => r) ∧
      FollowsPolicy (client.register email password).handle "Failed to send register request"
        "Registration failed: " AuthResponse.fromJson (fun r => r) ∧
      FollowsPolicy (client.listTodos filter).handle "Failed to fetch todos" "Failed to list todos: "
        TodoListResponse.fromJson (·.todos) ∧
      FollowsPolicy (client.getTodo task).handle "Failed to fetch todo" "Failed to get todo: "
        Todo.fromJson (fun r => r) ∧
      FollowsPolicy (client.createTodo title).handle "Failed to create todo" "Failed to create todo: "
        Todo.fromJson (fun r => r) ∧
      FollowsPolicy (client.updateTodo task newTitle newCompleted).handle "Failed to update todo"
        "Failed to update todo: " Todo.fromJson (fun r => r) ∧
      (client.deleteTodo task).handle .transportError = .error (.context "Failed to delete todo" .library) ∧
      (∀ status body, isSuccess status = false →
        (client.deleteTodo task).handle (.response status body) =
          .error (.bail ("Failed to delete todo: " ++ errorMessage body))) ∧
      ∀ status body, isSuccess status = true →
        (client.deleteTodo task).handle (.response status body) = .ok () :=
  ⟨readResponse_followsPolicy _ _ _ _, readResponse_followsPolicy _ _ _ _,
    readResponse_map_followsPolicy _ _ _ _ _, readResponse_followsPolicy _ _ _ _,
    readResponse_followsPolicy _ _ _ _, readResponse_followsPolicy _ _ _ _, deleteResponse_policy⟩

/-- A list response `\x7b"todos": [], "total": 2147483648\x7d` has the shape the specification
gives it, an integer `total`, and `list_todos` refuses it: `total` is an `i32`. -/
theorem listTodos_total_overflow :
    ((ApiClient.new defaultUrl none).listTodos none).handle
        (.response 200 (.json (.object [("todos", .array []), ("total", .int 2147483648)]))) =
      .error (.context "Failed to parse todos" .library) := rfl

end TodoCli
