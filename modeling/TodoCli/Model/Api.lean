import TodoCli.Model.Json

/-!
# `api.rs`: the wire types and `ApiClient`

Every operation of `ApiClient` does two things: it builds one request (method, URL, the
`Authorization` header when the client holds a token, and a JSON body) and sends it, and it makes
a result of what comes back. The model keeps the two apart: an operation is a `Call`, its
`request` and its `handle`, and the dispatcher sends `request` to the server and passes the
outcome to `handle`. The seven handlers are copies of one another in the source; here they are
one definition, `readResponse`, applied to each operation's three messages and success type, and
`delete_todo`, which reads no success body, keeps its own (`deleteResponse`). The 30-second
timeout is not modelled: a request that times out is one whose outcome is a transport error.
-/

namespace TodoCli

/-! ## Errors -/

/-- An `anyhow::Error` as this program builds one: a message of its own (`bail!`), an error of a
library (whose text is not modelled), or either under a `.context(...)`. -/
inductive Error where
  | bail (msg : String)
  | library
  | context (msg : String) (source : Error)
  deriving DecidableEq

/-- The message `anyhow` prints first: the outermost context, or the message itself. -/
def Error.message : Error → String
  | .bail msg => msg
  | .library => ""
  | .context msg _ => msg

/-! ## Wire types -/

/-- `api::Todo`. -/
structure Todo where
  id : I64
  userId : I64
  title : String
  completed : Bool
  createdAt : String
  updatedAt : String
  deriving DecidableEq

/-- `Deserialize for Todo`, derived. -/
def Todo.fromJson : JsonValue → Option Todo
  | .object fs =>
    Todo.mk <$> requiredField fs "id" SInt.fromJson <*> requiredField fs "user_id" SInt.fromJson <*>
      requiredField fs "title" stringFromJson <*> requiredField fs "completed" boolFromJson <*>
      requiredField fs "created_at" stringFromJson <*> requiredField fs "updated_at" stringFromJson
  | .array [id, userId, title, completed, createdAt, updatedAt] =>
    Todo.mk <$> SInt.fromJson id <*> SInt.fromJson userId <*> stringFromJson title <*>
      boolFromJson completed <*> stringFromJson createdAt <*> stringFromJson updatedAt
  | _ => none

/-- `Serialize for Todo`, derived: the fields in declaration order. -/
def Todo.toJson (t : Todo) : JsonValue :=
  .object [("id", .int t.id.val), ("user_id", .int t.userId.val), ("title", .string t.title),
    ("completed", .bool t.completed), ("created_at", .string t.createdAt),
    ("updated_at", .string t.updatedAt)]

/-- `api::TodoListResponse`. -/
structure TodoListResponse where
  todos : List Todo
  total : I32

/-- `Deserialize for TodoListResponse`, derived. -/
def TodoListResponse.fromJson : JsonValue → Option TodoListResponse
  | .object fs =>
    TodoListResponse.mk <$> requiredField fs "todos" (vecFromJson Todo.fromJson) <*>
      requiredField fs "total" SInt.fromJson
  | .array [todos, total] =>
    TodoListResponse.mk <$> vecFromJson Todo.fromJson todos <*> SInt.fromJson total
  | _ => none

/-- `api::CreateTodoRequest`. -/
structure CreateTodoRequest where
  title : String

/-- `Serialize for CreateTodoRequest`, derived. -/
def CreateTodoRequest.toJson (r : CreateTodoRequest) : JsonValue :=
  .object [("title", .string r.title)]

/-- `api::UpdateTodoRequest`. -/
structure UpdateTodoRequest where
  title : Option String
  completed : Option Bool

/-- `Serialize for UpdateTodoRequest`, derived, with `skip_serializing_if = "Option::is_none"` on
both fields. -/
def UpdateTodoRequest.toJson (r : UpdateTodoRequest) : JsonValue :=
  .object ((r.title.map fun t => ("title", .string t)).toList ++
    (r.completed.map fun c => ("completed", .bool c)).toList)

/-- `api::LoginRequest`. -/
structure LoginRequest where
  email : String
  password : String

/-- `Serialize for LoginRequest`, derived. -/
def LoginRequest.toJson (r : LoginRequest) : JsonValue :=
  .object [("email", .string r.email), ("password", .string r.password)]

/-- `api::RegisterRequest`. -/
structure RegisterRequest where
  email : String
  password : String

/-- `Serialize for RegisterRequest`, derived. -/
def RegisterRequest.toJson (r : RegisterRequest) : JsonValue :=
  .object [("email", .string r.email), ("password", .string r.password)]

/-- `api::AuthResponse`. -/
structure AuthResponse where
  token : String
  userId : Option I64

/-- `Deserialize for AuthResponse`, derived; `user_id` has `#[serde(default)]`, so an array may
leave it out too. -/
def AuthResponse.fromJson : JsonValue → Option AuthResponse
  | .object fs =>
    AuthResponse.mk <$> requiredField fs "token" stringFromJson <*>
      optionalField fs "user_id" SInt.fromJson
  | .array [token] => (AuthResponse.mk · none) <$> stringFromJson token
  | .array [token, userId] =>
    AuthResponse.mk <$> stringFromJson token <*> optionFromJson SInt.fromJson userId
  | _ => none

/-- `api::ApiError`. -/
structure ApiError where
  error : String

/-- `Deserialize for ApiError`, derived. -/
def ApiError.fromJson : JsonValue → Option ApiError
  | .object fs => ApiError.mk <$> requiredField fs "error" stringFromJson
  | .array [error] => ApiError.mk <$> stringFromJson error
  | _ => none

/-! ## HTTP -/

/-- The methods the client uses. -/
inductive Method where
  | get | post | put | delete
  deriving DecidableEq

/-- A request as the client builds it: method, URL, the `Authorization` header if any, and the
JSON body if any. -/
structure Request where
  method : Method
  url : String
  authorization : Option String
  body : Option JsonValue

/-- What `send().await` gives: a transport failure (DNS, refused connection, timeout), or a
response with its status and body. -/
inductive HttpOutcome where
  | transportError
  | response (status : Nat) (body : Body)

/-- `StatusCode::is_success`. -/
def isSuccess (status : Nat) : Bool := 200 ≤ status && status < 300

/-- The message of a non-2xx body: the `error` of an `ApiError` body, or `"Unknown error"`
(`response.json().await.unwrap_or(ApiError { .. })`). -/
def errorMessage (body : Body) : String :=
  ((body.decode ApiError.fromJson).map (·.error)).getD "Unknown error"

/-- What every operation does with an outcome before it reads a success body: a transport failure
is an error under the send context, and a non-2xx status is `bail!` of the operation's failure
prefix followed by the server's message. -/
def checkResponse (sendContext failure : String) : HttpOutcome → Except Error Body
  | .transportError => .error (.context sendContext .library)
  | .response status body =>
    if isSuccess status then .ok body else .error (.bail (failure ++ errorMessage body))

/-- `checkResponse`, then the success body read as the operation's type, under its parse
context. -/
def readResponse {α : Type} (sendContext failure parseContext : String)
    (dec : JsonValue → Option α) (o : HttpOutcome) : Except Error α :=
  (checkResponse sendContext failure o).bind fun body =>
    match body.decode dec with
    | some a => .ok a
    | none => .error (.context parseContext .library)

/-- `delete_todo`'s handling: `checkResponse`, and then `Ok(())` whatever the body. -/
def deleteResponse (o : HttpOutcome) : Except Error Unit :=
  (checkResponse "Failed to delete todo" "Failed to delete todo: " o).map fun _ => ()

@[simp] theorem readResponse_transportError {α : Type} (sendContext failure parseContext : String)
    (dec : JsonValue → Option α) :
    readResponse sendContext failure parseContext dec .transportError =
      .error (.context sendContext .library) := rfl

theorem readResponse_failure {α : Type} {sendContext failure parseContext : String}
    {dec : JsonValue → Option α} {status : Nat} (body : Body) (hs : isSuccess status = false) :
    readResponse sendContext failure parseContext dec (.response status body) =
      .error (.bail (failure ++ errorMessage body)) := by
  simp [readResponse, checkResponse, hs, Except.bind]

theorem readResponse_success {α : Type} {sendContext failure parseContext : String}
    {dec : JsonValue → Option α} {status : Nat} (body : Body) (hs : isSuccess status = true) :
    readResponse sendContext failure parseContext dec (.response status body) =
      match body.decode dec with
      | some a => .ok a
      | none => .error (.context parseContext .library) := by
  simp [readResponse, checkResponse, hs, Except.bind]

/-- A handler succeeds exactly on a success status with a body that reads as its type. -/
theorem readResponse_eq_ok {α : Type} {sendContext failure parseContext : String}
    {dec : JsonValue → Option α} {o : HttpOutcome} {a : α} :
    readResponse sendContext failure parseContext dec o = .ok a ↔
      ∃ status body, o = .response status body ∧ isSuccess status = true ∧ body.decode dec = some a := by
  rcases o with _ | ⟨status, body⟩
  · simp [readResponse, checkResponse, Except.bind]
  · by_cases hs : isSuccess status <;> cases hd : body.decode dec <;>
      simp [readResponse, checkResponse, Except.bind, hs, hd, and_assoc]

/-! ## The client -/

/-- `api::ApiClient`: the base URL without trailing slashes, and the token, if one was loaded. -/
structure ApiClient where
  baseUrl : String
  token : Option String

/-- `ApiClient::new`. -/
def ApiClient.new (baseUrl : String) (token : Option String) : ApiClient :=
  ⟨trimEndMatches baseUrl '/', token⟩

/-- `ApiClient::auth_header`. -/
def ApiClient.authHeader (self : ApiClient) : Option String :=
  self.token.map ("Bearer " ++ ·)

/-- One operation of the client: the request it sends, and what it makes of the outcome. -/
structure Call (α : Type) where
  request : Request
  handle : HttpOutcome → Except Error α

/-- A request to a task endpoint: the client's `Authorization` header attached. -/
def ApiClient.taskRequest (self : ApiClient) (method : Method) (url : String)
    (body : Option JsonValue) : Request :=
  ⟨method, url, self.authHeader, body⟩

/-- `ApiClient::login`. -/
def ApiClient.login (self : ApiClient) (email password : String) : Call AuthResponse :=
  ⟨⟨.post, self.baseUrl ++ "/api/v1/auth/login", none, some (LoginRequest.toJson ⟨email, password⟩)⟩,
    readResponse "Failed to send login request" "Login failed: " "Failed to parse login response"
      AuthResponse.fromJson⟩

/-- `ApiClient::register`. -/
def ApiClient.register (self : ApiClient) (email password : String) : Call AuthResponse :=
  ⟨⟨.post, self.baseUrl ++ "/api/v1/users", none, some (RegisterRequest.toJson ⟨email, password⟩)⟩,
    readResponse "Failed to send register request" "Registration failed: "
      "Failed to parse register response" AuthResponse.fromJson⟩

/-- `ApiClient::list_todos`; the completion filter is not sent. -/
def ApiClient.listTodos (self : ApiClient) (_completed : Option Bool) : Call (List Todo) :=
  ⟨self.taskRequest .get (self.baseUrl ++ "/api/v1/todos") none,
    fun o => (readResponse "Failed to fetch todos" "Failed to list todos: " "Failed to parse todos"
      TodoListResponse.fromJson o).map (·.todos)⟩

/-- `ApiClient::get_todo`. -/
def ApiClient.getTodo (self : ApiClient) (id : I64) : Call Todo :=
  ⟨self.taskRequest .get (self.baseUrl ++ "/api/v1/todos/" ++ toString id.val) none,
    readResponse "Failed to fetch todo" "Failed to get todo: " "Failed to parse todo" Todo.fromJson⟩

/-- `ApiClient::create_todo`. -/
def ApiClient.createTodo (self : ApiClient) (title : String) : Call Todo :=
  ⟨self.taskRequest .post (self.baseUrl ++ "/api/v1/todos") (some (CreateTodoRequest.toJson ⟨title⟩)),
    readResponse "Failed to create todo" "Failed to create todo: " "Failed to parse created todo"
      Todo.fromJson⟩

/-- `ApiClient::update_todo`. -/
def ApiClient.updateTodo (self : ApiClient) (id : I64) (title : Option String)
    (completed : Option Bool) : Call Todo :=
  ⟨self.taskRequest .put (self.baseUrl ++ "/api/v1/todos/" ++ toString id.val)
    (some (UpdateTodoRequest.toJson ⟨title, completed⟩)),
    readResponse "Failed to update todo" "Failed to update todo: " "Failed to parse updated todo"
      Todo.fromJson⟩

/-- `ApiClient::delete_todo`. -/
def ApiClient.deleteTodo (self : ApiClient) (id : I64) : Call Unit :=
  ⟨self.taskRequest .delete (self.baseUrl ++ "/api/v1/todos/" ++ toString id.val) none, deleteResponse⟩

end TodoCli
