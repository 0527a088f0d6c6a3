import TodoCli.Settings

/-!
# Members the client does not read

The wire types derive `Deserialize` without `deny_unknown_fields`, so `serde` skips an object
member whose key the type does not declare. `invoke_unknown_members` states what this means for
the whole program: a server may add members to the JSON objects it answers with, at any depth,
under keys that none of the wire types reads (`knownKeys`), or leave such members out, and no
invocation can tell. The requests, the output, the world left and the exit status are the same.

`JsonValue.known` removes those members at every depth. Each decoder gives the same result on a
document and on its `known` part (`ReadsKnown`): the scalar decoders because `known` keeps
scalars, `requiredField` and `optionalField` because a known key finds the same members, and the
four response types from these. Every handler of `ApiClient` reads its outcome through such a
decoder, so `send` cannot tell the two servers apart (`send_known`), and neither can `main`.
-/

namespace TodoCli

/-! ## Members the client reads -/

/-- The keys the wire types read: the fields of `Todo`, `TodoListResponse`, `AuthResponse` and
`ApiError`. -/
def knownKeys : List String :=
  ["id", "user_id", "title", "completed", "created_at", "updated_at", "todos", "total", "token",
    "error"]

mutual

/-- A document with every object member whose key no wire type reads removed, at every depth. -/
def JsonValue.known : JsonValue → JsonValue
  | .null => .null
  | .bool b => .bool b
  | .int n => .int n
  | .float => .float
  | .string s => .string s
  | .array xs => .array (knownElems xs)
  | .object fs => .object (knownMembers fs)

/-- The elements of an array, each with its unknown members removed. -/
def knownElems : List JsonValue → List JsonValue
  | [] => []
  | x :: xs => x.known :: knownElems xs

/-- The members of an object whose keys a wire type reads, each value with its unknown members
removed. -/
def knownMembers : List (String × JsonValue) → List (String × JsonValue)
  | [] => []
  | (k, v) :: fs => if k ∈ knownKeys then (k, v.known) :: knownMembers fs else knownMembers fs

end

theorem knownElems_eq_map : ∀ xs : List JsonValue, knownElems xs = xs.map JsonValue.known
  | [] => rfl
  | x :: xs => by rw [knownElems, knownElems_eq_map xs, List.map_cons]

/-- Looking up a key a wire type reads sees the same members, each with its unknown members
removed. -/
theorem filter_knownMembers {name : String} (hn : name ∈ knownKeys) :
    ∀ fs : List (String × JsonValue), (knownMembers fs).filter (·.1 == name) =
      (fs.filter (·.1 == name)).map fun kv => (kv.1, kv.2.known)
  | [] => rfl
  | (k, v) :: fs => by
    have ih := filter_knownMembers hn fs
    by_cases hk : k ∈ knownKeys
    · by_cases he : k = name <;> simp [knownMembers, hk, hn, he, ih, List.filter_cons]
    · have : k ≠ name := fun h => hk (h ▸ hn)
      simp [knownMembers, hk, this, ih, List.filter_cons]

theorem fieldEntry_knownMembers {name : String} (hn : name ∈ knownKeys)
    (fs : List (String × JsonValue)) :
    fieldEntry (knownMembers fs) name = (fieldEntry fs name).map (Option.map JsonValue.known) := by
  unfold fieldEntry
  rw [filter_knownMembers hn]
  generalize fs.filter (·.1 == name) = l
  rcases l with _ | ⟨_, _ | ⟨_, _⟩⟩ <;> rfl

/-! ## Decoders that read known members only -/

/-- A decoder that gives the same result once the unknown members of a document are removed. -/
def ReadsKnown {α : Type} (dec : JsonValue → Option α) : Prop := ∀ v, dec v.known = dec v

section ReadsKnown

variable {α : Type} {dec : JsonValue → Option α}

theorem SInt.fromJson_readsKnown {w : Nat} : ReadsKnown (SInt.fromJson (w := w)) := by
  intro v; cases v <;> rfl

theorem stringFromJson_readsKnown : ReadsKnown stringFromJson := by
  intro v; cases v <;> rfl

theorem boolFromJson_readsKnown : ReadsKnown boolFromJson := by
  intro v; cases v <;> rfl

theorem optionFromJson_readsKnown (h : ReadsKnown dec) : ReadsKnown (optionFromJson dec) := by
  intro v
  have hv := h v
  cases v <;> simp only [JsonValue.known, optionFromJson] at hv ⊢ <;> rw [hv]

theorem seqFromJson_knownElems (h : ReadsKnown dec) :
    ∀ xs, seqFromJson dec (knownElems xs) = seqFromJson dec xs
  | [] => rfl
  | x :: xs => by simp only [knownElems, seqFromJson, h x, seqFromJson_knownElems h xs]

theorem vecFromJson_readsKnown (h : ReadsKnown dec) : ReadsKnown (vecFromJson dec) := by
  intro v
  cases v with
  | array xs => exact seqFromJson_knownElems h xs
  | _ => rfl

theorem requiredField_knownMembers (h : ReadsKnown dec) {name : String} (hn : name ∈ knownKeys)
    (fs : List (String × JsonValue)) :
    requiredField (knownMembers fs) name dec = requiredField fs name dec := by
  unfold requiredField
  rw [fieldEntry_knownMembers hn]
  rcases fieldEntry fs name with _ | _ | v
  · rfl
  · rfl
  · exact h v

theorem optionalField_knownMembers (h : ReadsKnown dec) {name : String} (hn : name ∈ knownKeys)
    (fs : List (String × JsonValue)) :
    optionalField (knownMembers fs) name dec = optionalField fs name dec := by
  unfold optionalField
  rw [fieldEntry_knownMembers hn]
  rcases fieldEntry fs name with _ | _ | v
  · rfl
  · rfl
  · exact optionFromJson_readsKnown h v

end ReadsKnown

theorem Todo.fromJson_readsKnown : ReadsKnown Todo.fromJson := by
  intro v
  cases v with
  | array xs =>
    rw [JsonValue.known, knownElems_eq_map]
    -- an array of any length but six reads as nothing, on both sides
    rcases xs with _ | ⟨a, _ | ⟨b, _ | ⟨c, _ | ⟨d, _ | ⟨e, _ | ⟨f, _ | ⟨g, xs⟩⟩⟩⟩⟩⟩⟩ <;> try rfl
    simp only [List.map, Todo.fromJson, SInt.fromJson_readsKnown _, stringFromJson_readsKnown _,
      boolFromJson_readsKnown _]
  | object fs =>
    simp (disch := decide) only [JsonValue.known, Todo.fromJson,
      requiredField_knownMembers SInt.fromJson_readsKnown,
      requiredField_knownMembers stringFromJson_readsKnown,
      requiredField_knownMembers boolFromJson_readsKnown]
  | _ => rfl

theorem TodoListResponse.fromJson_readsKnown : ReadsKnown TodoListResponse.fromJson := by
  intro v
  cases v with
  | array xs =>
    rw [JsonValue.known, knownElems_eq_map]
    rcases xs with _ | ⟨a, _ | ⟨b, _ | ⟨c, xs⟩⟩⟩ <;> try rfl
    simp only [List.map, TodoListResponse.fromJson, SInt.fromJson_readsKnown _,
      vecFromJson_readsKnown Todo.fromJson_readsKnown _]
  | object fs =>
    simp (disch := decide) only [JsonValue.known, TodoListResponse.fromJson,
      requiredField_knownMembers (vecFromJson_readsKnown Todo.fromJson_readsKnown),
      requiredField_knownMembers SInt.fromJson_readsKnown]
  | _ => rfl

theorem AuthResponse.fromJson_readsKnown : ReadsKnown AuthResponse.fromJson := by
  intro v
  cases v with
  | array xs =>
    rw [JsonValue.known, knownElems_eq_map]
    rcases xs with _ | ⟨a, _ | ⟨b, _ | ⟨c, xs⟩⟩⟩ <;> try rfl
    · simp only [List.map, AuthResponse.fromJson, stringFromJson_readsKnown _]
    · simp only [List.map, AuthResponse.fromJson, stringFromJson_readsKnown _,
        optionFromJson_readsKnown SInt.fromJson_readsKnown _]
  | object fs =>
    simp (disch := decide) only [JsonValue.known, AuthResponse.fromJson,
      requiredField_knownMembers stringFromJson_readsKnown,
      optionalField_knownMembers SInt.fromJson_readsKnown]
  | _ => rfl

theorem ApiError.fromJson_readsKnown : ReadsKnown ApiError.fromJson := by
  intro v
  cases v with
  | array xs =>
    rw [JsonValue.known, knownElems_eq_map]
    rcases xs with _ | ⟨a, _ | ⟨b, xs⟩⟩ <;> try rfl
    simp only [List.map, ApiError.fromJson, stringFromJson_readsKnown _]
  | object fs =>
    simp (disch := decide) only [JsonValue.known, ApiError.fromJson,
      requiredField_knownMembers stringFromJson_readsKnown]
  | _ => rfl

/-! ## Outcomes -/

/-- A body with the unknown members of its document removed. -/
def Body.known : Body → Body
  | .json v => .json v.known
  | .invalid => .invalid

/-- An outcome with the unknown members of its body removed. -/
def HttpOutcome.known : HttpOutcome → HttpOutcome
  | .transportError => .transportError
  | .response status body => .response status body.known

theorem Body.decode_known {α : Type} {dec : JsonValue → Option α} (h : ReadsKnown dec) (b : Body) :
    b.known.decode dec = b.decode dec := by
  cases b
  · exact h _
  · rfl

theorem errorMessage_known (b : Body) : errorMessage b.known = errorMessage b := by
  rw [errorMessage, errorMessage, Body.decode_known ApiError.fromJson_readsKnown]

theorem checkResponse_known (sendContext failure : String) (o : HttpOutcome) :
    checkResponse sendContext failure o.known =
      (checkResponse sendContext failure o).map Body.known := by
  cases o with
  | transportError => rfl
  | response status body =>
    simp only [HttpOutcome.known, checkResponse, errorMessage_known]
    split <;> rfl

theorem readResponse_known {α : Type} (sendContext failure parseContext : String)
    {dec : JsonValue → Option α} (h : ReadsKnown dec) (o : HttpOutcome) :
    readResponse sendContext failure parseContext dec o.known =
      readResponse sendContext failure parseContext dec o := by
  unfold readResponse
  rw [checkResponse_known]
  cases checkResponse sendContext failure o with
  | error e => rfl
  | ok body => simp only [Except.map, Except.bind, Body.decode_known h]

theorem deleteResponse_known (o : HttpOutcome) : deleteResponse o.known = deleteResponse o := by
  unfold deleteResponse
  rw [checkResponse_known]
  cases checkResponse "Failed to delete todo" "Failed to delete todo: " o <;> rfl

/-! ## Calls and runs -/

/-- A call whose handler gives the same result once the unknown members of the body are
removed. -/
def Call.ReadsKnown {α : Type} (call : Call α) : Prop := ∀ o, call.handle o.known = call.handle o

section Ops

variable (client : ApiClient)

theorem ApiClient.login_readsKnown (email password : String) :
    (client.login email password).ReadsKnown :=
  readResponse_known _ _ _ AuthResponse.fromJson_readsKnown

theorem ApiClient.register_readsKnown (email password : String) :
    (client.register email password).ReadsKnown :=
  readResponse_known _ _ _ AuthResponse.fromJson_readsKnown

theorem ApiClient.listTodos_readsKnown (completed : Option Bool) :
    (client.listTodos completed).ReadsKnown := fun o =>
  congrArg (Except.map _) (readResponse_known _ _ _ TodoListResponse.fromJson_readsKnown o)

theorem ApiClient.getTodo_readsKnown (id : I64) : (client.getTodo id).ReadsKnown :=
  readResponse_known _ _ _ Todo.fromJson_readsKnown

theorem ApiClient.createTodo_readsKnown (title : String) : (client.createTodo title).ReadsKnown :=
  readResponse_known _ _ _ Todo.fromJson_readsKnown

theorem ApiClient.updateTodo_readsKnown (id : I64) (title : Option String)
    (completed : Option Bool) : (client.updateTodo id title completed).ReadsKnown :=
  readResponse_known _ _ _ Todo.fromJson_readsKnown

theorem ApiClient.deleteTodo_readsKnown (id : I64) : (client.deleteTodo id).ReadsKnown :=
  deleteResponse_known

end Ops

section Runs

variable (server : Request → HttpOutcome) {env : Env}
  (hs : ∀ req, (server req).known = (env.server req).known)
include hs

/-- A call that reads known members only cannot tell the two servers apart. -/
theorem send_known {α : Type} {call : Call α} (hc : call.ReadsKnown) :
    send { env with server := server } call = send env call := by
  have ha : call.handle ({ env with server := server }.answer call.request) =
      call.handle (env.answer call.request) := by
    show call.handle (if call.request.builds env then server call.request else .transportError) =
      call.handle (if call.request.builds env then env.server call.request else .transportError)
    split
    · rw [← hc, hs, hc]
    · rfl
  funext m
  rw [send_run, send_run, ha]
  rfl

theorem Auth.authenticate_known (announce : String) (call : Call AuthResponse)
    (hc : call.ReadsKnown) (success follow : String) :
    Auth.authenticate { env with server := server } announce call success follow =
      Auth.authenticate env announce call success follow := by
  unfold Auth.authenticate
  rw [send_known server hs hc]
  rfl

theorem dispatch_known (toml : Toml) (cli : Cli) (config : Config) (client : ApiClient) :
    dispatch toml { env with server := server } cli config client =
      dispatch toml env cli config client := by
  have hsend := @send_known server env hs
  rcases cli with ⟨url, format, cmd⟩
  cases cmd with
  | auth c =>
    cases c with
    | login email password =>
      exact congrArg (passwordOf env password >>= ·) (funext fun p =>
        Auth.authenticate_known server hs _ _ (client.login_readsKnown email p) _ _)
    | register email password =>
      exact congrArg (passwordOf env password >>= ·) (funext fun p =>
        Auth.authenticate_known server hs _ _ (client.register_readsKnown email p) _ _)
    | logout => rfl
    | status => rfl
  | list c => exact congrArg (· >>= _) (hsend (client.listTodos_readsKnown c))
  | get id => exact congrArg (· >>= _) (hsend (client.getTodo_readsKnown id))
  | create title => exact congrArg (· >>= _) (hsend (client.createTodo_readsKnown title))
  | update id title completed =>
    exact congrArg (· >>= _) (hsend (client.updateTodo_readsKnown id title completed))
  | delete id force =>
    have hd : deleteAndReport { env with server := server } client id =
        deleteAndReport env client id := by
      unfold deleteAndReport; rw [hsend (client.deleteTodo_readsKnown id)]
    simp only [dispatch, deleteArm, hd]
  | done id => exact congrArg (· >>= _) (hsend (client.updateTodo_readsKnown id _ _))
  | undone id => exact congrArg (· >>= _) (hsend (client.updateTodo_readsKnown id _ _))
  | config c => rcases c with _ | _ | _ <;> rfl

theorem main_known (toml : Toml) (args : Args) :
    main toml { env with server := server } args = main toml env args := by
  unfold main
  simp only [dispatch_known server hs]
  rfl

end Runs

/-- A server may add members to the JSON objects it answers with, at any depth, under keys that no
wire type reads, or leave such members out: no invocation can tell. The requests, the output, the
world left and the exit status are the same. -/
theorem invoke_unknown_members (toml : Toml) (env : Env) (args : Args) (w : World)
    (server : Request → HttpOutcome) (hs : ∀ req, (server req).known = (env.server req).known) :
    invoke toml { env with server := server } args w = invoke toml env args w := by
  unfold invoke
  rw [main_known server hs]

/-- An error body that carries a `code` member besides its `error`. -/
theorem invoke_unknown_members_code :
    let gone : JsonValue := .object [("error", .string "gone")]
    let coded : JsonValue := .object [("error", .string "gone"), ("code", .int 404)]
    let env := { quietEnv with server := fun _ => .response 404 (.json gone) }
    invoke basicToml { env with server := fun _ => .response 404 (.json coded) }
        ⟨none, none, .list none⟩ ⟨fun _ => none, none⟩ =
      invoke basicToml env ⟨none, none, .list none⟩ ⟨fun _ => none, none⟩ :=
  invoke_unknown_members _ _ _ _ _ fun _ => rfl

end TodoCli
