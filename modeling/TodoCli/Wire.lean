import TodoCli.Model.Main
import TodoCli.Model.Toml

/-!
# The wire protocol

The specification's table of operations (§6), written as a function of the command
(`wireRequest`): for each command, the one request it prescribes against a base URL, with the
token loaded at start-up, or none for a command that makes no call. `main_requests` says exactly
which requests an invocation sends: the table's request for its command, against the base URL with
its trailing slashes removed, when the settings load, the command gets past the questions it asks
(`reachesCall`) and reqwest builds the request; nothing otherwise. The password the code sends is
the prompt's line trimmed. `main_requests_wire` is the wire law: at most one request, and exactly
the table's whenever the call is made as the table describes it (`MakesTableCall`).
-/

namespace TodoCli

/-- `Authorization: Bearer t` for a loaded token `t`. -/
def bearer (t : Option String) : Option String := t.map ("Bearer " ++ ·)

/-- `{"email": e, "password": p}`. -/
def credentialsBody (email password : String) : JsonValue :=
  .object [("email", .string email), ("password", .string password)]

/-- An update body: `title` exactly when a title is given, `completed` exactly when a flag is. -/
def updateBody (title : Option String) (completed : Option Bool) : JsonValue :=
  .object ((match title with | some t => [("title", .string t)] | none => []) ++
    (match completed with | some c => [("completed", .bool c)] | none => []))

/-- The specification's wire table (§6) for a command, against base `B` with token `t` loaded:
logins and registrations are posted without the token, task requests carry it, and `auth logout`,
`auth status` and `config` make no call. `entered` is the password typed at the prompt, for a
login or registration given without a password. -/
def wireRequest (B : String) (t : Option String) (entered : String) : Commands → Option Request
  | .auth (.login email password) =>
    some ⟨.post, B ++ "/api/v1/auth/login", none, some (credentialsBody email (password.getD entered))⟩
  | .auth (.register email password) =>
    some ⟨.post, B ++ "/api/v1/users", none, some (credentialsBody email (password.getD entered))⟩
  | .auth .logout | .auth .status | .config _ => none
  | .list _ => some ⟨.get, B ++ "/api/v1/todos", bearer t, none⟩
  | .get id => some ⟨.get, B ++ "/api/v1/todos/" ++ toString id.val, bearer t, none⟩
  | .create title =>
    some ⟨.post, B ++ "/api/v1/todos", bearer t, some (.object [("title", .string title)])⟩
  | .update id title completed =>
    some ⟨.put, B ++ "/api/v1/todos/" ++ toString id.val, bearer t, some (updateBody title completed)⟩
  | .delete id _ => some ⟨.delete, B ++ "/api/v1/todos/" ++ toString id.val, bearer t, none⟩
  | .done id =>
    some ⟨.put, B ++ "/api/v1/todos/" ++ toString id.val, bearer t,
      some (.object [("completed", .bool true)])⟩
  | .undone id =>
    some ⟨.put, B ++ "/api/v1/todos/" ++ toString id.val, bearer t,
      some (.object [("completed", .bool false)])⟩

/-- A line as `read_line` returns it, without its line terminator. -/
def lineContent (line : String) : String :=
  if line.data.getLast? = some '\n' then ⟨line.data.dropLast⟩ else line

/-- The password typed at the prompt: the first line of standard input as typed, without its
terminator; the empty string when no line can be read. -/
def enteredPassword (env : Env) : String := ((readLine env.stdin).map lineContent).getD ""

/-- What reaches the server of the table's request for a command: the request, when reqwest
builds it, and nothing for a command that makes no call. -/
def tableRequests (env : Env) (B : String) (t : Option String) (entered : String)
    (cmd : Commands) : List Request :=
  ((wireRequest B t entered cmd).map env.sent).getD []

/-- Whether a command, once the settings load, gets past the questions it asks to its call: a
login or registration without a password needs a line at the prompt, and a delete without
`--force` a line that confirms it. -/
def reachesCall (env : Env) : Commands → Bool
  | .auth (.login _ password) | .auth (.register _ password) =>
    password.isSome || (readLine env.stdin).isSome
  | .delete _ force =>
    force || ((readLine env.stdin).map fun line => eqIgnoreAsciiCase (trim line) "y").getD false
  | _ => true

/-- When an invocation whose settings load makes the table's call: a login or registration
without a password reads a line that has no surrounding whitespace, and a delete without
`--force` reads a line that is `y` or `Y` once trimmed. -/
def MakesTableCall (env : Env) : Commands → Prop
  | .auth (.login _ none) | .auth (.register _ none) =>
    ∃ line, readLine env.stdin = some line ∧ trim line = lineContent line
  | .delete _ false => ∃ line, readLine env.stdin = some line ∧ (trim line = "y" ∨ trim line = "Y")
  | _ => True

theorem trim_lineContent (line : String) : trim (lineContent line) = trim line := by
  unfold lineContent
  split
  · next h =>
    calc trim ⟨line.data.dropLast⟩ = trim (⟨line.data.dropLast⟩ ++ ⟨['\n']⟩) :=
          (trim_append_whitespace _ '\n' rfl).symm
      _ = trim line := congrArg trim (String.ext (List.dropLast_append_getLast? _ h))
  · rfl

theorem mem_tableRequests {env : Env} {B : String} {t : Option String} {entered : String}
    {cmd : Commands} {req : Request} (h : req ∈ tableRequests env B t entered cmd) :
    req ∈ wireRequest B t entered cmd ∧ req.builds env = true := by
  unfold tableRequests at h
  cases hw : wireRequest B t entered cmd with
  | none => simp [hw] at h
  | some r =>
    rw [hw] at h
    obtain ⟨rfl, hb⟩ := Env.mem_sent h
    exact ⟨rfl, hb⟩

/-- Under `MakesTableCall` the command reaches its call, and the password the code sends, the
prompt's line trimmed, is the line as typed. -/
theorem MakesTableCall.reaches {env : Env} {cmd : Commands} (h : MakesTableCall env cmd)
    (B : String) (t : Option String) :
    reachesCall env cmd = true ∧
      tableRequests env B t (trim (enteredPassword env)) cmd =
        tableRequests env B t (enteredPassword env) cmd := by
  cases cmd with
  | auth c =>
    cases c with
    | login email password | register email password =>
      cases password with
      | some p => exact ⟨rfl, rfl⟩
      | none =>
        obtain ⟨line, hl, ht⟩ := h
        have he : trim (enteredPassword env) = enteredPassword env := by
          simp [enteredPassword, hl, trim_lineContent, ht]
        simp [reachesCall, hl, he]
    | logout | status => exact ⟨rfl, rfl⟩
  | delete id force =>
    cases force with
    | true => exact ⟨rfl, rfl⟩
    | false =>
      obtain ⟨line, hl, hy⟩ := h
      exact ⟨by simpa [reachesCall, hl, eqIgnoreAsciiCase_y] using hy, rfl⟩
  | _ => exact ⟨rfl, rfl⟩

/-- An update's body is `updateBody`. -/
theorem UpdateTodoRequest.toJson_eq (title : Option String) (completed : Option Bool) :
    UpdateTodoRequest.toJson ⟨title, completed⟩ = updateBody title completed := by
  cases title <;> cases completed <;> rfl

theorem Auth.authenticate_requests (env : Env) (announce : String) (call : Call AuthResponse)
    (success follow : String) (m : Machine) :
    (machineOf (Auth.authenticate env announce call success follow m)).requests =
      m.requests ++ env.sent call.request := by
  rw [Auth.authenticate_run]
  split
  · rfl
  · split_ifs <;> rfl

/-- A login or registration sends its request with the password `passwordOf` obtains, the
option's or the prompt's line trimmed; a prompt that panics sends nothing. -/
theorem passwordOf_bind_requests (env : Env) (password : Option String) {f : String → Prog Unit}
    {req : String → Request}
    (hf : ∀ p m, (machineOf (f p m)).requests = m.requests ++ env.sent (req p)) (m : Machine) :
    (machineOf ((passwordOf env password >>= f) m)).requests = m.requests ++
      if password.isSome || (readLine env.stdin).isSome then
        env.sent (req (password.getD (trim (enteredPassword env))))
      else [] := by
  rw [Prog.run_bind, passwordOf_run]
  cases password with
  | some p => exact hf p m
  | none =>
    unfold enteredPassword
    cases readLine env.stdin with
    | some line => simpa [trim_lineContent] using hf _ _
    | none => simp

/-- The dispatcher sends the table's request for its command, with the prompt's line trimmed as
the password, when the command reaches its call and reqwest builds the request; it sends nothing
otherwise. -/
theorem dispatch_requests (toml : Toml) (env : Env) (cli : Cli) (config : Config)
    (client : ApiClient) (m : Machine) :
    (machineOf (dispatch toml env cli config client m)).requests = m.requests ++
      if reachesCall env cli.command then
        tableRequests env client.baseUrl client.token (trim (enteredPassword env)) cli.command
      else [] := by
  rcases cli with ⟨url, format, cmd⟩
  have printed : ∀ todo (s : String), NoSend (printTodo env todo format >>= fun _ => println s) :=
    fun _ _ => Keeps.bind ((printTodo_outputOnly env _ _).noSend) fun _ => NoSend.println _
  have none_sent : ∀ {r : EStateM.Result Fault Machine Unit}, (machineOf r).requests = m.requests →
      (machineOf r).requests = m.requests ++ [] := fun h => by rw [h, List.append_nil]
  cases cmd with
  | auth c =>
    cases c with
    | login email password | register email password =>
      exact passwordOf_bind_requests env password (fun _ => Auth.authenticate_requests env _ _ _ _) m
    | logout => exact none_sent (Auth.logout_noSend env m)
    | status => exact none_sent ((Auth.status_outputOnly env config).noSend m)
  | list c => exact send_bind_requests env _ (fun _ => (printTodos_outputOnly env _ _).noSend) m
  | get id => exact send_bind_requests env _ (fun _ => (printTodo_outputOnly env _ _).noSend) m
  | create title | done id | undone id => exact send_bind_requests env _ (fun _ => printed _ _) m
  | update id title completed =>
    simp only [reachesCall, tableRequests, wireRequest, ← UpdateTodoRequest.toJson_eq]
    exact send_bind_requests env _ (fun _ => printed _ _) m
  | delete id force =>
    show (machineOf (deleteArm env client id force m)).requests = _
    rw [deleteArm_run]
    cases force
    · simp only [reachesCall, Bool.false_eq_true, ite_false, Bool.false_or]
      cases readLine env.stdin with
      | none => exact none_sent rfl
      | some input =>
        simp only [Option.map_some', Option.getD_some]
        split_ifs
        · exact deleteAndReport_requests env client id _
        · exact none_sent rfl
    · exact deleteAndReport_requests env client id m
  | config c =>
    rcases c with _ | _ | url
    · exact none_sent ((Config.print_outputOnly config).noSend m)
    · exact none_sent ((Config.print_outputOnly config).noSend m)
    · exact none_sent (Keeps.bind (Config.save_noSend toml env _) (fun _ => NoSend.println _) m)

/-- The requests `main` sends from any machine: the table's request for its command, against the
resolved URL without its trailing slashes and with the token the keyring held, when the settings
load and the command reaches its call, if reqwest builds it; nothing otherwise. -/
theorem main_requests (toml : Toml) (env : Env) (args : Args) (m : Machine) :
    (machineOf (main toml env args m)).requests = m.requests ++
      match Config.load toml env m.world with
      | .ok _ =>
        if reachesCall env args.command then
          tableRequests env (trimEndMatches (Cli.parse env args).url '/')
            (Config.loadTokenFromKeyring env m.world) (trim (enteredPassword env)) args.command
        else []
      | .error _ => [] := by
  simp only [main, Prog.run_bind, getWorld_run]
  cases h : Config.load toml env m.world with
  | error e => exact (List.append_nil _).symm
  | ok config =>
    obtain ⟨path, apiUrl, -, -, rfl⟩ := Config.load_eq_ok.mp h
    exact dispatch_requests toml env (Cli.parse env args) _ (ApiClient.new _ _) m

/-- Every request an invocation sends is the table's for its command, with the prompt's line
trimmed as the password, and one that reqwest builds. -/
theorem invoke_requests_mem (toml : Toml) (env : Env) (args : Args) (w : World) :
    ∀ req ∈ (invoke toml env args w).1.requests,
      req ∈ wireRequest (trimEndMatches (Cli.parse env args).url '/')
        (Config.loadTokenFromKeyring env w) (trim (enteredPassword env)) args.command ∧
      req.builds env = true := by
  intro req hreq
  have h := main_requests toml env args (Machine.start w)
  rw [Machine.start_requests, List.nil_append] at h
  rw [invoke, h] at hreq
  split at hreq
  · split at hreq
    · exact mem_tableRequests hreq
    · cases hreq
  · cases hreq

/-- An invocation whose settings load and that makes the table's call sends exactly the table's
request for its command, if reqwest builds it. -/
theorem invoke_requests_table (toml : Toml) (env : Env) (args : Args) (w : World)
    (hload : ∃ config, Config.load toml env w = .ok config) (hcall : MakesTableCall env args.command) :
    (invoke toml env args w).1.requests =
      tableRequests env (trimEndMatches (Cli.parse env args).url '/')
        (Config.loadTokenFromKeyring env w) (enteredPassword env) args.command := by
  obtain ⟨config, hc⟩ := hload
  obtain ⟨hr, ht⟩ := hcall.reaches (trimEndMatches (Cli.parse env args).url '/')
    (Config.loadTokenFromKeyring env w)
  have h := main_requests toml env args (Machine.start w)
  rw [Machine.start_requests, List.nil_append, Machine.start_world, hc] at h
  rw [invoke, h]
  simp only [hr, ite_true, ht]

/-- Surroundings in which every file and keyring operation succeeds and reqwest accepts every URL,
with the configuration directory `/config`, nothing to read on standard input and no server to
reach. -/
def quietEnv : Env where
  todoApiUrl := none
  configDir := some "/config"
  readOk := true
  mkdirOk := true
  write := .written
  keyringOk := fun _ => true
  stdin := .failing
  urlOk := fun _ => true
  server := fun _ => .transportError
  colorize := false

/-- `trim_end_matches('/')` removes every slash at the end, however many. -/
theorem trimEndMatches_slashes (u : String) (k : Nat) :
    trimEndMatches (u ++ ⟨List.replicate k '/'⟩) '/' = trimEndMatches u '/' := by
  unfold trimEndMatches
  congr 2
  rw [String.data_append, List.reverse_append, List.reverse_replicate]
  induction k with
  | zero => rfl
  | succ k ih => rw [List.replicate_succ, List.cons_append, List.dropWhile_cons_of_pos rfl, ih]

/-- Slashes at the end of `--url` make no difference to anything an invocation does:
`ApiClient::new` removes them (`api.rs:74`), and nothing else reads the URL. -/
theorem invoke_url_slashes (toml : Toml) (env : Env) (u : String) (k : Nat)
    (format : Option String) (cmd : Commands) (w : World) :
    invoke toml env ⟨some (u ++ ⟨List.replicate k '/'⟩), format, cmd⟩ w =
      invoke toml env ⟨some u, format, cmd⟩ w := by
  have h : ApiClient.new (u ++ ⟨List.replicate k '/'⟩) = ApiClient.new u := by
    funext t; rw [ApiClient.new, ApiClient.new, trimEndMatches_slashes]
  unfold invoke main Cli.parse
  simp only [Option.some_orElse, Option.getD_some, h]
  rfl

end TodoCli
