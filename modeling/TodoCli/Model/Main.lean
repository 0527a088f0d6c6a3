import TodoCli.Model.Output

/-!
# `main.rs` and `auth.rs`: the dispatcher

`main` resolves the command line, loads the settings and the token (`Config::load`), builds one
`ApiClient` from the resolved URL and the token, and runs the selected command: at most one call
on the client, then printing. The command line is modelled after `clap` has read it (`Args`): the
options given and the command tree; `Cli.parse` applies clap's precedence for the URL (the
option, then `TODO_API_URL`, then the default) and the default format. A command line clap
rejects never reaches `main` and is not modelled.

`invoke` runs `main` from the world a previous invocation left, and `trace` runs a sequence of
invocations, each in its own surroundings, recording the world each one started from.
-/

namespace TodoCli

/-- `main::AuthCommands`. -/
inductive AuthCommands where
  | login (email : String) (password : Option String)
  | register (email : String) (password : Option String)
  | logout
  | status

/-- `main::ConfigCommands`. -/
inductive ConfigCommands where
  | show
  | setUrl (url : String)

/-- `main::Commands`. -/
inductive Commands where
  | auth (command : AuthCommands)
  | list (completed : Option Bool)
  | get (id : I64)
  | create (title : String)
  | update (id : I64) (title : Option String) (completed : Option Bool)
  | delete (id : I64) (force : Bool)
  | done (id : I64)
  | undone (id : I64)
  | config (command : Option ConfigCommands)

/-- The command line as clap reads it: the options given, and the command. -/
structure Args where
  url : Option String
  format : Option String
  command : Commands

/-- `main::Cli`. -/
structure Cli where
  url : String
  format : String
  command : Commands

/-- The URL `Cli::url` falls back to. -/
def defaultUrl : String := "http://localhost:8080"

/-- `Cli::parse`: `--url`, else `TODO_API_URL`, else the default; `--format`, else `text`. -/
def Cli.parse (env : Env) (args : Args) : Cli :=
  ⟨(args.url <|> env.todoApiUrl).getD defaultUrl, args.format.getD "text", args.command⟩

/-! ## `auth.rs` -/

/-- The body `auth::login` and `auth::register` share: announce, make the call, store the token
of the response, and report. -/
def Auth.authenticate (env : Env) (announce : String) (call : Call AuthResponse)
    (success follow : String) : Prog Unit := do
  println announce
  let response ← send env call
  Config.setToken env response.token
  println (paint env .green success)
  println follow

/-- `auth::login`. -/
def Auth.login (env : Env) (client : ApiClient) (email password : String) : Prog Unit :=
  Auth.authenticate env ("🔑 Logging in as " ++ email ++ "...") (client.login email password)
    "✅ Login successful!" "Token has been securely stored."

/-- `auth::register`. -/
def Auth.register (env : Env) (client : ApiClient) (email password : String) : Prog Unit :=
  Auth.authenticate env ("📝 Registering " ++ email ++ "...") (client.register email password)
    "✅ Registration successful!" "You are now logged in."

/-- `auth::logout`. -/
def Auth.logout (env : Env) : Prog Unit := do
  Config.clearToken env
  println (paint env .green "✅ Logged out successfully!")

/-- `auth::status`. -/
def Auth.status (env : Env) (config : Config) : Prog Unit :=
  if config.hasToken then do
    println (paint env .green "✅ Authenticated")
    println "You are logged in and can access the API."
  else do
    println (paint env .red "❌ Not authenticated")
    println "Run 'todo auth login' to authenticate."

/-! ## `main.rs` -/

/-- `main::rpassword_prompt`: the prompt, then one line of standard input, trimmed; a failed read
panics (`unwrap`). -/
def rpasswordPrompt (env : Env) (prompt : String) : Prog String := do
  print prompt
  match readLine env.stdin with
  | some password => pure (trim password)
  | none => panic

/-- The password of `auth login` and `auth register`: the option's, or the prompt's. -/
def passwordOf (env : Env) : Option String → Prog String
  | some password => pure password
  | none => rpasswordPrompt env "Password: "

/-- The question the delete arm asks. -/
def deleteQuestion (id : I64) : String :=
  "Are you sure you want to delete todo #" ++ toString id.val ++ "? [y/N]"

/-- The delete and its report. -/
def deleteAndReport (env : Env) (client : ApiClient) (id : I64) : Prog Unit := do
  send env (client.deleteTodo id)
  println ("✅ Todo #" ++ toString id.val ++ " deleted successfully!")

/-- The delete arm of `main`: unless `--force`, a confirmation read from standard input, and the
delete only on `y` or `Y`. -/
def deleteArm (env : Env) (client : ApiClient) (id : I64) (force : Bool) : Prog Unit := do
  if !force then
    println (deleteQuestion id)
    let input ← match readLine env.stdin with
      | some input => pure input
      | none => fail .library
    if !eqIgnoreAsciiCase (trim input) "y" then
      println "Cancelled."
      return
  deleteAndReport env client id

/-- What `main` does once the settings are loaded and the client built. -/
def dispatch (toml : Toml) (env : Env) (cli : Cli) (config : Config) (client : ApiClient) :
    Prog Unit :=
  match cli.command with
  | .auth (.login email password) => do
    let password ← passwordOf env password
    Auth.login env client email password
  | .auth (.register email password) => do
    let password ← passwordOf env password
    Auth.register env client email password
  | .auth .logout => Auth.logout env
  | .auth .status => Auth.status env config
  | .list completed => do
    let todos ← send env (client.listTodos completed)
    printTodos env todos cli.format
  | .get id => do
    let todo ← send env (client.getTodo id)
    printTodo env todo cli.format
  | .create title => do
    let todo ← send env (client.createTodo title)
    printTodo env todo cli.format
    println "✅ Todo created successfully!"
  | .update id title completed => do
    let todo ← send env (client.updateTodo id title completed)
    printTodo env todo cli.format
    println "✅ Todo updated successfully!"
  | .delete id force => deleteArm env client id force
  | .done id => do
    let todo ← send env (client.updateTodo id none (some true))
    printTodo env todo cli.format
    println "✅ Todo marked as completed!"
  | .undone id => do
    let todo ← send env (client.updateTodo id none (some false))
    printTodo env todo cli.format
    println "✅ Todo marked as incomplete!"
  | .config (some .show) | .config none => config.print
  | .config (some (.setUrl url)) => do
    Config.setUrl toml env config url
    println ("✅ API URL set to: " ++ url)

/-- `main::main`. -/
def main (toml : Toml) (env : Env) (args : Args) : Prog Unit := do
  let cli := Cli.parse env args
  let config ← liftExcept (Config.load toml env (← getWorld))
  let client := ApiClient.new cli.url config.getToken
  dispatch toml env cli config client

/-! ## What the arms do -/

theorem Auth.status_outputOnly (env : Env) (config : Config) :
    OutputOnly (Auth.status env config) := by
  intro m; unfold Auth.status; split_ifs <;> simp

theorem Auth.logout_noSend (env : Env) : NoSend (Auth.logout env) :=
  Keeps.bind (Config.clearToken_noSend env) fun _ => NoSend.println _

/-- The password a login or registration uses: the option's, or the prompt's trimmed line; a
prompt that cannot read a line panics. -/
theorem passwordOf_run (env : Env) (password : Option String) (m : Machine) :
    passwordOf env password m =
      match password with
      | some p => .ok p m
      | none =>
        match readLine env.stdin with
        | some line => .ok (trim line) { m with stdout := m.stdout ++ ["Password: "] }
        | none => .error .panic { m with stdout := m.stdout ++ ["Password: "] } := by
  cases password with
  | some p => rfl
  | none =>
    cases h : readLine env.stdin <;> simp only [passwordOf, rpasswordPrompt, Prog.run_bind, print_run, h] <;> rfl

/-- A login or registration: the announcement and the request, then, on a success response, the
token stored and the report; a failed call or keyring call ends there. -/
theorem Auth.authenticate_run (env : Env) (announce : String) (call : Call AuthResponse)
    (success follow : String) (m : Machine) :
    Auth.authenticate env announce call success follow m =
      let sent := { m with stdout := m.stdout ++ [announce ++ "\n"],
                           requests := m.requests ++ env.sent call.request }
      match call.handle (env.answer call.request) with
      | .error e => .error (.error e) sent
      | .ok r =>
        if env.keyringOk .entryForSet then
          if env.keyringOk .setPassword then
            .ok () { sent with world.keyring := some r.token,
                               stdout := sent.stdout ++ [paint env .green success ++ "\n", follow ++ "\n"] }
          else .error (.error (.context "Failed to save token to keyring" .library)) sent
        else .error (.error (.context "Failed to create keyring entry" .library)) sent := by
  simp only [Auth.authenticate, Prog.run_bind, println_run, send_run]
  cases call.handle (env.answer call.request) with
  | error e => rfl
  | ok r => simp only [Config.setToken_run]; split_ifs <;> simp [List.append_assoc]

/-- The delete arm: with `--force` the delete at once; otherwise the question, then the delete on
`y` or `Y`, `Cancelled.` on any other line, and an error when no line can be read. -/
theorem deleteArm_run (env : Env) (client : ApiClient) (id : I64) (force : Bool) (m : Machine) :
    deleteArm env client id force m =
      if force then deleteAndReport env client id m
      else
        let asked := { m with stdout := m.stdout ++ [deleteQuestion id ++ "\n"] }
        match readLine env.stdin with
        | none => .error (.error .library) asked
        | some input =>
          if eqIgnoreAsciiCase (trim input) "y" then deleteAndReport env client id asked
          else .ok () { asked with stdout := asked.stdout ++ ["Cancelled.\n"] } := by
  cases force
  · simp only [deleteArm, Bool.not_false, ite_true, Prog.run_bind, println_run, Bool.false_eq_true,
      ite_false]
    cases readLine env.stdin with
    | none => rfl
    | some input => cases h : eqIgnoreAsciiCase (trim input) "y" <;> simp [h]
  · rfl

theorem deleteAndReport_requests (env : Env) (client : ApiClient) (id : I64) (m : Machine) :
    (machineOf (deleteAndReport env client id m)).requests =
      m.requests ++ env.sent (client.deleteTodo id).request :=
  send_bind_requests env _ (fun _ => NoSend.println _) m

theorem deleteArm_keepsWorld (env : Env) (client : ApiClient) (id : I64) (force : Bool) :
    KeepsWorld (deleteArm env client id force) := by
  have h : KeepsWorld (deleteAndReport env client id) :=
    Keeps.bind (KeepsWorld.send env _) fun _ => (OutputOnly.println _).keepsWorld
  intro m
  rw [deleteArm_run]
  split_ifs
  · exact h m
  · split
    · rfl
    · split_ifs
      · exact h _
      · rfl

/-! ## Invocations -/

/-- One invocation of `todo` from a world: the machine it ends in, and how it exits. -/
def invoke (toml : Toml) (env : Env) (args : Args) (w : World) : Machine × Exit :=
  let r := main toml env args (Machine.start w)
  (machineOf r, exitOf r)

/-- When the settings load, an invocation is the dispatch of its command from the start. -/
theorem invoke_of_load_ok (toml : Toml) (env : Env) (args : Args) (w : World) (config : Config)
    (h : Config.load toml env w = .ok config) :
    invoke toml env args w =
      (machineOf (dispatch toml env (Cli.parse env args) config
          (ApiClient.new (Cli.parse env args).url config.getToken) (Machine.start w)),
        exitOf (dispatch toml env (Cli.parse env args) config
          (ApiClient.new (Cli.parse env args).url config.getToken) (Machine.start w))) := by
  simp only [invoke, main, Prog.run_bind, getWorld_run, Machine.start_world, h, liftExcept_ok,
    Prog.run_pure]

/-- When `load` fails, `main` fails with its error before anything else. -/
theorem invoke_of_load_error (toml : Toml) (env : Env) (args : Args) (w : World) (e : Error)
    (h : Config.load toml env w = .error e) :
    invoke toml env args w = (Machine.start w, .failure e) := by
  simp [invoke, main, h, exitOf]

/-- One step of a trace: the world an invocation started from, and what it did. -/
structure Step where
  env : Env
  args : Args
  before : World
  after : Machine
  exit : Exit

/-- A sequence of invocations, each starting from the world the one before left. -/
def trace (toml : Toml) : List (Env × Args) → World → List Step
  | [], _ => []
  | (env, args) :: rest, w =>
    let r := invoke toml env args w
    ⟨env, args, w, r.1, r.2⟩ :: trace toml rest r.1.world

end TodoCli
