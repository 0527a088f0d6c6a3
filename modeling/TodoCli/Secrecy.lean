import TodoCli.Settings

/-!
# The token stays out of the output

The token in the keyring entry is a credential: the program sends it in the `Authorization` header
of each task request (`ApiClient::auth_header`, `api.rs:88`) and should write it nowhere else.
`invoke_token_private` states this as a property of two runs. Take two invocations that differ
only in the token stored, against a server whose answers do not depend on the `Authorization`
header, with tokens that reqwest accepts in a header alike (both or neither: `HeaderValue` refuses
control characters, and a request it refuses is never sent). They print the same text, leave the
same files and exit the same way. Whatever part of the output depends on the token came from the
server.

The proof relates the two runs piece by piece. `Alike p₁ p₂` says that, from machines with the
same output and files, `p₁` and `p₂` end with the same value or the same failure, again in
machines with the same output and files. Each piece of `main` is alike to its counterpart in the
other run. The two pieces differ only in the client's token, and in the loaded token, whose
presence is all `auth status` and `config show` read.
-/

namespace TodoCli

/-- A request with its `Authorization` header removed. -/
def Request.withoutAuth (req : Request) : Request := { req with authorization := none }

/-- A server whose answers do not depend on the `Authorization` header. -/
def HeaderBlind (env : Env) : Prop := ∀ req, env.server req = env.server req.withoutAuth

/-- Two machines with the same output and the same files. -/
structure Machine.Alike (m₁ m₂ : Machine) : Prop where
  stdout : m₁.stdout = m₂.stdout
  files : m₁.world.files = m₂.world.files

theorem Machine.Alike.append {m₁ m₂ : Machine} (h : m₁.Alike m₂) (L : List String) :
    Machine.Alike { m₁ with stdout := m₁.stdout ++ L } { m₂ with stdout := m₂.stdout ++ L } :=
  ⟨by rw [h.stdout], h.files⟩

/-- Two results with the same value or the same failure, in alike machines. -/
def ResultAlike {α : Type} : EStateM.Result Fault Machine α → EStateM.Result Fault Machine α → Prop
  | .ok a₁ m₁, .ok a₂ m₂ => a₁ = a₂ ∧ m₁.Alike m₂
  | .error e₁ m₁, .error e₂ m₂ => e₁ = e₂ ∧ m₁.Alike m₂
  | _, _ => False

/-- Alike results end an invocation alike. -/
theorem ResultAlike.exit {r₁ r₂ : EStateM.Result Fault Machine Unit} (h : ResultAlike r₁ r₂) :
    (machineOf r₁).Alike (machineOf r₂) ∧ exitOf r₁ = exitOf r₂ := by
  rcases r₁ with ⟨_, m₁⟩ | ⟨e₁, m₁⟩ <;> rcases r₂ with ⟨_, m₂⟩ | ⟨e₂, m₂⟩
  · exact ⟨h.2, rfl⟩
  · exact h.elim
  · exact h.elim
  · obtain ⟨rfl, h⟩ := h
    exact ⟨h, by cases e₁ <;> rfl⟩

/-- Two computations that, from alike machines, end alike. -/
def Alike {α : Type} (p₁ p₂ : Prog α) : Prop :=
  ∀ m₁ m₂, m₁.Alike m₂ → ResultAlike (p₁ m₁) (p₂ m₂)

/-! ## Alike computations -/

section Alike

variable {α β : Type}

theorem Alike.bind {x₁ x₂ : Prog α} {f₁ f₂ : α → Prog β} (hx : Alike x₁ x₂)
    (hf : ∀ a, Alike (f₁ a) (f₂ a)) : Alike (x₁ >>= f₁) (x₂ >>= f₂) := by
  intro m₁ m₂ h
  have hr := hx m₁ m₂ h
  simp only [Prog.run_bind]
  revert hr
  rcases x₁ m₁ with ⟨a₁, m₁'⟩ | ⟨e₁, m₁'⟩ <;> rcases x₂ m₂ with ⟨a₂, m₂'⟩ | ⟨e₂, m₂'⟩ <;> intro hr
  · obtain ⟨rfl, h'⟩ := hr
    exact hf a₁ _ _ h'
  · exact hr.elim
  · exact hr.elim
  · exact hr

theorem Alike.ite {c : Prop} [Decidable c] {p₁ p₂ q₁ q₂ : Prog α} (hp : Alike p₁ p₂)
    (hq : Alike q₁ q₂) : Alike (if c then p₁ else q₁) (if c then p₂ else q₂) := by
  split <;> assumption

/-- A computation that appends the same lines whatever machine it runs in, and changes nothing
else, is alike to itself. -/
theorem Alike.appends {p : Prog α} {a : α} {L : List String}
    (hp : ∀ m, p m = .ok a { m with stdout := m.stdout ++ L }) : Alike p p := by
  intro m₁ m₂ h
  rw [hp, hp]
  exact ⟨rfl, h.append L⟩

theorem Alike.println {s₁ s₂ : String} (hs : s₁ = s₂) : Alike (println s₁) (println s₂) :=
  hs ▸ .appends fun _ => rfl

/-- Two calls whose requests differ at most in their headers, that reqwest builds alike, and that
read the answer alike, to a server that does not read the header. -/
theorem Alike.send {env : Env} (hb : HeaderBlind env) {c₁ c₂ : Call α}
    (hr : c₁.request.withoutAuth = c₂.request.withoutAuth)
    (hv : c₁.request.builds env = c₂.request.builds env) (hh : c₁.handle = c₂.handle) :
    Alike (send env c₁) (send env c₂) := by
  intro m₁ m₂ h
  have ha : env.answer c₁.request = env.answer c₂.request := by
    unfold Env.answer; rw [hv, hb c₁.request, hr, ← hb]
  rw [send_run, send_run, ha, hh]
  cases c₂.handle (env.answer c₂.request) <;> exact ⟨rfl, h.stdout, h.files⟩

end Alike

/-! ## The pieces of `main` -/

theorem Config.setToken_alike (env : Env) (token : String) :
    Alike (Config.setToken env token) (Config.setToken env token) := by
  intro m₁ m₂ h
  simp only [Config.setToken_run]
  split_ifs <;> exact ⟨rfl, h.stdout, h.files⟩

theorem Config.clearToken_alike (env : Env) :
    Alike (Config.clearToken env) (Config.clearToken env) := by
  intro m₁ m₂ h
  simp only [Config.clearToken_run]
  split_ifs <;> exact ⟨rfl, h.stdout, h.files⟩

/-- `save` reads only the URL and the path of the settings. -/
theorem Config.save_alike (toml : Toml) (env : Env) (c₁ c₂ : Config) (hu : c₁.apiUrl = c₂.apiUrl)
    (hp : c₁.configPath = c₂.configPath) : Alike (Config.save toml env c₁) (Config.save toml env c₂) := by
  intro m₁ m₂ h
  cases hc : c₂.configPath with
  | none => unfold Config.save; rw [hp, hc]; exact ⟨rfl, h⟩
  | some path =>
    rw [Config.save_run toml env c₁ path (hp.trans hc), Config.save_run toml env c₂ path hc, hu]
    split_ifs
    · cases env.write <;> exact ⟨rfl, h.stdout, by simp only [World.writeFile, h.files]⟩
    · exact ⟨rfl, h⟩

/-- `config show` reads the URL, the path, and only the presence of the token. -/
theorem Config.print_alike (c₁ c₂ : Config) (hu : c₁.apiUrl = c₂.apiUrl)
    (hp : c₁.configPath = c₂.configPath) (ht : c₁.token.isSome = c₂.token.isSome) :
    Alike c₁.print c₂.print := by
  unfold Config.print
  rw [hu, hp, ht]
  exact .bind (.println rfl) fun _ => .bind (.println rfl) fun _ => .bind (.println rfl) fun _ =>
    .println rfl

theorem Auth.authenticate_alike {env : Env} (hb : HeaderBlind env) (announce : String)
    (call : Call AuthResponse) (success follow : String) :
    Alike (Auth.authenticate env announce call success follow)
      (Auth.authenticate env announce call success follow) :=
  .bind (.println rfl) fun _ => .bind (.send hb rfl rfl rfl) fun _ =>
    .bind (Config.setToken_alike env _) fun _ => .bind (.println rfl) fun _ => .println rfl

/-- `auth status` reads only the presence of the token. -/
theorem Auth.status_alike (env : Env) (c₁ c₂ : Config) (ht : c₁.hasToken = c₂.hasToken) :
    Alike (Auth.status env c₁) (Auth.status env c₂) := by
  unfold Auth.status
  rw [ht]
  exact .ite (.bind (.println rfl) fun _ => .println rfl) (.bind (.println rfl) fun _ => .println rfl)

theorem passwordOf_alike (env : Env) (password : Option String) :
    Alike (passwordOf env password) (passwordOf env password) := by
  intro m₁ m₂ h
  rw [passwordOf_run, passwordOf_run]
  rcases password with _ | p
  · cases readLine env.stdin <;> exact ⟨rfl, h.append _⟩
  · exact ⟨rfl, h⟩

/-- Two clients whose tokens reqwest accepts in a header alike build their task requests alike. -/
theorem ApiClient.taskRequest_builds {env : Env} {base : String} {t₁ t₂ : Option String}
    (ht : (ApiClient.authHeader ⟨base, t₁⟩).all headerValueOk =
      (ApiClient.authHeader ⟨base, t₂⟩).all headerValueOk) (method : Method) (url : String)
    (body : Option JsonValue) :
    (ApiClient.taskRequest ⟨base, t₁⟩ method url body).builds env =
      (ApiClient.taskRequest ⟨base, t₂⟩ method url body).builds env := by
  simp only [Request.builds, ApiClient.taskRequest, ht]

theorem deleteArm_alike {env : Env} (hb : HeaderBlind env) (base : String) (t₁ t₂ : Option String)
    (ht : (ApiClient.authHeader ⟨base, t₁⟩).all headerValueOk =
      (ApiClient.authHeader ⟨base, t₂⟩).all headerValueOk)
    (id : I64) (force : Bool) : Alike (deleteArm env ⟨base, t₁⟩ id force) (deleteArm env ⟨base, t₂⟩ id force) := by
  have hd : Alike (deleteAndReport env ⟨base, t₁⟩ id) (deleteAndReport env ⟨base, t₂⟩ id) :=
    .bind (.send hb rfl (ApiClient.taskRequest_builds ht _ _ _) rfl) fun _ => .println rfl
  intro m₁ m₂ h
  rw [deleteArm_run, deleteArm_run]
  split_ifs
  · exact hd m₁ m₂ h
  · cases readLine env.stdin with
    | none => exact ⟨rfl, h.append _⟩
    | some input =>
      dsimp only
      split_ifs
      · exact hd _ _ (h.append _)
      · exact ⟨rfl, (h.append _).append _⟩

/-- Every arm of the dispatcher, for two clients that differ in their token only, with tokens
reqwest accepts in a header alike, and two settings that differ in their token only, and not in
its presence. -/
theorem dispatch_alike (toml : Toml) {env : Env} (hb : HeaderBlind env) (cli : Cli)
    (apiUrl path : Option String) (k₁ k₂ : Option String) (hk : k₁.isSome = k₂.isSome)
    (base : String) (t₁ t₂ : Option String)
    (ht : (ApiClient.authHeader ⟨base, t₁⟩).all headerValueOk =
      (ApiClient.authHeader ⟨base, t₂⟩).all headerValueOk) :
    Alike (dispatch toml env cli ⟨apiUrl, k₁, path⟩ ⟨base, t₁⟩)
      (dispatch toml env cli ⟨apiUrl, k₂, path⟩ ⟨base, t₂⟩) := by
  rcases cli with ⟨url, format, cmd⟩
  have printed : ∀ todo (s : String),
      Alike (printTodo env todo format >>= fun _ => println s)
        (printTodo env todo format >>= fun _ => println s) :=
    fun _ _ => .bind (.appends (printTodo_run env _ _)) fun _ => .println rfl
  have sent : ∀ method url body, (ApiClient.taskRequest ⟨base, t₁⟩ method url body).builds env =
      (ApiClient.taskRequest ⟨base, t₂⟩ method url body).builds env :=
    ApiClient.taskRequest_builds ht
  cases cmd with
  | auth c =>
    cases c with
    | login email password | register email password =>
      exact .bind (passwordOf_alike env password) fun _ => Auth.authenticate_alike hb _ _ _ _
    | logout => exact .bind (Config.clearToken_alike env) fun _ => .println rfl
    | status => exact Auth.status_alike env _ _ hk
  | list c => exact .bind (.send hb rfl (sent _ _ _) rfl) fun _ => .appends (printTodos_run env _ _)
  | get id => exact .bind (.send hb rfl (sent _ _ _) rfl) fun _ => .appends (printTodo_run env _ _)
  | create title | update id title completed | done id | undone id =>
    exact .bind (.send hb rfl (sent _ _ _) rfl) fun _ => printed _ _
  | delete id force => exact deleteArm_alike hb base t₁ t₂ ht id force
  | config c =>
    rcases c with _ | _ | url
    · exact Config.print_alike _ _ rfl rfl hk
    · exact Config.print_alike _ _ rfl rfl hk
    · exact .bind (Config.save_alike toml env _ _ rfl rfl) fun _ => .println rfl

/-! ## Two invocations -/

/-- The settings `load` finds do not depend on the token stored: both runs load it, or neither. -/
theorem Config.load_token (toml : Toml) (env : Env) (files : String → Option (List UInt8))
    (t₁ t₂ : String) :
    (∃ e, Config.load toml env ⟨files, some t₁⟩ = .error e ∧ Config.load toml env ⟨files, some t₂⟩ = .error e) ∨
      ∃ apiUrl path, ∃ b : Bool,
        Config.load toml env ⟨files, some t₁⟩ = .ok ⟨apiUrl, if b then some t₁ else none, path⟩ ∧
        Config.load toml env ⟨files, some t₂⟩ = .ok ⟨apiUrl, if b then some t₂ else none, path⟩ := by
  unfold Config.load
  cases Config.configPathOf env with
  | error e => exact .inl ⟨e, rfl, rfl⟩
  | ok path =>
    have hw : Config.apiUrlAt toml env ⟨files, some t₂⟩ path =
        Config.apiUrlAt toml env ⟨files, some t₁⟩ path := rfl
    simp only [bind, Except.bind, hw]
    cases Config.apiUrlAt toml env ⟨files, some t₁⟩ path with
    | error e => exact .inl ⟨e, rfl, rfl⟩
    | ok apiUrl => exact .inr ⟨apiUrl, some path, _, rfl, rfl⟩

/-- Two invocations that differ only in the token stored in the keyring entry, with tokens whose
`Bearer` headers reqwest accepts alike, against a server that does not read the `Authorization`
header, print the same text, leave the same files and exit the same way. -/
theorem invoke_token_private (toml : Toml) (env : Env) (args : Args)
    (files : String → Option (List UInt8)) (t₁ t₂ : String) (hb : HeaderBlind env)
    (hvalid : headerValueOk ("Bearer " ++ t₁) = headerValueOk ("Bearer " ++ t₂)) :
    (invoke toml env args ⟨files, some t₁⟩).1.stdout = (invoke toml env args ⟨files, some t₂⟩).1.stdout ∧
      (invoke toml env args ⟨files, some t₁⟩).1.world.files =
        (invoke toml env args ⟨files, some t₂⟩).1.world.files ∧
      (invoke toml env args ⟨files, some t₁⟩).2 = (invoke toml env args ⟨files, some t₂⟩).2 := by
  rcases Config.load_token toml env files t₁ t₂ with ⟨e, h₁, h₂⟩ | ⟨apiUrl, path, b, h₁, h₂⟩
  · rw [invoke_of_load_error toml env args _ e h₁, invoke_of_load_error toml env args _ e h₂]
    exact ⟨rfl, rfl, rfl⟩
  · rw [invoke_of_load_ok toml env args _ _ h₁, invoke_of_load_ok toml env args _ _ h₂]
    have hk : (if b then some t₁ else none).isSome = (if b then some t₂ else none).isSome := by
      cases b <;> rfl
    have ht : ∀ base, (ApiClient.authHeader ⟨base, if b then some t₁ else none⟩).all headerValueOk =
        (ApiClient.authHeader ⟨base, if b then some t₂ else none⟩).all headerValueOk := by
      cases b
      · exact fun _ => rfl
      · exact fun _ => hvalid
    obtain ⟨hm, hx⟩ := (dispatch_alike toml hb (Cli.parse env args) apiUrl path _ _ hk _ _ _ (ht _)
      (Machine.start ⟨files, some t₁⟩) (Machine.start ⟨files, some t₂⟩) ⟨rfl, rfl⟩).exit
    exact ⟨hm.stdout, hm.files, hx⟩

theorem invoke_token_private_status :
    (invoke basicToml quietEnv ⟨none, none, .auth .status⟩ ⟨fun _ => none, some "a"⟩).1.stdout =
        (invoke basicToml quietEnv ⟨none, none, .auth .status⟩ ⟨fun _ => none, some "b"⟩).1.stdout ∧
      (invoke basicToml quietEnv ⟨none, none, .auth .status⟩ ⟨fun _ => none, some "a"⟩).1.world.files =
        (invoke basicToml quietEnv ⟨none, none, .auth .status⟩ ⟨fun _ => none, some "b"⟩).1.world.files ∧
      (invoke basicToml quietEnv ⟨none, none, .auth .status⟩ ⟨fun _ => none, some "a"⟩).2 =
        (invoke basicToml quietEnv ⟨none, none, .auth .status⟩ ⟨fun _ => none, some "b"⟩).2 :=
  invoke_token_private basicToml quietEnv _ _ "a" "b" (fun _ => rfl) (by decide)

end TodoCli
