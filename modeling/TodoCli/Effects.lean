import TodoCli.Settings

/-!
# What an invocation leaves behind

The world, the files and the keyring entry, is all that outlives an invocation. Each command is
for one change to it (`Change`, `Commands.change`): a login or a registration stores the token the
server grants, a logout deletes it, `config set-url U` writes the settings with `U`, and every
other command changes nothing. `invoke_outcome` says once what an invocation does, for a standard
output that takes every line: one that fails, with an `Err` or a panic, leaves the world as it was,
since the write of each command is its last fallible step, except that `fs::write` truncates the
settings file before it writes, so a write that fails can leave a prefix of the settings
(`Change.Failed`); one that succeeds has made its command's change. The one exception is a logout
whose delete was refused, which reports success and changes nothing (`config.rs:77`).

What follows over whole traces is derived from it by one induction along the trace
(`trace_induction`): here, where the contents of a file can come from (`trace_settings`) and that
a URL set with `config set-url` is loaded and ignored by every later invocation
(`setUrl_then_default`); in `Session`, where a token in the keyring entry can come from.
-/

namespace TodoCli

/-- The server answered `req` with a success status and a body that reads as an `AuthResponse`
carrying the token `t`. -/
def Grants (env : Env) (req : Request) (t : String) : Prop :=
  ∃ status body resp, env.server req = .response status body ∧ isSuccess status = true ∧
    body.decode AuthResponse.fromJson = some resp ∧ resp.token = t

/-! ## What each command is for -/

/-- A change to the state that outlives an invocation. -/
inductive Change where
  /-- The world as it was. -/
  | nothing
  /-- A token the server granted, stored in the keyring entry. -/
  | storeToken
  /-- The keyring entry deleted. -/
  | deleteToken
  /-- The settings file written with the API URL `url`. -/
  | writeSettings (url : String)

/-- The change each command is for. -/
def Commands.change : Commands → Change
  | .auth (.login _ _) | .auth (.register _ _) => .storeToken
  | .auth .logout => .deleteToken
  | .config (some (.setUrl url)) => .writeSettings url
  | _ => .nothing

theorem Commands.change_eq_deleteToken {cmd : Commands} (h : cmd.change = .deleteToken) :
    cmd = .auth .logout := by
  rcases cmd with ⟨_ | _ | _ | _⟩ | _ | _ | _ | _ | _ | _ | _ | _ | _ | _ <;> first | rfl | cases h

theorem Commands.change_eq_writeSettings {cmd : Commands} {url : String}
    (h : cmd.change = .writeSettings url) : cmd = .config (some (.setUrl url)) := by
  rcases cmd with ⟨_ | _ | _ | _⟩ | _ | _ | _ | _ | _ | _ | _ | _ | _ | _ <;> cases h
  rfl

/-- An invocation from the world `w`, ending in the machine `m'`, has made the change. -/
def Change.Made (toml : Toml) (env : Env) (w : World) (m' : Machine) : Change → Prop
  | .nothing => m'.world = w
  | .storeToken =>
    ∃ t, (∃ req ∈ m'.requests, Grants env req t) ∧ m'.world = { w with keyring := some t }
  | .deleteToken => m'.world = { w with keyring := none }
  | .writeSettings url =>
    ∃ dir, env.configDir = some dir ∧
      m'.world = w.writeFile (dir ++ "/config.toml") (utf8Bytes (toml.toStringPretty (some url)))

/-- What a failed invocation for the change, from the world `w`, may leave in `m'`: the world as
it was, or, for a settings write, the settings file holding a prefix of the settings, from a
`fs::write` that truncated it and then failed. -/
def Change.Failed (toml : Toml) (env : Env) (w : World) (m' : Machine) : Change → Prop
  | .writeSettings url =>
    m'.world = w ∨ ∃ dir bytes, env.configDir = some dir ∧
      bytes <+: utf8Bytes (toml.toStringPretty (some url)) ∧
      m'.world = w.writeFile (dir ++ "/config.toml") bytes
  | _ => m'.world = w

/-- What an invocation for the change `c`, from the world `w`, ending in the machine `m'` with
`exit`, has done to the world. -/
structure Outcome (toml : Toml) (env : Env) (c : Change) (w : World) (m' : Machine) (exit : Exit) :
    Prop where
  /-- A failure, an `Err` or a panic, leaves the world as it was, or a settings file cut short. -/
  failed : exit ≠ .success → c.Failed toml env w m'
  /-- A success has made the change, unless it is a delete the keyring refused, which has changed
  nothing. -/
  succeeded : exit = .success →
    c.Made toml env w m' ∨ (c = .deleteToken ∧ env.keyringOk .deleteCredential = false ∧ m'.world = w)

section Outcome

variable {toml : Toml} {env : Env} {c : Change} {w : World} {m' : Machine} {exit : Exit}

theorem Change.failed_of_world (h : m'.world = w) : c.Failed toml env w m' := by
  cases c
  case writeSettings => exact .inl h
  all_goals exact h

/-- A failure keeps the world, or leaves a prefix of the settings in the settings file. -/
theorem Change.Failed.world (h : c.Failed toml env w m') :
    m'.world = w ∨ ∃ url dir bytes, c = .writeSettings url ∧ env.configDir = some dir ∧
      bytes <+: utf8Bytes (toml.toStringPretty (some url)) ∧
      m'.world = w.writeFile (dir ++ "/config.toml") bytes := by
  cases c
  case writeSettings url =>
    rcases h with h | ⟨dir, bytes, hdir, hp, hw⟩
    · exact .inl h
    · exact .inr ⟨url, dir, bytes, rfl, hdir, hp, hw⟩
  all_goals exact .inl h

theorem Outcome.keep (h : m'.world = w) : Outcome toml env .nothing w m' exit :=
  ⟨fun _ => h, fun _ => .inl h⟩

theorem Outcome.failure (hx : exit ≠ .success) (h : m'.world = w) : Outcome toml env c w m' exit :=
  ⟨fun _ => Change.failed_of_world h, fun hs => absurd hs hx⟩

theorem Outcome.made (h : c.Made toml env w m') : Outcome toml env c w m' .success :=
  ⟨fun hx => absurd rfl hx, fun _ => .inl h⟩

/-- What an invocation can do to the keyring entry: keep it, delete it for a logout, or store a
token the server granted in answer to one of its requests. -/
theorem Outcome.keyring (h : Outcome toml env c w m' exit) :
    m'.world.keyring = w.keyring ∨ (c = .deleteToken ∧ m'.world.keyring = none) ∨
      ∃ t, m'.world.keyring = some t ∧ ∃ req ∈ m'.requests, Grants env req t := by
  by_cases hs : exit = .success
  · rcases h.succeeded hs with hc | ⟨-, -, hw⟩
    · cases c with
      | nothing => exact .inl (by rw [show m'.world = w from hc])
      | storeToken =>
        obtain ⟨t, hg, hw⟩ := hc
        exact .inr (.inr ⟨t, by rw [hw], hg⟩)
      | deleteToken => exact .inr (.inl ⟨rfl, by rw [show m'.world = _ from hc]⟩)
      | writeSettings url =>
        obtain ⟨dir, -, hw⟩ := hc
        exact .inl (by rw [hw]; rfl)
    · exact .inl (by rw [hw])
  · rcases (h.failed hs).world with hw | ⟨url, dir, bytes, -, -, -, hw⟩
    · exact .inl (by rw [hw])
    · exact .inl (by rw [hw]; rfl)

/-- What an invocation can do to the files: keep them, or write the settings file of a
`config set-url U`: with a prefix of the settings with `U`, all of them if it succeeded. -/
theorem Outcome.files (h : Outcome toml env c w m' exit) :
    m'.world.files = w.files ∨
      ∃ url dir bytes, c = .writeSettings url ∧ env.configDir = some dir ∧
        bytes <+: utf8Bytes (toml.toStringPretty (some url)) ∧
        (exit = .success → bytes = utf8Bytes (toml.toStringPretty (some url))) ∧
        m'.world = w.writeFile (dir ++ "/config.toml") bytes := by
  by_cases hs : exit = .success
  · rcases h.succeeded hs with hc | ⟨-, -, hw⟩
    · cases c with
      | nothing => exact .inl (by rw [show m'.world = w from hc])
      | storeToken =>
        obtain ⟨t, -, hw⟩ := hc
        exact .inl (by rw [hw])
      | deleteToken => exact .inl (by rw [show m'.world = _ from hc])
      | writeSettings url =>
        obtain ⟨dir, hdir, hw⟩ := hc
        exact .inr ⟨url, dir, _, rfl, hdir, List.prefix_refl _, fun _ => rfl, hw⟩
    · exact .inl (by rw [hw])
  · rcases (h.failed hs).world with hw | ⟨url, dir, bytes, hc, hdir, hp, hw⟩
    · exact .inl (by rw [hw])
    · exact .inr ⟨url, dir, bytes, hc, hdir, hp, fun h => absurd h hs, hw⟩

end Outcome

/-! ## Each arm of the dispatcher -/

/-- A login or a registration: a failure leaves the world, a success has stored the token the
server granted in answer to its request. -/
theorem Auth.authenticate_outcome (toml : Toml) (env : Env) (announce : String) (req : Request)
    (sendContext failure parseContext success follow : String) (m : Machine) :
    let r := Auth.authenticate env announce
      ⟨req, readResponse sendContext failure parseContext AuthResponse.fromJson⟩ success follow m
    Outcome toml env .storeToken m.world (machineOf r) (exitOf r) := by
  rw [Auth.authenticate_run]
  dsimp only
  cases h : readResponse sendContext failure parseContext AuthResponse.fromJson (env.answer req) with
  | error e => exact .failure nofun rfl
  | ok r =>
    obtain ⟨status, body, ho, hs, hd⟩ := readResponse_eq_ok.mp h
    obtain ⟨hb, ho⟩ := Env.answer_eq_response ho
    have hsent : req ∈ m.requests ++ env.sent req := by simp [Env.sent_of_builds hb]
    split_ifs
    · exact .made ⟨r.token, ⟨req, hsent, status, body, r, ho, hs, hd, rfl⟩, rfl⟩
    · exact .failure nofun rfl
    · exact .failure nofun rfl

/-- The password step changes nothing; a prompt that cannot read panics with the world as it
was. -/
theorem passwordOf_bind_outcome (toml : Toml) (env : Env) (c : Change) (password : Option String)
    {f : String → Prog Unit} (hf : ∀ p m, Outcome toml env c m.world (machineOf (f p m)) (exitOf (f p m)))
    (m : Machine) :
    Outcome toml env c m.world (machineOf ((passwordOf env password >>= f) m))
      (exitOf ((passwordOf env password >>= f) m)) := by
  rw [Prog.run_bind, passwordOf_run]
  cases password with
  | some p => exact hf p m
  | none =>
    cases readLine env.stdin with
    | some line => exact hf (trim line) { m with stdout := m.stdout ++ ["Password: "] }
    | none => exact .failure nofun rfl

/-- `auth logout`: the entry deleted, or, when the delete is refused, a success that changes
nothing. -/
theorem Auth.logout_outcome (toml : Toml) (env : Env) (m : Machine) :
    Outcome toml env .deleteToken m.world (machineOf (Auth.logout env m)) (exitOf (Auth.logout env m)) := by
  simp only [Auth.logout, Prog.run_bind, Config.clearToken_run]
  by_cases he : env.keyringOk .entryForClear = true
  · by_cases hd : env.keyringOk .deleteCredential = true
    · simp only [he, hd, if_true]; exact .made rfl
    · simp only [he, hd, if_true, if_false]
      exact ⟨fun _ => rfl, fun _ => .inr ⟨rfl, by simpa using hd, rfl⟩⟩
  · simp only [he, if_false]; exact .failure nofun rfl

/-- `config set-url U`: the settings written with `U` to the settings file, or a failure that
changes nothing. -/
theorem setUrl_outcome (toml : Toml) (env : Env) (config : Config) (url dir : String)
    (hdir : env.configDir = some dir) (hpath : config.configPath = some (dir ++ "/config.toml"))
    (m : Machine) :
    let r := (Config.setUrl toml env config url >>= fun _ => println ("✅ API URL set to: " ++ url)) m
    Outcome toml env (.writeSettings url) m.world (machineOf r) (exitOf r) := by
  simp only [Config.setUrl, Prog.run_bind,
    Config.save_run toml env { config with apiUrl := some url } _ hpath]
  split_ifs
  · cases env.write with
    | written => exact .made ⟨dir, hdir, rfl⟩
    | notCreated => exact .failure nofun rfl
    | cutShort k => exact ⟨fun _ => .inr ⟨dir, _, hdir, List.take_prefix k _, rfl⟩, nofun⟩
  · exact .failure nofun rfl

/-- Every arm of the dispatcher, once the settings are loaded from the settings file of `dir`. -/
theorem dispatch_outcome (toml : Toml) (env : Env) (cli : Cli) (config : Config) (client : ApiClient)
    (dir : String) (hdir : env.configDir = some dir)
    (hpath : config.configPath = some (dir ++ "/config.toml")) (m : Machine) :
    Outcome toml env cli.command.change m.world (machineOf (dispatch toml env cli config client m))
      (exitOf (dispatch toml env cli config client m)) := by
  rcases cli with ⟨url, format, cmd⟩
  have sent : ∀ {α : Type} {f : α → Prog Unit} (call : Call α), (∀ a, KeepsWorld (f a)) →
      KeepsWorld (send env call >>= f) :=
    fun call hf => Keeps.bind (KeepsWorld.send env call) hf
  have printed : ∀ todo (s : String), KeepsWorld (printTodo env todo format >>= fun _ => println s) :=
    fun _ _ => Keeps.bind (printTodo_outputOnly env _ _).keepsWorld fun _ => (OutputOnly.println _).keepsWorld
  cases cmd with
  | auth c =>
    cases c with
    | login email password =>
      exact passwordOf_bind_outcome toml env _ password
        (fun _ _ => Auth.authenticate_outcome toml env _ _ _ _ _ _ _ _) m
    | register email password =>
      exact passwordOf_bind_outcome toml env _ password
        (fun _ _ => Auth.authenticate_outcome toml env _ _ _ _ _ _ _ _) m
    | logout => exact Auth.logout_outcome toml env m
    | status => exact .keep ((Auth.status_outputOnly env config).keepsWorld m)
  | list c => exact .keep (sent _ (fun _ => (printTodos_outputOnly env _ _).keepsWorld) m)
  | get id => exact .keep (sent _ (fun _ => (printTodo_outputOnly env _ _).keepsWorld) m)
  | create title => exact .keep (sent _ (fun _ => printed _ _) m)
  | update id title completed => exact .keep (sent _ (fun _ => printed _ _) m)
  | delete id force => exact .keep (deleteArm_keepsWorld env client id force m)
  | done id => exact .keep (sent _ (fun _ => printed _ _) m)
  | undone id => exact .keep (sent _ (fun _ => printed _ _) m)
  | config c =>
    rcases c with _ | _ | url
    · exact .keep ((Config.print_outputOnly config).keepsWorld m)
    · exact .keep ((Config.print_outputOnly config).keepsWorld m)
    · exact setUrl_outcome toml env config url dir hdir hpath m

/-! ## One invocation -/

/-- What an invocation does to the world, as an `Outcome` of the change its command is for. -/
theorem invoke_outcome (toml : Toml) (env : Env) (args : Args) (w : World) :
    Outcome toml env args.command.change w (invoke toml env args w).1 (invoke toml env args w).2 := by
  cases h : Config.load toml env w with
  | error e => rw [invoke_of_load_error toml env args w e h]; exact .failure nofun rfl
  | ok config =>
    obtain ⟨path, apiUrl, hpath, -, rfl⟩ := Config.load_eq_ok.mp h
    obtain ⟨dir, hdir, rfl⟩ := Config.configPathOf_eq_ok.mp hpath
    rw [invoke_of_load_ok toml env args w _ h]
    exact dispatch_outcome toml env (Cli.parse env args)
      ⟨apiUrl, Config.loadTokenFromKeyring env w, some (dir ++ "/config.toml")⟩ _ dir hdir rfl
      (Machine.start w)

/-- What an invocation does to the world. One that fails, with an `Err` or a panic, leaves it as
it was, except that a `config set-url U` whose write failed may leave its settings file holding a
prefix of the settings with `U`. One that succeeds has made the change its command is for, except
that a logout whose delete was refused changes nothing. -/
theorem invoke_world (toml : Toml) (env : Env) (args : Args) (w : World) :
    ((invoke toml env args w).2 ≠ .success →
      (invoke toml env args w).1.world = w ∨
        ∃ url dir bytes, args.command = .config (some (.setUrl url)) ∧ env.configDir = some dir ∧
          bytes <+: utf8Bytes (toml.toStringPretty (some url)) ∧
          (invoke toml env args w).1.world = w.writeFile (dir ++ "/config.toml") bytes) ∧
    ((invoke toml env args w).2 = .success →
      args.command.change.Made toml env w (invoke toml env args w).1 ∨
        (args.command = .auth .logout ∧ env.keyringOk .deleteCredential = false ∧
          (invoke toml env args w).1.world = w)) := by
  have h := invoke_outcome toml env args w
  refine ⟨fun hs => ?_, fun hs => ?_⟩
  · rcases (h.failed hs).world with hw | ⟨url, dir, bytes, hc, hdir, hp, hw⟩
    · exact .inl hw
    · exact .inr ⟨url, dir, bytes, Commands.change_eq_writeSettings hc, hdir, hp, hw⟩
  · rcases h.succeeded hs with hm | ⟨hc, hk, hw⟩
    · exact .inl hm
    · exact .inr ⟨Commands.change_eq_deleteToken hc, hk, hw⟩

/-! ## Along a trace -/

/-- One induction along a trace: a property of the steps done so far and of the world that every
invocation keeps holds of the world every step starts from. -/
theorem trace_induction (toml : Toml) (P : List Step → World → Prop)
    (step : ∀ done env args w, P done w →
      P (done ++ [⟨env, args, w, (invoke toml env args w).1, (invoke toml env args w).2⟩])
        (invoke toml env args w).1.world) :
    ∀ (xs : List (Env × Args)) (done : List Step) (w : World) (pre : List Step) (s : Step)
      (post : List Step), P done w → trace toml xs w = pre ++ s :: post → P (done ++ pre) s.before
  | [], _, _, pre, _, _, _, h => by cases pre <;> simp [trace] at h
  | (env, args) :: rest, done, w, [], s, post, hw, h => by
    simp only [trace, List.nil_append, List.cons.injEq] at h
    rw [List.append_nil, ← h.1]
    exact hw
  | (env, args) :: rest, done, w, s₀ :: pre, s, post, hw, h => by
    simp only [trace, List.cons_append, List.cons.injEq] at h
    obtain ⟨rfl, h⟩ := h
    simpa using trace_induction toml P step rest _ _ pre s post (step done env args w hw) h

/-- A trace split at a step: the step is its invocation from the world it starts in, and the rest
of the trace is the trace from the world it left. -/
theorem trace_split (toml : Toml) :
    ∀ (xs : List (Env × Args)) (w : World) (pre : List Step) (s : Step) (post : List Step),
      trace toml xs w = pre ++ s :: post →
        invoke toml s.env s.args s.before = (s.after, s.exit) ∧
          ∃ ys, post = trace toml ys s.after.world
  | [], _, pre, _, _, h => by cases pre <;> simp [trace] at h
  | (env, args) :: rest, w, [], s, post, h => by
    simp only [trace, List.nil_append, List.cons.injEq] at h
    obtain ⟨rfl, rfl⟩ := h
    exact ⟨rfl, rest, rfl⟩
  | (env, args) :: rest, w, s₀ :: pre, s, post, h => by
    simp only [trace, List.cons_append, List.cons.injEq] at h
    exact trace_split toml rest _ pre s post h.2

/-- What an invocation can do to one file: keep it, or, for a `config set-url U` whose settings
file it is, write a prefix of the settings with `U`, all of them if it succeeded. -/
theorem invoke_files (toml : Toml) (env : Env) (args : Args) (w : World) (path : String) :
    (invoke toml env args w).1.world.files path = w.files path ∨
      ∃ url dir bytes, args.command = .config (some (.setUrl url)) ∧ env.configDir = some dir ∧
        path = dir ++ "/config.toml" ∧ (invoke toml env args w).1.world.files path = some bytes ∧
        bytes <+: utf8Bytes (toml.toStringPretty (some url)) ∧
        ((invoke toml env args w).2 = .success → bytes = utf8Bytes (toml.toStringPretty (some url))) := by
  rcases (invoke_outcome toml env args w).files with hf | ⟨url, dir, bytes, hc, hdir, hp, hs, hw⟩
  · exact .inl (by rw [hf])
  · rw [hw]
    by_cases hpath : path = dir ++ "/config.toml"
    · exact .inr ⟨url, dir, bytes, Commands.change_eq_writeSettings hc, hdir, hpath,
        by rw [hpath]; simp, hp, hs⟩
    · exact .inl (if_neg hpath)

/-- Along a trace, each file an invocation starts from holds what it held when the trace began,
or, if it is the settings file of an earlier `config set-url U`, a prefix of the settings with `U`
that this `set-url` wrote, all of them if it succeeded. -/
theorem trace_settings (toml : Toml) (xs : List (Env × Args)) (w : World) (pre : List Step)
    (s : Step) (post : List Step) (h : trace toml xs w = pre ++ s :: post) (path : String) :
    s.before.files path = w.files path ∨
      ∃ s' ∈ pre, ∃ url dir bytes, s'.args.command = .config (some (.setUrl url)) ∧
        s'.env.configDir = some dir ∧ path = dir ++ "/config.toml" ∧
        s.before.files path = some bytes ∧ bytes <+: utf8Bytes (toml.toStringPretty (some url)) ∧
        (s'.exit = .success → bytes = utf8Bytes (toml.toStringPretty (some url))) := by
  have h := trace_induction toml
    (fun done w' => ∀ path, w'.files path = w.files path ∨
      ∃ s' ∈ done, ∃ url dir bytes, s'.args.command = .config (some (.setUrl url)) ∧
        s'.env.configDir = some dir ∧ path = dir ++ "/config.toml" ∧
        w'.files path = some bytes ∧ bytes <+: utf8Bytes (toml.toStringPretty (some url)) ∧
        (s'.exit = .success → bytes = utf8Bytes (toml.toStringPretty (some url))))
    (fun done env args w₀ ih p => by
      rcases invoke_files toml env args w₀ p with hf | ⟨url, dir, bytes, hc, hdir, hp, hf, hpre, hs⟩
      · rw [hf]
        rcases ih p with h | ⟨s', hs', h⟩
        · exact .inl h
        · exact .inr ⟨s', List.mem_append_left _ hs', h⟩
      · exact .inr ⟨_, List.mem_append_right _ (List.mem_singleton_self _), url, dir, bytes, hc, hdir,
          hp, hf, hpre, hs⟩)
    xs [] w pre s post (fun _ => .inl rfl) h path
  simpa using h

/-- A `config set-url` from a world with no files, then a listing: the settings file the listing
starts from holds what the trace began with, or what the `set-url` wrote. -/
theorem trace_settings_setUrl :
    let setUrl : Args := ⟨none, none, .config (some (.setUrl "u"))⟩
    let w : World := ⟨fun _ => none, none⟩
    let w₁ := (invoke basicToml quietEnv setUrl w).1
    let step₁ : Step := ⟨quietEnv, setUrl, w, w₁, (invoke basicToml quietEnv setUrl w).2⟩
    w₁.world.files "/config/config.toml" = w.files "/config/config.toml" ∨
      ∃ s' ∈ [step₁], ∃ url dir bytes, s'.args.command = .config (some (.setUrl url)) ∧
        s'.env.configDir = some dir ∧ "/config/config.toml" = dir ++ "/config.toml" ∧
        w₁.world.files "/config/config.toml" = some bytes ∧
        bytes <+: utf8Bytes (basicToml.toStringPretty (some url)) ∧
        (s'.exit = .success → bytes = utf8Bytes (basicToml.toStringPretty (some url))) := by
  intro setUrl w w₁ step₁
  let list : Args := ⟨none, none, .list none⟩
  exact trace_settings basicToml [(quietEnv, setUrl), (quietEnv, list)] w [step₁]
    ⟨quietEnv, list, w₁.world, (invoke basicToml quietEnv list w₁.world).1,
      (invoke basicToml quietEnv list w₁.world).2⟩ [] rfl "/config/config.toml"

/-- Along a trace with no `config set-url` before a step, that step starts from the files the
trace began with. -/
theorem trace_files_kept (toml : Toml) (xs : List (Env × Args)) (w : World) (pre : List Step)
    (s : Step) (post : List Step) (h : trace toml xs w = pre ++ s :: post)
    (hpre : ∀ x ∈ pre, ∀ url, x.args.command ≠ .config (some (.setUrl url))) :
    s.before.files = w.files := by
  have h := trace_induction toml
    (fun done w' => (∀ x ∈ done, ∀ url, x.args.command ≠ .config (some (.setUrl url))) →
      w'.files = w.files)
    (fun done env args w₀ ih hall => by
      funext path
      rcases invoke_files toml env args w₀ path with hf | ⟨url, -, -, hc, -⟩
      · rw [hf, ih fun x hx => hall x (List.mem_append_left _ hx)]
      · exact absurd hc (hall _ (List.mem_append_right _ (List.mem_singleton_self _)) url))
    xs [] w pre s post (fun _ => rfl) h
  simpa using h hpre

/-! ## A URL set with `config set-url` -/

/-- After `config set-url U` succeeds, every later invocation given neither `--url` nor
`TODO_API_URL`, with no `set-url` in between, loads `U` from the settings file, and still sends its
request against the built-in default URL: when it makes the table's call, exactly the table's
request for its command at `http://localhost:8080`, whatever `U` is. -/
theorem setUrl_then_default (toml : Toml) (xs : List (Env × Args)) (w : World)
    (pre mid post : List Step) (s s' : Step) (h : trace toml xs w = pre ++ s :: (mid ++ s' :: post))
    (url : String) (hcmd : s.args.command = .config (some (.setUrl url))) (hok : s.exit = .success)
    (hmid : ∀ x ∈ mid, ∀ u, x.args.command ≠ .config (some (.setUrl u)))
    (hdir : s'.env.configDir = s.env.configDir) (hread : s'.env.readOk = true)
    (hurl : s'.args.url = none) (henv : s'.env.todoApiUrl = none) :
    (∃ config, Config.load toml s'.env s'.before = .ok config ∧ config.apiUrl = some url) ∧
      (MakesTableCall s'.env s'.args.command →
        s'.after.requests = tableRequests s'.env defaultUrl
          (Config.loadTokenFromKeyring s'.env s'.before) (enteredPassword s'.env) s'.args.command) := by
  obtain ⟨hs, ys, hys⟩ := trace_split toml xs w pre s _ h
  obtain ⟨hs', -⟩ := trace_split toml xs w (pre ++ s :: mid) s' post (by simpa using h)
  obtain ⟨dir, hdir₁, hw⟩ := invoke_setUrl toml s.env s.args s.before url hcmd (by rw [hs]; exact hok)
  rw [hs] at hw
  have hfile : s'.before.files (dir ++ "/config.toml") =
      some (utf8Bytes (toml.toStringPretty (some url))) := by
    rw [trace_files_kept toml ys s.after.world mid s' post hys.symm hmid, hw]
    exact World.writeFile_files_self _ _ _
  have hload := Config.load_settings toml s'.env s'.before dir _ (hdir ▸ hdir₁) hfile hread
  refine ⟨⟨_, hload, rfl⟩, fun hcall => ?_⟩
  have hB : trimEndMatches (Cli.parse s'.env s'.args).url '/' = defaultUrl := by
    simp only [Cli.parse, hurl, henv]; rfl
  rw [← hB, show s'.after = (invoke toml s'.env s'.args s'.before).1 by rw [hs']]
  exact invoke_requests_table toml s'.env s'.args s'.before ⟨_, hload⟩ hcall

/-- `config set-url todo.internal:9090`, then `list`: the listing loads the stored URL and sends
`GET http://localhost:8080/api/v1/todos`. -/
theorem setUrl_then_default_list :
    let setUrl : Args := ⟨none, none, .config (some (.setUrl "todo.internal:9090"))⟩
    let list : Args := ⟨none, none, .list none⟩
    let w₁ := (invoke basicToml quietEnv setUrl ⟨fun _ => none, none⟩).1.world
    (∃ config, Config.load basicToml quietEnv w₁ = .ok config ∧
        config.apiUrl = some "todo.internal:9090") ∧
      (invoke basicToml quietEnv list w₁).1.requests =
        [⟨.get, "http://localhost:8080/api/v1/todos", none, none⟩] := by
  intro setUrl list w₁
  have h := setUrl_then_default basicToml [(quietEnv, setUrl), (quietEnv, list)] ⟨fun _ => none, none⟩
    [] [] [] _ _ rfl "todo.internal:9090" rfl rfl (by simp) rfl rfl rfl rfl
  exact ⟨h.1, (h.2 trivial).trans rfl⟩

end TodoCli
