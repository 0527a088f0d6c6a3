import TodoCli.Wire
import TodoCli.Model.Toml

/-!
# The settings file

`Config::save` writes the one persisted setting, `api_url`, as a TOML document encoded as UTF-8,
and `Config::load` reads it back: the two compose to the identity on the setting
(`Config.load_save`), by the UTF-8 round trip (`fromUtf8_utf8Bytes`) and the TOML one (the law of
`Toml`). `config set-url` is `save` with the new URL.

What `load` reads is never used to reach the server: `main` builds its client from `cli.url`
(`main.rs:130`), which clap resolves from `--url`, `TODO_API_URL` and the built-in default, so a
URL set with `config set-url` is stored, shown by `config show` (`setUrl_then_show`), and ignored
(`setUrl_then_default`, in `Effects`, over whole traces).

`load` reads the file with `fs::read_to_string`, which fails on bytes that are not UTF-8; the
failure is returned, not defaulted, and every command runs after `load`, so such a file stops
every invocation, `config set-url` included (`load_existing`, `setUrl_blocked`).
-/

namespace TodoCli

/-! ## What `load` and `save` do -/

theorem Config.configPathOf_eq_ok {env : Env} {path : String} :
    Config.configPathOf env = .ok path ↔ ∃ dir, env.configDir = some dir ∧ path = dir ++ "/config.toml" := by
  unfold Config.configPathOf
  cases env.configDir <;> simp [eq_comm]

@[simp] theorem World.writeFile_files_self (w : World) (path : String) (bytes : List UInt8) :
    (w.writeFile path bytes).files path = some bytes := by
  simp [World.writeFile]

@[simp] theorem World.writeFile_keyring (w : World) (path : String) (bytes : List UInt8) :
    (w.writeFile path bytes).keyring = w.keyring := rfl

/-- `load` of an existing file: the setting its text holds, the default for a text that is not a
settings document, and the read's error for bytes that are not UTF-8. -/
theorem Config.load_file (toml : Toml) (env : Env) (w : World) (dir : String) (bytes : List UInt8)
    (hdir : env.configDir = some dir) (hfile : w.files (dir ++ "/config.toml") = some bytes)
    (hread : env.readOk = true) :
    Config.load toml env w =
      match fromUtf8 bytes with
      | some content =>
        .ok ⟨(toml.fromStr content).getD none, Config.loadTokenFromKeyring env w,
          some (dir ++ "/config.toml")⟩
      | none => .error (.context "Failed to read config file" .library) := by
  simp only [Config.load, Config.configPathOf, hdir, bind, Except.bind, Config.apiUrlAt, hfile,
    Config.readSettings, hread, if_true]
  cases fromUtf8 bytes <;> rfl

/-- A settings file that is not UTF-8. -/
def corruptSettings : World := ⟨fun p => if p = "/config/config.toml" then some [0xFF] else none, none⟩

/-- `load` of an existing file reads the setting its text holds, the default for a text that is
not a settings document, and fails for bytes that are not UTF-8; since `main` loads the settings
before it runs any command, every invocation then fails with that error, `config set-url`
included. -/
theorem load_existing (toml : Toml) (env : Env) (w : World) (dir : String) (bytes : List UInt8)
    (hdir : env.configDir = some dir) (hfile : w.files (dir ++ "/config.toml") = some bytes)
    (hread : env.readOk = true) :
    Config.load toml env w =
        (match fromUtf8 bytes with
        | some content =>
          .ok ⟨(toml.fromStr content).getD none, Config.loadTokenFromKeyring env w,
            some (dir ++ "/config.toml")⟩
        | none => .error (.context "Failed to read config file" .library)) ∧
      (fromUtf8 bytes = none → ∀ args, invoke toml env args w =
        (Machine.start w, .failure (.context "Failed to read config file" .library))) :=
  ⟨Config.load_file toml env w dir bytes hdir hfile hread, fun h args =>
    invoke_of_load_error toml env args w _ (by rw [Config.load_file toml env w dir bytes hdir hfile hread, h])⟩

/-- With a settings file holding the byte `0xFF`, `load` fails and so does every invocation. -/
theorem load_existing_corrupt :
    Config.load basicToml quietEnv corruptSettings =
        .error (.context "Failed to read config file" .library) ∧
      ∀ args, invoke basicToml quietEnv args corruptSettings =
        (Machine.start corruptSettings, .failure (.context "Failed to read config file" .library)) :=
  let h := load_existing basicToml quietEnv corruptSettings "/config" [0xFF] rfl rfl rfl
  ⟨h.1, h.2 rfl⟩

/-- `config set-url` cannot repair a settings file that is not UTF-8: it fails with the read's
error. -/
theorem setUrl_blocked :
    (invoke basicToml quietEnv ⟨none, none, .config (some (.setUrl "x"))⟩ corruptSettings).2 =
      .failure (.context "Failed to read config file" .library) := rfl

/-- A settings file holding the settings with `u` loads `u`. -/
theorem Config.load_settings (toml : Toml) (env : Env) (w : World) (dir : String) (u : Option String)
    (hdir : env.configDir = some dir)
    (hfile : w.files (dir ++ "/config.toml") = some (utf8Bytes (toml.toStringPretty u)))
    (hread : env.readOk = true) :
    Config.load toml env w = .ok ⟨u, Config.loadTokenFromKeyring env w, some (dir ++ "/config.toml")⟩ := by
  rw [Config.load_file toml env w dir _ hdir hfile hread, fromUtf8_utf8Bytes]
  simp only [toml.fromStr_toStringPretty, Option.getD_some]

/-- What `save` writes, `load` reads back. -/
theorem Config.load_save (toml : Toml) (env : Env) (w : World) (dir : String) (u : Option String)
    (hdir : env.configDir = some dir) (hread : env.readOk = true) :
    Config.load toml env (w.writeFile (dir ++ "/config.toml") (utf8Bytes (toml.toStringPretty u))) =
      .ok ⟨u, Config.loadTokenFromKeyring env w, some (dir ++ "/config.toml")⟩ :=
  Config.load_settings toml env _ dir u hdir (World.writeFile_files_self _ _ _) hread

/-! ## `config set-url` -/

/-- A `config set-url U` that succeeds has written the settings, with `U`, to the settings file and
changed nothing else of the world. -/
theorem invoke_setUrl (toml : Toml) (env : Env) (args : Args) (w : World) (url : String)
    (hcmd : args.command = .config (some (.setUrl url)))
    (hok : (invoke toml env args w).2 = .success) :
    ∃ dir, env.configDir = some dir ∧
      (invoke toml env args w).1.world =
        w.writeFile (dir ++ "/config.toml") (utf8Bytes (toml.toStringPretty (some url))) := by
  cases h : Config.load toml env w with
  | error e => rw [invoke_of_load_error toml env args w e h] at hok; cases hok
  | ok config =>
    obtain ⟨path, apiUrl, hpath, -, rfl⟩ := Config.load_eq_ok.mp h
    obtain ⟨dir, hdir, rfl⟩ := Config.configPathOf_eq_ok.mp hpath
    refine ⟨dir, hdir, ?_⟩
    simp only [invoke, main, Prog.run_bind, getWorld_run, Machine.start_world, h, liftExcept_ok,
      Prog.run_pure, dispatch, Cli.parse, hcmd, Config.setUrl,
      Config.save_run toml env ⟨some url, _, some (dir ++ "/config.toml")⟩ _ rfl] at hok ⊢
    split_ifs at hok ⊢
    · revert hok; cases env.write <;> intro hok <;> first | rfl | cases hok
    · cases hok

/-- After `config set-url U` succeeds, `config show` in a later invocation reports `U` as the API
URL. -/
theorem setUrl_then_show (toml : Toml) (env₁ env₂ : Env) (args₁ args₂ : Args) (w : World)
    (url : String) (hcmd : args₁.command = .config (some (.setUrl url)))
    (hok : (invoke toml env₁ args₁ w).2 = .success) (hdir : env₂.configDir = env₁.configDir)
    (hread : env₂.readOk = true) (hshow : args₂.command = .config (some .show)) :
    "  API URL: " ++ url ++ "\n" ∈ (invoke toml env₂ args₂ (invoke toml env₁ args₁ w).1.world).1.stdout := by
  obtain ⟨dir, hdir₁, hw⟩ := invoke_setUrl toml env₁ args₁ w url hcmd hok
  rw [hw, invoke_of_load_ok toml env₂ args₂ _ _ (Config.load_save toml env₂ w dir _ (hdir ▸ hdir₁) hread)]
  simp [dispatch, Cli.parse, hshow, Config.print]

theorem setUrl_then_show_quiet :
    "  API URL: todo.internal:9090\n" ∈
      (invoke basicToml quietEnv ⟨none, none, .config (some .show)⟩
        (invoke basicToml quietEnv ⟨none, none, .config (some (.setUrl "todo.internal:9090"))⟩
          ⟨fun _ => none, none⟩).1.world).1.stdout :=
  setUrl_then_show basicToml quietEnv quietEnv ⟨none, none, .config (some (.setUrl "todo.internal:9090"))⟩
    ⟨none, none, .config (some .show)⟩ ⟨fun _ => none, none⟩ "todo.internal:9090" rfl rfl rfl rfl rfl

end TodoCli
