import TodoCli.Model.Effect

/-!
# `config.rs`: the settings file and the keyring

`Config` holds the one persisted setting, `api_url`, with the token and the settings file's
path, which are not persisted (`#[serde(skip)]`). `Config::load` reads the settings file if it
exists, falls back to the default settings when the text does not parse, and loads the token
from the keyring, treating every keyring failure as "no token". `set_token` and `clear_token`
write the keyring entry; `clear_token` discards the result of the delete.

The `toml` crate is taken as an interface, `Toml`: reading a settings document into its one
field, and writing that field back, with the library's round trip as a law. A codec that meets
it is built in `TodoCli.Model.Toml`.
-/

namespace TodoCli

/-- The two uses `config.rs` makes of the `toml` crate on a `Config`, whose one serialized field
is `api_url`: `toml::from_str` (the field, or `none` for a text that is not a settings document)
and `toml::to_string_pretty`, whose output reads back as what was written. -/
structure Toml where
  fromStr : String → Option (Option String)
  toStringPretty : Option String → String
  fromStr_toStringPretty : ∀ u, fromStr (toStringPretty u) = some u

/-- `config::Config`. -/
structure Config where
  apiUrl : Option String
  token : Option String
  configPath : Option String

/-- `Config::config_path`: `config.toml` in the platform's configuration directory. -/
def Config.configPathOf (env : Env) : Except Error String :=
  match env.configDir with
  | some dir => .ok (dir ++ "/config.toml")
  | none => .error (.bail "Failed to determine config directory")

/-- `Config::load_token_from_keyring`, as `.ok()` turns it into an `Option`: the stored token when
both keyring calls succeed and the entry holds one. -/
def Config.loadTokenFromKeyring (env : Env) (w : World) : Option String :=
  if env.keyringOk .entryForLoad && env.keyringOk .getPassword then w.keyring else none

/-- The settings `Config::load` takes from a file that exists: the parsed `api_url` of its text,
or the default when the text does not parse (`unwrap_or_default`); an error when the file cannot
be read or is not UTF-8 (`read_to_string`). -/
def Config.readSettings (toml : Toml) (env : Env) (bytes : List UInt8) : Except Error (Option String) :=
  match (if env.readOk then fromUtf8 bytes else none) with
  | some content => .ok ((toml.fromStr content).getD none)
  | none => .error (.context "Failed to read config file" .library)

/-- The settings `Config::load` reads: those of the file if it exists, the default otherwise. -/
def Config.apiUrlAt (toml : Toml) (env : Env) (w : World) (path : String) :
    Except Error (Option String) :=
  match w.files path with
  | some bytes => Config.readSettings toml env bytes
  | none => .ok none

/-- `Config::load`. It reads the world and changes nothing. -/
def Config.load (toml : Toml) (env : Env) (w : World) : Except Error Config := do
  let path ← Config.configPathOf env
  let apiUrl ← Config.apiUrlAt toml env w path
  pure ⟨apiUrl, Config.loadTokenFromKeyring env w, some path⟩

/-- A file written whole. -/
def World.writeFile (w : World) (path : String) (bytes : List UInt8) : World :=
  { w with files := fun p => if p = path then some bytes else w.files p }

/-- `Config::save`: the settings written to the settings file with `fs::write`, once its directory
exists. A write that fails after `File::create` has truncated the file leaves the bytes written so
far. -/
def Config.save (toml : Toml) (env : Env) (self : Config) : Prog Unit :=
  match self.configPath with
  | none => pure ()
  | some path => do
    if !env.mkdirOk then fail (.context "Failed to create config directory" .library)
    let bytes := utf8Bytes (toml.toStringPretty self.apiUrl)
    match env.write with
    | .written => modifyWorld (·.writeFile path bytes)
    | .notCreated => fail (.context "Failed to write config file" .library)
    | .cutShort k => do
      modifyWorld (·.writeFile path (bytes.take k))
      fail (.context "Failed to write config file" .library)

/-- `Config::get_token`. -/
def Config.getToken (self : Config) : Option String := self.token

/-- `Config::set_token`. -/
def Config.setToken (env : Env) (token : String) : Prog Unit := do
  if !env.keyringOk .entryForSet then fail (.context "Failed to create keyring entry" .library)
  if !env.keyringOk .setPassword then fail (.context "Failed to save token to keyring" .library)
  modifyWorld ({ · with keyring := some token })

/-- `Config::clear_token`: the delete's result is discarded (`let _ = entry.delete_credential()`),
so the call reports success once the entry is created, whether the delete succeeded or not. -/
def Config.clearToken (env : Env) : Prog Unit := do
  if !env.keyringOk .entryForClear then fail (.context "Failed to create keyring entry" .library)
  if env.keyringOk .deleteCredential then modifyWorld ({ · with keyring := none })

/-- `Config::set_url`. -/
def Config.setUrl (toml : Toml) (env : Env) (self : Config) (url : String) : Prog Unit :=
  Config.save toml env { self with apiUrl := some url }

/-- `Config::print`. -/
def Config.print (self : Config) : Prog Unit := do
  println "Configuration:"
  println ("  Config file: " ++
    match self.configPath with
    | some p => "Some(" ++ debugString p ++ ")"
    | none => "None")
  println ("  API URL: " ++ self.apiUrl.getD "(default)")
  println ("  Token: " ++ if self.token.isSome then "✓ stored" else "✗ not set")

/-- `Config::has_token`. -/
def Config.hasToken (self : Config) : Bool := self.token.isSome

/-! ## What each function does to the world -/

/-- `Config::load` succeeds exactly when the path is found and the settings read, and then holds
them, the keyring's token, and the path. -/
theorem Config.load_eq_ok {toml : Toml} {env : Env} {w : World} {config : Config} :
    Config.load toml env w = .ok config ↔
      ∃ path apiUrl, Config.configPathOf env = .ok path ∧ Config.apiUrlAt toml env w path = .ok apiUrl ∧
        config = ⟨apiUrl, Config.loadTokenFromKeyring env w, some path⟩ := by
  unfold Config.load
  rcases Config.configPathOf env with e | path
  · simp [bind, Except.bind]
  · rcases h : Config.apiUrlAt toml env w path with e | apiUrl <;>
      simp [bind, Except.bind, pure, Except.pure, h, eq_comm]

@[simp] theorem Config.setToken_run (env : Env) (token : String) (m : Machine) :
    Config.setToken env token m =
      if env.keyringOk .entryForSet then
        if env.keyringOk .setPassword then .ok () { m with world.keyring := some token }
        else .error (.error (.context "Failed to save token to keyring" .library)) m
      else .error (.error (.context "Failed to create keyring entry" .library)) m := by
  unfold Config.setToken
  cases env.keyringOk .entryForSet <;> cases env.keyringOk .setPassword <;> rfl

@[simp] theorem Config.clearToken_run (env : Env) (m : Machine) :
    Config.clearToken env m =
      if env.keyringOk .entryForClear then
        .ok () (if env.keyringOk .deleteCredential then { m with world.keyring := none } else m)
      else .error (.error (.context "Failed to create keyring entry" .library)) m := by
  unfold Config.clearToken
  cases env.keyringOk .entryForClear <;> cases env.keyringOk .deleteCredential <;> rfl

/-- `save` changes the settings file only: to the settings it holds, or, when the write fails
after the file was truncated, to the bytes written so far. -/
theorem Config.save_run (toml : Toml) (env : Env) (self : Config) (path : String)
    (hp : self.configPath = some path) (m : Machine) :
    Config.save toml env self m =
      if env.mkdirOk then
        match env.write with
        | .written =>
          .ok () { m with world := m.world.writeFile path (utf8Bytes (toml.toStringPretty self.apiUrl)) }
        | .notCreated => .error (.error (.context "Failed to write config file" .library)) m
        | .cutShort k =>
          .error (.error (.context "Failed to write config file" .library))
            { m with world := m.world.writeFile path ((utf8Bytes (toml.toStringPretty self.apiUrl)).take k) }
      else .error (.error (.context "Failed to create config directory" .library)) m := by
  unfold Config.save; rw [hp]
  cases env.mkdirOk <;> cases env.write <;> rfl

theorem Config.setToken_noSend (env : Env) (token : String) : NoSend (Config.setToken env token) := by
  intro m; rw [Config.setToken_run]; split_ifs <;> rfl

theorem Config.clearToken_noSend (env : Env) : NoSend (Config.clearToken env) := by
  intro m; rw [Config.clearToken_run]; split_ifs <;> rfl

theorem Config.save_noSend (toml : Toml) (env : Env) (self : Config) :
    NoSend (Config.save toml env self) := by
  intro m
  cases h : self.configPath with
  | none => unfold Config.save; rw [h]; rfl
  | some path =>
    rw [Config.save_run toml env self path h]
    split_ifs
    · cases env.write <;> rfl
    · rfl

theorem Config.print_outputOnly (self : Config) : OutputOnly self.print := by
  intro m; simp [Config.print]

end TodoCli
