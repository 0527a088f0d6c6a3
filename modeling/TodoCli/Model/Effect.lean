import TodoCli.Model.Api

/-!
# What one invocation runs in

An invocation of `todo` reads and changes state that outlives it, the `World`: the files (the
settings file among them) and the one keyring entry the program uses, `("todo-cli",
"api_token")`. Everything else it meets is decided by its surroundings, the `Env`: the
`TODO_API_URL` variable, whether the platform's configuration directory can be found and where,
whether each file operation and each keyring call succeeds, which URLs reqwest accepts, what
standard input holds, how the server answers, and whether output is coloured. Quantifying over an `Env` is quantifying over
every such behaviour; each keyring call site of `config.rs` has its own answer, since an
invocation makes each of them at most once.

Code runs in `Prog`, `EStateM` over a `Machine`: the world, the requests sent so far and the text
written to standard output. A failure keeps the machine it happened in, as the effects a Rust
function performed before an `Err` or a panic are not undone.
-/

namespace TodoCli

/-- The state that outlives an invocation: the contents of each file, and the keyring entry. -/
structure World where
  files : String → Option (List UInt8)
  keyring : Option String

/-- The keyring calls of `config.rs`, one constructor a call site. -/
inductive KeyringCall where
  /-- `Entry::new` in `load_token_from_keyring`. -/
  | entryForLoad
  /-- `Entry::get_password`. -/
  | getPassword
  /-- `Entry::new` in `set_token`. -/
  | entryForSet
  /-- `Entry::set_password`. -/
  | setPassword
  /-- `Entry::new` in `clear_token`. -/
  | entryForClear
  /-- `Entry::delete_credential`. -/
  | deleteCredential
  deriving DecidableEq

/-- How `fs::write` ends. It opens the file with `File::create`, which truncates it, and then
writes the bytes with `write_all`. -/
inductive FileWrite where
  /-- Every byte written. -/
  | written
  /-- `File::create` fails: the file is as it was. -/
  | notCreated
  /-- `write_all` fails after `k` bytes: the file holds the first `k` bytes of the new content. -/
  | cutShort (k : Nat)

/-- The surroundings of one invocation. -/
structure Env where
  /-- The `TODO_API_URL` variable, if set. -/
  todoApiUrl : Option String
  /-- `ProjectDirs::from(..).config_dir()`, if the platform has one. -/
  configDir : Option String
  /-- `fs::read_to_string` reads the bytes of an existing file. -/
  readOk : Bool
  /-- `fs::create_dir_all` succeeds. -/
  mkdirOk : Bool
  /-- How `fs::write` of the settings file ends. -/
  write : FileWrite
  /-- Whether each keyring call succeeds. -/
  keyringOk : KeyringCall → Bool
  stdin : Stdin
  /-- reqwest's `IntoUrl` for a URL: `Url::parse` accepts it and it has a host. The URL parser is
  not modelled in detail. -/
  urlOk : String → Bool
  /-- How the server answers a request. -/
  server : Request → HttpOutcome
  /-- Whether `colored` writes its escape sequences. -/
  colorize : Bool

/-- An invocation's running state. -/
structure Machine where
  world : World
  requests : List Request
  stdout : List String

/-- How a computation fails: an `Err` returned to `main`, or a panic. -/
inductive Fault where
  | error (e : Error)
  | panic

/-- A computation of the program. -/
abbrev Prog := EStateM Fault Machine

@[simp] theorem Prog.run_bind {α β : Type} (x : Prog α) (f : α → Prog β) (m : Machine) :
    (x >>= f) m = match x m with
      | .ok a m' => f a m'
      | .error e m' => .error e m' := by
  show EStateM.bind x f m = _
  unfold EStateM.bind; cases x m <;> rfl

@[simp] theorem Prog.run_pure {α : Type} (a : α) (m : Machine) : (pure a : Prog α) m = .ok a m :=
  rfl

/-- The machine a computation ends in, whether it succeeds or fails. -/
def machineOf {α : Type} : EStateM.Result Fault Machine α → Machine
  | .ok _ m => m
  | .error _ m => m

@[simp] theorem machineOf_ok {α : Type} (a : α) (m : Machine) : machineOf (.ok a m) = m := rfl

@[simp] theorem machineOf_error {α : Type} (e : Fault) (m : Machine) :
    machineOf (.error e m : EStateM.Result Fault Machine α) = m := rfl

/-! ## Primitives -/

/-- `println!`: a line of standard output. -/
def println (s : String) : Prog Unit := fun m => .ok () { m with stdout := m.stdout ++ [s ++ "\n"] }

/-- `print!`: text without a newline. -/
def print (s : String) : Prog Unit := fun m => .ok () { m with stdout := m.stdout ++ [s] }

/-- Returning an `Err`. -/
def fail {α : Type} (e : Error) : Prog α := fun m => .error (.error e) m

/-- A panic (`unwrap` of an `Err`). -/
def panic {α : Type} : Prog α := fun m => .error .panic m

/-- The `?` operator on a `Result`. -/
def liftExcept {α : Type} : Except Error α → Prog α
  | .ok a => pure a
  | .error e => fail e

/-- The world as it stands. -/
def getWorld : Prog World := fun m => .ok m.world m

/-- A change of the world. -/
def modifyWorld (f : World → World) : Prog Unit := fun m => .ok () { m with world := f m.world }

/-- `HeaderValue::try_from` (http's `is_valid`): every byte a tab, or at least a space and not
DEL. -/
def headerValueOk (s : String) : Bool :=
  (utf8Bytes s).all fun b => (32 ≤ b.toNat && b.toNat != 127) || b.toNat == 9

/-- Whether reqwest builds the request: its URL is accepted, and so is its `Authorization` value.
A request it cannot build makes `send()` fail before anything is sent. -/
def Request.builds (env : Env) (req : Request) : Bool :=
  env.urlOk req.url && req.authorization.all headerValueOk

/-- The requests that reach the server when the client sends `req`: `req`, if reqwest builds it. -/
def Env.sent (env : Env) (req : Request) : List Request := if req.builds env then [req] else []

/-- What `send().await` gives for `req`: the server's answer, or an error with no response for a
request reqwest cannot build, which every handler treats as a transport failure. -/
def Env.answer (env : Env) (req : Request) : HttpOutcome :=
  if req.builds env then env.server req else .transportError

/-- Sending a call's request and handling the outcome: a request reqwest builds is sent whatever
the outcome. -/
def send {α : Type} (env : Env) (call : Call α) : Prog α := fun m =>
  let m' := { m with requests := m.requests ++ env.sent call.request }
  match call.handle (env.answer call.request) with
  | .ok a => .ok a m'
  | .error e => .error (.error e) m'

@[simp] theorem println_run (s : String) (m : Machine) :
    println s m = .ok () { m with stdout := m.stdout ++ [s ++ "\n"] } := rfl

@[simp] theorem print_run (s : String) (m : Machine) :
    print s m = .ok () { m with stdout := m.stdout ++ [s] } := rfl

@[simp] theorem fail_run {α : Type} (e : Error) (m : Machine) :
    (fail e : Prog α) m = .error (.error e) m := rfl

@[simp] theorem panic_run {α : Type} (m : Machine) : (panic : Prog α) m = .error .panic m := rfl

@[simp] theorem liftExcept_ok {α : Type} (a : α) : liftExcept (.ok a : Except Error α) = pure a :=
  rfl

@[simp] theorem liftExcept_error {α : Type} (e : Error) :
    liftExcept (.error e : Except Error α) = fail e := rfl

@[simp] theorem getWorld_run (m : Machine) : getWorld m = .ok m.world m := rfl

@[simp] theorem modifyWorld_run (f : World → World) (m : Machine) :
    modifyWorld f m = .ok () { m with world := f m.world } := rfl

theorem send_run {α : Type} (env : Env) (call : Call α) (m : Machine) :
    send env call m = match call.handle (env.answer call.request) with
      | .ok a => .ok a { m with requests := m.requests ++ env.sent call.request }
      | .error e => .error (.error e) { m with requests := m.requests ++ env.sent call.request } :=
  rfl

theorem Env.sent_of_builds {env : Env} {req : Request} (h : req.builds env = true) :
    env.sent req = [req] := if_pos h

theorem Env.answer_of_builds {env : Env} {req : Request} (h : req.builds env = true) :
    env.answer req = env.server req := if_pos h

/-- A request reaches the server only if reqwest builds it, and then the handler sees the
server's answer. -/
theorem Env.mem_sent {env : Env} {req r : Request} (h : r ∈ env.sent req) :
    r = req ∧ req.builds env = true := by
  unfold Env.sent at h; split at h
  · exact ⟨List.mem_singleton.mp h, ‹_›⟩
  · cases h

/-- A response reaches the handler only for a request reqwest built, and it is the server's. -/
theorem Env.answer_eq_response {env : Env} {req : Request} {status : Nat} {body : Body}
    (h : env.answer req = .response status body) :
    req.builds env = true ∧ env.server req = .response status body := by
  unfold Env.answer at h; split at h
  · exact ⟨‹_›, h⟩
  · cases h

/-! ## Computations that keep part of the machine

`Keeps f p`: however `p` ends, the part `f` of the machine is what it was. Two parts are followed:
the requests sent (`NoSend`) and the world (`KeepsWorld`). -/

/-- A computation that keeps the part `f` of the machine, whatever machine it starts in and however
it ends. -/
def Keeps {α β : Type} (f : Machine → β) (p : Prog α) : Prop := ∀ m, f (machineOf (p m)) = f m

/-- A computation that sends no request. -/
abbrev NoSend {α : Type} (p : Prog α) : Prop := Keeps Machine.requests p

/-- A computation that leaves the world, the files and the keyring entry, as it found it. -/
abbrev KeepsWorld {α : Type} (p : Prog α) : Prop := Keeps (·.world) p

/-- A computation that only writes to standard output. -/
abbrev OutputOnly {α : Type} (p : Prog α) : Prop := Keeps (fun m => (m.world, m.requests)) p

section Keeps

variable {α β γ : Type} {f : Machine → γ}

theorem Keeps.bind {x : Prog α} {g : α → Prog β} (hx : Keeps f x) (hg : ∀ a, Keeps f (g a)) :
    Keeps f (x >>= g) := by
  intro m
  have hm := hx m
  simp only [Prog.run_bind]
  rcases h : x m with ⟨a, m'⟩ | ⟨e, m'⟩ <;> simp only [h, machineOf_ok, machineOf_error] at hm ⊢
  · rw [hg a m', hm]
  · exact hm

theorem Keeps.pure (a : α) : Keeps f (pure a : Prog α) := fun _ => rfl

theorem Keeps.fail (e : Error) : Keeps f (fail e : Prog α) := fun _ => rfl

theorem Keeps.panic : Keeps f (panic : Prog α) := fun _ => rfl

theorem Keeps.getWorld : Keeps f getWorld := fun _ => rfl

theorem Keeps.liftExcept (x : Except Error α) : Keeps f (liftExcept x) := by
  cases x <;> intro _ <;> rfl

theorem Keeps.ite {c : Prop} [Decidable c] {p q : Prog α} (hp : Keeps f p) (hq : Keeps f q) :
    Keeps f (if c then p else q) := by
  split <;> assumption

end Keeps

theorem NoSend.println (s : String) : NoSend (println s) := fun _ => rfl

theorem NoSend.print (s : String) : NoSend (print s) := fun _ => rfl

theorem NoSend.modifyWorld (g : World → World) : NoSend (modifyWorld g) := fun _ => rfl

theorem OutputOnly.println (s : String) : OutputOnly (println s) := fun _ => rfl

theorem OutputOnly.noSend {α : Type} {p : Prog α} (h : OutputOnly p) : NoSend p :=
  fun m => congrArg Prod.snd (h m)

theorem OutputOnly.keepsWorld {α : Type} {p : Prog α} (h : OutputOnly p) : KeepsWorld p :=
  fun m => congrArg Prod.fst (h m)

theorem KeepsWorld.send {α : Type} (env : Env) (call : Call α) : KeepsWorld (send env call) := by
  intro m; rw [send_run]; split <;> rfl

/-- Sending a call and then nothing else appends exactly its request, if reqwest builds it. -/
theorem send_bind_requests {α β : Type} (env : Env) (call : Call α) {f : α → Prog β}
    (hf : ∀ a, NoSend (f a)) (m : Machine) :
    (machineOf ((send env call >>= f) m)).requests = m.requests ++ env.sent call.request := by
  simp only [Prog.run_bind, send_run]
  cases call.handle (env.answer call.request) with
  | ok a => exact hf a _
  | error e => rfl

/-! ## How a computation can fail -/

/-- Every failure `p` can end in is one that `P` allows. -/
def FailsOnly {α : Type} (P : Fault → Prop) (p : Prog α) : Prop :=
  ∀ m f m', p m = .error f m' → P f

section FailsOnly

variable {α β : Type} {P : Fault → Prop}

theorem FailsOnly.bind {x : Prog α} {g : α → Prog β} (hx : FailsOnly P x)
    (hg : ∀ a, FailsOnly P (g a)) : FailsOnly P (x >>= g) := by
  intro m f m' h
  rw [Prog.run_bind] at h
  rcases hxm : x m with ⟨a, m₁⟩ | ⟨e, m₁⟩ <;> rw [hxm] at h
  · exact hg a m₁ f m' h
  · cases h; exact hx m _ _ hxm

theorem FailsOnly.println (s : String) : FailsOnly P (println s) := fun _ _ _ h => nomatch h

theorem FailsOnly.send (env : Env) {call : Call α}
    (hc : ∀ o e, call.handle o = .error e → P (.error e)) : FailsOnly P (send env call) := by
  intro m f m' h
  rw [send_run] at h
  split at h
  · cases h
  · rename_i e he
    cases h
    exact hc _ e he

theorem FailsOnly.ite {c : Prop} [Decidable c] {p q : Prog α} (hp : FailsOnly P p)
    (hq : FailsOnly P q) : FailsOnly P (if c then p else q) := by
  split <;> assumption

end FailsOnly

/-! ## Running an invocation -/

/-- How an invocation ends. -/
inductive Exit where
  | success
  | failure (e : Error)
  | panic
  deriving DecidableEq

/-- The exit status: `0`, `1` for an `Err` returned by `main`, `101` for a panic. -/
def Exit.code : Exit → Nat
  | .success => 0
  | .failure _ => 1
  | .panic => 101

/-- How a computation of `main` ends. -/
def exitOf : EStateM.Result Fault Machine Unit → Exit
  | .ok _ _ => .success
  | .error (.error e) _ => .failure e
  | .error .panic _ => .panic

/-- The machine an invocation starts in: the world as the previous one left it, no request sent
and nothing written. -/
def Machine.start (w : World) : Machine := ⟨w, [], []⟩

@[simp] theorem Machine.start_world (w : World) : (Machine.start w).world = w := rfl

@[simp] theorem Machine.start_requests (w : World) : (Machine.start w).requests = [] := rfl

@[simp] theorem Machine.start_stdout (w : World) : (Machine.start w).stdout = [] := rfl

end TodoCli
