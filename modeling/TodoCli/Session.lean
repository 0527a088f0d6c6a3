import TodoCli.Effects

/-!
# The session: the token across invocations

The token a login obtains outlives the invocation, in the keyring entry; each later invocation
loads it at start-up (`Config::load`) and sends it with every task request. This module follows
the entry along a trace of invocations: which header each request carries
(`invoke_authorization`), what a login or a registration leaves in the entry (`login_keyring`),
and, over a whole trace, where a token in the entry can have come from (`trace_keyring_granted`),
from what one invocation can do to it (`Outcome.keyring`).

`clear_token` discards the result of `delete_credential`, with the comment "Ignore error if token
doesn't exist" (`config.rs:76`); every other failure of the delete is discarded too, so `auth
logout` reports success and the token stays (`logout_keeps_token`).
-/

namespace TodoCli

/-! ## Headers -/

theorem Config.loadTokenFromKeyring_eq_some {env : Env} {w : World} {t : String}
    (h : Config.loadTokenFromKeyring env w = some t) : w.keyring = some t := by
  unfold Config.loadTokenFromKeyring at h; split_ifs at h; exact h

/-- The table's requests carry no header, or the loaded token's. -/
theorem wireRequest_authorization (B : String) (t : Option String) (entered : String)
    (c : Commands) : ∀ req ∈ (wireRequest B t entered c).toList,
      req.authorization = none ∨ req.authorization = bearer t := by
  cases c
  case auth a => cases a <;> simp [wireRequest]
  all_goals simp [wireRequest]

/-- Every request an invocation sends carries no `Authorization` header, or `Bearer t` for the
token `t` the keyring entry held when the invocation started. -/
theorem invoke_authorization (toml : Toml) (env : Env) (args : Args) (w : World) :
    ∀ req ∈ (invoke toml env args w).1.requests,
      req.authorization = none ∨ ∃ t, w.keyring = some t ∧ req.authorization = some ("Bearer " ++ t) := by
  intro req hreq
  obtain ⟨hw, -⟩ := invoke_requests_mem toml env args w req hreq
  rcases wireRequest_authorization _ _ _ _ req (Option.mem_toList.mpr hw) with h | h
  · exact .inl h
  · cases ht : Config.loadTokenFromKeyring env w with
    | none => exact .inl (by rw [h, ht]; rfl)
    | some t => exact .inr ⟨t, Config.loadTokenFromKeyring_eq_some ht, by rw [h, ht]; rfl⟩

/-! ## The keyring entry, one invocation -/

/-- A login or a registration that succeeds leaves in the keyring entry a token the server
granted in answer to its request; one that fails, for any reason, leaves the entry as it was. -/
theorem login_keyring (toml : Toml) (env : Env) (args : Args) (w : World)
    (auth : String → Option String → AuthCommands) (hauth : auth = .login ∨ auth = .register)
    (email : String) (password : Option String) (hcmd : args.command = .auth (auth email password)) :
    ((invoke toml env args w).2 = .success →
      ∃ t, (∃ req ∈ (invoke toml env args w).1.requests, Grants env req t) ∧
        (invoke toml env args w).1.world.keyring = some t) ∧
    ((invoke toml env args w).2 ≠ .success → (invoke toml env args w).1.world.keyring = w.keyring) := by
  have hc : args.command.change = .storeToken := by rcases hauth with rfl | rfl <;> rw [hcmd] <;> rfl
  have h := invoke_outcome toml env args w
  rw [hc] at h
  refine ⟨fun hs => ?_, fun hs => by rw [show (invoke toml env args w).1.world = w from h.failed hs]⟩
  rcases h.succeeded hs with ⟨t, hg, hw⟩ | ⟨hne, -⟩
  · exact ⟨t, hg, by rw [hw]⟩
  · cases hne

/-- A server that grants the token `s` to every request. -/
def grantingEnv : Env :=
  { quietEnv with server := fun _ => .response 200 (.json (.object [("token", .string "s")])) }

theorem login_keyring_granted :
    ∃ t, (∃ req ∈ (invoke basicToml grantingEnv ⟨none, none, .auth (.login "e" (some "pw"))⟩
          ⟨fun _ => none, none⟩).1.requests, Grants grantingEnv req t) ∧
      (invoke basicToml grantingEnv ⟨none, none, .auth (.login "e" (some "pw"))⟩
          ⟨fun _ => none, none⟩).1.world.keyring = some t :=
  (login_keyring basicToml grantingEnv _ _ _ (.inl rfl) "e" _ rfl).1 rfl

/-! ## Along a trace -/

/-- Every step of a trace is an invocation from the world the step records. -/
theorem mem_trace {toml : Toml} :
    ∀ {xs : List (Env × Args)} {w : World} {s : Step}, s ∈ trace toml xs w →
      (s.after, s.exit) = invoke toml s.env s.args s.before
  | [], _, _, h => absurd h (List.not_mem_nil _)
  | (env, args) :: rest, w, s, h => by
    rcases List.mem_cons.mp h with rfl | h
    · rfl
    · exact mem_trace h

/-- Along a trace, every request carries no `Authorization` header, or `Bearer t` for the token
`t` the keyring entry held when its invocation started. -/
theorem trace_authorization (toml : Toml) (xs : List (Env × Args)) (w : World) :
    ∀ s ∈ trace toml xs w, ∀ req ∈ s.after.requests,
      req.authorization = none ∨
        ∃ t, s.before.keyring = some t ∧ req.authorization = some ("Bearer " ++ t) := by
  intro s hs
  rw [show s.after = (invoke toml s.env s.args s.before).1 from congrArg Prod.fst (mem_trace hs)]
  exact invoke_authorization toml s.env s.args s.before

theorem trace_authorization_list :
    let list : Args := ⟨none, none, .list none⟩
    let w : World := ⟨fun _ => none, some "t"⟩
    let step : Step := ⟨quietEnv, list, w, (invoke basicToml quietEnv list w).1,
      (invoke basicToml quietEnv list w).2⟩
    let req := ((ApiClient.new defaultUrl (some "t")).listTodos none).request
    req.authorization = none ∨
      ∃ t, step.before.keyring = some t ∧ req.authorization = some ("Bearer " ++ t) := by
  intro list w step req
  exact trace_authorization basicToml [(quietEnv, list)] w step (List.mem_singleton_self _) req
    (List.mem_singleton_self _)

/-- Along a trace, the keyring entry an invocation starts from holds what it held when the trace
began, nothing, or a token the server granted in answer to a request of an earlier invocation. -/
theorem trace_keyring_granted (toml : Toml) :
    ∀ (xs : List (Env × Args)) (w : World) (pre : List Step) (s : Step) (post : List Step),
      trace toml xs w = pre ++ s :: post →
      s.before.keyring = w.keyring ∨ s.before.keyring = none ∨
        ∃ t, s.before.keyring = some t ∧ ∃ s' ∈ pre, ∃ req ∈ s'.after.requests, Grants s'.env req t := by
  intro xs w pre s post h
  have h := trace_induction toml
    (fun done w' => w'.keyring = w.keyring ∨ w'.keyring = none ∨
      ∃ t, w'.keyring = some t ∧ ∃ s' ∈ done, ∃ req ∈ s'.after.requests, Grants s'.env req t)
    (fun done env args w₀ ih => by
      rcases (invoke_outcome toml env args w₀).keyring with hk | ⟨-, hk⟩ | ⟨t, hk, hg⟩
      · rw [hk]
        rcases ih with h | h | ⟨t, ht, s', hs', hg⟩
        · exact .inl h
        · exact .inr (.inl h)
        · exact .inr (.inr ⟨t, ht, s', List.mem_append_left _ hs', hg⟩)
      · exact .inr (.inl hk)
      · exact .inr (.inr ⟨t, hk, _, List.mem_append_right _ (List.mem_singleton_self _), hg⟩))
    xs [] w pre s post (.inl rfl) h
  simpa using h

/-- A login, then a listing: the entry the listing starts from holds what the trace began with,
nothing, or the token the login was granted. -/
theorem trace_keyring_granted_login :
    let login : Args := ⟨none, none, .auth (.login "e" (some "pw"))⟩
    let w : World := ⟨fun _ => none, none⟩
    let w₁ := (invoke basicToml grantingEnv login w).1
    let step₁ : Step := ⟨grantingEnv, login, w, w₁, (invoke basicToml grantingEnv login w).2⟩
    w₁.world.keyring = w.keyring ∨ w₁.world.keyring = none ∨
      ∃ t, w₁.world.keyring = some t ∧ ∃ s' ∈ [step₁], ∃ req ∈ s'.after.requests, Grants s'.env req t := by
  intro login w w₁ step₁
  let list : Args := ⟨none, none, .list none⟩
  exact trace_keyring_granted basicToml [(grantingEnv, login), (quietEnv, list)] w [step₁]
    ⟨quietEnv, list, w₁.world, (invoke basicToml quietEnv list w₁.world).1,
      (invoke basicToml quietEnv list w₁.world).2⟩ [] rfl

/-! ## Logging out -/

/-- A logout whose keyring entry is created but whose delete fails reports success and leaves the
entry as it was. -/
theorem logout_keeps_token (toml : Toml) (env : Env) (args : Args) (w : World)
    (hcmd : args.command = .auth .logout) (hload : ∃ config, Config.load toml env w = .ok config)
    (hentry : env.keyringOk .entryForClear = true)
    (hdelete : env.keyringOk .deleteCredential = false) :
    (invoke toml env args w).2 = .success ∧ (invoke toml env args w).1.world.keyring = w.keyring := by
  obtain ⟨config, hc⟩ := hload
  simp only [invoke, main, Prog.run_bind, getWorld_run, Machine.start_world, hc, liftExcept_ok,
    Prog.run_pure, dispatch, Cli.parse, hcmd]
  simp [Auth.logout, hentry, hdelete, exitOf, Machine.start]

/-- The surroundings of a logout whose delete the platform's store refuses. -/
def deleteRefused : Env := { quietEnv with keyringOk := fun call => call != .deleteCredential }

theorem logout_keeps_token_refused :
    (invoke basicToml deleteRefused ⟨none, none, .auth .logout⟩ ⟨fun _ => none, some "t"⟩).2 = .success ∧
      (invoke basicToml deleteRefused ⟨none, none, .auth .logout⟩ ⟨fun _ => none, some "t"⟩).1.world.keyring =
        some "t" :=
  logout_keeps_token basicToml deleteRefused _ _ rfl ⟨_, rfl⟩ rfl rfl

end TodoCli
