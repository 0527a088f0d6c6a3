import TodoCli.Settings

/-!
# What is read from standard input

Two commands read a line of standard input with `read_line`, which fails when the read fails or
when the line is not UTF-8. The delete confirmation propagates that failure with `?`
(`main.rs:175`): no request is sent and the invocation fails, rather than cancelling
(`delete_confirmation`). The password prompt `unwrap`s it, a panic (`passwordOf_run`), and
trims the line it read (`main.rs:219`), so a password typed at the prompt loses its leading and
trailing whitespace, where `--password` sends it as given (`prompt_password_trimmed`).
-/

namespace TodoCli

/-! ## The delete confirmation -/

/-- The delete and its report, run: the request sent if reqwest builds it, and the report printed
when the handler accepts the answer. -/
theorem deleteAndReport_run (env : Env) (client : ApiClient) (id : I64) (m : Machine) :
    deleteAndReport env client id m =
      let sent := { m with requests := m.requests ++ env.sent (client.deleteTodo id).request }
      match (client.deleteTodo id).handle (env.answer (client.deleteTodo id).request) with
      | .ok _ =>
        .ok () { sent with
          stdout := sent.stdout ++ ["✅ Todo #" ++ toString id.val ++ " deleted successfully!" ++ "\n"] }
      | .error e => .error (.error e) sent := by
  simp only [deleteAndReport, Prog.run_bind, send_run]
  cases (client.deleteTodo id).handle (env.answer (client.deleteTodo id).request) <;> rfl

/-- A delete without `--force`, once the settings load, prints its question and reads a line.
When no line can be read it sends nothing, prints nothing more and fails; on a trimmed `y` or `Y`
it sends the table's `DELETE` and reports the delete if it succeeds; on any other line it prints
`Cancelled.`, sends nothing and succeeds. -/
theorem delete_confirmation (toml : Toml) (env : Env) (args : Args) (w : World) (id : I64)
    (hcmd : args.command = .delete id false) (hload : ∃ config, Config.load toml env w = .ok config) :
    match readLine env.stdin with
    | none =>
      (invoke toml env args w).1.requests = [] ∧ (invoke toml env args w).2 = .failure .library ∧
        (invoke toml env args w).1.stdout = [deleteQuestion id ++ "\n"]
    | some line =>
      if trim line = "y" ∨ trim line = "Y" then
        (invoke toml env args w).1.requests =
            tableRequests env (trimEndMatches (Cli.parse env args).url '/')
              (Config.loadTokenFromKeyring env w) "" args.command ∧
          (invoke toml env args w).1.stdout = (deleteQuestion id ++ "\n") ::
            if (invoke toml env args w).2 = .success then
              ["✅ Todo #" ++ toString id.val ++ " deleted successfully!" ++ "\n"]
            else []
      else
        (invoke toml env args w).1.requests = [] ∧ (invoke toml env args w).2 = .success ∧
          (invoke toml env args w).1.stdout = [deleteQuestion id ++ "\n", "Cancelled.\n"] := by
  obtain ⟨config, hc⟩ := hload
  obtain ⟨path, apiUrl, -, -, rfl⟩ := Config.load_eq_ok.mp hc
  rw [invoke_of_load_ok toml env args w _ hc]
  simp only [dispatch, Cli.parse, hcmd, deleteArm_run, Bool.false_eq_true, if_false]
  cases readLine env.stdin with
  | none => exact ⟨rfl, rfl, rfl⟩
  | some line =>
    simp only [← eqIgnoreAsciiCase_y]
    by_cases hy : eqIgnoreAsciiCase (trim line) "y" = true
    · simp only [hy, ite_true, deleteAndReport_run]
      split
      · exact ⟨rfl, rfl⟩
      · exact ⟨rfl, by simp [exitOf]⟩
    · simp only [hy, Bool.false_eq_true, ite_false]
      exact ⟨rfl, rfl, rfl⟩

/-- The surroundings of `quietEnv` with the bytes `bs` on standard input. -/
def typedEnv (bs : List UInt8) : Env := { quietEnv with stdin := .bytes bs }

/-- Typing `n` cancels the delete of task 7. -/
theorem delete_confirmation_n :
    (invoke basicToml (typedEnv [0x6E, 0x0A]) ⟨none, none, .delete ⟨7, by decide⟩ false⟩
        ⟨fun _ => none, none⟩).1.requests = [] ∧
      (invoke basicToml (typedEnv [0x6E, 0x0A]) ⟨none, none, .delete ⟨7, by decide⟩ false⟩
        ⟨fun _ => none, none⟩).2 = .success ∧
      (invoke basicToml (typedEnv [0x6E, 0x0A]) ⟨none, none, .delete ⟨7, by decide⟩ false⟩
        ⟨fun _ => none, none⟩).1.stdout =
        [deleteQuestion ⟨7, by decide⟩ ++ "\n", "Cancelled.\n"] :=
  delete_confirmation basicToml (typedEnv [0x6E, 0x0A]) _ _ _ rfl ⟨_, rfl⟩

/-- A line that is not UTF-8 does not cancel the delete: the invocation sends nothing, prints no
`Cancelled.` and fails, with exit status 1. -/
theorem delete_unreadable_fails :
    (invoke basicToml (typedEnv [0xFF, 0x0A]) ⟨none, none, .delete ⟨7, by decide⟩ false⟩
        ⟨fun _ => none, none⟩).1.requests = [] ∧
      (invoke basicToml (typedEnv [0xFF, 0x0A]) ⟨none, none, .delete ⟨7, by decide⟩ false⟩
        ⟨fun _ => none, none⟩).1.stdout = [deleteQuestion ⟨7, by decide⟩ ++ "\n"] ∧
      (invoke basicToml (typedEnv [0xFF, 0x0A]) ⟨none, none, .delete ⟨7, by decide⟩ false⟩
        ⟨fun _ => none, none⟩).2.code = 1 :=
  ⟨rfl, rfl, rfl⟩

/-! ## The password prompt -/

/-- A login or registration whose settings load sends one request: the table's for the password
it obtained, from `--password` or from the prompt. -/
theorem invoke_authenticate_requests (toml : Toml) (env : Env) (w : World) (url format : Option String)
    (auth : String → Option String → AuthCommands) (hauth : auth = .login ∨ auth = .register)
    (email : String) (password : Option String) (q : String)
    (hq : password = some q ∨ (password = none ∧ (readLine env.stdin).map trim = some q))
    (hload : ∃ config, Config.load toml env w = .ok config) :
    (invoke toml env ⟨url, format, .auth (auth email password)⟩ w).1.requests =
      tableRequests env (trimEndMatches ((url <|> env.todoApiUrl).getD defaultUrl) '/')
        (Config.loadTokenFromKeyring env w) "" (.auth (auth email (some q))) := by
  obtain ⟨config, hc⟩ := hload
  obtain ⟨path, apiUrl, -, -, rfl⟩ := Config.load_eq_ok.mp hc
  rw [invoke_of_load_ok toml env _ w _ hc]
  rcases hq with rfl | ⟨rfl, hq⟩
  · rcases hauth with rfl | rfl <;>
      simp only [dispatch, Cli.parse, Prog.run_bind, passwordOf_run, Auth.login, Auth.register,
        Auth.authenticate_requests, Machine.start_requests, List.nil_append] <;> rfl
  · cases h : readLine env.stdin with
    | none => rw [h] at hq; cases hq
    | some line =>
      rw [h] at hq; cases hq
      rcases hauth with rfl | rfl <;>
        simp only [dispatch, Cli.parse, Prog.run_bind, passwordOf_run, h, Auth.login, Auth.register,
          Auth.authenticate_requests, Machine.start_requests, List.nil_append] <;> rfl

/-- A password `p` typed at the prompt of `auth login` or `auth register`, then a newline, is sent
as `trim p`: the request is the one `--password (trim p)` sends, where `--password p` sends `p`. -/
theorem prompt_password_trimmed (toml : Toml) (env : Env) (w : World) (url format : Option String)
    (auth : String → Option String → AuthCommands) (hauth : auth = .login ∨ auth = .register)
    (email p : String) (more : List UInt8) (hp : '\n' ∉ p.data)
    (hstdin : env.stdin = .bytes (utf8Bytes p ++ 0x0A :: more))
    (hload : ∃ config, Config.load toml env w = .ok config) :
    (invoke toml env ⟨url, format, .auth (auth email none)⟩ w).1.requests =
        tableRequests env (trimEndMatches ((url <|> env.todoApiUrl).getD defaultUrl) '/')
          (Config.loadTokenFromKeyring env w) "" (.auth (auth email (some (trim p)))) ∧
      (invoke toml env ⟨url, format, .auth (auth email (some p))⟩ w).1.requests =
        tableRequests env (trimEndMatches ((url <|> env.todoApiUrl).getD defaultUrl) '/')
          (Config.loadTokenFromKeyring env w) "" (.auth (auth email (some p))) := by
  have hline : (readLine env.stdin).map trim = some (trim p) := by
    rw [hstdin, readLine_typed hp, Option.map_some', trim_append_whitespace p '\n' rfl]
  exact ⟨invoke_authenticate_requests toml env w url format auth hauth email none _ (.inr ⟨rfl, hline⟩) hload,
    invoke_authenticate_requests toml env w url format auth hauth email _ _ (.inl rfl) hload⟩

/-- The password ` pw` typed at the prompt is sent as `pw`; given with `--password` it is sent as
` pw`. -/
theorem prompt_password_trimmed_pw :
    (invoke basicToml (typedEnv (utf8Bytes " pw" ++ [0x0A])) ⟨none, none, .auth (.login "e" none)⟩
        ⟨fun _ => none, none⟩).1.requests =
        [⟨.post, "http://localhost:8080/api/v1/auth/login", none, some (credentialsBody "e" "pw")⟩] ∧
      (invoke basicToml (typedEnv (utf8Bytes " pw" ++ [0x0A])) ⟨none, none, .auth (.login "e" (some " pw"))⟩
        ⟨fun _ => none, none⟩).1.requests =
        [⟨.post, "http://localhost:8080/api/v1/auth/login", none, some (credentialsBody "e" " pw")⟩] :=
  prompt_password_trimmed basicToml (typedEnv (utf8Bytes " pw" ++ [0x0A])) _ none none _ (.inl rfl) "e" " pw" []
    (by decide) rfl ⟨_, rfl⟩

/-- A login or registration without `--password` whose standard input cannot be read panics at
the prompt, exit status 101, having sent nothing and changed nothing. -/
theorem prompt_unreadable_panics (toml : Toml) (env : Env) (args : Args) (w : World)
    (auth : String → Option String → AuthCommands) (hauth : auth = .login ∨ auth = .register)
    (email : String) (hcmd : args.command = .auth (auth email none))
    (hstdin : readLine env.stdin = none) (hload : ∃ config, Config.load toml env w = .ok config) :
    (invoke toml env args w).2 = .panic ∧ (invoke toml env args w).1.requests = [] ∧
      (invoke toml env args w).1.world = w := by
  obtain ⟨config, hc⟩ := hload
  rw [invoke_of_load_ok toml env args w config hc]
  rcases hauth with rfl | rfl <;>
    simp only [dispatch, Cli.parse, hcmd, Prog.run_bind, passwordOf_run, hstdin] <;>
    exact ⟨rfl, rfl, rfl⟩

end TodoCli
