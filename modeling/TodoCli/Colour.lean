import TodoCli.Model.Main

/-!
# Colour changes nothing but escape sequences

The `colored` crate paints a string only when colouring is on (`Env.colorize`). A painted string is
the style's SGR sequence, the text with the sequence repeated after every reset inside it, and a
reset (`Display for ColoredString`). `invoke_colour_cosmetic` states what this means for a whole
invocation. With colouring off, the same invocation sends the same requests, leaves the same world
and exits the same way. It writes as many lines, and each line of the coloured run is the line of
the plain run with some of its segments painted in this way (`PaintedLine`), which a terminal
shows as the same text.

The proof follows `Secrecy`. `paint_painted` is the one place where colouring acts; the line lemmas
carry it through the lines `print_todos` and `print_todo` write, and `UpToColour p₁ p₂` relates each
piece of `main` with colouring on to the same piece with colouring off.
-/

namespace TodoCli

/-! ## Painted text -/

/-- An SGR escape sequence, `ESC [ parameters m`. -/
def sgrSequence (ps : List Char) : List Char := '\x1b' :: '[' :: (ps ++ ['m'])

/-- `Painted s t`: the text `s` is the text `t` with some of its segments painted: a segment `seg`
of `t` stands in `s` as the style's sequence, `seg` with that sequence again after each reset in it,
and a reset. -/
inductive Painted : List Char → List Char → Prop
  | nil : Painted [] []
  | cons (c : Char) {s t : List Char} : Painted s t → Painted (c :: s) (c :: t)
  | paint (p : Paint) (seg : List Char) {s t : List Char} : Painted s t →
      Painted (sgrSequence p.code.data ++ escapeInnerResets (sgrSequence p.code.data) seg ++
        sgrSequence ['0'] ++ s) (seg ++ t)

namespace Painted

theorem refl : ∀ t : List Char, Painted t t
  | [] => .nil
  | c :: t => .cons c (refl t)

theorem append {s t s' t' : List Char} (h : Painted s t) (h' : Painted s' t') :
    Painted (s ++ s') (t ++ t') := by
  induction h with
  | nil => exact h'
  | cons c _ ih => exact .cons c ih
  | paint p seg _ ih => simpa only [List.append_assoc] using Painted.paint p seg ih

end Painted

/-- A line `a` that is the line `b` with some of its segments painted. -/
def PaintedLine (a b : String) : Prop := Painted a.data b.data

namespace PaintedLine

theorem refl (a : String) : PaintedLine a a := Painted.refl _

theorem append {a b a' b' : String} (h : PaintedLine a b) (h' : PaintedLine a' b') :
    PaintedLine (a ++ a') (b ++ b') := by
  unfold PaintedLine; rw [String.data_append, String.data_append]; exact Painted.append h h'

theorem ite {c : Prop} [Decidable c] {a b a' b' : String} (h : PaintedLine a b)
    (h' : PaintedLine a' b') : PaintedLine (if c then a else a') (if c then b else b') := by
  split <;> assumption

end PaintedLine

/-- With colouring on, `paint` paints the whole text; with colouring off it is the text. -/
theorem paint_painted (env : Env) (p : Paint) (s : String) :
    PaintedLine (paint env p s) (paint { env with colorize := false } p s) := by
  unfold paint PaintedLine
  split
  · simpa [sgrSequence] using Painted.paint p s.data .nil
  · exact Painted.refl _

/-! ## The lines the program writes -/

section Lines

variable (env : Env)

/-- `print_todo_line` paints the status mark, the id, and the title of a completed task. -/
theorem todoLine_painted (todo : Todo) :
    PaintedLine (todoLine env todo) (todoLine { env with colorize := false } todo) :=
  (((((PaintedLine.refl _).append (.ite (paint_painted ..) (paint_painted ..))).append
    (.refl _)).append (paint_painted ..)).append (.refl _)).append (.ite (paint_painted ..) (.refl _))

theorem todosLines_painted (todos : List Todo) (format : String) :
    List.Forall₂ PaintedLine (todosLines env todos format)
      (todosLines { env with colorize := false } todos format) := by
  unfold todosLines
  split_ifs
  · exact .cons (.refl _) .nil
  · exact .cons (paint_painted ..) .nil
  · refine .cons (paint_painted ..) (.cons (.refl _) ?_)
    exact List.forall₂_map_left_iff.2 (List.forall₂_map_right_iff.2
      (List.forall₂_same.2 fun todo _ => todoLine_painted env todo))

theorem todoBlock_painted (todo : Todo) (format : String) :
    List.Forall₂ PaintedLine (todoBlock env todo format)
      (todoBlock { env with colorize := false } todo format) := by
  unfold todoBlock
  by_cases h : format = "json"
  · rw [if_pos h, if_pos h]; exact .cons (.refl _) .nil
  · rw [if_neg h, if_neg h]
    have field (p : Paint) (s sep : String) {a b : String} (hab : PaintedLine a b) :
        PaintedLine ("  " ++ paint env p s ++ sep ++ a)
          ("  " ++ paint { env with colorize := false } p s ++ sep ++ b) :=
      (((PaintedLine.refl _).append (paint_painted ..)).append (.refl _)).append hab
    have rule := paint_painted env .dimmed ⟨List.replicate 40 '─'⟩
    exact .cons rule <| .cons (field _ _ _ (.refl _)) <| .cons (field _ _ _ (.refl _)) <|
      .cons (field _ _ _ (.ite (paint_painted ..) (paint_painted ..))) <|
      .cons (field _ _ _ (.refl _)) <| .cons (field _ _ _ (.refl _)) <| .cons rule .nil

end Lines

/-! ## Runs alike up to colour -/

/-- Two machines alike up to colour: the same world and requests, and as many lines written, each
line of the first the line of the second with some of its segments painted. -/
structure Machine.UpToColour (m₁ m₂ : Machine) : Prop where
  world : m₁.world = m₂.world
  requests : m₁.requests = m₂.requests
  stdout : List.Forall₂ PaintedLine m₁.stdout m₂.stdout

theorem Machine.UpToColour.modifyWorld {m₁ m₂ : Machine} (h : m₁.UpToColour m₂)
    (f : World → World) :
    Machine.UpToColour { m₁ with world := f m₁.world } { m₂ with world := f m₂.world } :=
  ⟨congrArg f h.world, h.requests, h.stdout⟩

theorem Machine.UpToColour.append {m₁ m₂ : Machine} (h : m₁.UpToColour m₂) {L₁ L₂ : List String}
    (hL : List.Forall₂ PaintedLine L₁ L₂) :
    Machine.UpToColour { m₁ with stdout := m₁.stdout ++ L₁ }
      { m₂ with stdout := m₂.stdout ++ L₂ } :=
  ⟨h.world, h.requests, List.rel_append h.stdout hL⟩

/-- Two results with the same value or the same failure, in machines alike up to colour. -/
def ResultUpToColour {α : Type} :
    EStateM.Result Fault Machine α → EStateM.Result Fault Machine α → Prop
  | .ok a₁ m₁, .ok a₂ m₂ => a₁ = a₂ ∧ m₁.UpToColour m₂
  | .error e₁ m₁, .error e₂ m₂ => e₁ = e₂ ∧ m₁.UpToColour m₂
  | _, _ => False

/-- Results alike up to colour end an invocation alike up to colour. -/
theorem ResultUpToColour.exit {r₁ r₂ : EStateM.Result Fault Machine Unit}
    (h : ResultUpToColour r₁ r₂) :
    (machineOf r₁).UpToColour (machineOf r₂) ∧ exitOf r₁ = exitOf r₂ := by
  rcases r₁ with ⟨_, m₁⟩ | ⟨e₁, m₁⟩ <;> rcases r₂ with ⟨_, m₂⟩ | ⟨e₂, m₂⟩
  · exact ⟨h.2, rfl⟩
  · exact h.elim
  · exact h.elim
  · obtain ⟨rfl, h⟩ := h
    exact ⟨h, by cases e₁ <;> rfl⟩

/-- Two computations that, from machines alike up to colour, end alike up to colour. -/
def UpToColour {α : Type} (p₁ p₂ : Prog α) : Prop :=
  ∀ m₁ m₂, m₁.UpToColour m₂ → ResultUpToColour (p₁ m₁) (p₂ m₂)

section UpToColour

variable {α β : Type}

theorem UpToColour.bind {x₁ x₂ : Prog α} {f₁ f₂ : α → Prog β} (hx : UpToColour x₁ x₂)
    (hf : ∀ a, UpToColour (f₁ a) (f₂ a)) : UpToColour (x₁ >>= f₁) (x₂ >>= f₂) := by
  intro m₁ m₂ h
  have hr := hx m₁ m₂ h
  simp only [Prog.run_bind]
  revert hr
  rcases x₁ m₁ with ⟨a₁, m₁'⟩ | ⟨e₁, m₁'⟩ <;> rcases x₂ m₂ with ⟨a₂, m₂'⟩ | ⟨e₂, m₂'⟩ <;> intro hr
  · obtain ⟨rfl, h'⟩ := hr
    exact hf a₁ _ _ h'
  · exact hr.elim
  · exact hr.elim
  · exact hr

theorem UpToColour.ite {c : Prop} [Decidable c] {p₁ p₂ q₁ q₂ : Prog α} (hp : UpToColour p₁ p₂)
    (hq : UpToColour q₁ q₂) : UpToColour (if c then p₁ else q₁) (if c then p₂ else q₂) := by
  split <;> assumption

theorem UpToColour.pure (a : α) : UpToColour (pure a : Prog α) (pure a) := fun _ _ h => ⟨rfl, h⟩

theorem UpToColour.panic : UpToColour (panic : Prog α) panic := fun _ _ h => ⟨rfl, h⟩

/-- Two computations that only append lines, alike up to colour. -/
theorem UpToColour.appends {p₁ p₂ : Prog α} {a : α} {L₁ L₂ : List String}
    (h₁ : ∀ m, p₁ m = .ok a { m with stdout := m.stdout ++ L₁ })
    (h₂ : ∀ m, p₂ m = .ok a { m with stdout := m.stdout ++ L₂ })
    (hL : List.Forall₂ PaintedLine L₁ L₂) : UpToColour p₁ p₂ := by
  intro m₁ m₂ h
  rw [h₁, h₂]
  exact ⟨rfl, h.append hL⟩

theorem UpToColour.println {s₁ s₂ : String} (hs : PaintedLine s₁ s₂) :
    UpToColour (println s₁) (println s₂) :=
  .appends (fun _ => rfl) (fun _ => rfl) (.cons (hs.append (.refl _)) .nil)

theorem UpToColour.print (s : String) : UpToColour (print s) (print s) :=
  .appends (fun _ => rfl) (fun _ => rfl) (.cons (.refl _) .nil)

theorem UpToColour.send (env : Env) (call : Call α) :
    UpToColour (send env call) (send env call) := by
  intro m₁ m₂ h
  rw [send_run, send_run]
  cases call.handle (env.answer call.request) <;>
    exact ⟨rfl, h.world, congrArg (· ++ _) h.requests, h.stdout⟩

end UpToColour

/-! ## The pieces of `main` -/

section Pieces

variable (toml : Toml) (env : Env)

theorem Config.setToken_upToColour (token : String) :
    UpToColour (Config.setToken env token)
      (Config.setToken { env with colorize := false } token) := by
  intro m₁ m₂ h
  simp only [Config.setToken_run]
  split_ifs
  · exact ⟨rfl, h.modifyWorld ({ · with keyring := some token })⟩
  all_goals exact ⟨rfl, h⟩

theorem Config.clearToken_upToColour :
    UpToColour (Config.clearToken env) (Config.clearToken { env with colorize := false }) := by
  intro m₁ m₂ h
  simp only [Config.clearToken_run]
  split_ifs
  · exact ⟨rfl, h.modifyWorld ({ · with keyring := none })⟩
  all_goals exact ⟨rfl, h⟩

theorem Config.save_upToColour (config : Config) :
    UpToColour (Config.save toml env config)
      (Config.save toml { env with colorize := false } config) := by
  intro m₁ m₂ h
  cases hc : config.configPath with
  | none => unfold Config.save; rw [hc]; exact ⟨rfl, h⟩
  | some path =>
    rw [Config.save_run toml _ config path hc, Config.save_run toml _ config path hc]
    split_ifs
    · cases env.write with
      | written => exact ⟨rfl, h.modifyWorld (·.writeFile path _)⟩
      | notCreated => exact ⟨rfl, h⟩
      | cutShort k => exact ⟨rfl, h.modifyWorld (·.writeFile path _)⟩
    · exact ⟨rfl, h⟩

theorem Config.print_upToColour (config : Config) : UpToColour config.print config.print :=
  .bind (.println (.refl _)) fun _ => .bind (.println (.refl _)) fun _ =>
    .bind (.println (.refl _)) fun _ => .println (.refl _)

theorem passwordOf_upToColour (password : Option String) :
    UpToColour (passwordOf env password) (passwordOf { env with colorize := false } password) := by
  rcases password with _ | p
  · refine .bind (.print _) fun _ => ?_
    dsimp only
    cases readLine env.stdin
    · exact .panic
    · exact .pure _
  · exact .pure _

/-- A login or a registration paints its report of success, and no other line. -/
theorem Auth.authenticate_upToColour (announce : String) (call : Call AuthResponse)
    (success follow : String) :
    UpToColour (Auth.authenticate env announce call success follow)
      (Auth.authenticate { env with colorize := false } announce call success follow) :=
  .bind (.println (.refl _)) fun _ => .bind (.send _ _) fun _ =>
    .bind (Config.setToken_upToColour env _) fun _ => .bind (.println (paint_painted ..)) fun _ =>
      .println (.refl _)

theorem Auth.status_upToColour (config : Config) :
    UpToColour (Auth.status env config) (Auth.status { env with colorize := false } config) :=
  .ite (.bind (.println (paint_painted ..)) fun _ => .println (.refl _))
    (.bind (.println (paint_painted ..)) fun _ => .println (.refl _))

theorem deleteArm_upToColour (client : ApiClient) (id : I64) (force : Bool) :
    UpToColour (deleteArm env client id force)
      (deleteArm { env with colorize := false } client id force) := by
  have hd : UpToColour (deleteAndReport env client id)
      (deleteAndReport { env with colorize := false } client id) :=
    .bind (.send _ _) fun _ => .println (.refl _)
  intro m₁ m₂ h
  rw [deleteArm_run, deleteArm_run]
  split_ifs
  · exact hd m₁ m₂ h
  · dsimp only
    cases readLine env.stdin with
    | none => exact ⟨rfl, h.append (.cons (.refl _) .nil)⟩
    | some input =>
      dsimp only
      split_ifs
      · exact hd _ _ (h.append (.cons (.refl _) .nil))
      · exact ⟨rfl, (h.append (.cons (.refl _) .nil)).append (.cons (.refl _) .nil)⟩

theorem printTodo_upToColour (todo : Todo) (format : String) :
    UpToColour (printTodo env todo format) (printTodo { env with colorize := false } todo format) :=
  .appends (printTodo_run env todo format) (printTodo_run _ todo format)
    (List.forall₂_map_left_iff.2 (List.forall₂_map_right_iff.2
      ((todoBlock_painted env todo format).imp fun _ _ h => h.append (.refl _))))

theorem printTodos_upToColour (todos : List Todo) (format : String) :
    UpToColour (printTodos env todos format)
      (printTodos { env with colorize := false } todos format) :=
  .appends (printTodos_run env todos format) (printTodos_run _ todos format)
    (List.forall₂_map_left_iff.2 (List.forall₂_map_right_iff.2
      ((todosLines_painted env todos format).imp fun _ _ h => h.append (.refl _))))

/-- Every arm of the dispatcher, with colouring on and off. -/
theorem dispatch_upToColour (cli : Cli) (config : Config) (client : ApiClient) :
    UpToColour (dispatch toml env cli config client)
      (dispatch toml { env with colorize := false } cli config client) := by
  rcases cli with ⟨url, format, cmd⟩
  have printed : ∀ todo (s : String),
      UpToColour (printTodo env todo format >>= fun _ => println s)
        (printTodo { env with colorize := false } todo format >>= fun _ => println s) :=
    fun _ _ => .bind (printTodo_upToColour env _ _) fun _ => .println (.refl _)
  cases cmd with
  | auth c =>
    cases c with
    | login email password =>
      exact .bind (passwordOf_upToColour env password) fun _ =>
        Auth.authenticate_upToColour env _ _ _ _
    | register email password =>
      exact .bind (passwordOf_upToColour env password) fun _ =>
        Auth.authenticate_upToColour env _ _ _ _
    | logout => exact .bind (Config.clearToken_upToColour env) fun _ => .println (paint_painted ..)
    | status => exact Auth.status_upToColour env config
  | list c => exact .bind (.send _ _) fun _ => printTodos_upToColour env _ _
  | get id => exact .bind (.send _ _) fun _ => printTodo_upToColour env _ _
  | create title => exact .bind (.send _ _) fun _ => printed _ _
  | update id title completed => exact .bind (.send _ _) fun _ => printed _ _
  | delete id force => exact deleteArm_upToColour env client id force
  | done id => exact .bind (.send _ _) fun _ => printed _ _
  | undone id => exact .bind (.send _ _) fun _ => printed _ _
  | config c =>
    rcases c with _ | _ | url
    · exact Config.print_upToColour config
    · exact Config.print_upToColour config
    · exact .bind (Config.save_upToColour toml env _) fun _ => .println (.refl _)

end Pieces

/-! ## Two invocations -/

/-- An invocation with colouring on and the same invocation with colouring off send the same
requests, leave the same world and exit the same way; they write as many lines, each line of the
coloured run the line of the plain run with some of its segments painted. -/
theorem invoke_colour_cosmetic (toml : Toml) (env : Env) (args : Args) (w : World) :
    (invoke toml env args w).1.world = (invoke toml { env with colorize := false } args w).1.world ∧
      (invoke toml env args w).1.requests =
        (invoke toml { env with colorize := false } args w).1.requests ∧
      List.Forall₂ PaintedLine (invoke toml env args w).1.stdout
        (invoke toml { env with colorize := false } args w).1.stdout ∧
      (invoke toml env args w).2 = (invoke toml { env with colorize := false } args w).2 := by
  have hl : Config.load toml { env with colorize := false } w = Config.load toml env w := rfl
  have hp : Cli.parse { env with colorize := false } args = Cli.parse env args := rfl
  cases h : Config.load toml env w with
  | error e =>
    rw [invoke_of_load_error toml env args w e h, invoke_of_load_error _ _ args w e (hl.trans h)]
    exact ⟨rfl, rfl, List.forall₂_same.2 fun _ _ => .refl _, rfl⟩
  | ok config =>
    rw [invoke_of_load_ok toml env args w config h,
      invoke_of_load_ok _ _ args w config (hl.trans h), hp]
    obtain ⟨hm, hx⟩ := (dispatch_upToColour toml env _ config _ (Machine.start w) (Machine.start w)
      ⟨rfl, rfl, .nil⟩).exit
    exact ⟨hm.world, hm.requests, hm.stdout, hx⟩

end TodoCli
