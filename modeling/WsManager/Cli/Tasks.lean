import WsManager.Cli.Root

/-!
# Cli — `gp tasks stop`

`gp tasks stop [<id>] [--all]` shuts down the terminals of workspace tasks.  With `--all` it
stops those of all running tasks.  With an id it stops that terminal, once the supervisor
knows it.  With neither it stops the only running task's terminal, or the one the user picks
from a prompt.  The shutdowns are made in order, and the first that fails ends the command.

The answers of the supervisor and of the prompt are the model's input, a `StopTaskEnv`.  A run
is what the command asked the supervisor to shut down, the line it printed, and the error it
returned.

* `stopTask.shutdownAll_spec`: the shutdown loop asks for the selected terminals in order,
  up to and including the first that fails.
* `stopTask_eq_some`: a run shuts down nothing, or runs that loop over what `select` chose.
* `stopTask_all_ok_iff`: with `--all`, the command succeeds having stopped every running task
  exactly when each of their shutdowns succeeds.
* `stopTask_shutdowns_selected`: it never shuts down a terminal that is neither a running
  task's nor the one named.
* `stopTask_stops_at_failure`: a failed shutdown is the last one asked for, and its error is
  the command's.
-/

namespace WsManager

/-- `cobra.MaximumNArgs(n)`: a command given more than `n` arguments fails before it runs. -/
def Cobra.maximumNArgs (n : Nat) (args : List String) : Option CmdError :=
  if n < args.length then
    some (.other ("accepts at most " ++ toString n ++ " arg(s), received " ++
      toString args.length))
  else none

/-- The fields of a supervisor `TaskStatus` that `gp tasks stop` reads: its terminal's alias
and its `Presentation.Name`. -/
structure TaskStatus where
  terminal : String
  name : String
  deriving DecidableEq, Repr

/-- What the supervisor and the prompt answer during one run of `gp tasks stop`.  A call that
fails is answered by its error's text. -/
structure StopTaskEnv where
  /-- `supervisor.New`: `none` when the client is made. -/
  connect : Option String
  /-- `GetTasksListByState(ctx, api.TaskState_running)`. -/
  runningTasks : Except String (List TaskStatus)
  /-- `Terminal.Get` of an alias: `none` when the terminal is found. -/
  getTerminal : String → Option String
  /-- `promptui.Select.Run` over the items given: the selected index, the selected value and
  the error. -/
  prompt : List String → Nat × String × Option String
  /-- `Terminal.Shutdown` of an alias: `none` when the terminal is shut down. -/
  shutdown : String → Option String

/-- The line `gp tasks stop` prints when no task runs. -/
def noRunningTasks : String := "There are no running tasks"

/-- What `gp tasks stop` decides before it shuts anything down: the terminals to shut down, or
to end with no error (and the line it printed), or to fail.  Go panics when the prompt's index
is out of range. -/
inductive StopTaskSelection
  | aliases (terminalAliases : List String)
  | done (printed : Option String)
  | failed (err : CmdError)
  | indexOutOfRange
  deriving DecidableEq, Repr

/-- One run of `gp tasks stop`: the terminals it asked the supervisor to shut down, in order,
the line it printed, and the error it returned. -/
structure StopTaskRun where
  shutdowns : List String
  printed : Option String := none
  err : Option CmdError := none
  deriving DecidableEq, Repr

/-- The error `gp tasks stop` returns when it cannot reach the supervisor or list the tasks. -/
def stopTask.cannotGetTaskList (err : String) : CmdError :=
  .other ("cannot get task list: " ++ err)

/-- The shutdown loop of `gp tasks stop`: the terminals are shut down in order, and the first
shutdown that fails ends the command with its error.  The result is the list of the terminals
asked for, the failing one included, and the error. -/
def stopTask.shutdownAll (shutdown : String → Option String) :
    List String → List String × Option CmdError
  | [] => ([], none)
  | terminalAlias :: terminalAliases =>
    match shutdown terminalAlias with
    | some err => ([terminalAlias], some (.other ("cannot stop task: " ++ err)))
    | none => (stopTask.shutdownAll shutdown terminalAliases).map (terminalAlias :: ·) id

section
variable (utils : Utils)

/-- The error `gp tasks stop <id>` returns when the supervisor does not know the terminal
`id`: a user error. -/
def stopTask.notFound (id err : String) : GpError :=
  { err := some err
    message := "The selected task was not found or already stopped: " ++ id ++
      ".\nMake sure to use the correct task ID.\nUse 'gp tasks list' to obtain the task id or run 'gp tasks stop' to select the desired task\n"
    outCome := utils.outcomeUserErr }

/-- The branches of `stopTaskCmd`'s `RunE` that choose the terminals: `--all`, an id, or the
running tasks (the only one, or the one picked from the prompt). -/
def stopTask.select (env : StopTaskEnv) (all : Bool) (args : List String) : StopTaskSelection :=
  if all then
    match env.runningTasks with
    | .error err => .failed (stopTask.cannotGetTaskList err)
    | .ok [] => .done (some noRunningTasks)
    | .ok tasks => .aliases (tasks.map (·.terminal))
  else
    match args with
    | id :: _ =>
      match env.getTerminal id with
      | some err => .failed (.gpError (stopTask.notFound utils id err))
      | none => .aliases [id]
    | [] =>
      match env.runningTasks with
      | .error err => .failed (stopTask.cannotGetTaskList err)
      | .ok [] => .done (some noRunningTasks)
      | .ok [task] => .aliases [task.terminal]
      | .ok tasks =>
        let (selectedIndex, selectedValue, err) := env.prompt (tasks.map (·.name))
        if selectedValue = "" then .done none
        else
          match err with
          | some err => .failed (.other ("error occurred with the input prompt: " ++ err))
          | none =>
            match tasks[selectedIndex]? with
            | some task => .aliases [task.terminal]
            | none => .indexOutOfRange

/-- `stopTaskCmd`: cobra's check of the arguments, then `RunE`; `none` when Go panics. -/
def stopTask (env : StopTaskEnv) (all : Bool) (args : List String) : Option StopTaskRun :=
  match Cobra.maximumNArgs 1 args with
  | some err => some { shutdowns := [], err := some err }
  | none =>
    match env.connect with
    | some err => some { shutdowns := [], err := some (stopTask.cannotGetTaskList err) }
    | none =>
      match stopTask.select utils env all args with
      | .aliases terminalAliases =>
        let r := stopTask.shutdownAll env.shutdown terminalAliases
        some { shutdowns := r.1, err := r.2 }
      | .done printed => some { shutdowns := [], printed := printed }
      | .failed err => some { shutdowns := [], err := some err }
      | .indexOutOfRange => none

end

/-! ### The shutdown loop -/

section
variable (shutdown : String → Option String)

/-- The loop asks for every selected terminal, with no error, or for those up to the first
whose shutdown fails, and ends with that failure. -/
theorem stopTask.shutdownAll_spec :
    ∀ terminalAliases : List String,
      (stopTask.shutdownAll shutdown terminalAliases = (terminalAliases, none) ∧
          ∀ a ∈ terminalAliases, shutdown a = none) ∨
        ∃ pre a post err, terminalAliases = pre ++ a :: post ∧ (∀ x ∈ pre, shutdown x = none) ∧
          shutdown a = some err ∧
          stopTask.shutdownAll shutdown terminalAliases =
            (pre ++ [a], some (.other ("cannot stop task: " ++ err)))
  | [] => .inl ⟨rfl, by simp⟩
  | b :: bs => by
    cases hb : shutdown b with
    | some err => exact .inr ⟨[], b, bs, err, rfl, by simp, hb, by simp [stopTask.shutdownAll, hb]⟩
    | none =>
      rcases stopTask.shutdownAll_spec bs with ⟨hr, hall⟩ | ⟨pre, a, post, err, rfl, hpre, ha, hr⟩
      · exact .inl ⟨by simp [stopTask.shutdownAll, hb, hr], List.forall_mem_cons.mpr ⟨hb, hall⟩⟩
      · refine .inr ⟨b :: pre, a, post, err, rfl, List.forall_mem_cons.mpr ⟨hb, hpre⟩, ha, ?_⟩
        simp [stopTask.shutdownAll, hb, hr]

theorem stopTask.shutdownAll_eq_self_iff (terminalAliases : List String) :
    stopTask.shutdownAll shutdown terminalAliases = (terminalAliases, none) ↔
      ∀ a ∈ terminalAliases, shutdown a = none := by
  rcases stopTask.shutdownAll_spec shutdown terminalAliases with ⟨hr, hall⟩ |
    ⟨pre, a, post, err, rfl, -, ha, hr⟩
  · exact ⟨fun _ => hall, fun _ => hr⟩
  · simp only [hr, Prod.mk.injEq, reduceCtorEq, and_false, false_iff, not_forall]
    exact ⟨a, by simp, by simp [ha]⟩

/-- The terminals asked for are a prefix of those selected. -/
theorem stopTask.shutdownAll_prefix (terminalAliases : List String) :
    (stopTask.shutdownAll shutdown terminalAliases).1 <+: terminalAliases := by
  rcases stopTask.shutdownAll_spec shutdown terminalAliases with ⟨hr, -⟩ |
    ⟨pre, a, post, err, rfl, -, -, hr⟩
  · simp only [hr, List.prefix_refl]
  · simp only [hr]
    exact ⟨post, by simp⟩

/-- A terminal asked for whose shutdown fails is the last one asked for, and its error ends
the loop. -/
theorem stopTask.shutdownAll_failure {terminalAliases : List String} {a err : String}
    (ha : a ∈ (stopTask.shutdownAll shutdown terminalAliases).1) (hf : shutdown a = some err) :
    (stopTask.shutdownAll shutdown terminalAliases).1.getLast? = some a ∧
      (stopTask.shutdownAll shutdown terminalAliases).2 =
        some (.other ("cannot stop task: " ++ err)) := by
  rcases stopTask.shutdownAll_spec shutdown terminalAliases with ⟨hr, hall⟩ |
    ⟨pre, b, post, err', rfl, hpre, hb, hr⟩
  · rw [hr] at ha
    simp [hall a ha] at hf
  · rw [hr] at ha ⊢
    rcases List.mem_append.mp ha with hpa | hab
    · simp [hpre a hpa] at hf
    · obtain rfl := List.mem_singleton.mp hab
      rw [hf] at hb
      cases hb
      simp

end

/-! ### The runs of the command -/

section
variable (utils : Utils)

/-- The terminals `select` chooses are those of running tasks, or, with no `--all` and at most
one argument, the id given, once the supervisor knows it. -/
theorem stopTask.select_aliases {env : StopTaskEnv} {all : Bool} {args : List String}
    {terminalAliases : List String} (hargs : args.length ≤ 1)
    (h : stopTask.select utils env all args = .aliases terminalAliases) :
    ∀ a ∈ terminalAliases,
      (∃ tasks, env.runningTasks = .ok tasks ∧ ∃ task ∈ tasks, task.terminal = a) ∨
        (all = false ∧ args = [a] ∧ env.getTerminal a = none) := by
  intro a ha
  unfold stopTask.select at h
  split at h
  · split at h <;> cases h
    simp only [List.mem_map] at ha
    exact .inl ⟨_, by assumption, ha⟩
  · rename_i hall
    split at h
    · rename_i id rest
      split at h <;> cases h
      obtain rfl := List.mem_singleton.mp ha
      obtain rfl : rest = [] := List.length_eq_zero.mp (by simpa using hargs)
      exact .inr ⟨by simpa using hall, rfl, by assumption⟩
    · split at h <;> (try cases h)
      · exact .inl ⟨_, by assumption, _, List.mem_singleton_self _, (List.mem_singleton.mp ha).symm⟩
      · dsimp only at h
        split at h <;> (try cases h)
        split at h <;> (try cases h)
        split at h <;> cases h
        exact .inl ⟨_, by assumption, _, List.mem_iff_getElem?.mpr ⟨_, by assumption⟩,
          (List.mem_singleton.mp ha).symm⟩

/-- A run of `gp tasks stop` shuts down nothing, or runs the shutdown loop over what `select`
chose, with at most one argument and a supervisor reached. -/
theorem stopTask_eq_some {env : StopTaskEnv} {all : Bool} {args : List String} {r : StopTaskRun}
    (h : stopTask utils env all args = some r) :
    r.shutdowns = [] ∨
      ∃ terminalAliases, args.length ≤ 1 ∧
        stopTask.select utils env all args = .aliases terminalAliases ∧
        r.shutdowns = (stopTask.shutdownAll env.shutdown terminalAliases).1 ∧
        r.err = (stopTask.shutdownAll env.shutdown terminalAliases).2 := by
  unfold stopTask at h
  split at h
  · cases h; exact .inl rfl
  · rename_i hn
    have hargs : args.length ≤ 1 := by
      unfold Cobra.maximumNArgs at hn; split at hn <;> simp_all
    split at h
    · cases h; exact .inl rfl
    · split at h <;> cases h
      · exact .inr ⟨_, hargs, by assumption, rfl, rfl⟩
      all_goals exact .inl rfl

/-- With `--all`, `gp tasks stop` succeeds, having shut down the terminals of all running tasks
in order, exactly when each of their shutdowns succeeds. -/
theorem stopTask_all_ok_iff {env : StopTaskEnv} {tasks : List TaskStatus}
    (hc : env.connect = none) (ht : env.runningTasks = .ok tasks) (hne : tasks ≠ []) :
    stopTask utils env true [] = some { shutdowns := tasks.map (·.terminal) } ↔
      ∀ task ∈ tasks, env.shutdown task.terminal = none := by
  have hsel : stopTask.select utils env true [] = .aliases (tasks.map (·.terminal)) := by
    obtain ⟨t, ts, rfl⟩ := List.exists_cons_of_ne_nil hne
    simp [stopTask.select, ht]
  have hall : (∀ task ∈ tasks, env.shutdown task.terminal = none) ↔
      stopTask.shutdownAll env.shutdown (tasks.map (·.terminal)) = (tasks.map (·.terminal), none) := by
    rw [stopTask.shutdownAll_eq_self_iff, List.forall_mem_map]
  rw [hall]
  simp only [stopTask, Cobra.maximumNArgs, List.length_nil, Nat.not_lt_zero, if_false, hc, hsel]
  simp [Prod.ext_iff]

theorem stopTask_all_ok_iff_build_serve :
    let utils : Utils := ⟨"success", "user_error", "system_error", "USER", "SYSTEM"⟩
    let tasks : List TaskStatus := [⟨"t1", "build"⟩, ⟨"t2", "serve"⟩]
    let env : StopTaskEnv :=
      ⟨none, .ok tasks, fun _ => none, fun _ => (0, "", none), fun _ => none⟩
    (env.connect = none ∧ env.runningTasks = .ok tasks ∧ tasks ≠ []) ∧
      (stopTask utils env true [] = some { shutdowns := tasks.map (·.terminal) } ↔
        ∀ task ∈ tasks, env.shutdown task.terminal = none) := by
  intro utils tasks env
  have hc : env.connect = none := rfl
  have ht : env.runningTasks = .ok tasks := rfl
  have hne : tasks ≠ [] := List.cons_ne_nil _ _
  exact ⟨⟨hc, ht, hne⟩, stopTask_all_ok_iff utils hc ht hne⟩

/-- `gp tasks stop` never shuts down a terminal that is neither a running task's nor, with no
`--all`, the one named on the command line and known to the supervisor. -/
theorem stopTask_shutdowns_selected {env : StopTaskEnv} {all : Bool} {args : List String}
    {r : StopTaskRun} (h : stopTask utils env all args = some r) :
    ∀ a ∈ r.shutdowns,
      (∃ tasks, env.runningTasks = .ok tasks ∧ ∃ task ∈ tasks, task.terminal = a) ∨
        (all = false ∧ args = [a] ∧ env.getTerminal a = none) := by
  intro a ha
  rcases stopTask_eq_some utils h with hr | ⟨terminalAliases, hargs, hsel, hr, -⟩
  · simp [hr] at ha
  · rw [hr] at ha
    exact stopTask.select_aliases utils hargs hsel a
      ((stopTask.shutdownAll_prefix env.shutdown terminalAliases).subset ha)

theorem stopTask_shutdowns_selected_id :
    let utils : Utils := ⟨"success", "user_error", "system_error", "USER", "SYSTEM"⟩
    let env : StopTaskEnv :=
      ⟨none, .ok [], fun _ => none, fun _ => (0, "", none), fun _ => none⟩
    stopTask utils env false ["t7"] = some { shutdowns := ["t7"] } ∧
      ∀ a ∈ ["t7"],
        (∃ tasks, env.runningTasks = .ok tasks ∧ ∃ task ∈ tasks, task.terminal = a) ∨
          (false = false ∧ ["t7"] = [a] ∧ env.getTerminal a = none) := by
  intro utils env
  have h : stopTask utils env false ["t7"] = some { shutdowns := ["t7"] } := rfl
  exact ⟨h, stopTask_shutdowns_selected utils h⟩

/-- The first shutdown that fails ends `gp tasks stop`: it is the last one asked for, and the
command returns its error. -/
theorem stopTask_stops_at_failure {env : StopTaskEnv} {all : Bool} {args : List String}
    {r : StopTaskRun} (h : stopTask utils env all args = some r) {a err : String}
    (ha : a ∈ r.shutdowns) (hf : env.shutdown a = some err) :
    r.shutdowns.getLast? = some a ∧ r.err = some (.other ("cannot stop task: " ++ err)) := by
  rcases stopTask_eq_some utils h with hr | ⟨terminalAliases, -, -, hr, he⟩
  · simp [hr] at ha
  · rw [hr] at ha ⊢
    rw [he]
    exact stopTask.shutdownAll_failure env.shutdown ha hf

theorem stopTask_stops_at_failure_second :
    let utils : Utils := ⟨"success", "user_error", "system_error", "USER", "SYSTEM"⟩
    let env : StopTaskEnv :=
      ⟨none, .ok [⟨"t1", "build"⟩, ⟨"t2", "serve"⟩, ⟨"t3", "watch"⟩], fun _ => none,
        fun _ => (0, "", none), fun a => if a = "t2" then some "busy" else none⟩
    let r : StopTaskRun :=
      { shutdowns := ["t1", "t2"], err := some (.other ("cannot stop task: " ++ "busy")) }
    (stopTask utils env true [] = some r ∧ "t2" ∈ r.shutdowns ∧ env.shutdown "t2" = some "busy") ∧
      r.shutdowns.getLast? = some "t2" ∧ r.err = some (.other ("cannot stop task: " ++ "busy")) := by
  intro utils env r
  have h : stopTask utils env true [] = some r := rfl
  have ha : "t2" ∈ r.shutdowns := by decide
  have hf : env.shutdown "t2" = some "busy" := rfl
  exact ⟨⟨h, ha, hf⟩, stopTask_stops_at_failure utils h ha hf⟩

end

end WsManager
