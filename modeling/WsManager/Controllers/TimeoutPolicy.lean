import WsManager.Controllers.Failure

/-!
# Controllers — when a workspace has timed out

`isWorkspaceTimedOut` picks, from the phase and a few flags, an instant and a duration, and
`decide` reports a reason once that much time has passed since the instant.  Running
workspaces are checked for their maximum lifetime first.  The reason names the activity and
the two durations, rounded to the minute.

The rows of §4.2's table become `timeoutRules`: the rules a workspace is checked against, in
order, each a reference instant, the configured duration it reads (or the workspace's own
timeout, which replaces the default of the running branches, headless included), and an
activity.  None of them depends on the clock or on the configuration.

* `isWorkspaceTimedOut_eq_firstReason`: the code is the table, read rule by rule.
* `isWorkspaceTimedOut_iff`: a workspace has timed out exactly when `now - r ≥ d` for one of
  its rules.
* `isWorkspaceTimedOut_mono`: a workspace that has timed out stays timed out later, and under
  any configuration whose durations are no longer.
* `formatDuration_of_nonneg`: the durations of a reason are printed as hours and minutes,
  rounded half up to the minute.
-/

namespace WsManager
open WorkspaceCondition

/-- `time.Minute`, in nanoseconds. -/
def minute : Int := 60000000000

/-- `time.Hour`, in nanoseconds. -/
def hour : Int := 3600000000000

/-- `Duration.Round(m)`: the multiple of `m` nearest to `d`, halves away from zero; `d` itself
when `m ≤ 0`.  (Go saturates where the sum overflows `int64`; durations here do not.) -/
def roundDuration (d m : Int) : Int :=
  if m ≤ 0 then d
  else
    let r := d.tmod m
    if d < 0 then
      if -r + -r < m then d + -r else d - m + -r
    else if r + r < m then d - r else d + m - r

/-- `%02d`: at least two characters, padded with `0`, a sign counting as one. -/
def pad2 (n : Int) : String :=
  if 0 ≤ n ∧ n < 10 then "0" ++ toString n else toString n

/-- `formatDuration`: a duration rounded to the minute, as hours and minutes. -/
def formatDuration (d : Int) : String :=
  let d := roundDuration d minute
  let h := d.tdiv hour
  let d := d - h * hour
  let m := d.tdiv minute
  pad2 h ++ "h" ++ pad2 m ++ "m"

/-- `activity`: what a workspace was doing when it timed out.  (`activityPullingImages` and
`activityInterrupted` are declared in the source and never used.) -/
inductive Activity
  | activityInit | activityStartup | activityCreatingContainers | activityRunningHeadless
  | activityNone | activityMaxLifetime | activityClosed | activityStopping | activityBackup
  deriving DecidableEq, Repr

def Activity.text : Activity → String
  | .activityInit => "initialization"
  | .activityStartup => "startup"
  | .activityCreatingContainers => "creating containers"
  | .activityRunningHeadless => "running the headless workspace"
  | .activityNone => "period of inactivity"
  | .activityMaxLifetime => "maximum lifetime"
  | .activityClosed => "after being closed"
  | .activityStopping => "stopping"
  | .activityBackup => "backup"

/-- `decide` of `isWorkspaceTimedOut`: a reason once `timeout` has passed since `start` at the
clock value `now`, `""` before. -/
def isWorkspaceTimedOut.decide (now start : Int) (timeout : Int) (activity : Activity) :
    String :=
  let td := timeout
  let inactivity := now - start
  if inactivity < td then ""
  else "workspace timed out after " ++ activity.text ++ " (" ++ formatDuration inactivity ++
    ") took longer than " ++ formatDuration td

/-- `getWorkspaceActivity`: when the `UserActivity` condition last changed, if there is one. -/
def getWorkspaceActivity (ws : Workspace) : Option Int :=
  (findCondition ws.conditions userActivity).map (·.lastTransitionTime)

/-- `isWorkspaceTimedOut`: why the workspace has timed out at the clock value `now`, `""` if it
has not.  (The source also returns an error, `nil` on every path.) -/
def isWorkspaceTimedOut (ws : Workspace) (pod : Pod) (timeouts : WorkspaceTimeoutConfiguration)
    (now : Int) : String :=
  let decide := isWorkspaceTimedOut.decide now
  let start := ws.creationTimestamp
  let lastActivity := getWorkspaceActivity ws
  let isClosed := conditionPresentAndTrue ws.conditions closed
  -- the workspace's own timeout replaces the default of the running branch it reaches
  let customTimeout := fun d => ws.timeout.getD d
  match ws.phase with
  | .pending => decide start timeouts.initialization .activityInit
  | .initializing => decide start timeouts.totalStartup .activityStartup
  | .creating => decide start timeouts.totalStartup .activityCreatingContainers
  | .running =>
    let msg := decide start timeouts.maxLifetime .activityMaxLifetime
    if msg ≠ "" then msg
    else if ws.headless then
      decide start (customTimeout timeouts.headlessWorkspace) .activityRunningHeadless
    else match lastActivity with
      | none => decide start timeouts.totalStartup .activityNone
      | some last =>
        if isClosed then decide last timeouts.afterClose .activityClosed
        else decide last (customTimeout timeouts.regularWorkspace) .activityNone
  | .stopping =>
    match pod.deletionTimestamp with
    | some deleted =>
      if conditionPresentAndTrue ws.conditions backupComplete then
        decide deleted timeouts.contentFinalization .activityBackup
      else decide deleted timeouts.stopping .activityStopping
    | none => ""
  | _ => ""

/-! ### The table -/

/-- The configured durations a rule of the table reads. -/
inductive TimeoutKey
  | initialization | totalStartup | regularWorkspace | maxLifetime | headlessWorkspace
  | afterClose | contentFinalization | stopping
  deriving DecidableEq, Repr

def TimeoutKey.get : TimeoutKey → WorkspaceTimeoutConfiguration → Int
  | .initialization, t => t.initialization
  | .totalStartup, t => t.totalStartup
  | .regularWorkspace, t => t.regularWorkspace
  | .maxLifetime, t => t.maxLifetime
  | .headlessWorkspace, t => t.headlessWorkspace
  | .afterClose, t => t.afterClose
  | .contentFinalization, t => t.contentFinalization
  | .stopping, t => t.stopping

/-- A row of the timeout table: the instant it counts from, the configured duration it reads,
replaced by `custom` when that is set, and the activity its reason names. -/
structure TimeoutRule where
  start : Int
  key : TimeoutKey
  custom : Option Int := none
  activity : Activity
  deriving DecidableEq, Repr

def TimeoutRule.duration (r : TimeoutRule) (timeouts : WorkspaceTimeoutConfiguration) :
    Int :=
  r.custom.getD (r.key.get timeouts)

/-- §4.2's table: the rules a workspace is checked against, in order.  A running workspace's
own timeout replaces the headless default as it replaces the regular one. -/
def timeoutRules (ws : Workspace) (pod : Pod) : List TimeoutRule :=
  let start := ws.creationTimestamp
  match ws.phase with
  | .pending => [⟨start, .initialization, none, .activityInit⟩]
  | .initializing => [⟨start, .totalStartup, none, .activityStartup⟩]
  | .creating => [⟨start, .totalStartup, none, .activityCreatingContainers⟩]
  | .running => ⟨start, .maxLifetime, none, .activityMaxLifetime⟩ ::
    if ws.headless then [⟨start, .headlessWorkspace, ws.timeout, .activityRunningHeadless⟩]
    else match getWorkspaceActivity ws with
      | none => [⟨start, .totalStartup, none, .activityNone⟩]
      | some last =>
        if conditionPresentAndTrue ws.conditions closed then
          [⟨last, .afterClose, none, .activityClosed⟩]
        else [⟨last, .regularWorkspace, ws.timeout, .activityNone⟩]
  | .stopping =>
    match pod.deletionTimestamp with
    | some deleted =>
      if conditionPresentAndTrue ws.conditions backupComplete then
        [⟨deleted, .contentFinalization, none, .activityBackup⟩]
      else [⟨deleted, .stopping, none, .activityStopping⟩]
    | none => []
  | _ => []

/-- The reason of the first rule that has one, `""` if none has. -/
def firstReason (timeouts : WorkspaceTimeoutConfiguration) (now : Int) :
    List TimeoutRule → String
  | [] => ""
  | r :: rs =>
    let msg := isWorkspaceTimedOut.decide now r.start (r.duration timeouts) r.activity
    if msg ≠ "" then msg else firstReason timeouts now rs

theorem decide_ne_empty_iff (now start : Int) (timeout : Int) (activity : Activity) :
    isWorkspaceTimedOut.decide now start timeout activity ≠ "" ↔ timeout ≤ now - start := by
  dsimp only [isWorkspaceTimedOut.decide]
  split_ifs with h
  · simp only [ne_eq, not_true_eq_false, false_iff]
    omega
  · simp only [ne_eq, String.ext_iff, String.data_append]
    simpa using (by omega : timeout ≤ now - start)

theorem firstReason_ne_empty_iff (timeouts : WorkspaceTimeoutConfiguration) (now : Int) :
    ∀ rs : List TimeoutRule, firstReason timeouts now rs ≠ "" ↔
      ∃ r ∈ rs, r.duration timeouts ≤ now - r.start
  | [] => by simp [firstReason]
  | r :: rs => by
    have hd := decide_ne_empty_iff now r.start (r.duration timeouts) r.activity
    simp only [firstReason, List.mem_cons, exists_eq_or_imp,
      ← firstReason_ne_empty_iff timeouts now rs]
    by_cases h : isWorkspaceTimedOut.decide now r.start (r.duration timeouts) r.activity = "" <;>
      simp_all

theorem firstReason_singleton (timeouts : WorkspaceTimeoutConfiguration) (now : Int)
    (r : TimeoutRule) :
    firstReason timeouts now [r] =
      isWorkspaceTimedOut.decide now r.start (r.duration timeouts) r.activity := by
  by_cases h : isWorkspaceTimedOut.decide now r.start (r.duration timeouts) r.activity = "" <;>
    simp [firstReason, h]

/-- The code is the table, read rule by rule. -/
theorem isWorkspaceTimedOut_eq_firstReason (ws : Workspace) (pod : Pod)
    (timeouts : WorkspaceTimeoutConfiguration) (now : Int) :
    isWorkspaceTimedOut ws pod timeouts now = firstReason timeouts now (timeoutRules ws pod) := by
  unfold isWorkspaceTimedOut timeoutRules
  cases ws.phase <;> simp only [firstReason_singleton, TimeoutRule.duration, TimeoutKey.get,
    Option.getD_none]
  case running =>
    rw [firstReason]
    congr 1
    split
    · simp only [firstReason_singleton, TimeoutRule.duration, TimeoutKey.get]
    · split <;> (try split) <;>
        simp only [firstReason_singleton, TimeoutRule.duration, TimeoutKey.get, Option.getD_none]
  case stopping =>
    split
    · split <;> simp only [firstReason_singleton, TimeoutRule.duration, TimeoutKey.get,
        Option.getD_none]
    · rfl
  all_goals rfl

/-- A workspace has timed out exactly when `now - r ≥ d` for one of its rules. -/
theorem isWorkspaceTimedOut_iff (ws : Workspace) (pod : Pod)
    (timeouts : WorkspaceTimeoutConfiguration) (now : Int) :
    isWorkspaceTimedOut ws pod timeouts now ≠ "" ↔
      ∃ r ∈ timeoutRules ws pod, r.duration timeouts ≤ now - r.start := by
  rw [isWorkspaceTimedOut_eq_firstReason, firstReason_ne_empty_iff]

/-- A headless workspace with its own timeout of 30 minutes times out after 40, though 40
minutes is below both its maximum lifetime and the headless timeout. -/
theorem isWorkspaceTimedOut_headless_custom_timeout :
    let ws : Workspace := { phase := .running, headless := true, timeout := some (30 * minute) }
    let timeouts : WorkspaceTimeoutConfiguration :=
      { totalStartup := hour, initialization := 30 * minute, regularWorkspace := 30 * minute,
        maxLifetime := 36 * hour, headlessWorkspace := hour, afterClose := 15 * minute,
        contentFinalization := hour, stopping := hour }
    isWorkspaceTimedOut ws {} timeouts (40 * minute) ≠ "" ∧
      40 * minute - ws.creationTimestamp < timeouts.maxLifetime ∧
      40 * minute - ws.creationTimestamp < timeouts.headlessWorkspace := by
  decide

/-! ### Later, and under a tighter configuration -/

/-- Every duration of `T'` is at most the corresponding one of `T`. -/
structure WorkspaceTimeoutConfiguration.Le (T' T : WorkspaceTimeoutConfiguration) : Prop where
  totalStartup : T'.totalStartup ≤ T.totalStartup
  initialization : T'.initialization ≤ T.initialization
  regularWorkspace : T'.regularWorkspace ≤ T.regularWorkspace
  maxLifetime : T'.maxLifetime ≤ T.maxLifetime
  headlessWorkspace : T'.headlessWorkspace ≤ T.headlessWorkspace
  afterClose : T'.afterClose ≤ T.afterClose
  contentFinalization : T'.contentFinalization ≤ T.contentFinalization
  stopping : T'.stopping ≤ T.stopping

theorem TimeoutKey.get_le {T' T : WorkspaceTimeoutConfiguration} (h : T'.Le T) :
    ∀ k : TimeoutKey, k.get T' ≤ k.get T
  | .initialization => h.initialization
  | .totalStartup => h.totalStartup
  | .regularWorkspace => h.regularWorkspace
  | .maxLifetime => h.maxLifetime
  | .headlessWorkspace => h.headlessWorkspace
  | .afterClose => h.afterClose
  | .contentFinalization => h.contentFinalization
  | .stopping => h.stopping

theorem TimeoutRule.duration_le {T' T : WorkspaceTimeoutConfiguration} (h : T'.Le T)
    (r : TimeoutRule) : r.duration T' ≤ r.duration T := by
  unfold TimeoutRule.duration
  cases r.custom with
  | some d => exact Int.le_refl d
  | none => exact r.key.get_le h

theorem WorkspaceTimeoutConfiguration.Le.refl (T : WorkspaceTimeoutConfiguration) : T.Le T :=
  ⟨Int.le_refl _, Int.le_refl _, Int.le_refl _, Int.le_refl _, Int.le_refl _, Int.le_refl _,
    Int.le_refl _, Int.le_refl _⟩

/-- A list of rules one of which has fired at `t` under `T` still has one that fires at every
later clock value and under every configuration whose durations are no longer. -/
theorem firstReason_mono {T T' : WorkspaceTimeoutConfiguration} {t t' : Int} (ht : t ≤ t')
    (hT : T'.Le T) {rs : List TimeoutRule} (h : firstReason T t rs ≠ "") :
    firstReason T' t' rs ≠ "" := by
  rw [firstReason_ne_empty_iff] at h ⊢
  obtain ⟨r, hr, hd⟩ := h
  exact ⟨r, hr, by have := r.duration_le hT; omega⟩

/-- A workspace that has timed out stays timed out at every later clock value, and under every
configuration whose durations are no longer: no rule depends on either. -/
theorem isWorkspaceTimedOut_mono {ws : Workspace} {pod : Pod}
    {T T' : WorkspaceTimeoutConfiguration} {t t' : Int} (ht : t ≤ t') (hT : T'.Le T)
    (h : isWorkspaceTimedOut ws pod T t ≠ "") : isWorkspaceTimedOut ws pod T' t' ≠ "" := by
  rw [isWorkspaceTimedOut_eq_firstReason] at h ⊢
  exact firstReason_mono ht hT h

/-- A pending workspace past its 30 minutes of initialization is still timed out fifteen
minutes later with an initialization timeout of 20 minutes. -/
theorem isWorkspaceTimedOut_mono_pending :
    let ws : Workspace := { phase := .pending }
    let T : WorkspaceTimeoutConfiguration :=
      { totalStartup := hour, initialization := 30 * minute, regularWorkspace := 30 * minute,
        maxLifetime := 36 * hour, headlessWorkspace := hour, afterClose := 15 * minute,
        contentFinalization := hour, stopping := hour }
    let T' := { T with initialization := 20 * minute }
    (31 * minute ≤ 46 * minute ∧ T'.Le T ∧ isWorkspaceTimedOut ws {} T (31 * minute) ≠ "") ∧
      isWorkspaceTimedOut ws {} T' (46 * minute) ≠ "" := by
  intro ws T T'
  have ht : 31 * minute ≤ 46 * minute := by decide
  have hT : T'.Le T := ⟨Int.le_refl _, by decide, Int.le_refl _, Int.le_refl _, Int.le_refl _,
    Int.le_refl _, Int.le_refl _, Int.le_refl _⟩
  have h : isWorkspaceTimedOut ws {} T (31 * minute) ≠ "" := by decide
  exact ⟨⟨ht, hT, h⟩, isWorkspaceTimedOut_mono ht hT h⟩

/-! ### The durations of a reason -/

theorem roundDuration_minute {d : Int} (hd : 0 ≤ d) :
    roundDuration d minute = minute * ((2 * d + minute) / (2 * minute)) := by
  unfold roundDuration
  rw [Int.tmod_eq_emod hd (by decide)]
  simp only [minute]
  split_ifs <;> omega

/-- A duration that is not negative prints as its hours and minutes, once rounded half up to
the minute. -/
theorem formatDuration_of_nonneg {d : Int} (hd : 0 ≤ d) :
    formatDuration d = pad2 ((2 * d + minute) / (2 * minute) / 60) ++ "h" ++
      pad2 ((2 * d + minute) / (2 * minute) % 60) ++ "m" := by
  have hQ : 0 ≤ (2 * d + minute) / (2 * minute) :=
    Int.ediv_nonneg (by simp only [minute]; omega) (by decide)
  simp only [formatDuration, roundDuration_minute hd]
  generalize (2 * d + minute) / (2 * minute) = Q at hQ ⊢
  have h₁ : (minute * Q).tdiv hour = Q / 60 := by
    rw [Int.tdiv_eq_ediv (by simp only [minute]; omega) (by decide)]
    simp only [minute, hour]
    omega
  have h₂ : (minute * Q - Q / 60 * hour).tdiv minute = Q % 60 := by
    rw [Int.tdiv_eq_ediv (by simp only [minute, hour]; omega) (by decide)]
    simp only [minute, hour]
    omega
  rw [h₁, h₂]

/-- An hour and a half and 31 seconds prints as `01h31m`. -/
theorem formatDuration_ninety_minutes :
    0 ≤ 90 * minute + 31000000000 ∧ formatDuration (90 * minute + 31000000000) = "01h31m" :=
  ⟨by decide, (formatDuration_of_nonneg (by decide)).trans (by decide)⟩

end WsManager
