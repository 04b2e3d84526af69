import WsManager.Runs.Sequential

/-!
# Runs — when the timeout reconciler sets the `Timeout` condition

The timeout reconciler on its own: timeout passes at the clock values `ts`, one after another,
with nothing else writing the workspace.  A pass that finds the workspace not timed out writes
nothing, so every pass up to the first that finds it timed out reads the workspace as it
started; that pass stamps the `Timeout` condition with its clock value and its reason, and the
stamp stays.

`Reconcile` asks to run again after `reconcileInterval` once it has fetched the workspace, so on
its own schedule the passes come one interval apart (`requeueTimes`), and a workspace that has
timed out stays timed out at every later clock value.

* `timeoutRun_findCondition`: after any run of timeout passes, the `Timeout` condition is the
  one the first pass that finds the workspace timed out stamps, or the one it had if no pass
  does.
* `timeoutRun_within_interval`: on the requeue schedule, that stamp comes less than one
  interval after any instant, reached by the schedule, at which the workspace has timed out.
-/

namespace WsManager
open WorkspaceCondition

variable (gitpodPodFinalizerName : String)

/-- Timeout passes at the clock values `ts`, one after another. -/
def timeoutPasses (r : TimeoutReconciler) (pod : Pod) (ts : List Int) : List Pass :=
  ts.map (Pass.timeout r pod)

/-- The clock values of `n` passes on `Reconcile`'s own schedule: the first at `now`, each next
one `interval` later. -/
def requeueTimes (now interval : Int) : Nat → List Int
  | 0 => []
  | n + 1 => now :: requeueTimes (now + interval) interval n

section
variable {gitpodPodFinalizerName}

/-- `Reconcile` asks to run again after `reconcileInterval` whenever it has fetched the
workspace. -/
theorem reconcile_requeueAfter (r : TimeoutReconciler) (pod : Pod) (now : Int) (ws : Workspace) :
    (r.reconcile pod now (.ok ws)).result.requeueAfter = r.reconcileInterval :=
  rfl

/-! ### One pass, and a whole run -/

/-- A workspace that has timed out stays timed out at every later clock value. -/
theorem isWorkspaceTimedOut_of_le {ws : Workspace} {pod : Pod} {T : WorkspaceTimeoutConfiguration}
    {t t' : Int} (ht : t ≤ t') (h : isWorkspaceTimedOut ws pod T t ≠ "") :
    isWorkspaceTimedOut ws pod T t' ≠ "" := by
  rw [isWorkspaceTimedOut_eq_firstReason] at h ⊢
  exact firstReason_mono ht (.refl T) h

/-- An upsert of the `Timeout` condition over one that is not `True` stores the new one. -/
theorem findCondition_timeoutCondition {conds : List Condition} (now : Int) (reason : String)
    (h : conditionPresentAndTrue conds timeout = false) :
    findCondition (addUniqueCondition conds (timeoutCondition now reason)) timeout =
      some (timeoutCondition now reason) := by
  have hf := findCondition_addUniqueCondition (timeoutCondition now reason) conds
  unfold conditionPresentAndTrue at h
  simp only [timeoutCondition] at hf h ⊢
  split at h <;> simp_all [Option.filter]

/-- A timeout pass on a workspace whose `Timeout` condition is not `True` writes only when the
workspace has timed out, and then upserts the stamp. -/
theorem Pass.apply_timeout_of_not_true (r : TimeoutReconciler) (pod : Pod) (now : Int)
    {ws : Workspace} (h : conditionPresentAndTrue ws.conditions WorkspaceCondition.timeout = false) :
    (Pass.timeout r pod now).apply gitpodPodFinalizerName ws =
      if isWorkspaceTimedOut ws pod r.config.timeouts now = "" then ws
      else
        { ws with
          conditions := addUniqueCondition ws.conditions
            (timeoutCondition now (isWorkspaceTimedOut ws pod r.config.timeouts now)) } := by
  simp only [Pass.apply, Pass.update, TimeoutReconciler.reconcile, h, Bool.false_eq_true,
    if_false]
  split_ifs <;> rfl

/-- Timeout passes that all find the workspace not timed out leave it as it is. -/
theorem runPasses_timeoutPasses_of_not_timedOut (r : TimeoutReconciler) (pod : Pod)
    {ws : Workspace} (h : conditionPresentAndTrue ws.conditions timeout = false) :
    ∀ ts : List Int, (∀ now ∈ ts, isWorkspaceTimedOut ws pod r.config.timeouts now = "") →
      runPasses gitpodPodFinalizerName ws (timeoutPasses r pod ts) = ws
  | [], _ => rfl
  | now :: ts, hts => by
    rw [timeoutPasses, List.map_cons, runPasses_cons, Pass.apply_timeout_of_not_true r pod now h,
      if_pos (hts now (List.mem_cons_self _ _))]
    exact runPasses_timeoutPasses_of_not_timedOut r pod h ts
      fun t ht => hts t (List.mem_cons_of_mem _ ht)

/-- The first timeout pass that finds the workspace timed out stamps the `Timeout` condition,
and the stamp stays through the passes after it. -/
theorem findCondition_timeoutRun_of_find? (r : TimeoutReconciler) (pod : Pod) {ws : Workspace}
    (h : conditionPresentAndTrue ws.conditions timeout = false) {ts : List Int} {now : Int}
    (hf : ts.find? (fun now => isWorkspaceTimedOut ws pod r.config.timeouts now != "") =
      some now) :
    findCondition (runPasses gitpodPodFinalizerName ws (timeoutPasses r pod ts)).conditions
        timeout =
      some (timeoutCondition now (isWorkspaceTimedOut ws pod r.config.timeouts now)) := by
  obtain ⟨hto, pre, post, rfl, hpre⟩ := List.find?_eq_some.mp hf
  have hc := findCondition_timeoutCondition now (isWorkspaceTimedOut ws pod r.config.timeouts now) h
  have hsplit : timeoutPasses r pod (pre ++ now :: post) =
      timeoutPasses r pod pre ++ Pass.timeout r pod now :: timeoutPasses r pod post :=
    List.map_append _ _ _
  rw [hsplit, runPasses_append,
    runPasses_timeoutPasses_of_not_timedOut r pod h pre fun t ht => by simpa using hpre t ht,
    runPasses_cons, Pass.apply_timeout_of_not_true r pod now h, if_neg (by simpa using hto),
    runPasses_keeps_timeout (by rw [conditionPresentAndTrue, hc]; rfl), hc]

/-- On the schedule, the first clock value that satisfies a predicate that stays true once it
holds comes less than one interval after any instant, reached by the schedule, at which it
holds. -/
theorem find?_requeueTimes {p : Int → Bool} (hp : ∀ a b, a ≤ b → p a → p b) {I t : Int}
    (hI : 0 < I) (hpt : p t) :
    ∀ (m : Nat) (now : Int), now ≤ t → t ≤ now + m * I →
      ∃ now', (requeueTimes now I (m + 1)).find? p = some now' ∧ p now' ∧ now' < t + I
  | 0, now, h₁, h₂ => by
    have ht : now = t := by omega
    subst ht
    exact ⟨now, by simp [requeueTimes, hpt], hpt, by omega⟩
  | m + 1, now, h₁, h₂ => by
    rw [requeueTimes]
    by_cases h₀ : p now
    · exact ⟨now, List.find?_cons_of_pos _ h₀, h₀, by omega⟩
    rw [List.find?_cons_of_neg _ h₀]
    have hlt : now < t := by
      have : now ≠ t := fun h => h₀ (h ▸ hpt)
      omega
    by_cases hnext : t ≤ now + I
    · -- the next pass is already past `t`
      have h₁' : p (now + I) := hp t _ hnext hpt
      exact ⟨now + I, by rw [requeueTimes]; exact List.find?_cons_of_pos _ h₁', h₁', by omega⟩
    · rw [Int.natCast_add, Int.add_mul, Int.natCast_one, Int.one_mul] at h₂
      exact find?_requeueTimes hp hI hpt m (now + I) (by omega) (by omega)

/-- On `Reconcile`'s own schedule from `t₀`, a workspace whose `Timeout` condition is not `True`
and that has timed out at an instant `t` the schedule reaches gets its stamp from a pass less
than one reconcile interval after `t`, at which it had timed out. -/
theorem timeoutRun_within_interval (r : TimeoutReconciler) (pod : Pod) {ws : Workspace}
    (h : conditionPresentAndTrue ws.conditions timeout = false) (hI : 0 < r.reconcileInterval)
    {t₀ t : Int} (m : Nat) (h₀ : t₀ ≤ t) (hm : t ≤ t₀ + m * r.reconcileInterval)
    (ht : isWorkspaceTimedOut ws pod r.config.timeouts t ≠ "") :
    ∃ now, now < t + r.reconcileInterval ∧ isWorkspaceTimedOut ws pod r.config.timeouts now ≠ "" ∧
      findCondition (runPasses gitpodPodFinalizerName ws
          (timeoutPasses r pod (requeueTimes t₀ r.reconcileInterval (m + 1)))).conditions timeout =
        some (timeoutCondition now (isWorkspaceTimedOut ws pod r.config.timeouts now)) := by
  have hp : ∀ a b, a ≤ b → (isWorkspaceTimedOut ws pod r.config.timeouts a != "") = true →
      (isWorkspaceTimedOut ws pod r.config.timeouts b != "") = true := fun a b hab ha => by
    simpa using isWorkspaceTimedOut_of_le hab (by simpa using ha)
  obtain ⟨now, hf, hpn, hlt⟩ := find?_requeueTimes hp hI (by simpa using ht) m t₀ h₀ hm
  refine ⟨now, hlt, by simpa using hpn, ?_⟩
  exact findCondition_timeoutRun_of_find? r pod h hf

end

/-- With a two-minute heartbeat the reconciler runs every minute: a workspace timed out at 30
minutes and 10 seconds is stamped before 31 minutes and 10 seconds. -/
theorem timeoutRun_within_interval_pending :
    let T : WorkspaceTimeoutConfiguration :=
      { totalStartup := hour, initialization := 30 * minute, regularWorkspace := 30 * minute,
        maxLifetime := 36 * hour, headlessWorkspace := hour, afterClose := 15 * minute,
        contentFinalization := hour, stopping := hour }
    let r := newTimeoutReconciler { heartbeatInterval := 2 * minute, timeouts := T }
    let ws : Workspace := { phase := .pending }
    let t := 30 * minute + 10 * 1000000000
    (conditionPresentAndTrue ws.conditions timeout = false ∧ 0 < r.reconcileInterval ∧
        (0 : Int) ≤ t ∧ t ≤ 0 + (31 : Nat) * r.reconcileInterval ∧
        isWorkspaceTimedOut ws {} r.config.timeouts t ≠ "") ∧
      ∃ now, now < t + r.reconcileInterval ∧
        isWorkspaceTimedOut ws {} r.config.timeouts now ≠ "" ∧
        findCondition (runPasses "" ws
            (timeoutPasses r {} (requeueTimes 0 r.reconcileInterval (31 + 1)))).conditions
            timeout =
          some (timeoutCondition now (isWorkspaceTimedOut ws {} r.config.timeouts now)) := by
  intro T r ws t
  have h : conditionPresentAndTrue ws.conditions timeout = false := rfl
  exact ⟨⟨h, by decide, by decide, by decide, by decide⟩,
    timeoutRun_within_interval r {} h (by decide) 31 (by decide) (by decide) (by decide)⟩

end WsManager
