import WsManager.Controllers.TimeoutPolicy

/-!
# Controllers — the timeout reconciler

`Reconcile` fetches the workspace and asks `isWorkspaceTimedOut` why it has timed out.  When it
has, and carries no `Timeout` condition that is `True`, a `Timeout` condition stamped with the
clock and the reason is upserted and the status written back with `Status().Update`.  Once the
workspace has been fetched, the reconciler asks to run again after `reconcileInterval`, half
the heartbeat interval; a workspace that is not found is dropped, and any other error of the
fetch is returned for the controller to retry.

The source calls `isWorkspaceTimedOut(&workspace, r.Config.Timeouts, r.activity)`, while the
function takes a workspace, a pod and the timeouts; the pod is a parameter here, so every
result holds whatever pod the call reads.  `metav1.Now()` and the `time.Since` of the policy
read one clock value `now` per pass.

* `reconcile_update_cases`: everything a write can be, in one statement.
* `reconcile_frame`: a pass writes only the `Timeout` condition, and removes no condition.
* `conditionPresentAndTrue_reconcile`: after a write the `Timeout` condition is `True`.
* `reconcile_update_eq_none`: a workspace whose `Timeout` condition is `True` is never written.
-/

namespace WsManager
open WorkspaceCondition

/-- `config.Configuration`, as far as the timeout reconciler reads it. -/
structure Configuration where
  heartbeatInterval : Int
  timeouts : WorkspaceTimeoutConfiguration
  deriving DecidableEq, Repr

/-- `TimeoutReconciler`, without its client and its activity tracker. -/
structure TimeoutReconciler where
  config : Configuration
  reconcileInterval : Int
  deriving DecidableEq, Repr

/-- `NewTimeoutReconciler`: half the heartbeat interval, `/=` truncating toward zero. -/
def newTimeoutReconciler (cfg : Configuration) : TimeoutReconciler :=
  { config := cfg, reconcileInterval := cfg.heartbeatInterval.tdiv 2 }

/-- `ctrl.Result`, as far as `Reconcile` sets it. -/
structure Result where
  requeueAfter : Int := 0
  deriving DecidableEq, Repr

/-- What `r.Get` returns. -/
inductive GetResult
  | ok (workspace : Workspace)
  | notFound
  | otherError
  deriving DecidableEq, Repr

/-- The `Timeout` condition a pass upserts. -/
def timeoutCondition (now : Int) (timedout : String) : Condition :=
  { type := timeout, status := .conditionTrue, lastTransitionTime := now, message := timedout }

/-- What a call of `Reconcile` does: the workspace it writes back with `Status().Update`, if
any, its result, and whether it returns an error of its own (that of the write is the
store's). -/
structure Reconciled where
  update : Option Workspace
  result : Result
  err : Bool
  deriving DecidableEq, Repr

/-- `Reconcile` on what the fetch returned, at the clock value `now`, with `pod` the pod
`isWorkspaceTimedOut` reads. -/
def TimeoutReconciler.reconcile (r : TimeoutReconciler) (pod : Pod) (now : Int) :
    GetResult → Reconciled
  | .notFound => ⟨none, {}, false⟩
  | .otherError => ⟨none, {}, true⟩
  | .ok workspace =>
    let timedout := isWorkspaceTimedOut workspace pod r.config.timeouts now
    let conditions := addUniqueCondition workspace.conditions (timeoutCondition now timedout)
    let update :=
      if timedout = "" then none
      else if conditionPresentAndTrue workspace.conditions timeout then none
      else some { workspace with conditions := conditions }
    ⟨update, { requeueAfter := r.reconcileInterval }, false⟩

section
variable {r : TimeoutReconciler} {pod : Pod} {now : Int} {ws ws' : Workspace}

/-- A pass writes only when the workspace has timed out and its `Timeout` condition is not
`True`, and then it upserts the `Timeout` condition with the reason. -/
theorem reconcile_update_cases (h : ws' ∈ (r.reconcile pod now (.ok ws)).update) :
    isWorkspaceTimedOut ws pod r.config.timeouts now ≠ "" ∧
      conditionPresentAndTrue ws.conditions timeout = false ∧
      ws' = { ws with conditions := addUniqueCondition ws.conditions (timeoutCondition now
        (isWorkspaceTimedOut ws pod r.config.timeouts now)) } := by
  simp only [TimeoutReconciler.reconcile, Option.mem_def] at h
  split_ifs at h with h₁ h₂
  cases h
  exact ⟨h₁, by simpa using h₂, rfl⟩

/-- A pass changes only the `Timeout` condition. -/
theorem reconcile_frame (h : ws' ∈ (r.reconcile pod now (.ok ws)).update) :
    ws' = { ws with conditions := ws'.conditions } ∧
      ConditionsFrame [timeout] ws.conditions ws'.conditions := by
  obtain ⟨-, -, rfl⟩ := reconcile_update_cases h
  exact ⟨rfl, addUniqueCondition_frame _ _⟩

theorem conditionPresentAndTrue_reconcile (h : ws' ∈ (r.reconcile pod now (.ok ws)).update) :
    conditionPresentAndTrue ws'.conditions timeout := by
  obtain ⟨-, -, rfl⟩ := reconcile_update_cases h
  exact conditionPresentAndTrue_addUniqueCondition_self _ _ rfl

theorem reconcile_update_eq_none (h : conditionPresentAndTrue ws.conditions timeout) :
    (r.reconcile pod now (.ok ws)).update = none := by
  simp [TimeoutReconciler.reconcile, h]

end

end WsManager
