import WsManager.Controllers.Status
import WsManager.Controllers.TimeoutReconciler

/-!
# Runs — one pass after another

A pass is a status pass (`updateWorkspaceStatus` at a clock value, over the pods of the
workspace's selector) or a timeout pass (`Reconcile` at a clock value, with the pod its policy
reads).  A pass reads the stored workspace and writes back what it computed, if anything; a
run applies passes one after another, each reading what the one before wrote.

* `updateWorkspaceStatus_reconcile_frame`: a status pass changes only the phase, the
  `Deployed` and `Failed` conditions and empty runtime fields; a timeout pass only the
  `Timeout` condition; neither removes a condition.
* `runPasses_keeps_failed`: a `Failed` condition that is `True` survives every run with no
  status pass over two or more pods, and `runPasses_overwrites_failed`: one such pass writes
  over it.
* `runPasses_timeout_marked`: once a timeout pass reads a workspace that has timed out, its
  `Timeout` condition is `True` from then on, whatever passes follow.
* `runPasses_zero_pods_phase`: a pass that sees no pod leaves `Stopped` unless the phase it
  reads is `""` or `Pending`, which is what a pod seen alone in its `Pending` phase leaves.
-/

namespace WsManager
open WorkspaceCondition

variable (gitpodPodFinalizerName : String)

/-- A pass of one of the two reconcilers. -/
inductive Pass
  | status (now : Int) (pods : List Pod)
  | timeout (r : TimeoutReconciler) (pod : Pod) (now : Int)
  deriving DecidableEq, Repr

/-- Modelled from the spec: the write of a pass that read `ws`, if any.  The status reconciler
is not under `src/`; it writes what `updateWorkspaceStatus` computes back when that differs
from what it read.  The timeout reconciler writes what `Reconcile` computes. -/
def Pass.update : Pass → Workspace → Option Workspace
  | .status now pods, ws =>
    let ws' := updateWorkspaceStatus gitpodPodFinalizerName now ws pods
    if ws' = ws then none else some ws'
  | .timeout r pod now, ws => (r.reconcile pod now (.ok ws)).update

/-- The stored workspace after a pass that read `ws`, with no write in between. -/
def Pass.apply (p : Pass) (ws : Workspace) : Workspace :=
  (p.update gitpodPodFinalizerName ws).getD ws

/-- The stored workspace after the passes `ps`, one after another. -/
def runPasses (ws : Workspace) (ps : List Pass) : Workspace :=
  ps.foldl (fun ws p => p.apply gitpodPodFinalizerName ws) ws

/-- A status pass over two or more pods, the one pass that upserts `Failed` unguarded. -/
def Pass.multiplePods : Pass → Bool
  | .status _ (_ :: _ :: _) => true
  | _ => false

/-- A pass that leaves the phase alone: a timeout pass, or a status pass over two or more
pods. -/
def Pass.keepsPhase : Pass → Bool
  | .status _ (_ :: _ :: _) | .timeout .. => true
  | _ => false

section
variable {gitpodPodFinalizerName}

@[simp] theorem runPasses_nil (ws : Workspace) : runPasses gitpodPodFinalizerName ws [] = ws :=
  rfl

theorem runPasses_append (ws : Workspace) (ps qs : List Pass) :
    runPasses gitpodPodFinalizerName ws (ps ++ qs) =
      runPasses gitpodPodFinalizerName (runPasses gitpodPodFinalizerName ws ps) qs :=
  List.foldl_append _ _ _ _

theorem runPasses_cons (ws : Workspace) (p : Pass) (ps : List Pass) :
    runPasses gitpodPodFinalizerName ws (p :: ps) =
      runPasses gitpodPodFinalizerName (p.apply gitpodPodFinalizerName ws) ps :=
  rfl

@[simp] theorem Pass.apply_status (now : Int) (pods : List Pod) (ws : Workspace) :
    (Pass.status now pods).apply gitpodPodFinalizerName ws =
      updateWorkspaceStatus gitpodPodFinalizerName now ws pods := by
  simp only [Pass.apply, Pass.update]
  split_ifs with h
  · exact h.symm
  · rfl

/-- A write is what `updateWorkspaceStatus` computed, or what `Reconcile` writes back. -/
theorem Pass.update_cases {p : Pass} {ws ws' : Workspace}
    (h : p.update gitpodPodFinalizerName ws = some ws') :
    (∃ now pods, p = .status now pods ∧
        ws' = updateWorkspaceStatus gitpodPodFinalizerName now ws pods) ∨
      ∃ r pod now, p = .timeout r pod now ∧ ws' ∈ (r.reconcile pod now (.ok ws)).update := by
  match p with
  | .status now pods =>
    simp only [Pass.update] at h
    split_ifs at h
    cases h
    exact .inl ⟨now, pods, rfl, rfl⟩
  | .timeout r pod now => exact .inr ⟨r, pod, now, rfl, h⟩

/-- A timeout pass changes only the `Timeout` condition. -/
theorem Pass.apply_timeout_frame (r : TimeoutReconciler) (pod : Pod) (now : Int)
    (ws : Workspace) :
    let ws' := (Pass.timeout r pod now).apply gitpodPodFinalizerName ws
    ws' = { ws with conditions := ws'.conditions } ∧
      ConditionsFrame [WorkspaceCondition.timeout] ws.conditions ws'.conditions := by
  simp only [Pass.apply, Pass.update]
  cases h : (r.reconcile pod now (.ok ws)).update with
  | none => exact ⟨rfl, ConditionsFrame.refl _ _⟩
  | some ws' => exact reconcile_frame h

/-! ### What a pass leaves alone -/

/-- A status pass changes only the phase, the `Deployed` and `Failed` conditions and runtime
fields that were empty, each from a pod's non-empty value; a timeout pass changes only the
`Timeout` condition; neither removes a condition. -/
theorem updateWorkspaceStatus_reconcile_frame (ws : Workspace) (pods : List Pod) (now : Int)
    (r : TimeoutReconciler) (pod : Pod) (now' : Int) :
    (let ws' := updateWorkspaceStatus gitpodPodFinalizerName now ws pods;
      ws' = { ws with phase := ws'.phase, conditions := ws'.conditions, runtime := ws'.runtime } ∧
        ConditionsFrame [deployed, failed] ws.conditions ws'.conditions ∧
        RuntimeFilled pods ws ws') ∧
      ∀ ws' ∈ (r.reconcile pod now' (.ok ws)).update,
        ws' = { ws with conditions := ws'.conditions } ∧
          ConditionsFrame [timeout] ws.conditions ws'.conditions :=
  ⟨updateWorkspaceStatus_frame gitpodPodFinalizerName now ws pods, fun _ h => reconcile_frame h⟩

/-! ### The `Failed` condition -/

/-- A pass with one pod keeps a `Failed` condition that is `True`. -/
theorem findCondition_podConditions_failed {now : Int} {conds : List Condition}
    {failure : String} {c : Condition} (hc : findCondition conds failed = some c)
    (hs : c.status = .conditionTrue) :
    findCondition (podConditions now conds failure) failed = some c := by
  have h₁ : findCondition (addUniqueCondition conds (deployedCondition now)) failed = some c := by
    rw [findCondition_addUniqueCondition_of_ne (deployedCondition now)
      (show failed ≠ deployed by decide), hc]
  have h₂ : conditionPresentAndTrue (addUniqueCondition conds (deployedCondition now)) failed :=
    by simp [conditionPresentAndTrue, h₁, hs]
  simp [podConditions, h₁, h₂]

/-- A pass with one pod changes the `Failed` condition only when it is not `True`, and then
leaves it `True`. -/
theorem podConditions_failed_of_ne {now : Int} {conds : List Condition} {failure : String}
    (h : findCondition (podConditions now conds failure) failed ≠ findCondition conds failed) :
    conditionPresentAndTrue conds failed = false ∧
      conditionPresentAndTrue (podConditions now conds failure) failed := by
  have h₁ : findCondition (addUniqueCondition conds (deployedCondition now)) failed =
      findCondition conds failed :=
    findCondition_addUniqueCondition_of_ne (deployedCondition now)
      (show failed ≠ deployed by decide) conds
  dsimp only [podConditions] at h ⊢
  split at h
  · rename_i hg
    rw [if_pos hg, ← conditionPresentAndTrue_congr h₁]
    exact ⟨by simpa using hg.2, conditionPresentAndTrue_addUniqueCondition_self _ _ rfl⟩
  · exact absurd h₁ h

theorem updateWorkspaceStatus_nil_conditions (now : Int) (ws : Workspace) :
    (updateWorkspaceStatus gitpodPodFinalizerName now ws []).conditions = ws.conditions := by
  simp only [updateWorkspaceStatus]
  split_ifs <;> rfl

/-- Every pass but a status pass over two or more pods keeps a `Failed` condition that is
`True`. -/
theorem Pass.findCondition_failed_apply {p : Pass} (hp : p.multiplePods = false)
    {ws : Workspace} {c : Condition} (hc : findCondition ws.conditions failed = some c)
    (hs : c.status = .conditionTrue) :
    findCondition (p.apply gitpodPodFinalizerName ws).conditions failed = some c := by
  match p, hp with
  | .status now [], _ => rwa [Pass.apply_status, updateWorkspaceStatus_nil_conditions]
  | .status now [pod], _ =>
    rw [Pass.apply_status, updateWorkspaceStatus_single]
    exact findCondition_podConditions_failed hc hs
  | .timeout r pod now, _ =>
    rw [(Pass.apply_timeout_frame r pod now ws).2.findCondition_eq (by decide), hc]

/-- A `Failed` condition that is `True` survives every run with no status pass over two or
more pods: its message and its time stay. -/
theorem runPasses_keeps_failed {ws : Workspace} {c : Condition}
    (hc : findCondition ws.conditions failed = some c) (hs : c.status = .conditionTrue) :
    ∀ ps : List Pass, (∀ p ∈ ps, p.multiplePods = false) →
      findCondition (runPasses gitpodPodFinalizerName ws ps).conditions failed = some c := by
  intro ps hps
  induction ps generalizing ws with
  | nil => exact hc
  | cons p ps ih =>
    rw [runPasses_cons]
    exact ih (p.findCondition_failed_apply (hps p (.head _)) hc hs)
      fun q hq => hps q (.tail _ hq)

/-- A status pass over two pods writes over a `Failed` condition that is `True`: its message
and its time change. -/
theorem runPasses_overwrites_failed :
    let ws : Workspace := { conditions := [failedCondition 0 "boom"] }
    findCondition (runPasses gitpodPodFinalizerName ws [.status 5 [{}, {}]]).conditions failed =
      some (failedCondition 5 "multiple pods exists - this should never happen") :=
  rfl

/-! ### The `Timeout` condition -/

/-- A pass keeps a `Timeout` condition that is `True`. -/
theorem Pass.findCondition_timeout_apply (p : Pass) {ws : Workspace}
    (ht : conditionPresentAndTrue ws.conditions WorkspaceCondition.timeout) :
    findCondition (p.apply gitpodPodFinalizerName ws).conditions WorkspaceCondition.timeout =
      findCondition ws.conditions WorkspaceCondition.timeout := by
  cases p with
  | status now pods =>
    rw [Pass.apply_status]
    exact (updateWorkspaceStatus_frame gitpodPodFinalizerName now ws pods).2.1.findCondition_eq
      (by decide)
  | timeout r pod now =>
    simp only [Pass.apply, Pass.update, reconcile_update_eq_none ht, Option.getD_none]

/-- A timeout pass that reads a workspace that has timed out leaves its `Timeout` condition
`True`. -/
theorem Pass.apply_timeout_marks (r : TimeoutReconciler) (pod : Pod) (now : Int) (ws : Workspace)
    (h : isWorkspaceTimedOut ws pod r.config.timeouts now ≠ "") :
    conditionPresentAndTrue ((Pass.timeout r pod now).apply gitpodPodFinalizerName ws).conditions
      WorkspaceCondition.timeout := by
  simp only [Pass.apply, Pass.update]
  cases hu : (r.reconcile pod now (.ok ws)).update with
  | none =>
    simp only [TimeoutReconciler.reconcile, if_neg h] at hu
    split_ifs at hu with ht
    exact ht
  | some ws' => exact conditionPresentAndTrue_reconcile hu

theorem runPasses_keeps_timeout {ws : Workspace}
    (ht : conditionPresentAndTrue ws.conditions timeout) :
    ∀ ps : List Pass, findCondition (runPasses gitpodPodFinalizerName ws ps).conditions timeout =
      findCondition ws.conditions timeout
  | [] => rfl
  | p :: ps => by
    have he := @Pass.findCondition_timeout_apply gitpodPodFinalizerName p _ ht
    rw [runPasses_cons, runPasses_keeps_timeout ((conditionPresentAndTrue_congr he).trans ht) ps,
      he]

/-- Progress: once a timeout pass reads a workspace that has timed out, its `Timeout` condition
is `True` after that pass and after every pass that follows. -/
theorem runPasses_timeout_marked (ws : Workspace) (ps qs : List Pass) (r : TimeoutReconciler)
    (pod : Pod) (now : Int)
    (h : isWorkspaceTimedOut (runPasses gitpodPodFinalizerName ws ps) pod r.config.timeouts now ≠
      "") :
    conditionPresentAndTrue
      (runPasses gitpodPodFinalizerName ws (ps ++ .timeout r pod now :: qs)).conditions
      timeout := by
  have hm := @Pass.apply_timeout_marks gitpodPodFinalizerName r pod now _ h
  rw [runPasses_append, runPasses_cons,
    conditionPresentAndTrue_congr (runPasses_keeps_timeout hm qs)]
  exact hm

/-! ### A pass that sees no pod -/

theorem Pass.apply_phase {p : Pass} (hp : p.keepsPhase) (ws : Workspace) :
    (p.apply gitpodPodFinalizerName ws).phase = ws.phase := by
  match p, hp with
  | .status _ (_ :: _ :: _), _ => rw [Pass.apply_status]; rfl
  | .timeout r pod now, _ => rw [(Pass.apply_timeout_frame r pod now ws).1]

theorem runPasses_phase {ps : List Pass} (hps : ∀ p ∈ ps, p.keepsPhase) (ws : Workspace) :
    (runPasses gitpodPodFinalizerName ws ps).phase = ws.phase := by
  induction ps generalizing ws with
  | nil => rfl
  | cons p ps ih =>
    rw [runPasses_cons, ih (fun q hq => hps q (.tail _ hq)), Pass.apply_phase (hps p (.head _))]

/-- A pass that sees no pod leaves `Stopped` unless the phase it reads is `""` or `Pending`,
and then `Pending`.  After a pass that saw one pod alone, and only passes that leave the phase
alone since, the phase it reads is the one that pod was mapped to; with no pass that saw one
pod alone, it reads the phase the run started from. -/
theorem runPasses_zero_pods_phase (ws : Workspace) (ps : List Pass) (now : Int) :
    (runPasses gitpodPodFinalizerName ws (ps ++ [.status now []])).phase =
        (if (runPasses gitpodPodFinalizerName ws ps).phase = .empty ∨
            (runPasses gitpodPodFinalizerName ws ps).phase = .pending then .pending
          else .stopped) ∧
      (∀ pre mid pod now', ps = pre ++ .status now' [pod] :: mid → (∀ p ∈ mid, p.keepsPhase) →
        (runPasses gitpodPodFinalizerName ws ps).phase =
          podSwitchPhase gitpodPodFinalizerName (runPasses gitpodPodFinalizerName ws pre) pod) ∧
      ((∀ p ∈ ps, p.keepsPhase) → (runPasses gitpodPodFinalizerName ws ps).phase = ws.phase) := by
  refine ⟨?_, ?_, fun hps => runPasses_phase hps ws⟩
  · rw [runPasses_append, runPasses_cons, runPasses_nil, Pass.apply_status,
      updateWorkspaceStatus_nil_phase]
  · rintro pre mid pod now' rfl hmid
    rw [runPasses_append, runPasses_cons, runPasses_phase hmid, Pass.apply_status,
      updateWorkspaceStatus_single]

end

/-- A failed pod seen after a `Failed` condition was set, then no pod: the condition stays. -/
theorem runPasses_keeps_failed_boom :
    let ws : Workspace := { conditions := [failedCondition 0 "boom"] }
    let ps : List Pass :=
      [.status 1 [{ phase := .failed, reason := "OOMKilled", message := "out of memory" }],
        .status 2 []]
    (findCondition ws.conditions failed = some (failedCondition 0 "boom") ∧
        (failedCondition 0 "boom").status = .conditionTrue ∧ ∀ p ∈ ps, p.multiplePods = false) ∧
      findCondition (runPasses "" ws ps).conditions failed = some (failedCondition 0 "boom") := by
  intro ws ps
  have hc : findCondition ws.conditions failed = some (failedCondition 0 "boom") := by decide
  have hs : (failedCondition 0 "boom").status = .conditionTrue := rfl
  have hps : ∀ p ∈ ps, p.multiplePods = false := by decide
  exact ⟨⟨hc, hs, hps⟩, runPasses_keeps_failed hc hs ps hps⟩

/-- A workspace `Pending` for 31 minutes against a 30-minute initialization timeout: a timeout
pass marks it, and a status pass after it keeps the mark. -/
theorem runPasses_timeout_marked_pending :
    let T : WorkspaceTimeoutConfiguration :=
      { totalStartup := hour, initialization := 30 * minute, regularWorkspace := 30 * minute,
        maxLifetime := 36 * hour, headlessWorkspace := hour, afterClose := 15 * minute,
        contentFinalization := hour, stopping := hour }
    let r := newTimeoutReconciler { heartbeatInterval := minute, timeouts := T }
    let ws : Workspace := { phase := .pending }
    isWorkspaceTimedOut (runPasses "" ws []) {} r.config.timeouts (31 * minute) ≠ "" ∧
      conditionPresentAndTrue (runPasses "" ws
        ([] ++ .timeout r {} (31 * minute) :: [.status (32 * minute) [{}]])).conditions timeout :=
  ⟨by decide, runPasses_timeout_marked _ [] _ _ _ _ (by decide)⟩

/-- A pod seen only in its `Pending` phase, or only beside another, and then no pod: the
workspace is left `Pending`, not `Stopped`.  (No pod here is being deleted, so the finalizer
name is never read.) -/
theorem runPasses_pod_then_none_pending :
    (runPasses "" {} [.status 0 [{}], .status 1 []]).phase = .pending ∧
      (runPasses "" {} [.status 0 [{}, {}], .status 1 []]).phase = .pending :=
  ⟨rfl, rfl⟩

end WsManager
