import WsManager.Controllers.Failure

/-!
# Controllers — the status a workspace takes from its pods

`updateWorkspaceStatus` maps a workspace and the pods of its selector to the workspace's new
phase, conditions and runtime snapshot.  No pod: the phase goes `""` to `Pending`, and anything
but `Pending` to `Stopped`.  Two or more: a `Failed` condition is upserted.  One pod: a
`Deployed` condition is upserted, empty runtime fields are filled in from the pod, the phase
`extractFailure` forces is written, a `Failed` condition is added unless one is already
`True`, and last a `switch` on the pod writes the phase again.

The disposal finalizer's name is a constant the source does not hold, so it is a parameter.

* `updateWorkspaceStatus_single`: everything one pod does, in one statement; the phase is the
  switch's, read on the workspace as it came in.
* `updateWorkspaceStatus_phase`: the phase follows §4.1's ordered rules (`specPhase`), and for
  one pod never depends on the phase before.
* `updateWorkspaceStatus_idempotent`: a second pass on the same pods changes nothing.
* `updateWorkspaceStatus_frame`: only the phase, the `Deployed` and `Failed` conditions and
  empty runtime fields change.
* `updateWorkspaceStatus_discards_forced_phase`: the phase `extractFailure` forces is always
  written over by the switch.
-/

namespace WsManager
open WorkspaceCondition

variable (gitpodPodFinalizerName : String)

/-- An empty runtime field is filled in from the pod's value, when that is not empty. -/
def fillRuntimeField (current observed : String) : String :=
  if current = "" ∧ observed ≠ "" then observed else current

/-- The four runtime fields `updateWorkspaceStatus` fills in from the pod. -/
def fillRuntime (rt : WorkspaceRuntimeStatus) (pod : Pod) : WorkspaceRuntimeStatus where
  nodeName := fillRuntimeField rt.nodeName pod.nodeName
  hostIP := fillRuntimeField rt.hostIP pod.hostIP
  podIP := fillRuntimeField rt.podIP pod.podIP
  podName := fillRuntimeField rt.podName pod.name

/-- Some container waits to be created, or for its image. -/
def anyContainerCreating (pod : Pod) : Bool :=
  pod.containerStatuses.any fun cs => match cs.state.waiting with
    | some w => w.reason = "ContainerCreating" ∨ w.reason = "ImagePullBackOff" ∨
        w.reason = "ErrImagePull"
    | none => false

/-- The backup or content outcome a pod being deleted with its finalizer waits for. -/
def disposalDone (conds : List Condition) : Bool :=
  conditionPresentAndTrue conds backupComplete || conditionPresentAndTrue conds backupFailure ||
    conditionWithStatusAndReson conds contentReady false "InitializationFailure"

/-- The `switch` that ends `updateWorkspaceStatus` for one pod. -/
def podSwitchPhase (ws : Workspace) (pod : Pod) : WorkspacePhase :=
  if isPodBeingDeleted pod then
    if gitpodPodFinalizerName ∈ pod.finalizers then
      if disposalDone ws.conditions then .stopped else .stopping
    else .stopped
  else if pod.phase = .pending then
    if anyContainerCreating pod then .creating else .pending
  else if pod.phase = .running then
    if pod.containerStatuses.any (·.ready) then .running else .initializing
  else if ws.headless ∧ (pod.phase = .succeeded ∨ pod.phase = .failed) then .stopping
  else if pod.phase = .unknown then .unknown
  else .unknown

/-- The `Deployed` condition a pass with one pod upserts. -/
def deployedCondition (now : Int) : Condition :=
  { type := deployed, status := .conditionTrue, lastTransitionTime := now }

/-- The `Failed` condition with the given message. -/
def failedCondition (now : Int) (message : String) : Condition :=
  { type := failed, status := .conditionTrue, lastTransitionTime := now, message := message }

/-- `updateWorkspaceStatus`: the workspace after one pass of the status reconciler over the
pods of its selector, at the clock value `now`. -/
def updateWorkspaceStatus (now : Int) (ws : Workspace) : List Pod → Workspace
  | [] =>
    let ws := if ws.phase = .empty then { ws with phase := .pending } else ws
    if ws.phase ≠ .pending then { ws with phase := .stopped } else ws
  | [pod] =>
    let ws := { ws with conditions := addUniqueCondition ws.conditions (deployedCondition now) }
    let ws := { ws with runtime := some (fillRuntime (ws.runtime.getD {}) pod) }
    let (failure, phase) := extractFailure ws pod
    let ws := match phase with
      | some p => { ws with phase := p }
      | none => ws
    let ws :=
      if failure ≠ "" ∧ !conditionPresentAndTrue ws.conditions failed then
        { ws with conditions := addUniqueCondition ws.conditions (failedCondition now failure) }
      else ws
    { ws with phase := podSwitchPhase gitpodPodFinalizerName ws pod }
  | _ :: _ :: _ =>
    let cond := failedCondition now "multiple pods exists - this should never happen"
    { ws with conditions := addUniqueCondition ws.conditions cond }

/-- The conditions one pod leaves: `Deployed` upserted, then `Failed` with the failure text,
unless that is empty or a `Failed` condition is already `True`. -/
def podConditions (now : Int) (conds : List Condition) (failure : String) : List Condition :=
  let conds := addUniqueCondition conds (deployedCondition now)
  if failure ≠ "" ∧ !conditionPresentAndTrue conds failed then
    addUniqueCondition conds (failedCondition now failure)
  else conds

/-! ### One pass -/

section
variable {gitpodPodFinalizerName}

theorem podConditions_frame (now : Int) (conds : List Condition) (failure : String) :
    ConditionsFrame [deployed, failed] conds (podConditions now conds failure) := by
  have hd : ConditionsFrame [deployed, failed] conds
      (addUniqueCondition conds (deployedCondition now)) :=
    (addUniqueCondition_frame _ conds).mono (by simp [deployedCondition])
  dsimp only [podConditions]
  split
  · exact hd.trans ((addUniqueCondition_frame (failedCondition now failure) _).mono
      (by simp [failedCondition]))
  · exact hd

theorem disposalDone_frame {conds conds' : List Condition}
    (h : ConditionsFrame [deployed, failed] conds conds') :
    disposalDone conds' = disposalDone conds := by
  simp only [disposalDone, conditionPresentAndTrue, conditionWithStatusAndReson,
    h.findCondition_eq (t := backupComplete) (by decide),
    h.findCondition_eq (t := backupFailure) (by decide),
    h.findCondition_eq (t := contentReady) (by decide)]

theorem podSwitchPhase_with (ws : Workspace) (phase : WorkspacePhase) {conds : List Condition}
    (rt : Option WorkspaceRuntimeStatus) (pod : Pod)
    (hd : disposalDone conds = disposalDone ws.conditions) :
    podSwitchPhase gitpodPodFinalizerName
        { ws with phase := phase, conditions := conds, runtime := rt } pod =
      podSwitchPhase gitpodPodFinalizerName ws pod := by
  simp only [podSwitchPhase, hd]

/-- Everything a pass with one pod does: the phase is the switch's on the workspace as it came
in, so neither the forced phase nor the new conditions reach it. -/
theorem updateWorkspaceStatus_single (now : Int) (ws : Workspace) (pod : Pod) :
    updateWorkspaceStatus gitpodPodFinalizerName now ws [pod] =
      { ws with phase := podSwitchPhase gitpodPodFinalizerName ws pod,
                conditions := podConditions now ws.conditions (extractFailure ws pod).1,
                runtime := some (fillRuntime (ws.runtime.getD {}) pod) } := by
  have hf := podConditions_frame now ws.conditions (extractFailure ws pod).1
  rw [updateWorkspaceStatus]
  dsimp only
  simp only [extractFailure_with]
  rcases hr : extractFailure ws pod with ⟨failure, phase⟩
  rw [hr] at hf
  dsimp only at hf
  cases phase <;> dsimp only <;> split <;> rename_i h <;>
    (first
      | simp only [podConditions, if_neg h] at hf ⊢
      | simp only [podConditions, if_pos h] at hf ⊢) <;>
    congr 1 <;> exact podSwitchPhase_with _ _ _ pod (disposalDone_frame hf)

theorem podConditions_eq_self {now : Int} {conds : List Condition} {failure : String}
    (hd : addUniqueCondition conds (deployedCondition now) = conds)
    (hf : ¬(failure ≠ "" ∧ !conditionPresentAndTrue conds failed)) :
    podConditions now conds failure = conds := by
  dsimp only [podConditions]
  rw [hd, if_neg hf]

/-- A second `Deployed` or `Failed` upsert of the same failure changes nothing. -/
theorem podConditions_podConditions (now₁ now₂ : Int) (conds : List Condition)
    (failure : String) :
    podConditions now₂ (podConditions now₁ conds failure) failure =
      podConditions now₁ conds failure := by
  obtain ⟨c, hc, hs, hm⟩ := findCondition_addUniqueCondition_self (deployedCondition now₁) conds
  refine podConditions_eq_self (addUniqueCondition_of_findCondition (c := c) ?_ hs hm) ?_
  all_goals dsimp only [podConditions]; split
  · rwa [findCondition_addUniqueCondition_of_ne _ (show deployed ≠ failed by decide)]
  · exact hc
  · have h : conditionPresentAndTrue (addUniqueCondition (addUniqueCondition conds
        (deployedCondition now₁)) (failedCondition now₁ failure)) failed = true :=
      conditionPresentAndTrue_addUniqueCondition_self _ _ rfl
    simp [h]
  · assumption

theorem fillRuntime_fillRuntime (rt : WorkspaceRuntimeStatus) (pod : Pod) :
    fillRuntime (fillRuntime rt pod) pod = fillRuntime rt pod := by
  simp only [fillRuntime, fillRuntimeField]
  congr 1 <;> split_ifs <;> simp_all

end

/-! ### The phase, and a second pass -/

/-- The phase §4.1 of the spec gives a workspace, rule by rule: from no pod, from two or more,
and from one pod, by the first of the five rules that matches. -/
def specPhase (headless : Bool) (conds : List Condition) (prior : WorkspacePhase) :
    List Pod → WorkspacePhase
  | [] => if prior = .empty ∨ prior = .pending then .pending else .stopped
  | [p] =>
    if p.deletionTimestamp.isSome then
      if gitpodPodFinalizerName ∉ p.finalizers ∨ conditionPresentAndTrue conds backupComplete ∨
          conditionPresentAndTrue conds backupFailure ∨
          conditionWithStatusAndReson conds contentReady false "InitializationFailure" then .stopped
      else .stopping
    else if p.phase = .pending then
      if ∃ cs ∈ p.containerStatuses, cs.state.waiting.any fun w =>
          w.reason ∈ ["ContainerCreating", "ImagePullBackOff", "ErrImagePull"] then .creating
      else .pending
    else if p.phase = .running then
      if ∃ cs ∈ p.containerStatuses, cs.ready then .running else .initializing
    else if headless ∧ (p.phase = .succeeded ∨ p.phase = .failed) then .stopping
    else .unknown
  | _ :: _ :: _ => prior

theorem podSwitchPhase_eq_specPhase (ws : Workspace) (pod : Pod) :
    podSwitchPhase gitpodPodFinalizerName ws pod =
      specPhase gitpodPodFinalizerName ws.headless ws.conditions ws.phase [pod] := by
  have hc : anyContainerCreating pod = true ↔ ∃ cs ∈ pod.containerStatuses,
      cs.state.waiting.any fun w =>
        w.reason ∈ ["ContainerCreating", "ImagePullBackOff", "ErrImagePull"] := by
    simp only [anyContainerCreating, List.any_eq_true]
    refine exists_congr fun cs => and_congr_right fun _ => ?_
    cases cs.state.waiting <;> simp
  by_cases hd : pod.deletionTimestamp.isSome
  · by_cases hf : gitpodPodFinalizerName ∈ pod.finalizers <;>
      simp [podSwitchPhase, specPhase, isPodBeingDeleted, hd, hf, disposalDone, or_assoc]
  · simp [podSwitchPhase, specPhase, isPodBeingDeleted, hd, hc]

theorem updateWorkspaceStatus_nil_phase (now : Int) (ws : Workspace) :
    (updateWorkspaceStatus gitpodPodFinalizerName now ws []).phase =
      if ws.phase = .empty ∨ ws.phase = .pending then .pending else .stopped := by
  cases h : ws.phase <;> simp [updateWorkspaceStatus, h]

/-- The phase after a pass follows §4.1's rules: no pod sends `""` and `Pending` to `Pending`
and every other phase to `Stopped`, two or more pods leave it alone, and one pod decides it by
the first matching rule, reading only the pod, the headless flag and three conditions. -/
theorem updateWorkspaceStatus_phase (now : Int) (ws : Workspace) :
    ∀ pods : List Pod, (updateWorkspaceStatus gitpodPodFinalizerName now ws pods).phase =
      specPhase gitpodPodFinalizerName ws.headless ws.conditions ws.phase pods
  | [] => updateWorkspaceStatus_nil_phase gitpodPodFinalizerName now ws
  | [pod] => by simp only [updateWorkspaceStatus_single, podSwitchPhase_eq_specPhase]
  | _ :: _ :: _ => rfl

/-- A second pass over the same pods, at any clock value, changes nothing. -/
theorem updateWorkspaceStatus_idempotent (now₁ now₂ : Int) (ws : Workspace) :
    ∀ pods : List Pod,
      updateWorkspaceStatus gitpodPodFinalizerName now₂
          (updateWorkspaceStatus gitpodPodFinalizerName now₁ ws pods) pods =
        updateWorkspaceStatus gitpodPodFinalizerName now₁ ws pods
  | [] => by cases h : ws.phase <;> simp [updateWorkspaceStatus, h]
  | [pod] => by
    have hf := podConditions_frame now₁ ws.conditions (extractFailure ws pod).1
    simp only [updateWorkspaceStatus_single]
    simp only [extractFailure_with, podConditions_podConditions,
      podSwitchPhase_with _ _ _ pod (disposalDone_frame hf), Option.getD_some,
      fillRuntime_fillRuntime]
  | _ :: _ :: _ => by
    obtain ⟨c, hc, hs, hm⟩ := findCondition_addUniqueCondition_self
      (failedCondition now₁ "multiple pods exists - this should never happen") ws.conditions
    simp only [updateWorkspaceStatus]
    rw [@addUniqueCondition_of_findCondition
      (failedCondition now₂ "multiple pods exists - this should never happen") c _ hc hs hm]

/-! ### What a pass leaves alone -/

/-- The four fields of the runtime snapshot. -/
inductive RuntimeField
  | nodeName | hostIP | podIP | podName
  deriving DecidableEq, Repr

/-- A field of a runtime snapshot. -/
def RuntimeField.get : RuntimeField → WorkspaceRuntimeStatus → String
  | .nodeName, rt => rt.nodeName
  | .hostIP, rt => rt.hostIP
  | .podIP, rt => rt.podIP
  | .podName, rt => rt.podName

/-- The pod's value a field is filled in from. -/
def RuntimeField.ofPod : RuntimeField → Pod → String
  | .nodeName, p => p.nodeName
  | .hostIP, p => p.hostIP
  | .podIP, p => p.podIP
  | .podName, p => p.name

/-- A field of the workspace's runtime snapshot, empty when it has none. -/
def Workspace.runtimeField (ws : Workspace) (f : RuntimeField) : String :=
  (ws.runtime.map f.get).getD ""

/-- First write wins: each runtime field of `ws'` is that of `ws`, or was empty in `ws` and is
now the non-empty value of one of the pods. -/
def RuntimeFilled (pods : List Pod) (ws ws' : Workspace) : Prop :=
  ∀ f : RuntimeField, ws'.runtimeField f = ws.runtimeField f ∨
    ws.runtimeField f = "" ∧ ∃ p ∈ pods, ws'.runtimeField f = f.ofPod p ∧ f.ofPod p ≠ ""

theorem RuntimeField.get_fillRuntime (f : RuntimeField) (rt : Option WorkspaceRuntimeStatus)
    (pod : Pod) :
    f.get (fillRuntime (rt.getD {}) pod) =
      fillRuntimeField ((rt.map f.get).getD "") (f.ofPod pod) := by
  cases f <;> cases rt <;> rfl

theorem runtimeFilled_fillRuntime (ws : Workspace) (pod : Pod) :
    RuntimeFilled [pod] ws { ws with runtime := some (fillRuntime (ws.runtime.getD {}) pod) } := by
  intro f
  simp only [Workspace.runtimeField, Option.map_some', Option.getD_some, f.get_fillRuntime,
    fillRuntimeField, List.mem_singleton, exists_eq_left]
  split_ifs with h
  · exact .inr ⟨h.1, rfl, h.2⟩
  · exact .inl rfl

/-- A pass changes only the phase, the `Deployed` and `Failed` conditions, and runtime fields
that were empty. -/
theorem updateWorkspaceStatus_frame (now : Int) (ws : Workspace) (pods : List Pod) :
    let ws' := updateWorkspaceStatus gitpodPodFinalizerName now ws pods
    ws' = { ws with phase := ws'.phase, conditions := ws'.conditions, runtime := ws'.runtime } ∧
      ConditionsFrame [deployed, failed] ws.conditions ws'.conditions ∧
      RuntimeFilled pods ws ws' := by
  match pods with
  | [] =>
    obtain ⟨c, t, φ, conds, hl, rt⟩ := ws
    cases φ <;> exact ⟨rfl, ConditionsFrame.refl _ _, fun f => .inl rfl⟩
  | [pod] =>
    rw [updateWorkspaceStatus_single]
    exact ⟨rfl, podConditions_frame now ws.conditions _, runtimeFilled_fillRuntime ws pod⟩
  | _ :: _ :: _ =>
    exact ⟨rfl, (addUniqueCondition_frame _ _).mono (by simp [failedCondition]),
      fun f => .inl rfl⟩

/-- A pod whose one container exited `1` with a message: `extractFailure` forces `Running`,
and the switch then writes `Unknown` over it. -/
theorem updateWorkspaceStatus_discards_forced_phase (now : Int) :
    let pod : Pod := { phase := .failed, containerStatuses :=
      [{ state := { terminated := some { exitCode := 1, message := "boom" } } }] }
    extractFailure {} pod = ("boom", some .running) ∧
      (updateWorkspaceStatus gitpodPodFinalizerName now {} [pod]).phase = .unknown :=
  ⟨by decide, rfl⟩

end WsManager
