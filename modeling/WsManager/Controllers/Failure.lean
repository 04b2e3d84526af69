import WsManager.Controllers.Logs
import WsManager.Api.Conditions

/-!
# Controllers — what failed in a pod

`extractFailure` returns a pod's failure text, empty when nothing failed, and the phase the
failure forces on the workspace, if any.  A failed pod with a reason or a message reports
them.  Otherwise the containers are scanned in order, and the scan returns at the first one
that decides (`containerFailure`): an image that cannot be pulled, a termination with a
message (read as log lines by `extractFailureFromLogs`), an `Error` exit, a `Completed`
container, or any other termination.  A container that decides nothing moves the scan on.

`extractFailure` reads the workspace only for its headless flag
(`extractFailure_congr_headless`).

Every text the scan can return at a container is non-empty but one: a `Completed` container of
a headless workspace ends the scan with `""` (`containerFailure_empty`).  So a container that
fails alone still fails the pod, unless such a container comes before it
(`extractFailure_single_container`, `extractFailure_completed_hides_error`).
-/

namespace WsManager

/-- `containerKilledExitCode`: the exit code Kubernetes gives a container the system killed. -/
def containerKilledExitCode : Int := 137

/-- `containerUnknownExitCode`: the exit code containerd gives a stopped container whose exit
status it cannot tell. -/
def containerUnknownExitCode : Int := 255

/-- `isPodBeingDeleted`: the pod carries a deletion timestamp. -/
def isPodBeingDeleted (pod : Pod) : Bool := pod.deletionTimestamp.isSome

/-- The termination part of the scan at one container, on its `Terminated` state, else its
last termination state: `some` when the scan returns there, `none` when it moves on. -/
def terminationFailure (ws : Workspace) (pod : Pod) (cs : ContainerStatus) :
    Option (String × Option WorkspacePhase) :=
  match cs.state.terminated <|> cs.lastTerminationState.terminated with
  | none => none
  | some t =>
    if t.exitCode ≠ 0 ∧ t.message ≠ "" then
      some (extractFailureFromLogs t.message.toList,
        some (if isPodBeingDeleted pod then .empty else .running))
    else if t.reason = "Error" then
      if !isPodBeingDeleted pod ∧ t.exitCode ≠ containerKilledExitCode then
        some ("container " ++ cs.name ++ " ran with an error: exit code " ++ toString t.exitCode,
          some .running)
      else none
    else if t.reason = "Completed" ∧ !isPodBeingDeleted pod then
      if ws.headless then some ("", none)
      else some ("container " ++ cs.name ++
        " completed; containers of a workspace pod are not supposed to do that", none)
    else if !isPodBeingDeleted pod ∧ t.exitCode ≠ containerUnknownExitCode then
      some ("workspace container " ++ cs.name ++ " terminated for an unknown reason: (" ++
        t.reason ++ ") " ++ t.message, some .unknown)
    else none

/-- What the scan of `extractFailure` decides at one container status: `some` when it returns
there, with the failure text and the forced phase, `none` when it moves on. -/
def containerFailure (ws : Workspace) (pod : Pod) (cs : ContainerStatus) :
    Option (String × Option WorkspacePhase) :=
  match cs.state.waiting with
  | some w =>
    if w.reason = "ImagePullBackOff" ∨ w.reason = "ErrImagePull" then
      some ("cannot pull image: " ++ w.message,
        if isPodBeingDeleted pod then none else some .creating)
    else terminationFailure ws pod cs
  | none => terminationFailure ws pod cs

/-- `extractFailure`: the pod's failure text, `""` if it has not failed, and the phase the
failure forces, if any. -/
def extractFailure (ws : Workspace) (pod : Pod) : String × Option WorkspacePhase :=
  if pod.phase = .failed ∧ (pod.reason ≠ "" ∨ pod.message ≠ "") then
    (pod.reason ++ ": " ++ pod.message, none)
  else (pod.containerStatuses.findSome? (containerFailure ws pod)).getD ("", none)

theorem extractFailure_congr_headless {ws ws' : Workspace} (h : ws.headless = ws'.headless)
    (pod : Pod) : extractFailure ws pod = extractFailure ws' pod := by
  have hc : containerFailure ws pod = containerFailure ws' pod := by
    funext cs
    simp only [containerFailure, terminationFailure, h]
  simp only [extractFailure, hc]

@[simp] theorem extractFailure_with (ws : Workspace) (phase : WorkspacePhase)
    (conds : List Condition) (rt : Option WorkspaceRuntimeStatus) (pod : Pod) :
    extractFailure { ws with phase := phase, conditions := conds, runtime := rt } pod =
      extractFailure ws pod :=
  extractFailure_congr_headless rfl pod

/-! ### The container scan -/

/-- The termination part of the scan reports `""` only for a `Completed` container, with no
failure message, of a headless workspace whose pod is not being deleted. -/
theorem terminationFailure_empty {ws : Workspace} {pod : Pod} {cs : ContainerStatus}
    {p : Option WorkspacePhase} (h : terminationFailure ws pod cs = some ("", p)) :
    ws.headless = true ∧ isPodBeingDeleted pod = false ∧ p = none ∧
      ∃ t, (cs.state.terminated <|> cs.lastTerminationState.terminated) = some t ∧
        t.reason = "Completed" ∧ ¬(t.exitCode ≠ 0 ∧ t.message ≠ "") := by
  unfold terminationFailure at h
  split at h
  · cases h
  · rename_i t ht
    have hlogs : extractFailureFromLogs t.message.toList = "" → t.message = "" := fun he =>
      String.ext (Classical.not_not.mp fun hm => extractFailureFromLogs_ne_empty hm he)
    -- every other text starts with a literal, so only the headless `Completed` case is `""`
    split_ifs at h with h₁ h₂ h₃ h₄ h₅ h₆ <;> simp at h
    · exact absurd (hlogs h.1) h₁.2
    · exact absurd (hlogs h.1) h₁.2
    · exact ⟨h₆, by simpa using h₅.2, h.symm, t, ht, h₅.1, h₁⟩

/-- The scan reports `""` at a container only when that container terminated `Completed`, with
no failure message, in a headless workspace whose pod is not being deleted. -/
theorem containerFailure_empty {ws : Workspace} {pod : Pod} {cs : ContainerStatus}
    {p : Option WorkspacePhase} (h : containerFailure ws pod cs = some ("", p)) :
    ws.headless = true ∧ isPodBeingDeleted pod = false ∧ p = none ∧
      ∃ t, (cs.state.terminated <|> cs.lastTerminationState.terminated) = some t ∧
        t.reason = "Completed" ∧ ¬(t.exitCode ≠ 0 ∧ t.message ≠ "") := by
  unfold containerFailure at h
  split at h
  · split_ifs at h
    · simp at h
    · simp at h
    · exact terminationFailure_empty h
  · exact terminationFailure_empty h

/-- The scan at a container reads the pod only for its deletion. -/
theorem containerFailure_with (ws : Workspace) (pod : Pod) (cs : List ContainerStatus) :
    containerFailure ws { pod with containerStatuses := cs } = containerFailure ws pod :=
  rfl

/-- A failing container is hidden from the scan only in a headless workspace whose pod is not
being deleted, by a container listed before it that terminated `Completed` with no failure
message, every container before that one deciding nothing. -/
theorem extractFailure_single_container (ws : Workspace) (pod : Pod) (c : ContainerStatus)
    (hc : c ∈ pod.containerStatuses)
    (h : (extractFailure ws { pod with containerStatuses := [c] }).1 ≠ "") :
    (extractFailure ws pod).1 ≠ "" ∨
      ws.headless = true ∧ isPodBeingDeleted pod = false ∧
        ∃ pre c' post, pod.containerStatuses = pre ++ c' :: post ∧ c ∈ post ∧
          (∀ d ∈ pre, containerFailure ws pod d = none) ∧
          ∃ t, (c'.state.terminated <|> c'.lastTerminationState.terminated) = some t ∧
            t.reason = "Completed" ∧ ¬(t.exitCode ≠ 0 ∧ t.message ≠ "") := by
  unfold extractFailure at h ⊢
  simp only [containerFailure_with, List.findSome?_cons, List.findSome?_nil] at h
  split_ifs at h ⊢ with hp
  · exact .inl h
  · -- alone, `c` decides with a text that is not empty
    obtain ⟨s, q, hcs, hs⟩ : ∃ s q, containerFailure ws pod c = some (s, q) ∧ s ≠ "" := by
      cases hcf : containerFailure ws pod c with
      | none => simp [hcf] at h
      | some x => exact ⟨x.1, x.2, rfl, by simpa [hcf] using h⟩
    -- so the scan of the whole list decides too, at its first deciding container
    obtain ⟨⟨s', q'⟩, hfs⟩ :
        ∃ y, pod.containerStatuses.findSome? (containerFailure ws pod) = some y :=
      Option.isSome_iff_exists.mp (List.findSome?_isSome_iff.mpr ⟨c, hc, by simp [hcs]⟩)
    rw [hfs]
    by_cases hs' : s' = ""
    · subst hs'
      obtain ⟨pre, c', post, hl, hc', hpre⟩ := List.findSome?_eq_some_iff.mp hfs
      obtain ⟨hh, hd, -, ht⟩ := containerFailure_empty hc'
      refine .inr ⟨hh, hd, pre, c', post, hl, ?_, hpre, ht⟩
      -- `c` decides with a text that is not empty, so it comes after `c'`
      rw [hl] at hc
      rcases List.mem_append.mp hc with hc | hc
      · exact absurd (hpre c hc) (by simp [hcs])
      rcases List.mem_cons.mp hc with rfl | hc
      · rw [hcs] at hc'
        cases hc'
        exact absurd rfl hs
      · exact hc
    · exact .inl hs'

/-- The law at the pod of `extractFailure_completed_hides_error`: the error is hidden, by the
container that completed before it. -/
theorem extractFailure_single_container_completed :
    let ws : Workspace := { headless := true }
    let done : ContainerStatus :=
      { name := "init", state := { terminated := some { reason := "Completed" } } }
    let err : ContainerStatus :=
      { name := "workspace", state := { terminated := some { exitCode := 1, reason := "Error" } } }
    let pod : Pod := { phase := .running, containerStatuses := [done, err] }
    (err ∈ pod.containerStatuses ∧
        (extractFailure ws { pod with containerStatuses := [err] }).1 ≠ "") ∧
      ((extractFailure ws pod).1 ≠ "" ∨
        ws.headless = true ∧ isPodBeingDeleted pod = false ∧
          ∃ pre c' post, pod.containerStatuses = pre ++ c' :: post ∧ err ∈ post ∧
            (∀ d ∈ pre, containerFailure ws pod d = none) ∧
            ∃ t, (c'.state.terminated <|> c'.lastTerminationState.terminated) = some t ∧
              t.reason = "Completed" ∧ ¬(t.exitCode ≠ 0 ∧ t.message ≠ "")) :=
  ⟨⟨by decide, by decide⟩, extractFailure_single_container _ _ _ (by decide) (by decide)⟩

/-- A headless workspace's pod, not being deleted, whose first container completed and whose
second exited with an error: alone, the second reports its error; behind the first, nothing is
reported. -/
theorem extractFailure_completed_hides_error :
    let ws : Workspace := { headless := true }
    let done : ContainerStatus :=
      { name := "init", state := { terminated := some { reason := "Completed" } } }
    let err : ContainerStatus :=
      { name := "workspace", state := { terminated := some { exitCode := 1, reason := "Error" } } }
    let pod : Pod := { phase := .running, containerStatuses := [done, err] }
    err ∈ pod.containerStatuses ∧
      (extractFailure ws { pod with containerStatuses := [err] }).1 =
        "container workspace ran with an error: exit code 1" ∧
      (extractFailure ws pod).1 = "" := by
  decide

end WsManager
