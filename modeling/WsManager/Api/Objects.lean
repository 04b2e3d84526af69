import Mathlib.Logic.Basic

/-!
# Api — the objects the two controllers read and write

The parts of `workspacev1.Workspace`, `corev1.Pod`, `metav1.Condition` and
`config.WorkspaceTimeoutConfiguration` that `updateWorkspaceStatus`, `extractFailure` and
the timeout controller read or write, and nothing else.  Go strings are `String`s (a log
tail is read character by character, which for UTF-8 text agrees with Go's byte slicing at
`'\n'`); instants and durations are nanoseconds, as `time.Time` and `time.Duration` count
them, as `Int`s, so that `time.Since` is a subtraction.  Optional Go pointers are `Option`s,
and a field's default is its Go zero value.
-/

namespace WsManager

/-! ### Workspaces -/

/-- `workspacev1.WorkspacePhase`; `empty` is the phase `""` a new workspace carries. -/
inductive WorkspacePhase
  | empty | pending | creating | initializing | running | stopping | stopped | unknown
  deriving DecidableEq, Repr

/-- `metav1.ConditionStatus`. -/
inductive ConditionStatus
  | conditionTrue | conditionFalse | conditionUnknown
  deriving DecidableEq, Repr

/-- `metav1.Condition`, without `ObservedGeneration`, which nothing here reads. -/
structure Condition where
  type : String
  status : ConditionStatus
  lastTransitionTime : Int
  reason : String := ""
  message : String := ""
  deriving DecidableEq, Repr

/-! The condition types of `workspacev1` are not in the source; §6 of the spec names them. -/

namespace WorkspaceCondition

/-- Modelled from the spec: `WorkspaceConditionDeployed`. -/
def deployed : String := "Deployed"
/-- Modelled from the spec: `WorkspaceConditionFailed`. -/
def failed : String := "Failed"
/-- Modelled from the spec: `WorkspaceConditionTimeout`. -/
def timeout : String := "Timeout"
/-- Modelled from the spec: `WorkspaceConditionBackupComplete`. -/
def backupComplete : String := "BackupComplete"
/-- Modelled from the spec: `WorkspaceConditionBackupFailure`. -/
def backupFailure : String := "BackupFailure"
/-- Modelled from the spec: `WorkspaceConditionContentReady`. -/
def contentReady : String := "ContentReady"
/-- Modelled from the spec: `WorkspaceConditionClosed`. -/
def closed : String := "Closed"
/-- Modelled from the spec: `WorkspaceConditionUserActivity`. -/
def userActivity : String := "UserActivity"

end WorkspaceCondition

/-- `workspacev1.WorkspaceRuntimeStatus`: where the workspace's pod runs. -/
structure WorkspaceRuntimeStatus where
  nodeName : String := ""
  hostIP : String := ""
  podIP : String := ""
  podName : String := ""
  deriving DecidableEq, Repr

/-- A workspace: its creation time, its spec's custom timeout (`Spec.Timeout.Time`), and its
status. -/
structure Workspace where
  creationTimestamp : Int := 0
  timeout : Option Int := none
  phase : WorkspacePhase := .empty
  conditions : List Condition := []
  headless : Bool := false
  runtime : Option WorkspaceRuntimeStatus := none
  deriving DecidableEq, Repr

/-! ### Pods -/

/-- `corev1.PodPhase`. -/
inductive PodPhase
  | pending | running | succeeded | failed | unknown
  deriving DecidableEq, Repr

/-- `corev1.ContainerStateWaiting`. -/
structure ContainerStateWaiting where
  reason : String := ""
  message : String := ""
  deriving DecidableEq, Repr

/-- `corev1.ContainerStateTerminated`; the `int32` exit code is only compared and printed. -/
structure ContainerStateTerminated where
  exitCode : Int := 0
  reason : String := ""
  message : String := ""
  deriving DecidableEq, Repr

/-- `corev1.ContainerState`, without `Running`, which nothing here reads. -/
structure ContainerState where
  waiting : Option ContainerStateWaiting := none
  terminated : Option ContainerStateTerminated := none
  deriving DecidableEq, Repr

/-- `corev1.ContainerStatus`. -/
structure ContainerStatus where
  name : String := ""
  ready : Bool := false
  state : ContainerState := {}
  lastTerminationState : ContainerState := {}
  deriving DecidableEq, Repr

/-- The fields of a `corev1.Pod` the controllers read: its name, deletion time and
finalizers, its node, and its status. -/
structure Pod where
  name : String := ""
  deletionTimestamp : Option Int := none
  finalizers : List String := []
  nodeName : String := ""
  phase : PodPhase := .pending
  reason : String := ""
  message : String := ""
  hostIP : String := ""
  podIP : String := ""
  containerStatuses : List ContainerStatus := []
  deriving DecidableEq, Repr

/-! ### Configuration -/

/-- `config.WorkspaceTimeoutConfiguration`, without `Interrupted`, which nothing here reads. -/
structure WorkspaceTimeoutConfiguration where
  totalStartup : Int
  initialization : Int
  regularWorkspace : Int
  maxLifetime : Int
  headlessWorkspace : Int
  afterClose : Int
  contentFinalization : Int
  stopping : Int
  deriving DecidableEq, Repr

end WsManager
