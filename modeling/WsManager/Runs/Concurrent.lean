import WsManager.Runs.Sequential
import Mathlib.Logic.Function.Basic

/-!
# Runs — passes that overlap

A pass reads the stored workspace and its resource version, computes its write from what it
read, and later sends it with `Status().Update`, which the store accepts only while the
version is still the one the pass read.  A rejected pass is requeued: it is dropped here, and
a later read stands for its retry.  External actors upsert conditions of any type but
`Timeout` and `Failed`, each write taking effect at once.  Every accepted write moves the
version on.  Passes are kept in flight under keys, so any number of them overlap, in any
order of reads and commits.

* `World.Inv`: a pass in flight read a version no later than the stored one, and a pass that
  read the stored version read the stored workspace.
* `World.step_timeout`: a step that changes what the `Timeout` condition reads as found it not
  `True`, and leaves it `True`.
* `World.run_timeout_latch`: a `Timeout` condition that is `True` stays, with its message and
  its time, and `conditionChanges_timeout_le_one`: over a whole run at most one write changes
  it;
  `World.timeout_set_once` puts the two together for every run from a stored workspace.
* `World.run_runtimeField`: over every interleaving a runtime field, once filled in, keeps
  its value.
* `World.run_types_prefix`: over every interleaving no condition is removed and none moves.
* `World.run_external`: no lost update.  Over every interleaving, a condition type no pass
  writes reads as the external upserts alone make it (`upsertsOnly`): the version check turns
  down every write computed before an upsert.
* `World.failed_changes_le_two`: the `Failed` condition changes at most twice over every
  interleaving, and at most once with no status pass over two or more pods (`failedLevel`
  counts how far it has come).
-/

namespace WsManager
open WorkspaceCondition

variable (gitpodPodFinalizerName : String)

/-- A condition an external actor upserts: of any type but `Timeout` and `Failed`. -/
structure ExternalCondition where
  cond : Condition
  type_ne_timeout : cond.type ≠ timeout
  type_ne_failed : cond.type ≠ failed

/-- A pass in flight: which pass, and the version and the workspace it read. -/
structure InFlight where
  pass : Pass
  version : Nat
  read : Workspace

/-- The stored workspace, its resource version, and the passes in flight, by key. -/
structure World where
  stored : Workspace
  version : Nat
  inFlight : Nat → Option InFlight

/-- A workspace as it is created: version `0`, no pass in flight. -/
def World.init (ws : Workspace) : World := ⟨ws, 0, fun _ => none⟩

/-- What can happen next: a pass starts by reading the store, a pass in flight sends its
write, or an external actor upserts a condition. -/
inductive Event
  | read (key : Nat) (p : Pass)
  | commit (key : Nat)
  | upsert (c : ExternalCondition)

/-- The upsert an event is, if it is one. -/
def Event.external : Event → Option ExternalCondition
  | .upsert c => some c
  | _ => none

/-- The world after one event.  A commit takes the pass out of flight; its write, if it has
one, is accepted only while the stored version is the one it read. -/
def World.step (w : World) : Event → World
  | .read k p =>
    { w with inFlight := Function.update w.inFlight k (some ⟨p, w.version, w.stored⟩) }
  | .commit k =>
    match w.inFlight k with
    | none => w
    | some f =>
      let w' := { w with inFlight := Function.update w.inFlight k none }
      match f.pass.update gitpodPodFinalizerName f.read with
      | some ws => if f.version = w.version then { w' with stored := ws, version := w.version + 1 }
        else w'
      | none => w'
  | .upsert c =>
    { w with stored := { w.stored with conditions := addUniqueCondition w.stored.conditions c.cond }
             version := w.version + 1 }

/-- The world after the events `es`, one after another. -/
def World.run (w : World) (es : List Event) : World :=
  es.foldl (World.step gitpodPodFinalizerName) w

/-- The conditions the external upserts among `es` alone make of `conds`, with every pass left
out: what the store would hold for the external actors if no controller wrote. -/
def upsertsOnly (conds : List Condition) : List Event → List Condition
  | [] => conds
  | .read _ _ :: es => upsertsOnly conds es
  | .commit _ :: es => upsertsOnly conds es
  | .upsert c :: es => upsertsOnly (addUniqueCondition conds c.cond) es

/-- The number of steps of a run that change what the stored condition of type `tpe` reads
as. -/
def conditionChanges (tpe : String) : World → List Event → Nat
  | _, [] => 0
  | w, e :: es =>
    let w' := w.step gitpodPodFinalizerName e
    (if findCondition w'.stored.conditions tpe = findCondition w.stored.conditions tpe
      then 0 else 1) + conditionChanges tpe w' es

/-- A read of a status pass over two or more pods. -/
def Event.multiplePods : Event → Bool
  | .read _ p => p.multiplePods
  | _ => false

/-- No pass in flight is a status pass over two or more pods. -/
def World.NoMultiplePods (w : World) : Prop :=
  ∀ k f, w.inFlight k = some f → f.pass.multiplePods = false

/-- How far the `Failed` condition has come: `0` while it is not `True`, `1` once it is `True`
with another message, `2` once it is `True` with the message of a pass over two or more
pods. -/
def failedLevel (conds : List Condition) : Nat :=
  match findCondition conds failed with
  | some c =>
    if c.status = .conditionTrue then
      if c.message = "multiple pods exists - this should never happen" then 2 else 1
    else 0
  | none => 0

/-- Every pass in flight read a version no later than the stored one, and a pass that read the
stored version read the stored workspace. -/
structure World.Inv (w : World) : Prop where
  version_le : ∀ k f, w.inFlight k = some f → f.version ≤ w.version
  read_eq : ∀ k f, w.inFlight k = some f → f.version = w.version → f.read = w.stored

section
variable {gitpodPodFinalizerName}

/-! ### The invariant -/

theorem World.inv_init (ws : Workspace) : (World.init ws).Inv :=
  ⟨fun _ _ h => (nomatch h), fun _ _ h => (nomatch h)⟩

/-- Taking a pass out of flight keeps the invariant. -/
theorem World.Inv.erase {w : World} (hw : w.Inv) (k : Nat) :
    World.Inv { w with inFlight := Function.update w.inFlight k none } := by
  constructor <;> intro k' f h <;> simp only [Function.update_apply] at h ⊢ <;> split_ifs at h
  exacts [hw.version_le k' f h, hw.read_eq k' f h]

/-- A write that moves the version on keeps the invariant, whatever it stores. -/
theorem World.Inv.bump {w : World} (hw : w.Inv) (ws : Workspace) :
    World.Inv { w with stored := ws, version := w.version + 1 } :=
  ⟨fun k f h => Nat.le_succ_of_le (hw.version_le k f h),
    fun k f h he => absurd he (Nat.ne_of_lt (Nat.lt_succ_of_le (hw.version_le k f h)))⟩

theorem World.Inv.step {w : World} (hw : w.Inv) :
    ∀ e : Event, (w.step gitpodPodFinalizerName e).Inv
  | .read k p => by
    constructor <;> intro k' f h <;> simp only [World.step, Function.update_apply] at h ⊢ <;>
      split_ifs at h
    · cases h; exact Nat.le_refl _
    · exact hw.version_le k' f h
    · cases h; intro; rfl
    · exact hw.read_eq k' f h
  | .commit k => by
    simp only [World.step]
    split
    · exact hw
    · split
      · split
        · exact (hw.erase k).bump _
        · exact hw.erase k
      · exact hw.erase k
  | .upsert c => hw.bump _

theorem World.run_append (w : World) (es es' : List Event) :
    w.run gitpodPodFinalizerName (es ++ es') =
      (w.run gitpodPodFinalizerName es).run gitpodPodFinalizerName es' :=
  List.foldl_append _ _ _ _

theorem World.run_cons (w : World) (e : Event) (es : List Event) :
    w.run gitpodPodFinalizerName (e :: es) =
      (w.step gitpodPodFinalizerName e).run gitpodPodFinalizerName es :=
  rfl

theorem World.Inv.run {w : World} (hw : w.Inv) :
    ∀ es : List Event, (w.run gitpodPodFinalizerName es).Inv
  | [] => hw
  | e :: es => (hw.step e).run es

/-! ### One step -/

/-- What a commit stores: the workspace as it was, or the write its pass computes from it.  A
write computed from an earlier version is never accepted. -/
theorem World.step_commit_stored {w : World} (hw : w.Inv) (k : Nat) :
    (w.step gitpodPodFinalizerName (.commit k)).stored = w.stored ∨
      ∃ f, w.inFlight k = some f ∧ f.pass.update gitpodPodFinalizerName w.stored =
        some (w.step gitpodPodFinalizerName (.commit k)).stored := by
  simp only [World.step]
  split
  · exact .inl rfl
  · rename_i f hf
    split
    · rename_i ws hu
      split_ifs with hv
      · exact .inr ⟨f, hf, hw.read_eq k f hf hv ▸ hu⟩
      · exact .inl rfl
    · exact .inl rfl

/-- A commit takes its pass out of flight, and nothing else. -/
theorem World.step_commit_inFlight (w : World) (k : Nat) :
    (w.step gitpodPodFinalizerName (.commit k)).inFlight = Function.update w.inFlight k none := by
  simp only [World.step]
  split
  · rename_i h
    rw [← h, Function.update_eq_self]
  · split
    · split_ifs <;> rfl
    · rfl

/-- What a step stores: the workspace as it was, the write a pass computes from it, or an
external upsert on it. -/
theorem World.step_stored {w : World} (hw : w.Inv) (e : Event) :
    (w.step gitpodPodFinalizerName e).stored = w.stored ∨
      (∃ k f, w.inFlight k = some f ∧ f.pass.update gitpodPodFinalizerName w.stored =
        some (w.step gitpodPodFinalizerName e).stored) ∨
      ∃ c : ExternalCondition, (w.step gitpodPodFinalizerName e).stored =
        { w.stored with conditions := addUniqueCondition w.stored.conditions c.cond } :=
  match e with
  | .read _ _ => .inl rfl
  | .upsert c => .inr (.inr ⟨c, rfl⟩)
  | .commit k => (World.step_commit_stored hw k).imp_right fun ⟨f, hf, hu⟩ => .inl ⟨k, f, hf, hu⟩

/-- A write changes what the `Timeout` condition reads as only when it is a timeout pass's on a
workspace whose `Timeout` condition is not `True`, and then leaves it `True`. -/
theorem Pass.update_timeout {p : Pass} {ws ws' : Workspace}
    (h : p.update gitpodPodFinalizerName ws = some ws')
    (hne : findCondition ws'.conditions WorkspaceCondition.timeout ≠
      findCondition ws.conditions WorkspaceCondition.timeout) :
    conditionPresentAndTrue ws.conditions WorkspaceCondition.timeout = false ∧
      conditionPresentAndTrue ws'.conditions WorkspaceCondition.timeout := by
  rcases Pass.update_cases h with ⟨now, pods, rfl, rfl⟩ | ⟨r, pod, now, rfl, h⟩
  · exact absurd ((updateWorkspaceStatus_frame gitpodPodFinalizerName now ws pods).2.1
      |>.findCondition_eq (by decide)) hne
  · exact ⟨(reconcile_update_cases h).2.1, conditionPresentAndTrue_reconcile h⟩

/-- A step that changes what the `Timeout` condition reads as found it not `True`, and leaves
it `True`. -/
theorem World.step_timeout {w : World} (hw : w.Inv) (e : Event)
    (hne : findCondition (w.step gitpodPodFinalizerName e).stored.conditions timeout ≠
      findCondition w.stored.conditions timeout) :
    conditionPresentAndTrue w.stored.conditions timeout = false ∧
      conditionPresentAndTrue (w.step gitpodPodFinalizerName e).stored.conditions timeout := by
  rcases World.step_stored hw e with h | ⟨-, f, -, hp⟩ | ⟨c, h⟩
  · exact absurd (by rw [h]) hne
  · exact Pass.update_timeout hp hne
  · refine absurd ?_ hne
    rw [h, findCondition_addUniqueCondition_of_ne c.cond (Ne.symm c.type_ne_timeout)]

/-- A step keeps a `Timeout` condition that is `True`. -/
theorem World.step_timeout_latch {w : World} (hw : w.Inv) (e : Event)
    (ht : conditionPresentAndTrue w.stored.conditions timeout) :
    findCondition (w.step gitpodPodFinalizerName e).stored.conditions timeout =
      findCondition w.stored.conditions timeout :=
  Classical.not_not.mp fun hne => by simp [(World.step_timeout hw e hne).1] at ht

/-! ### Whole runs -/

/-- A `Timeout` condition that is `True` stays, with its message and its time. -/
theorem World.run_timeout_latch {w : World} (hw : w.Inv)
    (ht : conditionPresentAndTrue w.stored.conditions timeout) :
    ∀ es : List Event, findCondition (w.run gitpodPodFinalizerName es).stored.conditions timeout =
      findCondition w.stored.conditions timeout
  | [] => rfl
  | e :: es => by
    have he := @World.step_timeout_latch gitpodPodFinalizerName _ hw e ht
    rw [World.run_cons,
      World.run_timeout_latch (hw.step e) ((conditionPresentAndTrue_congr he).trans ht) es, he]

theorem conditionChanges_timeout_eq_zero {w : World} (hw : w.Inv)
    (ht : conditionPresentAndTrue w.stored.conditions timeout) :
    ∀ es : List Event, conditionChanges gitpodPodFinalizerName timeout w es = 0
  | [] => rfl
  | e :: es => by
    have he := @World.step_timeout_latch gitpodPodFinalizerName _ hw e ht
    simp only [conditionChanges, he, if_true,
      conditionChanges_timeout_eq_zero (hw.step e) ((conditionPresentAndTrue_congr he).trans ht) es]

theorem conditionChanges_timeout_le_one {w : World} (hw : w.Inv) :
    ∀ es : List Event, conditionChanges gitpodPodFinalizerName timeout w es ≤ 1
  | [] => Nat.zero_le _
  | e :: es => by
    simp only [conditionChanges]
    split_ifs with he
    · simpa using conditionChanges_timeout_le_one (hw.step e) es
    · rw [conditionChanges_timeout_eq_zero (hw.step e) (World.step_timeout hw e he).2]

/-- Over every interleaving of reads, commits and external upserts from a stored workspace, a
`Timeout` condition that is stored `True` stays in every later stored state, with its message
and its time, and at most one step of the whole run changes the `Timeout` condition. -/
theorem World.timeout_set_once (ws : Workspace) :
    (∀ (es es' : List Event) (c : Condition),
      findCondition ((World.init ws).run gitpodPodFinalizerName es).stored.conditions timeout =
        some c → c.status = .conditionTrue →
      findCondition ((World.init ws).run gitpodPodFinalizerName (es ++ es')).stored.conditions
        timeout = some c) ∧
    ∀ es : List Event, conditionChanges gitpodPodFinalizerName timeout (World.init ws) es ≤ 1 := by
  refine ⟨fun es es' c hc hs => ?_, conditionChanges_timeout_le_one (World.inv_init ws)⟩
  have ht : conditionPresentAndTrue
      ((World.init ws).run gitpodPodFinalizerName es).stored.conditions timeout := by
    simp [conditionPresentAndTrue, hc, hs]
  rw [World.run_append, World.run_timeout_latch ((World.inv_init ws).run es) ht, hc]

/-! ### The runtime snapshot -/

/-- A write keeps every runtime field that is not empty. -/
theorem Pass.update_runtimeField {p : Pass} {ws ws' : Workspace}
    (h : p.update gitpodPodFinalizerName ws = some ws') {f : RuntimeField}
    (hf : ws.runtimeField f ≠ "") : ws'.runtimeField f = ws.runtimeField f := by
  rcases Pass.update_cases h with ⟨now, pods, rfl, rfl⟩ | ⟨r, pod, now, rfl, h⟩
  · exact ((updateWorkspaceStatus_frame gitpodPodFinalizerName now ws pods).2.2 f).resolve_right
      fun h' => hf h'.1
  · rw [(reconcile_frame h).1]
    rfl

theorem World.step_runtimeField {w : World} (hw : w.Inv) (e : Event) {f : RuntimeField}
    (hf : w.stored.runtimeField f ≠ "") :
    (w.step gitpodPodFinalizerName e).stored.runtimeField f = w.stored.runtimeField f := by
  rcases World.step_stored hw e with h | ⟨-, f, -, hp⟩ | ⟨c, h⟩
  · rw [h]
  · exact Pass.update_runtimeField hp hf
  · rw [h]
    rfl

/-- First write wins: over every interleaving, a runtime field once filled in keeps its
value. -/
theorem World.run_runtimeField {w : World} (hw : w.Inv) {f : RuntimeField}
    (hf : w.stored.runtimeField f ≠ "") :
    ∀ es : List Event,
      (w.run gitpodPodFinalizerName es).stored.runtimeField f = w.stored.runtimeField f
  | [] => rfl
  | e :: es => by
    have he := @World.step_runtimeField gitpodPodFinalizerName _ hw e _ hf
    rw [World.run_cons, World.run_runtimeField (hw.step e) (he ▸ hf) es, he]

/-! ### External conditions: no lost update -/

/-- A write changes only the `Deployed`, `Failed` and `Timeout` conditions, and removes none. -/
theorem Pass.update_frame {p : Pass} {ws ws' : Workspace}
    (h : p.update gitpodPodFinalizerName ws = some ws') :
    ConditionsFrame [deployed, failed, WorkspaceCondition.timeout] ws.conditions
      ws'.conditions := by
  rcases Pass.update_cases h with ⟨now, pods, rfl, rfl⟩ | ⟨r, pod, now, rfl, h⟩
  · exact (updateWorkspaceStatus_frame gitpodPodFinalizerName now ws pods).2.1.mono (by decide)
  · exact (reconcile_frame h).2.mono (by decide)

theorem upsertsOnly_cons (conds : List Condition) (e : Event) (es : List Event) :
    upsertsOnly conds (e :: es) = upsertsOnly (upsertsOnly conds [e]) es := by
  cases e <;> rfl

theorem findCondition_upsertsOnly_congr {conds conds' : List Condition} {t : String}
    (h : findCondition conds t = findCondition conds' t) :
    ∀ es : List Event,
      findCondition (upsertsOnly conds es) t = findCondition (upsertsOnly conds' es) t
  | [] => h
  | .read _ _ :: es | .commit _ :: es => findCondition_upsertsOnly_congr h es
  | .upsert c :: es =>
    findCondition_upsertsOnly_congr (findCondition_addUniqueCondition_congr c.cond h) es

/-- A step moves a type no pass writes as the external upserts alone would. -/
theorem World.step_external {w : World} (hw : w.Inv) {t : String}
    (ht : t ∉ [deployed, failed, timeout]) (e : Event) :
    findCondition (w.step gitpodPodFinalizerName e).stored.conditions t =
      findCondition (upsertsOnly w.stored.conditions [e]) t := by
  match e with
  | .read _ _ | .upsert _ => rfl
  | .commit k =>
    rcases World.step_commit_stored hw k with h | ⟨f, -, hu⟩
    · rw [h]
      rfl
    · exact (Pass.update_frame hu).findCondition_eq ht

/-- No lost update: over every interleaving, a condition type no pass writes reads as the
external upserts alone make it.  A pass that read before an upsert and sends its write after
it never puts the old condition back, since the store turns that write down. -/
theorem World.run_external {w : World} (hw : w.Inv) {t : String}
    (ht : t ∉ [deployed, failed, timeout]) :
    ∀ es : List Event, findCondition (w.run gitpodPodFinalizerName es).stored.conditions t =
      findCondition (upsertsOnly w.stored.conditions es) t
  | [] => rfl
  | e :: es => by
    rw [World.run_cons, World.run_external (hw.step e) ht es, upsertsOnly_cons]
    exact findCondition_upsertsOnly_congr (World.step_external hw ht e) es

/-- A status pass reads, `Closed` is upserted, the pass sends its write: the store turns it
down, and only the upsert is stored. -/
example : ((World.init {}).run "" [.read 0 (.status 0 [{}]),
    .upsert ⟨{ type := closed, status := .conditionTrue, lastTransitionTime := 0 }, by decide,
      by decide⟩, .commit 0]).stored.conditions =
    [{ type := closed, status := .conditionTrue, lastTransitionTime := 0 }] := by
  decide

/-! ### No condition is removed -/

/-- A step removes no condition and moves none: the types of the stored conditions only grow at
their end. -/
theorem World.step_types_prefix {w : World} (hw : w.Inv) (e : Event) :
    w.stored.conditions.map (·.type) <+:
      (w.step gitpodPodFinalizerName e).stored.conditions.map (·.type) := by
  rcases World.step_stored hw e with h | ⟨-, f, -, hp⟩ | ⟨c, h⟩
  · rw [h]
  · exact (Pass.update_frame hp).1
  · rw [h]
    exact (addUniqueCondition_frame c.cond _).1

/-- Over every interleaving no condition is removed and none moves: the types of the stored
conditions are, at every time, a prefix of their types at every later time. -/
theorem World.run_types_prefix {w : World} (hw : w.Inv) :
    ∀ es : List Event, w.stored.conditions.map (·.type) <+:
      (w.run gitpodPodFinalizerName es).stored.conditions.map (·.type)
  | [] => List.prefix_refl _
  | e :: es => (World.step_types_prefix hw e).trans (World.run_types_prefix (hw.step e) es)

/-! ### The `Failed` condition -/

theorem failedLevel_le_two (conds : List Condition) : failedLevel conds ≤ 2 := by
  unfold failedLevel
  split
  · split_ifs <;> decide
  · decide

theorem failedLevel_congr {conds conds' : List Condition}
    (h : findCondition conds' failed = findCondition conds failed) :
    failedLevel conds' = failedLevel conds := by
  simp only [failedLevel, h]

theorem failedLevel_eq_zero {conds : List Condition}
    (h : conditionPresentAndTrue conds failed = false) : failedLevel conds = 0 := by
  unfold failedLevel
  unfold conditionPresentAndTrue at h
  split <;> simp_all

theorem failedLevel_pos {conds : List Condition} (h : conditionPresentAndTrue conds failed) :
    0 < failedLevel conds := by
  unfold failedLevel
  unfold conditionPresentAndTrue at h
  split <;> simp_all
  split_ifs <;> decide

/-- A write that changes the `Failed` condition moves it on; only a pass over two or more pods
moves it on from `True`. -/
theorem Pass.update_failed {p : Pass} {ws ws' : Workspace}
    (h : p.update gitpodPodFinalizerName ws = some ws')
    (hne : findCondition ws'.conditions failed ≠ findCondition ws.conditions failed) :
    failedLevel ws.conditions < failedLevel ws'.conditions ∧
      (p.multiplePods = false → failedLevel ws.conditions = 0) := by
  rcases Pass.update_cases h with ⟨now, pods, rfl, rfl⟩ | ⟨r, pod, now, rfl, h⟩
  · match pods with
    | [] => exact absurd (by rw [updateWorkspaceStatus_nil_conditions]) hne
    | [pod] =>
      rw [updateWorkspaceStatus_single] at hne ⊢
      obtain ⟨h₀, h₁⟩ := podConditions_failed_of_ne hne
      rw [failedLevel_eq_zero h₀]
      exact ⟨failedLevel_pos h₁, fun _ => rfl⟩
    | a :: b :: rest =>
      let cond := failedCondition now "multiple pods exists - this should never happen"
      change findCondition (addUniqueCondition ws.conditions cond) failed ≠ _ at hne
      obtain ⟨c, hc, hs, hm⟩ := findCondition_addUniqueCondition_self cond ws.conditions
      have h₂ : failedLevel (addUniqueCondition ws.conditions cond) = 2 := by
        have hc' : findCondition (addUniqueCondition ws.conditions cond) failed = some c := hc
        simp only [failedLevel, hc']
        simp [hs, hm, cond, failedCondition]
      have hlt : failedLevel ws.conditions ≠ 2 := by
        unfold failedLevel
        split
        · rename_i c₀ hc₀
          split_ifs with hs₀ hm₀
          · exact absurd
              (by rw [@addUniqueCondition_of_findCondition cond c₀ _ hc₀ hs₀ hm₀]) hne
          all_goals decide
        · decide
      refine ⟨?_, fun h => nomatch h⟩
      change failedLevel ws.conditions < failedLevel (addUniqueCondition ws.conditions cond)
      have := failedLevel_le_two ws.conditions
      omega
  · exact absurd ((reconcile_frame h).2.findCondition_eq (by decide)) hne

theorem World.step_failed {w : World} (hw : w.Inv) (e : Event)
    (hne : findCondition (w.step gitpodPodFinalizerName e).stored.conditions failed ≠
      findCondition w.stored.conditions failed) :
    failedLevel w.stored.conditions <
      failedLevel (w.step gitpodPodFinalizerName e).stored.conditions ∧
      (w.NoMultiplePods → failedLevel w.stored.conditions = 0) := by
  rcases World.step_stored hw e with h | ⟨k, f, hf, hp⟩ | ⟨c, h⟩
  · exact absurd (by rw [h]) hne
  · exact (Pass.update_failed hp hne).imp_right fun hm hn => hm (hn k f hf)
  · refine absurd ?_ hne
    rw [h, findCondition_addUniqueCondition_of_ne c.cond (Ne.symm c.type_ne_failed)]

theorem World.NoMultiplePods.step {w : World} (hn : w.NoMultiplePods) :
    ∀ {e : Event}, e.multiplePods = false → (w.step gitpodPodFinalizerName e).NoMultiplePods
  | .read k p, he => by
    intro k' f h
    simp only [World.step, Function.update_apply] at h
    split_ifs at h
    · cases h; exact he
    · exact hn k' f h
  | .commit k, _ => fun k' f h => by
    rw [World.step_commit_inFlight, Function.update_apply] at h
    split_ifs at h
    exact hn k' f h
  | .upsert _, _ => hn

/-- Every change of the `Failed` condition moves it on, so a run changes it at most as often as
it has still to go. -/
theorem conditionChanges_failed_le {w : World} (hw : w.Inv) :
    ∀ es : List Event,
      conditionChanges gitpodPodFinalizerName failed w es + failedLevel w.stored.conditions ≤ 2
  | [] => by simpa only [conditionChanges, Nat.zero_add] using failedLevel_le_two _
  | e :: es => by
    have ih := conditionChanges_failed_le (@World.Inv.step gitpodPodFinalizerName _ hw e) es
    simp only [conditionChanges]
    split_ifs with he
    · rw [failedLevel_congr he] at ih
      omega
    · have := (World.step_failed hw e he).1
      omega

/-- With no pass over two or more pods, a `Failed` condition that is `True` never changes, so
a run changes it at most once, and not at all once it is `True`. -/
theorem conditionChanges_failed_le_one {w : World} (hw : w.Inv) (hn : w.NoMultiplePods) :
    ∀ es : List Event, (∀ e ∈ es, e.multiplePods = false) →
      conditionChanges gitpodPodFinalizerName failed w es +
        (if failedLevel w.stored.conditions = 0 then 0 else 1) ≤ 1
  | [] => fun _ => by simp only [conditionChanges]; split <;> omega
  | e :: es => fun hes => by
    have ih := conditionChanges_failed_le_one (@World.Inv.step gitpodPodFinalizerName _ hw e)
      (hn.step (hes e (.head _))) es fun e' he' => hes e' (.tail _ he')
    simp only [conditionChanges]
    by_cases he : findCondition (w.step gitpodPodFinalizerName e).stored.conditions failed =
      findCondition w.stored.conditions failed
    · rw [if_pos he, Nat.zero_add]
      rwa [failedLevel_congr he] at ih
    · obtain ⟨hlt, h0⟩ := World.step_failed hw e he
      rw [if_neg he, if_pos (h0 hn)]
      rw [if_neg (show failedLevel (w.step gitpodPodFinalizerName e).stored.conditions ≠ 0 by
        omega)] at ih
      omega

/-- Over every interleaving the `Failed` condition changes at most twice: once from a failure
of one pod, once to the message of a pass over two or more pods.  With no status pass over two
or more pods it changes at most once. -/
theorem World.failed_changes_le_two (ws : Workspace) (es : List Event) :
    conditionChanges gitpodPodFinalizerName failed (World.init ws) es ≤ 2 ∧
      ((∀ e ∈ es, e.multiplePods = false) →
        conditionChanges gitpodPodFinalizerName failed (World.init ws) es ≤ 1) := by
  refine ⟨?_, fun hes => ?_⟩
  · have := @conditionChanges_failed_le gitpodPodFinalizerName _ (World.inv_init ws) es
    omega
  · have := @conditionChanges_failed_le_one gitpodPodFinalizerName _ (World.inv_init ws)
      (fun _ _ h => nomatch h) es hes
    omega

/-- A failed pod, then two pods: the `Failed` condition changes twice. -/
example : conditionChanges "" failed (World.init {})
    [.read 0 (.status 0 [{ phase := .failed, reason := "OOMKilled", message := "x" }]), .commit 0,
      .read 0 (.status 1 [{}, {}]), .commit 0] = 2 := by
  decide

end

/-- A node name written before stays when a later pass sees the pod on another node. -/
theorem World.run_runtimeField_nodeName :
    let w := World.init { runtime := some { nodeName := "n1" } }
    (w.Inv ∧ w.stored.runtimeField .nodeName ≠ "") ∧
      (w.run "" [.read 0 (.status 0 [{ nodeName := "n2" }]), .commit 0]).stored.runtimeField
        .nodeName = "n1" := by
  intro w
  have hw : w.Inv := World.inv_init _
  have hf : w.stored.runtimeField .nodeName ≠ "" := by decide
  exact ⟨⟨hw, hf⟩, World.run_runtimeField hw hf _⟩

/-- Two status passes overlap with an upsert of `Closed`: the condition that was stored first
stays first. -/
theorem World.run_types_prefix_overlap :
    let c : Condition := { type := closed, status := .conditionTrue, lastTransitionTime := 0 }
    let w := World.init { conditions := [c] }
    w.Inv ∧ w.stored.conditions.map (·.type) <+:
      (w.run "" [.read 0 (.status 0 [{}]), .read 1 (.status 1 [{}, {}]), .commit 1,
        .upsert ⟨{ type := closed, status := .conditionFalse, lastTransitionTime := 2 },
          by decide, by decide⟩, .commit 0]).stored.conditions.map (·.type) :=
  ⟨World.inv_init _, World.run_types_prefix (World.inv_init _) _⟩

/-- A status pass reads, an external actor then marks the workspace `Closed`, and the pass sends
its write: `Closed` reads as the upsert left it. -/
theorem World.run_external_closed :
    let es : List Event := [.read 0 (.status 0 [{}]),
      .upsert ⟨{ type := closed, status := .conditionTrue, lastTransitionTime := 0 }, by decide,
        by decide⟩, .commit 0]
    ((World.init {}).Inv ∧ closed ∉ [deployed, failed, timeout]) ∧
      findCondition ((World.init {}).run "" es).stored.conditions closed =
        findCondition (upsertsOnly [] es) closed :=
  ⟨⟨World.inv_init _, by decide⟩, World.run_external (World.inv_init _) (by decide) _⟩

end WsManager
