import WsManager.Api.Objects
import Mathlib.Data.List.Infix

/-!
# Api — the condition set

A workspace's conditions are an ordered list keyed by type: the condition of a type is the
first one of that type (`findCondition`).  The source calls three helpers on it that are not
under `src/`, so they are modelled from §3 and §9 of the spec: `addUniqueCondition` upserts by
type and leaves the set alone when the condition of that type already has the new status and
message; `conditionPresentAndTrue` and `conditionWithStatusAndReson` read the condition of a
type.

* `findCondition_addUniqueCondition_self`, `findCondition_addUniqueCondition_of_ne`: after an
  upsert the condition of its type carries the new status and message, and every other type
  reads as before; `findCondition_addUniqueCondition_congr`: what a type reads as after an
  upsert depends only on what it read as before.
* `addUniqueCondition_frame`: an upsert removes no condition and keeps the conditions of every
  other type, in order (`ConditionsFrame`).
* `mem_addUniqueCondition`: a condition that is not the one its type reads as survives the
  upsert.
-/

namespace WsManager

/-- The condition of type `tpe`: the first one of that type. -/
def findCondition : List Condition → String → Option Condition
  | [], _ => none
  | c :: cs, tpe => if c.type = tpe then some c else findCondition cs tpe

/-- Modelled from the spec: `AddUniqueCondition`, the upsert keyed by type.  A condition whose
type is present with the same status and message is a no-op (no new timestamp); otherwise it
replaces the condition of its type, or is appended when there is none. -/
def addUniqueCondition : List Condition → Condition → List Condition
  | [], cond => [cond]
  | c :: cs, cond =>
    if c.type = cond.type then
      if c.status = cond.status ∧ c.message = cond.message then c :: cs else cond :: cs
    else c :: addUniqueCondition cs cond

/-- Modelled from the spec: `conditionPresentAndTrue`, whether the condition of type `tpe` is
present with status `True`. -/
def conditionPresentAndTrue (cond : List Condition) (tpe : String) : Bool :=
  match findCondition cond tpe with
  | some c => c.status = .conditionTrue
  | none => false

/-- Modelled from the spec: `conditionWithStatusAndReson`, whether the condition of type `tpe`
is present with status `True` (`status`) or `False` (`¬ status`) and the given reason. -/
def conditionWithStatusAndReson (cond : List Condition) (tpe : String) (status : Bool)
    (reason : String) : Bool :=
  match findCondition cond tpe with
  | some c => c.status = (if status then .conditionTrue else .conditionFalse) ∧ c.reason = reason
  | none => false

/-! ### Reading a type after an upsert -/

theorem findCondition_addUniqueCondition_of_ne {t : String} (cond : Condition)
    (h : t ≠ cond.type) :
    ∀ conds : List Condition,
      findCondition (addUniqueCondition conds cond) t = findCondition conds t
  | [] => by simp [addUniqueCondition, findCondition, Ne.symm h]
  | c :: cs => by
      by_cases hc : c.type = cond.type
      · have hct : c.type ≠ t := hc ▸ Ne.symm h
        by_cases hs : c.status = cond.status ∧ c.message = cond.message
        · simp [addUniqueCondition, hc, hs]
        · simp [addUniqueCondition, findCondition, hc, hs, hct, Ne.symm h]
      · simp only [addUniqueCondition, hc, if_false, findCondition]
        rw [findCondition_addUniqueCondition_of_ne cond h cs]

/-- After an upsert, the condition of its type has the upserted status and message. -/
theorem findCondition_addUniqueCondition_self (cond : Condition) :
    ∀ conds : List Condition, ∃ c,
      findCondition (addUniqueCondition conds cond) cond.type = some c ∧
        c.status = cond.status ∧ c.message = cond.message
  | [] => ⟨cond, by simp [addUniqueCondition, findCondition]⟩
  | c :: cs => by
      by_cases hc : c.type = cond.type
      · by_cases hs : c.status = cond.status ∧ c.message = cond.message
        · exact ⟨c, by simp [addUniqueCondition, findCondition, hc, hs], hs⟩
        · exact ⟨cond, by simp [addUniqueCondition, findCondition, hc, hs]⟩
      · simpa [addUniqueCondition, findCondition, hc] using
          findCondition_addUniqueCondition_self cond cs

/-- What the type of an upsert reads as after it: the condition found before, when that already
has the new status and message, else the new condition. -/
theorem findCondition_addUniqueCondition (cond : Condition) :
    ∀ conds : List Condition, findCondition (addUniqueCondition conds cond) cond.type =
      some (((findCondition conds cond.type).filter fun c =>
        c.status = cond.status ∧ c.message = cond.message).getD cond)
  | [] => by simp [addUniqueCondition, findCondition]
  | c :: cs => by
      by_cases hc : c.type = cond.type
      · by_cases hs : c.status = cond.status ∧ c.message = cond.message <;>
          simp [addUniqueCondition, findCondition, hc, hs, Option.filter]
      · simpa [addUniqueCondition, findCondition, hc] using findCondition_addUniqueCondition cond cs

/-- What a type reads as after an upsert depends only on what it read as before. -/
theorem findCondition_addUniqueCondition_congr {conds conds' : List Condition} {t : String}
    (cond : Condition) (h : findCondition conds t = findCondition conds' t) :
    findCondition (addUniqueCondition conds cond) t =
      findCondition (addUniqueCondition conds' cond) t := by
  by_cases ht : t = cond.type
  · subst ht
    rw [findCondition_addUniqueCondition, findCondition_addUniqueCondition, h]
  · rw [findCondition_addUniqueCondition_of_ne cond ht,
      findCondition_addUniqueCondition_of_ne cond ht, h]

theorem conditionPresentAndTrue_addUniqueCondition_self (conds : List Condition)
    (cond : Condition) (h : cond.status = .conditionTrue) :
    conditionPresentAndTrue (addUniqueCondition conds cond) cond.type = true := by
  obtain ⟨c, hc, hs, -⟩ := findCondition_addUniqueCondition_self cond conds
  simp [conditionPresentAndTrue, hc, hs, h]

theorem conditionPresentAndTrue_addUniqueCondition_of_ne {t : String} (conds : List Condition)
    (cond : Condition) (h : t ≠ cond.type) :
    conditionPresentAndTrue (addUniqueCondition conds cond) t =
      conditionPresentAndTrue conds t := by
  simp only [conditionPresentAndTrue, findCondition_addUniqueCondition_of_ne cond h]

theorem conditionWithStatusAndReson_addUniqueCondition_of_ne {t : String}
    (conds : List Condition) (cond : Condition) (h : t ≠ cond.type) (status : Bool)
    (reason : String) :
    conditionWithStatusAndReson (addUniqueCondition conds cond) t status reason =
      conditionWithStatusAndReson conds t status reason := by
  simp only [conditionWithStatusAndReson, findCondition_addUniqueCondition_of_ne cond h]

theorem conditionPresentAndTrue_congr {conds conds' : List Condition} {tpe : String}
    (h : findCondition conds' tpe = findCondition conds tpe) :
    conditionPresentAndTrue conds' tpe = conditionPresentAndTrue conds tpe := by
  simp only [conditionPresentAndTrue, h]

/-- The upsert is a no-op when the condition of its type already has its status and message. -/
theorem addUniqueCondition_of_findCondition {cond c : Condition} :
    ∀ {conds : List Condition}, findCondition conds cond.type = some c →
      c.status = cond.status → c.message = cond.message → addUniqueCondition conds cond = conds
  | [], h, _, _ => by simp [findCondition] at h
  | d :: ds, h, hs, hm => by
      by_cases hd : d.type = cond.type
      · simp only [findCondition, hd, if_true, Option.some.injEq] at h
        subst h
        simp [addUniqueCondition, hd, hs, hm]
      · simp only [findCondition, hd, if_false] at h
        simp [addUniqueCondition, hd, addUniqueCondition_of_findCondition h hs hm]

/-! ### The frame of an upsert -/

/-- The conditions whose type is not in `ts`, in order. -/
def otherConditions (ts : List String) (conds : List Condition) : List Condition :=
  conds.filter fun c => c.type ∉ ts

@[simp] theorem otherConditions_nil (ts : List String) : otherConditions ts [] = [] := rfl

theorem otherConditions_cons (ts : List String) (c : Condition) (cs : List Condition) :
    otherConditions ts (c :: cs) =
      if c.type ∈ ts then otherConditions ts cs else c :: otherConditions ts cs := by
  by_cases h : c.type ∈ ts <;> simp [otherConditions, List.filter_cons, h]

/-- Dropping conditions of other types does not change what a type reads as. -/
theorem findCondition_otherConditions {t : String} {ts : List String} (ht : t ∉ ts) :
    ∀ l : List Condition, findCondition (otherConditions ts l) t = findCondition l t
  | [] => rfl
  | c :: cs => by
      rw [otherConditions_cons]
      by_cases hc : c.type ∈ ts
      · have hct : c.type ≠ t := fun e => ht (e ▸ hc)
        simp only [hc, if_true, findCondition, hct, if_false, findCondition_otherConditions ht cs]
      · simp only [hc, if_false, findCondition, findCondition_otherConditions ht cs]

/-- `conds'` is `conds` with only conditions of the types in `ts` changed or added: every
position keeps its type, so no condition is removed, and the conditions of every other type
are kept, in order. -/
def ConditionsFrame (ts : List String) (conds conds' : List Condition) : Prop :=
  conds.map (·.type) <+: conds'.map (·.type) ∧ otherConditions ts conds = otherConditions ts conds'

namespace ConditionsFrame

theorem refl (ts : List String) (conds : List Condition) : ConditionsFrame ts conds conds :=
  ⟨List.prefix_refl _, rfl⟩

theorem trans {ts : List String} {c₁ c₂ c₃ : List Condition} (h₁ : ConditionsFrame ts c₁ c₂)
    (h₂ : ConditionsFrame ts c₂ c₃) : ConditionsFrame ts c₁ c₃ :=
  ⟨h₁.1.trans h₂.1, h₁.2.trans h₂.2⟩

theorem otherConditions_mono {ts ts' : List String} (hs : ts ⊆ ts') :
    ∀ l : List Condition, otherConditions ts' (otherConditions ts l) = otherConditions ts' l
  | [] => rfl
  | c :: cs => by
      by_cases h : c.type ∈ ts
      · simp only [otherConditions_cons, h, hs h, if_true, otherConditions_mono hs cs]
      · simp only [otherConditions_cons, h, if_false, otherConditions_mono hs cs]

theorem mono {ts ts' : List String} {conds conds' : List Condition} (hs : ts ⊆ ts')
    (h : ConditionsFrame ts conds conds') : ConditionsFrame ts' conds conds' :=
  ⟨h.1, by rw [← otherConditions_mono hs conds, h.2, otherConditions_mono hs]⟩

/-- A frame keeps what every type outside it reads as. -/
theorem findCondition_eq {ts : List String} {conds conds' : List Condition}
    (h : ConditionsFrame ts conds conds') {t : String} (ht : t ∉ ts) :
    findCondition conds' t = findCondition conds t := by
  rw [← findCondition_otherConditions ht conds, ← findCondition_otherConditions ht conds', h.2]

end ConditionsFrame

theorem addUniqueCondition_frame (cond : Condition) :
    ∀ conds : List Condition, ConditionsFrame [cond.type] conds (addUniqueCondition conds cond)
  | [] => ⟨by simp [addUniqueCondition], by simp [addUniqueCondition, otherConditions_cons]⟩
  | c :: cs => by
      by_cases hc : c.type = cond.type
      · by_cases hs : c.status = cond.status ∧ c.message = cond.message
        · simpa [addUniqueCondition, hc, hs] using ConditionsFrame.refl [cond.type] (c :: cs)
        · exact ⟨by simp [addUniqueCondition, hc, hs],
            by simp [addUniqueCondition, hc, hs, otherConditions_cons]⟩
      · obtain ⟨h₁, h₂⟩ := addUniqueCondition_frame cond cs
        exact ⟨by simpa [addUniqueCondition, hc] using h₁,
          by simp [addUniqueCondition, hc, otherConditions_cons, h₂]⟩

/-- A condition survives an upsert unless it is the condition the upsert's type reads as. -/
theorem mem_addUniqueCondition {cond d : Condition} :
    ∀ {conds : List Condition}, d ∈ conds → findCondition conds cond.type ≠ some d →
      d ∈ addUniqueCondition conds cond
  | [], h, _ => by simp at h
  | c :: cs, h, hne => by
      by_cases hc : c.type = cond.type
      · have hcd : c ≠ d := fun e => hne (by subst e; simp [findCondition, hc])
        have hd : d ∈ cs := (List.mem_cons.mp h).resolve_left (Ne.symm hcd)
        by_cases hs : c.status = cond.status ∧ c.message = cond.message <;>
          simp [addUniqueCondition, hc, hs, hd]
      · simp only [findCondition, hc, if_false] at hne
        rcases List.mem_cons.mp h with rfl | hd
        · simp [addUniqueCondition, hc]
        · simp [addUniqueCondition, hc, mem_addUniqueCondition hd hne]

end WsManager
