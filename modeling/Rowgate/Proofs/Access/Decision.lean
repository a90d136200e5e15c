/-
  How the chain of strategies comes to a decision.

  * `Strategy.decision` is the first verdict of some strategies on a context that has all
    they look at; `decision_chain` and `decision_rules` evaluate it;
  * `Owning` and `Decided`: the ways that the question of ownership and a decision can go,
    each with its lookups; `ownsAll_course` and `decide_course` say that there are no others.
-/
import Rowgate.Proofs.Access.Check
import Rowgate.Proofs.NameSet

namespace Rowgate

/-! ## Verdicts -/

/-- The first verdict that does not leave the decision to the next strategy. -/
def Strategy.decision (c : AccessContext) (chain : List Strategy) : AccessDecision :=
  match (chain.map (evaluate c)).find? (· ≠ .pass) with
  | some (.permit reason) => ⟨true, reason⟩
  | some (.deny reason) => ⟨false, reason⟩
  | _ => ⟨false, "no role grants the requested task"⟩

/-- There is a grant on the table, and every grant on it allows the task. -/
def TableRule (task : Task) (tableId : Option String) (grants : List Grant) : Prop :=
  ∃ id, tableId = some id ∧ (∃ g ∈ grants, g.service = id) ∧
    ∀ g ∈ grants, g.service = id → g.permits task

/-- The task goes record by record, and for every record, of which there are some, a grant
    allows it. -/
def RecordRule (task : Task) (ids : List String) (grants : List Grant) : Prop :=
  task ≠ .create ∧ ids ≠ [] ∧ ∀ id ∈ ids, ∃ g ∈ grants, g.service = id ∧ g.permits task

theorem tablePermitted_iff {task : Task} {tableId : Option String} {grants : List Grant} :
    tablePermitted task tableId grants ↔ TableRule task tableId grants := by
  cases tableId with
  | none => simp [tablePermitted, TableRule]
  | some id =>
    simp only [tablePermitted, TableRule, Bool.and_eq_true, Bool.not_eq_true', List.all_eq_true,
      List.mem_filter, decide_eq_true_eq, Option.some.injEq, exists_eq_left', and_imp,
      List.isEmpty_eq_false_iff_exists_mem]

theorem isRecordScoped_iff {task : Task} : task.isRecordScoped ↔ task ≠ .create := by
  cases task <;> decide

theorem recordPermitted_iff {task : Task} {ids : List String} {grants : List Grant} :
    recordPermitted task ids grants ↔ RecordRule task ids grants := by
  simp only [recordPermitted, RecordRule, Bool.and_eq_true, isRecordScoped_iff,
    Bool.not_eq_true', List.isEmpty_eq_false_iff, List.all_eq_true, List.any_eq_true,
    decide_eq_true_eq, and_assoc, ne_eq]

namespace Strategy

variable {c : AccessContext} {chain : List Strategy}

theorem decision_cons (s : Strategy) : decision c (s :: chain) =
    match s.evaluate c with
    | .permit reason => ⟨true, reason⟩
    | .deny reason => ⟨false, reason⟩
    | .pass => decision c chain := by
  unfold decision
  cases h : s.evaluate c <;> simp [h]

/-- What is left of the chain when grants and ownership are to be weighed. -/
def rules : List Strategy :=
  [ownership, tableRole, recordRole]

theorem decision_chain (c : AccessContext) : decision c Strategy.chain =
    if c.actor.isActive = false then ⟨false, "user account is not active"⟩
    else if c.actor.isAdmin then ⟨true, "admin"⟩
    else if c.loadedGrants = [] then ⟨false, "no role assignment found for the user's groups"⟩
    else decision c rules := by
  change decision c (activeAccount :: adminOverride :: rolePresence :: rules) = _
  rw [decision_cons, decision_cons, decision_cons]
  simp only [evaluate, List.isEmpty_iff]
  split_ifs <;> simp_all

theorem decision_rules (c : AccessContext) : (decision c rules).permitted ↔
    c.owner = some true ∨ TableRule c.task c.tableId c.loadedGrants ∨
      RecordRule c.task c.ids c.loadedGrants := by
  rw [← tablePermitted_iff, ← recordPermitted_iff]
  unfold rules
  rw [decision_cons, decision_cons, decision_cons]
  simp only [evaluate]
  split_ifs <;> simp_all [decision]

end Strategy

/-! ## How a decision goes -/

namespace Access

open Program

/-- The ways that the question goes whether the user created every record. -/
inductive Owning (table : String) (ids : List String) (user : String) :
    List accessStore.Event → Except Error Bool → Prop where
  | unasked (h : ids = [] ∨ user = "") : Owning table ids user [] (.ok false)
  | failed (hi : ids ≠ []) (hu : user ≠ "") (e : Error) :
      Owning table ids user [⟨.countOwned table (Keyed.nameSet ids) user, .error e⟩] (.error e)
  | counted (hi : ids ≠ []) (hu : user ≠ "") (n : Nat) :
      Owning table ids user [⟨.countOwned table (Keyed.nameSet ids) user, .ok n⟩]
        (.ok (n = (Keyed.nameSet ids).length))

theorem ownsAll_course {table user : String} {ids : List String} {u : List accessStore.Event}
    {r : Except Error Bool} (h : Runs (ownsAll table ids user) u r) :
    Owning table ids user u r := by
  unfold ownsAll at h
  dsimp only at h
  split_ifs at h with hnone
  · obtain ⟨rfl, rfl⟩ := runs_pure_iff.1 h
    simp only [Bool.or_eq_true, List.isEmpty_iff, Keyed.nameSet_eq_nil, String.isEmpty_iff] at hnone
    exact .unasked hnone
  · simp only [Bool.or_eq_true, List.isEmpty_iff, Keyed.nameSet_eq_nil, String.isEmpty_iff,
      not_or] at hnone
    obtain ⟨x, hx, rfl⟩ := runs_bind_pure_iff.1 h
    obtain rfl := run_call_iff.1 hx
    cases x with
    | error e => exact .failed hnone.1 hnone.2 e
    | ok n => exact .counted hnone.1 hnone.2 n

/-- The ways that the chain can come to a decision. -/
inductive Decided (request : AccessRequest) (c : AccessContext) :
    List accessStore.Event → Except Error AccessDecision → Prop where
  | inactive (h : c.actor.isActive = false) :
      Decided request c [] (.ok ⟨false, "user account is not active"⟩)
  | admin (h : c.actor.isActive) (ha : c.actor.isAdmin) :
      Decided request c [] (.ok ⟨true, "admin"⟩)
  | grantsFailed (h : c.actor.isActive) (ha : c.actor.isAdmin = false) (e : Error) :
      Decided request c [⟨.roleGrants c.serviceIds c.actor.groups, .error e⟩] (.error e)
  | ungranted (h : c.actor.isActive) (ha : c.actor.isAdmin = false) :
      Decided request c [⟨.roleGrants c.serviceIds c.actor.groups, .ok []⟩]
        (.ok ⟨false, "no role assignment found for the user's groups"⟩)
  | ownerFailed (h : c.actor.isActive) (ha : c.actor.isAdmin = false) {grants : List Grant}
      (hg : grants ≠ []) {u : List accessStore.Event} {e : Error}
      (ho : Owning request.table request.ids c.actor.user u (.error e)) :
      Decided request c (⟨.roleGrants c.serviceIds c.actor.groups, .ok grants⟩ :: u) (.error e)
  | weighed (h : c.actor.isActive) (ha : c.actor.isAdmin = false) {grants : List Grant}
      (hg : grants ≠ []) {u : List accessStore.Event} {owner : Bool}
      (ho : Owning request.table request.ids c.actor.user u (.ok owner)) :
      Decided request c (⟨.roleGrants c.serviceIds c.actor.groups, .ok grants⟩ :: u)
        (.ok (Strategy.decision { c with grants := some grants, owner := some owner }
          Strategy.rules))

/-- With everything loaded, nothing is asked any more. -/
theorem decide_loaded {request : AccessRequest} {c : AccessContext} (hg : c.grants ≠ none)
    (ho : c.owner ≠ none) (chain : List Strategy) :
    decide request c chain = pure (Strategy.decision c chain) := by
  induction chain with
  | nil => rfl
  | cons s chain ih =>
    have hload : load request c s = pure c := by
      cases s <;> simp [load, hg, ho]
    rw [decide, hload, pure_bind, Strategy.decision_cons]
    cases s.evaluate c with
    | pass => exact ih
    | permit | deny => rfl

/-- A strategy for which nothing has to be loaded. -/
theorem runs_decide_iff {request : AccessRequest} {c : AccessContext} {s : Strategy}
    (hload : load request c s = pure c) {chain : List Strategy} {u : List accessStore.Event}
    {r : Except Error AccessDecision} :
    Runs (decide request c (s :: chain)) u r ↔
      match s.evaluate c with
      | .permit reason => u = [] ∧ r = .ok ⟨true, reason⟩
      | .deny reason => u = [] ∧ r = .ok ⟨false, reason⟩
      | .pass => Runs (decide request c chain) u r := by
  rw [decide, hload, pure_bind]
  cases s.evaluate c with
  | pass => exact Iff.rfl
  | permit | deny => exact runs_pure_iff

/-- A strategy for which grants or ownership are loaded first. -/
theorem runs_decide_load {request : AccessRequest} {c : AccessContext} {s : Strategy}
    {α : Type} {a : Action α} {f : α → AccessContext}
    (hload : load request c s = a >>= fun x => pure (f x))
    (hloaded : ∀ x, load request (f x) s = pure (f x)) {chain : List Strategy}
    {u : List accessStore.Event} {r : Except Error AccessDecision}
    (h : Runs (decide request c (s :: chain)) u r) :
    (∃ e, Runs a u (.error e) ∧ r = .error e) ∨
      ∃ t v x, u = t ++ v ∧ Runs a t (.ok x) ∧ Runs (decide request (f x) (s :: chain)) v r := by
  rw [decide, hload] at h
  rcases runs_bind_iff.1 h with ⟨e, h₁, rfl⟩ | ⟨t, v, c', rfl, h₁, h₂⟩
  · obtain ⟨x, hx, he⟩ := runs_bind_pure_iff.1 h₁
    cases x with
    | error e => cases he; exact .inl ⟨_, hx, rfl⟩
    | ok x => cases he
  · obtain ⟨x, hx, he⟩ := runs_bind_pure_iff.1 h₁
    cases x with
    | error e => cases he
    | ok x =>
      cases he
      refine .inr ⟨t, v, x, rfl, hx, ?_⟩
      rw [decide, hloaded, pure_bind]
      exact h₂

theorem decide_course {request : AccessRequest} {c : AccessContext} (hg : c.grants = none)
    (ho : c.owner = none) {u : List accessStore.Event} {r : Except Error AccessDecision}
    (h : Runs (decide request c Strategy.chain) u r) : Decided request c u r := by
  replace h := (runs_decide_iff (s := .activeAccount) rfl).1 h
  cases ha : c.actor.isActive with
  | false =>
    simp only [Strategy.evaluate, ha] at h
    obtain ⟨rfl, rfl⟩ := h
    exact .inactive ha
  | true =>
  simp only [Strategy.evaluate, ha, if_true] at h
  replace h := (runs_decide_iff (s := .adminOverride) rfl).1 h
  cases hm : c.actor.isAdmin with
  | true =>
    simp only [Strategy.evaluate, hm] at h
    obtain ⟨rfl, rfl⟩ := h
    exact .admin ha hm
  | false =>
  simp only [Strategy.evaluate, hm, Bool.false_eq_true, if_false] at h
  rcases runs_decide_load (a := roleGrants c.serviceIds c.actor.groups)
    (f := fun gs => { c with grants := some gs }) (by simp [load, hg]) (fun _ => rfl) h with
    ⟨e, h₁, rfl⟩ | ⟨t, v, grants, rfl, h₁, h₂⟩
  · obtain rfl := run_call_iff.1 h₁
    exact .grantsFailed ha hm e
  obtain rfl := run_call_iff.1 h₁
  replace h₂ := (runs_decide_iff (s := .rolePresence) rfl).1 h₂
  cases grants with
  | nil =>
    obtain ⟨rfl, rfl⟩ := h₂
    exact .ungranted ha hm
  | cons g grants =>
  rcases runs_decide_load (a := ownsAll request.table request.ids c.actor.user)
    (f := fun o => { c with grants := some (g :: grants), owner := some o })
    (by simp [load, ho]) (fun _ => rfl) h₂ with ⟨e, h₃, rfl⟩ | ⟨t, w, owner, rfl, h₃, h₄⟩
  · exact .ownerFailed ha hm (by simp) (ownsAll_course h₃)
  · change Runs (decide request _ Strategy.rules) w r at h₄
    rw [decide_loaded (by simp) (by simp)] at h₄
    obtain ⟨rfl, rfl⟩ := runs_pure_iff.1 h₄
    rw [List.append_nil]
    exact .weighed ha hm (by simp) (ownsAll_course h₃)

end Access

end Rowgate
