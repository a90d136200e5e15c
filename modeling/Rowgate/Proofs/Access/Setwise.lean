/-
  The access check on sets of ids and grants.

  * `Agree`: two answers of a store that tells lists with the same members not apart;
  * `Matches R a b`: runs of two actions with answers that agree come to results that `R`
    relates, or fail with the same error; it goes through sequences and down the chain;
  * `check_setwise`: two requests for the same set of ids come to the same decision, and an
    owner is told by the different ids.
-/
import Rowgate.Proofs.Access.Eager

namespace Rowgate

theorem Keyed.nameSet_congr {names names' : List String} (h : names.toFinset = names'.toFinset) :
    nameSet names = nameSet names' := by
  refine eq_of_ascending (keys_ascending _) (keys_ascending _) fun x => ?_
  rw [mem_nameSet, mem_nameSet, ← List.mem_toFinset, h, List.mem_toFinset]

namespace Access

open Program

/-! ## Answers that agree -/

/-- Answers to calls of two runs, by a store for which lists with the same members are the
    same.  Whether a session is removed may differ. -/
def Agree : accessStore.Event → accessStore.Event → Prop
  | ⟨.findSession user token, a⟩, ⟨.findSession user' token', a'⟩ =>
    user = user' → token = token' → a = a'
  | ⟨.findActor user, a⟩, ⟨.findActor user', a'⟩ => user = user' → a = a'
  | ⟨.findService name, a⟩, ⟨.findService name', a'⟩ => name = name' → a = a'
  | ⟨.roleGrants services groups, a⟩, ⟨.roleGrants services' groups', a'⟩ =>
    services.toFinset = services'.toFinset → groups.toFinset = groups'.toFinset →
      Except.map List.toFinset a = Except.map List.toFinset a'
  | ⟨.countOwned table ids user, a⟩, ⟨.countOwned table' ids' user', a'⟩ =>
    table = table' → ids.toFinset = ids'.toFinset → user = user' → a = a'
  | _, _ => True

/-- What is held of grants and owned rows is held of sets of ids and groups. -/
structure Holdings.Setwise (d : Holdings) : Prop where
  grants {services services' groups groups' : List String}
    (hs : services.toFinset = services'.toFinset) (hg : groups.toFinset = groups'.toFinset) :
    (d.grants services groups).toFinset = (d.grants services' groups').toFinset
  owned {table user : String} {ids ids' : List String} (h : ids.toFinset = ids'.toFinset) :
    d.owned table ids user = d.owned table ids' user

theorem Holdings.Setwise.agree {d : Holdings} (hd : d.Setwise) {e e' : accessStore.Event}
    (he : d.Answers e) (he' : d.Answers e') : Agree e e' := by
  obtain ⟨c, a⟩ := e
  obtain ⟨c', a'⟩ := e'
  cases c with
  | deleteSession => trivial
  | findSession =>
    cases c' with
    | findSession => rintro rfl rfl; exact he.trans he'.symm
    | _ => trivial
  | findActor =>
    cases c' with
    | findActor => rintro rfl; exact he.trans he'.symm
    | _ => trivial
  | findService =>
    cases c' with
    | findService => rintro rfl; exact he.trans he'.symm
    | _ => trivial
  | roleGrants =>
    cases c' with
    | roleGrants =>
      intro hs hg
      rw [show a = .ok _ from he, show a' = .ok _ from he']
      exact congrArg Except.ok (hd.grants hs hg)
    | _ => trivial
  | countOwned =>
    cases c' with
    | countOwned =>
      rintro rfl hids rfl
      rw [show a = .ok _ from he, show a' = .ok _ from he', hd.owned hids]
    | _ => trivial

/-- Results that are related, or the same error. -/
inductive Alike {α β : Type} (R : α → β → Prop) : Except Error α → Except Error β → Prop where
  | ok {x : α} {y : β} (h : R x y) : Alike R (.ok x) (.ok y)
  | error (e : Error) : Alike R (.error e) (.error e)

theorem Alike.of_eq {α : Type} {r r' : Except Error α} (h : r = r') : Alike (· = ·) r r' := by
  subst h
  cases r with
  | ok => exact .ok rfl
  | error e => exact .error e

theorem Alike.eq {α : Type} {r r' : Except Error α} (h : Alike (· = ·) r r') : r = r' := by
  cases h with
  | ok h => rw [h]
  | error => rfl

/-- Runs of the two with answers that agree come to results that are related. -/
def Matches {α β : Type} (R : α → β → Prop) (a : Action α) (b : Action β) : Prop :=
  ∀ ⦃u r u' r'⦄, Runs a u r → Runs b u' r' → (∀ e ∈ u, ∀ e' ∈ u', Agree e e') → Alike R r r'

variable {α β γ δ : Type} {R : α → β → Prop} {S : γ → δ → Prop}

theorem matches_pure {x : α} {y : β} (h : R x y) : Matches R (pure x) (pure y) := by
  intro u r u' r' hr hr' _
  obtain ⟨-, rfl⟩ := runs_pure_iff.1 hr
  obtain ⟨-, rfl⟩ := runs_pure_iff.1 hr'
  exact .ok h

theorem matches_throw {e : Error} : Matches R (throw e) (throw e) := by
  intro u r u' r' hr hr' _
  obtain ⟨-, rfl⟩ := runs_throw_iff.1 hr
  obtain ⟨-, rfl⟩ := runs_throw_iff.1 hr'
  exact .error e

theorem Matches.bind {a : Action α} {b : Action β} {f : α → Action γ} {g : β → Action δ}
    (h : Matches R a b) (hf : ∀ x y, R x y → Matches S (f x) (g y)) :
    Matches S (a >>= f) (b >>= g) := by
  intro u r u' r' hr hr' hagree
  rcases runs_bind_iff.1 hr with ⟨e, h₁, rfl⟩ | ⟨t, v, x, rfl, h₁, h₂⟩ <;>
    rcases runs_bind_iff.1 hr' with ⟨e', h₁', rfl⟩ | ⟨t', v', y, rfl, h₁', h₂'⟩
  · cases h h₁ h₁' hagree
    exact .error e
  · cases h h₁ h₁' fun e he e' he' => hagree e he e' (List.mem_append_left _ he')
  · cases h h₁ h₁' fun e he e' he' => hagree e (List.mem_append_left _ he) e' he'
  · cases h h₁ h₁' fun e he e' he' =>
      hagree e (List.mem_append_left _ he) e' (List.mem_append_left _ he') with
    | ok hxy =>
      exact hf x y hxy h₂ h₂' fun e he e' he' =>
        hagree e (List.mem_append_right _ he) e' (List.mem_append_right _ he')

/-! ## Lookups -/

theorem agree_call {c c' : accessStore.Call} {u u' : List accessStore.Event}
    {a : accessStore.Answer c} {a' : accessStore.Answer c'} (h : Run (call c) u a)
    (h' : Run (call c') u' a') (hagree : ∀ e ∈ u, ∀ e' ∈ u', Agree e e') :
    Agree ⟨c, a⟩ ⟨c', a'⟩ := by
  obtain rfl := run_call_iff.1 h
  obtain rfl := run_call_iff.1 h'
  exact hagree _ (.head _) _ (.head _)

theorem matches_findSession (user token : String) :
    Matches (· = ·) (findSession user token) (findSession user token) := by
  intro u r u' r' h h' hagree
  exact .of_eq (agree_call h h' hagree rfl rfl)

theorem matches_findActor (user : String) :
    Matches (· = ·) (findActor user) (findActor user) := by
  intro u r u' r' h h' hagree
  exact .of_eq (agree_call h h' hagree rfl)

theorem matches_findService (name : String) :
    Matches (· = ·) (findService name) (findService name) := by
  intro u r u' r' h h' hagree
  exact .of_eq (agree_call h h' hagree rfl)

theorem matches_roleGrants {services services' groups : List String}
    (h : services.toFinset = services'.toFinset) :
    Matches (fun l l' => l.toFinset = l'.toFinset) (roleGrants services groups)
      (roleGrants services' groups) := by
  intro u r u' r' hr hr' hagree
  have heq : Except.map List.toFinset r = Except.map List.toFinset r' :=
    agree_call hr hr' hagree h rfl
  cases r with
  | error e =>
    cases r' with
    | error e' => cases heq; exact .error e
    | ok l' => cases heq
  | ok l =>
    cases r' with
    | error e' => cases heq
    | ok l' => exact .ok (Except.ok.inj heq)

theorem matches_countOwned (table user : String) (ids : List String) :
    Matches (· = ·) (countOwned table ids user) (countOwned table ids user) := by
  intro u r u' r' h h' hagree
  exact .of_eq (agree_call h h' hagree rfl rfl rfl)

theorem matches_discardSession (s : Session) :
    Matches (· = ·) (discardSession s) (discardSession s) := by
  intro u r u' r' h h' _
  obtain ⟨_, _, _, -, -, ⟨⟩⟩ := run_bind_iff.1 h
  obtain ⟨_, _, _, -, -, ⟨⟩⟩ := run_bind_iff.1 h'
  exact .ok rfl

/-- Ownership is asked for the set of ids. -/
theorem matches_ownsAll {table user : String} {ids ids' : List String}
    (h : ids.toFinset = ids'.toFinset) :
    Matches (· = ·) (ownsAll table ids user) (ownsAll table ids' user) := by
  unfold ownsAll
  rw [Keyed.nameSet_congr h]
  dsimp only
  split_ifs
  · exact matches_pure rfl
  · refine (matches_countOwned _ _ _).bind fun n n' hn => ?_
    subst hn
    exact matches_pure rfl

/-! ## The chain -/

end Access

/-- Contexts that differ in the order and the repetition of ids and grants. -/
structure AccessContext.Same (c c' : AccessContext) : Prop where
  actor : c.actor = c'.actor
  task : c.task = c'.task
  tableId : c.tableId = c'.tableId
  ids : c.ids.toFinset = c'.ids.toFinset
  grants : c.grants.map List.toFinset = c'.grants.map List.toFinset
  owner : c.owner = c'.owner

namespace AccessContext.Same

variable {c c' : AccessContext}

theorem serviceIds (h : c.Same c') : c.serviceIds.toFinset = c'.serviceIds.toFinset := by
  unfold AccessContext.serviceIds
  rw [List.toFinset_append, List.toFinset_append, h.ids, h.tableId]

theorem loadedGrants (h : c.Same c') : c.loadedGrants.toFinset = c'.loadedGrants.toFinset := by
  have hgrants (c : AccessContext) :
      c.loadedGrants.toFinset = (c.grants.map List.toFinset).getD ∅ := by
    unfold AccessContext.loadedGrants
    cases c.grants <;> rfl
  rw [hgrants, hgrants, h.grants]

end AccessContext.Same

section Lists

variable {task : Task} {tableId : Option String} {ids ids' : List String}
  {grants grants' : List Grant}

theorem mem_congr_of_toFinset {α : Type} [DecidableEq α] {l l' : List α}
    (h : l.toFinset = l'.toFinset) (x : α) : x ∈ l ↔ x ∈ l' := by
  rw [← List.mem_toFinset, h, List.mem_toFinset]

theorem eq_nil_congr_of_toFinset {α : Type} [DecidableEq α] {l l' : List α}
    (h : l.toFinset = l'.toFinset) : l = [] ↔ l' = [] := by
  rw [← List.toFinset_eq_empty_iff, h, List.toFinset_eq_empty_iff]

theorem tablePermitted_congr (h : grants.toFinset = grants'.toFinset) :
    tablePermitted task tableId grants = tablePermitted task tableId grants' := by
  rw [Bool.eq_iff_iff, tablePermitted_iff, tablePermitted_iff]
  simp only [TableRule, mem_congr_of_toFinset h]

theorem recordPermitted_congr (hi : ids.toFinset = ids'.toFinset)
    (hg : grants.toFinset = grants'.toFinset) :
    recordPermitted task ids grants = recordPermitted task ids' grants' := by
  rw [Bool.eq_iff_iff, recordPermitted_iff, recordPermitted_iff]
  simp only [RecordRule, ne_eq, eq_nil_congr_of_toFinset hi, mem_congr_of_toFinset hi,
    mem_congr_of_toFinset hg]

end Lists

theorem Strategy.evaluate_same {c c' : AccessContext} (h : c.Same c') (s : Strategy) :
    s.evaluate c = s.evaluate c' := by
  cases s with
  | activeAccount | adminOverride => simp only [evaluate, h.actor]
  | rolePresence =>
    have hnil : c.loadedGrants.isEmpty = c'.loadedGrants.isEmpty := by
      rw [Bool.eq_iff_iff, List.isEmpty_iff, List.isEmpty_iff,
        eq_nil_congr_of_toFinset h.loadedGrants]
    simp only [evaluate, hnil]
  | ownership => simp only [evaluate, h.owner]
  | tableRole => simp only [evaluate, h.task, h.tableId, tablePermitted_congr h.loadedGrants]
  | recordRole => simp only [evaluate, h.task, recordPermitted_congr h.ids h.loadedGrants]

namespace Access

open Program

variable {request : AccessRequest} {ids : List String} {c c' : AccessContext}

theorem matches_load (hids : request.ids.toFinset = ids.toFinset) (h : c.Same c') (s : Strategy) :
    Matches AccessContext.Same (load request c s) (load { request with ids := ids } c' s) := by
  cases s with
  | activeAccount | adminOverride | tableRole | recordRole => exact matches_pure h
  | rolePresence =>
    have hnone : c.grants.isNone = c'.grants.isNone := by
      rw [← Option.isNone_map, h.grants, Option.isNone_map]
    simp only [load, hnone, h.actor]
    split_ifs
    · refine (matches_roleGrants h.serviceIds).bind fun l l' hl => matches_pure ?_
      exact ⟨rfl, h.task, h.tableId, h.ids, congrArg some hl, h.owner⟩
    · exact matches_pure h
  | ownership =>
    simp only [load, h.owner, h.actor]
    split_ifs
    · refine (matches_ownsAll hids).bind fun o o' ho => matches_pure ?_
      exact ⟨rfl, h.task, h.tableId, h.ids, h.grants, congrArg some ho⟩
    · exact matches_pure h

theorem matches_decide (hids : request.ids.toFinset = ids.toFinset) (h : c.Same c')
    (chain : List Strategy) : Matches (· = ·) (decide request c chain)
      (decide { request with ids := ids } c' chain) := by
  induction chain generalizing c c' with
  | nil => exact matches_pure rfl
  | cons s chain ih =>
    refine (matches_load hids h s).bind fun d d' hd => ?_
    rw [Strategy.evaluate_same hd]
    cases s.evaluate d' with
    | permit | deny => exact matches_pure rfl
    | pass => exact ih hd

theorem matches_check (now : Int) (hids : request.ids.toFinset = ids.toFinset) :
    Matches (· = ·) (check now request) (check now { request with ids := ids }) := by
  have hempty : request.ids.any String.isEmpty = ids.any String.isEmpty := by
    rw [Bool.eq_iff_iff, any_isEmpty_iff, any_isEmpty_iff, mem_congr_of_toFinset hids]
  unfold check
  simp only [hempty]
  split_ifs
  · exact matches_throw
  refine (matches_findSession _ _).bind fun session? _ hs => ?_
  subst hs
  cases session? with
  | none => exact matches_throw
  | some session =>
  dsimp only
  split_ifs
  · exact (matches_discardSession session).bind fun _ _ _ => matches_throw
  refine (matches_findActor _).bind fun actor? _ ha => ?_
  subst ha
  cases actor? with
  | none => exact matches_throw
  | some actor =>
  refine (matches_findService _).bind fun service _ hv => ?_
  subst hv
  have hsame (tableId : Option String) : AccessContext.Same
      ⟨actor, request.task, tableId, request.ids, none, none⟩
      ⟨actor, request.task, tableId, ids, none, none⟩ :=
    ⟨rfl, rfl, rfl, hids, rfl, rfl⟩
  exact matches_decide hids (hsame _) _

/-! ## Owners -/

end Access

theorem Strategy.decision_owner {c : AccessContext} :
    decision c rules = ⟨true, "owner"⟩ ↔ c.owner = some true := by
  unfold rules
  rw [decision_cons, decision_cons, decision_cons]
  simp only [evaluate]
  split_ifs <;> simp_all [decision]

namespace Access

open Program

variable {request : AccessRequest} {ids : List String} {c : AccessContext}
  {u : List accessStore.Event}

/-- The different ids of a list are all counted as a user's. -/
def AllCounted (table : String) (ids : List String) (u : List accessStore.Event) : Prop :=
  ∃ user, ⟨.countOwned table (Keyed.nameSet ids) user, .ok (Keyed.nameSet ids).length⟩ ∈ u

theorem not_allCounted_nil {table : String} : ¬AllCounted table ids [] := by
  rintro ⟨user, h⟩
  cases h

/-- A call that counts nothing. -/
theorem allCounted_cons_iff {table : String} {e : accessStore.Event}
    (he : ∀ names user, e.1 ≠ .countOwned table names user) :
    AllCounted table ids (e :: u) ↔ AllCounted table ids u := by
  refine exists_congr fun user => List.mem_cons.trans (or_iff_right fun h => ?_)
  exact he _ _ (congrArg Sigma.fst h).symm

theorem Owning.owner_iff {table user : String} {r : Except Error Bool}
    (h : Owning table ids user u r) : r = .ok true ↔ AllCounted table ids u := by
  cases h with
  | unasked => simp [not_allCounted_nil]
  | failed =>
    refine ⟨nofun, ?_⟩
    rintro ⟨_, h⟩
    cases List.mem_singleton.1 h
  | counted _ _ n =>
    constructor
    · intro h
      obtain rfl : n = _ := of_decide_eq_true (Except.ok.inj h)
      exact ⟨user, .head _⟩
    · rintro ⟨_, h⟩
      cases List.mem_singleton.1 h
      exact congrArg _ (decide_eq_true rfl)

theorem Decided.owner_iff {r : Except Error AccessDecision} (h : Decided request c u r) :
    r = .ok ⟨true, "owner"⟩ ↔ AllCounted request.table request.ids u := by
  cases h with
  | inactive | admin => simp [not_allCounted_nil]
  | grantsFailed | ungranted =>
    refine .trans ?_ (allCounted_cons_iff (by nofun)).symm
    simp [not_allCounted_nil]
  | ownerFailed _ _ _ ho =>
    refine .trans ?_ (ho.owner_iff.trans (allCounted_cons_iff (by nofun)).symm)
    simp
  | weighed _ _ _ ho =>
    refine .trans ?_ (ho.owner_iff.trans (allCounted_cons_iff (by nofun)).symm)
    rw [Except.ok.injEq, Strategy.decision_owner, Option.some.injEq, Except.ok.injEq]

theorem Course.owner_iff {now : Int} {r : Except Error AccessDecision}
    (h : Course now request u r) :
    r = .ok ⟨true, "owner"⟩ ↔ AllCounted request.table request.ids u := by
  cases h with
  | emptyId => simp [not_allCounted_nil]
  | sessionFailed | noSession | expired | actorFailed | noActor | serviceFailed =>
    refine ⟨nofun, ?_⟩
    rintro ⟨_, h⟩
    simp only [List.mem_cons, List.not_mem_nil, or_false] at h
    rcases h with h | h | h <;> cases h
  | decided _ _ _ hd =>
    calc
      _ ↔ AllCounted request.table request.ids _ := (decide_course rfl rfl hd).owner_iff
      _ ↔ _ := (allCounted_cons_iff (by nofun)).symm
      _ ↔ _ := (allCounted_cons_iff (by nofun)).symm
      _ ↔ _ := (allCounted_cons_iff (by nofun)).symm

/-- There are as many of some ids with a property as there are different ids, just if all have
    it. -/
theorem card_filter_eq_iff {p : String → Bool} {ids : List String} :
    ((Keyed.nameSet ids).toFinset.filter (p ·)).card = (Keyed.nameSet ids).length ↔
      ∀ id ∈ ids, p id := by
  rw [← List.toFinset_card_of_nodup (Keyed.nodup_nameSet ids), Finset.card_filter_eq_iff]
  simp only [List.mem_toFinset, Keyed.mem_nameSet]

/-- **Sets of ids.**  Two requests that differ in the order and the repetition of the ids come
    to the same decision or the same error, if the lookups tell no lists with the same members
    apart.  If the ids are counted that a user owns, an owner is who owns them all. -/
theorem check_setwise {now : Int} {u' : List accessStore.Event} {r r' : Except Error AccessDecision}
    (hids : request.ids.toFinset = ids.toFinset) (h : Runs (check now request) u r)
    (h' : Runs (check now { request with ids := ids }) u' r')
    (hagree : ∀ e ∈ u, ∀ e' ∈ u', Agree e e') :
    r = r' ∧ ∀ owns : String → String → Bool,
      (∀ names user n, ⟨.countOwned request.table names user, .ok n⟩ ∈ u →
        n = (names.toFinset.filter (owns user ·)).card) →
      (r = .ok ⟨true, "owner"⟩ ↔ ∃ user n,
        ⟨.countOwned request.table (Keyed.nameSet request.ids) user, .ok n⟩ ∈ u ∧
          ∀ id ∈ request.ids, owns user id) := by
  refine ⟨(matches_check now hids h h' hagree).eq, fun owns hcount => ?_⟩
  rw [(check_course h).owner_iff]
  constructor
  · rintro ⟨user, hu⟩
    exact ⟨user, _, hu, card_filter_eq_iff.1 (hcount _ _ _ hu).symm⟩
  · rintro ⟨user, n, hu, howns⟩
    rw [hcount _ _ _ hu, card_filter_eq_iff.2 howns] at hu
    exact ⟨user, hu⟩

/-- The store of the staff, in which Ann has created one of the rows. -/
def ownerHoldings : Holdings :=
  { staffHoldings with
    owned := fun _ ids user => (ids.toFinset.filter fun id => user = "ann" && id = "9").card }

theorem ownerHoldings_setwise : ownerHoldings.Setwise where
  grants _ _ := rfl
  owned h := by simp only [ownerHoldings, h]

/-- An own record that is given twice is owned as if it were given once. -/
theorem check_setwise_repeated : ∃ u u' r r',
    Runs (check 50 { staffRequest with ids := ["9", "9"] }) u r ∧
      Runs (check 50 { staffRequest with ids := ["9"] }) u' r' ∧ r = r' ∧
        r = .ok ⟨true, "owner"⟩ := by
  let request := { staffRequest with ids := ["9", "9"] }
  let u := ownerHoldings.played (check 50 request).run
  let u' := ownerHoldings.played (check 50 { request with ids := ["9"] }).run
  have hrun : Runs (check 50 request) u _ := run_trace _ (check 50 request).run ()
  have hrun' : Runs (check 50 { request with ids := ["9"] }) u' _ :=
    run_trace _ (check 50 { request with ids := ["9"] }).run ()
  have hanswers : ∀ e ∈ u, ownerHoldings.Answers e := ownerHoldings.played_answers _
  have hagree : ∀ e ∈ u, ∀ e' ∈ u', Agree e e' := fun e he e' he' =>
    ownerHoldings_setwise.agree (hanswers e he) (ownerHoldings.played_answers _ e' he')
  obtain ⟨heq, howner⟩ := check_setwise (by decide) hrun hrun' hagree
  refine ⟨u, u', _, _, hrun, hrun', heq, (howner (fun user id => user = "ann" && id = "9") ?_).2 ?_⟩
  · intro names user n hu
    have hn : Except.ok n = Except.ok (ownerHoldings.owned request.table names user) :=
      hanswers _ hu
    exact Except.ok.inj hn
  · have hcounted : ⟨.countOwned "notes" ["9"] "ann", .ok 1⟩ ∈ u :=
      .tail _ (.tail _ (.tail _ (.tail _ (.head _))))
    exact ⟨"ann", 1, hcounted, by decide⟩

end Access

end Rowgate
