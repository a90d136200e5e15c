/-
  The access check, which looks things up only on need, against what its store holds.

  * `Holdings` is what the lookups of a store find if none fails; `Holdings.outcome` is the
    check with everything loaded before the chain is asked;
  * `check_outcome`: a check comes to that outcome, whose decision is the rule
    `Holdings.Permits`; a lookup that fails is what the check fails with;
  * `nameless_counted`: that all records are counted as a user's is no permit for a user
    without an id.
-/
import Rowgate.Proofs.Access.Decision
import Rowgate.Proofs.Scene

namespace Rowgate.Access

open Program

/-! ## Empty ids -/

theorem any_isEmpty_iff {ids : List String} : ids.any String.isEmpty ↔ "" ∈ ids := by
  simp [List.any_eq_true, String.isEmpty_iff]

theorem check_emptyId {now : Int} {request : AccessRequest} (hi : "" ∈ request.ids)
    {u : List accessStore.Event} {r : Except Error AccessDecision}
    (h : Runs (check now request) u r) :
    u = [] ∧ r = .error (.params "record ids must be non-empty") := by
  unfold check at h
  rw [if_pos (any_isEmpty_iff.2 hi)] at h
  exact runs_throw_bind_iff.1 h

/-! ## What a store holds -/

/-- What the lookups of a store find. -/
structure Holdings where
  session : String → String → Option Session
  actor : String → Option Actor
  service : String → Option Service
  grants : List String → List String → List Grant
  owned : String → List String → String → Nat

namespace Holdings

variable {d : Holdings} {request : AccessRequest} {actor : Actor}

/-- Whether a call is answered with what is held; a deletion may end in any way. -/
def Answers (d : Holdings) : accessStore.Event → Prop
  | ⟨.findSession user token, a⟩ => a = .ok (d.session user token)
  | ⟨.deleteSession .., _⟩ => True
  | ⟨.findActor user, a⟩ => a = .ok (d.actor user)
  | ⟨.findService name, a⟩ => a = .ok (d.service name)
  | ⟨.roleGrants services groups, a⟩ => a = .ok (d.grants services groups)
  | ⟨.countOwned table ids user, a⟩ => a = .ok (d.owned table ids user)

/-- A store with what is held; it removes no session. -/
def answer (d : Holdings) : (c : accessStore.Call) → accessStore.Answer c
  | .findSession user token => .ok (d.session user token)
  | .deleteSession .. => .ok 0
  | .findActor user => .ok (d.actor user)
  | .findService name => .ok (d.service name)
  | .roleGrants services groups => .ok (d.grants services groups)
  | .countOwned table ids user => .ok (d.owned table ids user)

/-- What a program asks that store, with the answers. -/
def played {α : Type} (d : Holdings) (p : Program accessStore α) : List accessStore.Event :=
  p.trace (fun c s => (d.answer c, s)) ()

theorem played_answers {α : Type} (d : Holdings) (p : Program accessStore α) :
    ∀ e ∈ d.played p, d.Answers e := by
  induction p with
  | done a => exact fun e he => by cases he
  | ask c next ih =>
    refine List.forall_mem_cons.2 ⟨?_, ih _⟩
    cases c <;> first | rfl | trivial

/-! ## The check with everything loaded -/

def tableId (d : Holdings) (request : AccessRequest) : Option String :=
  ((d.service request.table).filter Service.isTable).map Service.id

/-- The grants on the records and the table to the user's groups. -/
def grantsTo (d : Holdings) (request : AccessRequest) (actor : Actor) : List Grant :=
  d.grants (request.ids ++ (d.tableId request).toList) actor.groups

/-- All different records are counted as the user's, and there is one. -/
def Counted (d : Holdings) (request : AccessRequest) (actor : Actor) : Prop :=
  request.ids ≠ [] ∧
    d.owned request.table (Keyed.nameSet request.ids) actor.user = request.ids.toFinset.card

instance : Decidable (d.Counted request actor) :=
  inferInstanceAs (Decidable (_ ∧ _))

def context (d : Holdings) (request : AccessRequest) (actor : Actor) : AccessContext where
  actor := actor
  task := request.task
  tableId := d.tableId request
  ids := request.ids
  grants := some (d.grantsTo request actor)
  owner := some (actor.user ≠ "" ∧ d.Counted request actor)

/-- What comes of a check that has all it may need. -/
def outcome (d : Holdings) (now : Int) (request : AccessRequest) : Except Error AccessDecision :=
  if "" ∈ request.ids then .error (.params "record ids must be non-empty")
  else
    match d.session request.user request.token with
    | none => .error (.unauthenticated "no login session found, please login")
    | some session =>
      if session.expire < now then
        .error (.tokenExpired "login session has expired, please login again")
      else
        match d.actor request.user with
        | none => .error (.unauthorized "user account not found")
        | some actor => .ok (Strategy.decision (d.context request actor) Strategy.chain)

/-- When a user may do what is requested. -/
def Permits (d : Holdings) (request : AccessRequest) (actor : Actor) : Prop :=
  actor.isActive ∧
    (actor.isAdmin ∨
      d.grantsTo request actor ≠ [] ∧
        (actor.user ≠ "" ∧ d.Counted request actor ∨
          TableRule request.task (d.tableId request) (d.grantsTo request actor) ∨
          RecordRule request.task request.ids (d.grantsTo request actor)))

/-- The chain on a context with everything loaded. -/
theorem decision_context (d : Holdings) (request : AccessRequest) (actor : Actor) :
    Strategy.decision (d.context request actor) Strategy.chain =
      if actor.isActive = false then ⟨false, "user account is not active"⟩
      else if actor.isAdmin then ⟨true, "admin"⟩
      else if d.grantsTo request actor = [] then
        ⟨false, "no role assignment found for the user's groups"⟩
      else Strategy.decision (d.context request actor) Strategy.rules :=
  Strategy.decision_chain _

theorem decision_permitted (d : Holdings) (request : AccessRequest) (actor : Actor) :
    (Strategy.decision (d.context request actor) Strategy.chain).permitted ↔
      d.Permits request actor := by
  have hrules := Strategy.decision_rules (d.context request actor)
  have howner : (d.context request actor).owner = some true ↔
      actor.user ≠ "" ∧ d.Counted request actor := by
    simp [context]
  rw [howner] at hrules
  rw [decision_context]
  split_ifs with ha hm hg
  · simp [Permits, ha]
  · simp [Permits, ha, hm]
  · simp [Permits, hm, hg]
  · rw [hrules]
    simp only [Permits, eq_true_of_ne_false ha, hm, hg, true_and, Bool.false_eq_true, false_or,
      ne_eq, not_false_eq_true]
    rfl

/-! ## Lookups on need come to the same -/

theorem owning_outcome {u : List accessStore.Event} {r : Except Error Bool}
    (h : Owning request.table request.ids actor.user u r) (hd : ∀ e ∈ u, d.Answers e) :
    r = .ok (actor.user ≠ "" ∧ d.Counted request actor) := by
  unfold Counted
  cases h with
  | unasked h => rcases h with h | h <;> simp [h]
  | failed _ _ e =>
    have := hd _ List.mem_cons_self
    cases this
  | counted hi hu n =>
    have hn : Except.ok n = Except.ok _ := hd _ List.mem_cons_self
    cases hn
    simp [hi, hu, Keyed.length_nameSet]

theorem decided_outcome {u : List accessStore.Event} {r : Except Error AccessDecision}
    (h : Decided request ⟨actor, request.task, d.tableId request, request.ids, none, none⟩ u r)
    (hd : ∀ e ∈ u, d.Answers e) :
    r = .ok (Strategy.decision (d.context request actor) Strategy.chain) := by
  rw [decision_context]
  cases h with
  | inactive ha =>
    rw [if_pos (show actor.isActive = false from ha)]
  | admin ha hm =>
    rw [if_neg (ne_false_of_eq_true ha), if_pos (show actor.isAdmin = true from hm)]
  | grantsFailed _ _ e => cases hd _ List.mem_cons_self
  | ungranted ha hm =>
    have hg : Except.ok [] = Except.ok (d.grantsTo request actor) := hd _ List.mem_cons_self
    rw [if_neg (ne_false_of_eq_true ha), if_neg (ne_true_of_eq_false hm),
      if_pos (Except.ok.inj hg).symm]
  | ownerFailed _ _ _ ho =>
    cases owning_outcome ho fun e he => hd e (List.mem_cons_of_mem _ he)
  | weighed ha hm hg ho =>
    cases hd _ List.mem_cons_self
    cases owning_outcome ho fun e he => hd e (List.mem_cons_of_mem _ he)
    rw [if_neg (ne_false_of_eq_true ha), if_neg (ne_true_of_eq_false hm),
      if_neg (show d.grantsTo request actor ≠ [] from hg)]
    rfl

theorem run_outcome {now : Int} {u : List accessStore.Event} {r : Except Error AccessDecision}
    (h : Runs (check now request) u r) (hd : ∀ e ∈ u, d.Answers e) :
    r = d.outcome now request := by
  by_cases hi : "" ∈ request.ids
  · obtain ⟨-, rfl⟩ := check_emptyId hi h
    rw [outcome, if_pos hi]
  rw [outcome, if_neg hi]
  cases check_course h with
  | emptyId he => exact absurd (any_isEmpty_iff.1 he) hi
  | sessionFailed e => cases hd _ List.mem_cons_self
  | noSession =>
    have hs : Except.ok none = Except.ok (d.session _ _) := hd _ List.mem_cons_self
    rw [← Except.ok.inj hs]
  | @expired s he _ =>
    have hs : Except.ok (some s) = Except.ok (d.session _ _) := hd _ List.mem_cons_self
    rw [← Except.ok.inj hs]
    exact (if_pos (of_decide_eq_true he)).symm
  | @actorFailed s he e => cases hd _ (.tail _ (.head _))
  | @noActor s he =>
    have hs : Except.ok (some s) = Except.ok (d.session _ _) := hd _ List.mem_cons_self
    have ha : Except.ok none = Except.ok (d.actor _) := hd _ (.tail _ (.head _))
    rw [← Except.ok.inj hs, ← Except.ok.inj ha]
    exact (if_neg (of_decide_eq_false he)).symm
  | serviceFailed _ _ e => cases hd _ (.tail _ (.tail _ (.head _)))
  | @decided s he actor service u _ hr =>
    have hs : Except.ok (some s) = Except.ok (d.session _ _) := hd _ List.mem_cons_self
    have ha : Except.ok (some actor) = Except.ok (d.actor _) := hd _ (.tail _ (.head _))
    have hv : Except.ok service = Except.ok (d.service _) := hd _ (.tail _ (.tail _ (.head _)))
    rw [← Except.ok.inj hs, ← Except.ok.inj ha]
    dsimp only
    rw [if_neg (of_decide_eq_false he)]
    rw [Except.ok.inj hv] at hr
    exact decided_outcome (decide_course rfl rfl hr) fun e he =>
      hd e (.tail _ (.tail _ (.tail _ he)))

theorem exists_actor {now : Int} {decision : AccessDecision}
    (h : d.outcome now request = .ok decision) : ∃ actor, d.actor request.user = some actor ∧
      decision = Strategy.decision (d.context request actor) Strategy.chain := by
  unfold outcome at h
  split_ifs at h
  split at h
  · cases h
  split_ifs at h
  split at h
  · cases h
  · rename_i actor ha
    exact ⟨actor, ha, (Except.ok.inj h).symm⟩

end Holdings

/-! ## Lookups that fail -/

/-- A lookup that failed, and what with.  That a session could not be removed is not one. -/
inductive Failed : accessStore.Event → Error → Prop where
  | session (user token : String) (x : Error) : Failed ⟨.findSession user token, .error x⟩ x
  | actor (user : String) (x : Error) : Failed ⟨.findActor user, .error x⟩ x
  | service (name : String) (x : Error) : Failed ⟨.findService name, .error x⟩ x
  | grants (services groups : List String) (x : Error) :
      Failed ⟨.roleGrants services groups, .error x⟩ x
  | owned (table : String) (ids : List String) (user : String) (x : Error) :
      Failed ⟨.countOwned table ids user, .error x⟩ x

theorem Owning.failed_eq {table user : String} {ids : List String} {u : List accessStore.Event}
    {r : Except Error Bool} (h : Owning table ids user u r) {e : accessStore.Event} (he : e ∈ u)
    {x : Error} (hx : Failed e x) : r = .error x := by
  cases h with
  | unasked => cases he
  | failed =>
    cases List.mem_singleton.1 he
    cases hx
    rfl
  | counted =>
    cases List.mem_singleton.1 he
    cases hx

theorem Decided.failed_eq {request : AccessRequest} {c : AccessContext}
    {u : List accessStore.Event} {r : Except Error AccessDecision} (h : Decided request c u r)
    {e : accessStore.Event} (he : e ∈ u) {x : Error} (hx : Failed e x) : r = .error x := by
  cases h with
  | inactive | admin => cases he
  | grantsFailed =>
    cases List.mem_singleton.1 he
    cases hx
    rfl
  | ungranted =>
    cases List.mem_singleton.1 he
    cases hx
  | ownerFailed _ _ _ ho =>
    rcases List.mem_cons.1 he with rfl | he
    · cases hx
    · cases ho.failed_eq he hx
      rfl
  | weighed _ _ _ ho =>
    rcases List.mem_cons.1 he with rfl | he
    · cases hx
    · cases ho.failed_eq he hx

theorem Course.failed_eq {now : Int} {request : AccessRequest} {u : List accessStore.Event}
    {r : Except Error AccessDecision} (h : Course now request u r) {e : accessStore.Event}
    (he : e ∈ u) {x : Error} (hx : Failed e x) : r = .error x := by
  cases h with
  | emptyId => cases he
  | sessionFailed | noSession | expired | actorFailed | noActor | serviceFailed =>
    simp only [List.mem_cons, List.not_mem_nil, or_false] at he
    rcases he with rfl | rfl | rfl <;> cases hx <;> rfl
  | decided _ _ _ hr =>
    simp only [List.mem_cons] at he
    rcases he with rfl | rfl | rfl | he
    · cases hx
    · cases hx
    · cases hx
    · exact (decide_course rfl rfl hr).failed_eq he hx

/-! ## Lookups that do not fail -/

/-- What a store finds that answers each kind of lookup in one way. -/
def Holdings.const (session : Option Session) (actor : Option Actor) (service : Option Service)
    (grants : List Grant) (owned : Nat) : Holdings where
  session _ _ := session
  actor _ := actor
  service _ := service
  grants _ _ := grants
  owned _ _ _ := owned

/-- Whether events are answered with something that a store may hold. -/
def Unfailing (u : List accessStore.Event) : Prop :=
  ∀ e ∈ u, ∀ x, ¬Failed e x

theorem Owning.exists_owned {table user : String} {ids : List String}
    {u : List accessStore.Event} {r : Except Error Bool} (h : Owning table ids user u r)
    (hu : Unfailing u) :
    ∃ n, ∀ s a v g, ∀ e ∈ u, (Holdings.const s a v g n).Answers e := by
  cases h with
  | unasked => exact ⟨0, by simp⟩
  | failed _ _ x => exact absurd (.owned _ _ _ x) (hu _ List.mem_cons_self x)
  | counted _ _ n =>
    refine ⟨n, fun s a v g e he => ?_⟩
    cases List.mem_singleton.1 he
    rfl

theorem Decided.exists_granted {request : AccessRequest} {c : AccessContext}
    {u : List accessStore.Event} {r : Except Error AccessDecision} (h : Decided request c u r)
    (hu : Unfailing u) :
    ∃ g n, ∀ s a v, ∀ e ∈ u, (Holdings.const s a v g n).Answers e := by
  cases h with
  | inactive | admin => exact ⟨[], 0, by simp⟩
  | grantsFailed _ _ x => exact absurd (.grants _ _ x) (hu _ List.mem_cons_self x)
  | ungranted =>
    refine ⟨[], 0, fun s a v e he => ?_⟩
    cases List.mem_singleton.1 he
    rfl
  | @ownerFailed _ _ grants _ _ _ ho | @weighed _ _ grants _ _ _ ho =>
    obtain ⟨n, hn⟩ := ho.exists_owned fun e he => hu e (.tail _ he)
    refine ⟨grants, n, fun s a v e he => ?_⟩
    rcases List.mem_cons.1 he with rfl | he
    · rfl
    · exact hn s a v grants e he

theorem Course.exists_holdings {now : Int} {request : AccessRequest}
    {u : List accessStore.Event} {r : Except Error AccessDecision} (h : Course now request u r)
    (hu : Unfailing u) : ∃ d : Holdings, ∀ e ∈ u, d.Answers e := by
  cases h with
  | emptyId => exact ⟨.const none none none [] 0, by simp⟩
  | sessionFailed x => exact absurd (.session _ _ x) (hu _ List.mem_cons_self x)
  | noSession => exact ⟨.const none none none [] 0, List.forall_mem_singleton.2 rfl⟩
  | @expired s =>
    exact ⟨.const (some s) none none [] 0,
      List.forall_mem_cons.2 ⟨rfl, List.forall_mem_singleton.2 trivial⟩⟩
  | actorFailed _ x => exact absurd (.actor _ x) (hu _ (.tail _ (.head _)) x)
  | @noActor s =>
    exact ⟨.const (some s) none none [] 0,
      List.forall_mem_cons.2 ⟨rfl, List.forall_mem_singleton.2 rfl⟩⟩
  | serviceFailed _ _ x => exact absurd (.service _ x) (hu _ (.tail _ (.tail _ (.head _))) x)
  | @decided s _ actor service u _ hr =>
    obtain ⟨g, n, hd⟩ := (decide_course rfl rfl hr).exists_granted fun e he =>
      hu e (.tail _ (.tail _ (.tail _ he)))
    refine ⟨.const (some s) (some actor) service g n, fun e he => ?_⟩
    simp only [List.mem_cons] at he
    rcases he with rfl | rfl | rfl | he
    · rfl
    · rfl
    · rfl
    · exact hd _ _ _ e he

/-! ## What a check comes to -/

/-- **Lookups on need.**  A lookup that fails is what the check fails with.  If none fails,
    the answers are those of some holdings, and the check comes to what it comes to with all
    of it loaded: an error, or the decision of the chain, which permits exactly what
    `Holdings.Permits` says. -/
theorem check_outcome {now : Int} {request : AccessRequest} {u : List accessStore.Event}
    {r : Except Error AccessDecision} (h : Runs (check now request) u r) :
    (∀ e ∈ u, ∀ x, Failed e x → r = .error x) ∧
      (Unfailing u → ∃ d : Holdings, ∀ e ∈ u, d.Answers e) ∧
      ∀ d : Holdings, (∀ e ∈ u, d.Answers e) →
        r = d.outcome now request ∧
          ∀ decision, r = .ok decision → ∃ actor, d.actor request.user = some actor ∧
            (decision.permitted ↔ d.Permits request actor) := by
  refine ⟨fun e he x hx => (check_course h).failed_eq he hx, (check_course h).exists_holdings,
    fun d hd => ?_⟩
  have hr := Holdings.run_outcome h hd
  refine ⟨hr, fun decision hok => ?_⟩
  obtain ⟨actor, ha, rfl⟩ := Holdings.exists_actor (hr.symm.trans hok)
  exact ⟨actor, ha, d.decision_permitted request actor⟩

/-- A store in which the staff may read a table of notes, and update two of them. -/
def staffHoldings : Holdings :=
  .const (some ⟨"ann", "t", "Ann", 100⟩) (some ⟨"ann", ["staff"], false, true⟩)
    (some ⟨"1", "notes", "Table"⟩)
    [⟨"1", "staff", true, true, false, false, false⟩,
      ⟨"7", "staff", true, false, false, true, false⟩,
      ⟨"9", "staff", true, false, false, true, false⟩] 1

/-- An update of two records, one of them twice. -/
def staffRequest : AccessRequest :=
  ⟨"ann", "t", .update, "notes", ["9", "7", "9"]⟩

/-- One of the two records is owned; both are permitted by the grants on them. -/
theorem check_outcome_records :
    staffHoldings.outcome 50 staffRequest = .ok ⟨true, "record role"⟩ ∧
      staffHoldings.Permits staffRequest ⟨"ann", ["staff"], false, true⟩ := by
  have hrun : Runs (check 50 staffRequest) (staffHoldings.played (check 50 staffRequest).run)
      (.ok ⟨true, "record role"⟩) := run_trace _ (check 50 staffRequest).run ()
  obtain ⟨-, -, h⟩ := check_outcome hrun
  obtain ⟨hr, hp⟩ := h staffHoldings (staffHoldings.played_answers _)
  obtain ⟨actor, ha, hiff⟩ := hp _ rfl
  cases ha
  exact ⟨hr.symm, hiff.1 rfl⟩

/-- An active user without an id, who is granted nothing on the one record that is counted as
    created by that user. -/
def namelessHoldings : Holdings :=
  .const (some ⟨"", "t", "", 100⟩) (some ⟨"", ["staff"], false, true⟩) none
    [⟨"7", "staff", true, false, false, false, false⟩] 1

def namelessRequest : AccessRequest :=
  ⟨"", "t", .read, "notes", ["7"]⟩

/-- Without an id, no user owns anything, whatever is counted. -/
theorem nameless_counted : ∃ (u : List accessStore.Event) (decision : AccessDecision)
    (actor : Actor), Runs (check 50 namelessRequest) u (.ok decision) ∧
      (∀ e ∈ u, namelessHoldings.Answers e) ∧
      namelessHoldings.actor namelessRequest.user = some actor ∧
      ¬(decision.permitted ↔ actor.isActive ∧ (actor.isAdmin ∨
        namelessHoldings.grantsTo namelessRequest actor ≠ [] ∧
          (namelessHoldings.Counted namelessRequest actor ∨
            TableRule namelessRequest.task (namelessHoldings.tableId namelessRequest)
              (namelessHoldings.grantsTo namelessRequest actor) ∨
            RecordRule namelessRequest.task namelessRequest.ids
              (namelessHoldings.grantsTo namelessRequest actor)))) := by
  refine ⟨namelessHoldings.played (check 50 namelessRequest).run,
    ⟨false, "no role grants the requested task"⟩, ⟨"", ["staff"], false, true⟩,
    run_trace _ (check 50 namelessRequest).run (), namelessHoldings.played_answers _, rfl, ?_⟩
  have hcounted : namelessHoldings.Counted namelessRequest ⟨"", ["staff"], false, true⟩ := by
    decide
  have hgrants : namelessHoldings.grantsTo namelessRequest ⟨"", ["staff"], false, true⟩ ≠ [] := by
    decide
  exact fun h => Bool.false_ne_true (h.2 ⟨rfl, .inr ⟨hgrants, .inl hcounted⟩⟩)

end Rowgate.Access
