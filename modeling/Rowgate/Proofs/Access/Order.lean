/-
  The order of the lookups of an access check.

  * `Due now request u c`: by what has been found along `u`, the call `c` is to be made;
  * `lookups u`: the kinds of lookups along `u`, which `Lookup.order` puts in order;
  * `check_ordered`: a check makes the calls that are due and no others, in that order, and
    removes a session last of all, just if it was found expired.
-/
import Rowgate.Proofs.Access.Eager

namespace Rowgate.Access

open Program

variable {now : Int} {request : AccessRequest} {u : List accessStore.Event}
  {r : Except Error AccessDecision} {c : accessStore.Call}

/-! ## Kinds of lookups -/

inductive Lookup where
  | session
  | actor
  | service
  | grants
  | owned
deriving DecidableEq

/-- The lookups in the order of a check. -/
def Lookup.order : List Lookup :=
  [session, actor, service, grants, owned]

/-- The kind of a lookup; the removal of a session is none. -/
def lookup? : accessStore.Event → Option Lookup
  | ⟨.findSession .., _⟩ => some .session
  | ⟨.deleteSession .., _⟩ => none
  | ⟨.findActor _, _⟩ => some .actor
  | ⟨.findService _, _⟩ => some .service
  | ⟨.roleGrants .., _⟩ => some .grants
  | ⟨.countOwned .., _⟩ => some .owned

def lookups (u : List accessStore.Event) : List Lookup :=
  u.filterMap lookup?

theorem Owning.lookups_ordered {table user : String} {ids : List String} {r : Except Error Bool}
    (h : Owning table ids user u r) : lookups u <+: [.owned] := by
  cases h with
  | unasked => exact List.nil_prefix
  | failed | counted => exact List.prefix_rfl

theorem Decided.lookups_ordered {c : AccessContext} (h : Decided request c u r) :
    lookups u <+: [.grants, .owned] := by
  cases h with
  | inactive | admin => exact List.nil_prefix
  | grantsFailed | ungranted => exact ⟨[.owned], rfl⟩
  | ownerFailed _ _ _ ho | weighed _ _ _ ho =>
    exact (List.prefix_cons_inj _).2 ho.lookups_ordered

theorem Course.lookups_ordered (h : Course now request u r) : lookups u <+: Lookup.order := by
  cases h with
  | emptyId => exact List.nil_prefix
  | sessionFailed | noSession | expired => exact ⟨[.actor, .service, .grants, .owned], rfl⟩
  | actorFailed | noActor => exact ⟨[.service, .grants, .owned], rfl⟩
  | serviceFailed => exact ⟨[.grants, .owned], rfl⟩
  | decided _ _ _ hd =>
    have h := (decide_course rfl rfl hd).lookups_ordered
    exact (List.prefix_cons_inj _).2 ((List.prefix_cons_inj _).2 ((List.prefix_cons_inj _).2 h))

/-! ## Calls that are due -/

/-- A call is due by what the earlier lookups have found. -/
inductive Due (now : Int) (request : AccessRequest) (u : List accessStore.Event) :
    accessStore.Call → Prop where
  | session (h : "" ∉ request.ids) : Due now request u (.findSession request.user request.token)
  | removal {s : Session} (hs : ⟨.findSession request.user request.token, .ok (some s)⟩ ∈ u)
      (he : s.isExpiredAt now) : Due now request u (.deleteSession s.user s.token)
  | actor {s : Session} (hs : ⟨.findSession request.user request.token, .ok (some s)⟩ ∈ u)
      (he : s.isExpiredAt now = false) : Due now request u (.findActor request.user)
  | service {actor : Actor} (ha : ⟨.findActor request.user, .ok (some actor)⟩ ∈ u) :
      Due now request u (.findService request.table)
  /-- The grants on every record and then on the table, for a user who is active and no admin. -/
  | grants {actor : Actor} {service : Option Service}
      (ha : ⟨.findActor request.user, .ok (some actor)⟩ ∈ u)
      (hv : ⟨.findService request.table, .ok service⟩ ∈ u) (hactive : actor.isActive)
      (hadmin : actor.isAdmin = false) :
      Due now request u (.roleGrants
        (request.ids ++ ((service.filter Service.isTable).map Service.id).toList) actor.groups)
  /-- The different records in ascending order, for a user with an id who is granted something. -/
  | owned {actor : Actor} {services groups : List String} {grants : List Grant}
      {names : List String} (ha : ⟨.findActor request.user, .ok (some actor)⟩ ∈ u)
      (hg : ⟨.roleGrants services groups, .ok grants⟩ ∈ u) (hne : grants ≠ [])
      (huser : actor.user ≠ "") (hids : request.ids ≠ []) (hasc : names.Pairwise (· < ·))
      (hnames : ∀ id, id ∈ names ↔ id ∈ request.ids) :
      Due now request u (.countOwned request.table names actor.user)

/-- The lookups behind a decision, for an actor and a service that were found. -/
theorem Decided.due_of_mem {actor : Actor} {service : Option Service}
    {v : List accessStore.Event}
    (ha : ⟨.findActor request.user, .ok (some actor)⟩ ∈ v)
    (hv : ⟨.findService request.table, .ok service⟩ ∈ v) (hu : ∀ e ∈ u, e ∈ v)
    (h : Decided request ⟨actor, request.task, (service.filter Service.isTable).map Service.id,
      request.ids, none, none⟩ u r) : ∀ e ∈ u, Due now request v e.1 := by
  intro e he
  have howned {groups services : List String} {grants : List Grant} {w : List accessStore.Event}
      {owner : Except Error Bool} (hg : ⟨.roleGrants services groups, .ok grants⟩ ∈ v)
      (hne : grants ≠ []) (ho : Owning request.table request.ids actor.user w owner) :
      ∀ e ∈ w, Due now request v e.1 := by
    intro e he
    cases ho with
    | unasked => cases he
    | failed hids huser | counted hids huser =>
      cases List.mem_singleton.1 he
      exact .owned ha hg hne huser hids (Keyed.keys_ascending _) fun _ => Keyed.mem_nameSet
  cases h with
  | inactive | admin => cases he
  | grantsFailed hactive hadmin | ungranted hactive hadmin =>
    cases List.mem_singleton.1 he
    exact .grants ha hv hactive hadmin
  | ownerFailed hactive hadmin hne ho | weighed hactive hadmin hne ho =>
    rcases List.mem_cons.1 he with rfl | he
    · exact .grants ha hv hactive hadmin
    · exact howned (hu _ List.mem_cons_self) hne ho e he

/-- Nothing but what is due is asked. -/
theorem Course.due_of_mem (hi : "" ∉ request.ids) (h : Course now request u r) :
    ∀ e ∈ u, Due now request u e.1 := by
  intro e he
  cases h with
  | emptyId => cases he
  | sessionFailed | noSession =>
    cases List.mem_singleton.1 he
    exact .session hi
  | expired hs =>
    simp only [List.mem_cons, List.not_mem_nil, or_false] at he
    rcases he with rfl | rfl
    · exact .session hi
    · exact .removal (.head _) hs
  | actorFailed hs | noActor hs =>
    simp only [List.mem_cons, List.not_mem_nil, or_false] at he
    rcases he with rfl | rfl
    · exact .session hi
    · exact .actor (.head _) hs
  | serviceFailed hs =>
    simp only [List.mem_cons, List.not_mem_nil, or_false] at he
    rcases he with rfl | rfl | rfl
    · exact .session hi
    · exact .actor (.head _) hs
    · exact .service (.tail _ (.head _))
  | decided hs actor service hd =>
    simp only [List.mem_cons] at he
    rcases he with rfl | rfl | rfl | he
    · exact .session hi
    · exact .actor (.head _) hs
    · exact .service (.tail _ (.head _))
    · exact (decide_course rfl rfl hd).due_of_mem (.tail _ (.head _)) (.tail _ (.tail _ (.head _)))
        (fun _ h => .tail _ (.tail _ (.tail _ h))) e he

/-! ## What is found is gone on from -/

/-- There is one lookup of a kind. -/
theorem eq_of_lookup? (hu : (lookups u).Nodup) {e e' : accessStore.Event} (he : e ∈ u)
    (he' : e' ∈ u) {k : Lookup} (hk : lookup? e = some k) (hk' : lookup? e' = some k) : e = e' := by
  induction u with
  | nil => cases he
  | cons d u ih =>
    have htail : (lookups u).Nodup := by
      unfold lookups at hu ⊢
      rw [List.filterMap_cons] at hu
      split at hu
      · exact hu
      · exact hu.of_cons
    have honly {e : accessStore.Event} (he : e ∈ u) (hk : lookup? e = some k) :
        lookup? d ≠ some k := by
      intro hd
      have hmem : k ∈ lookups u := List.mem_filterMap.2 ⟨e, he, hk⟩
      rw [lookups, List.filterMap_cons_some hd] at hu
      exact (List.nodup_cons.1 hu).1 hmem
    rcases List.mem_cons.1 he with hd | hu <;> rcases List.mem_cons.1 he' with hd' | hu'
    · exact hd.trans hd'.symm
    · exact absurd (hd ▸ hk) (honly hu' hk')
    · exact absurd (hd' ▸ hk') (honly hu hk)
    · exact ih htail hu hu'

theorem Course.eq_of_lookup? (h : Course now request u r) {e e' : accessStore.Event} (he : e ∈ u)
    (he' : e' ∈ u) {k : Lookup} (hk : lookup? e = some k) (hk' : lookup? e' = some k) : e = e' :=
  Access.eq_of_lookup? (h.lookups_ordered.sublist.nodup (by decide)) he he' hk hk'

/-- Behind a session that was found, it is removed or the actor is asked for. -/
theorem Course.of_session (h : Course now request u r) {s : Session}
    (hs : ⟨.findSession request.user request.token, .ok (some s)⟩ ∈ u) :
    (s.isExpiredAt now = true ∧ ∃ d, u = [⟨.findSession request.user request.token, .ok (some s)⟩,
        ⟨.deleteSession s.user s.token, d⟩] ∧
      r = .error (.tokenExpired "login session has expired, please login again")) ∨
    s.isExpiredAt now = false ∧ ∃ a, ⟨.findActor request.user, a⟩ ∈ u := by
  have honly {s' : Session} (hs' : ⟨.findSession request.user request.token, .ok (some s')⟩ ∈ u) :
      s' = s := by
    cases h.eq_of_lookup? hs hs' rfl rfl
    rfl
  cases h with
  | emptyId => cases hs
  | sessionFailed | noSession => cases List.mem_singleton.1 hs
  | expired he d =>
    cases honly (.head _)
    exact .inl ⟨he, d, rfl, rfl⟩
  | actorFailed he | noActor he | serviceFailed he | decided he =>
    cases honly (.head _)
    exact .inr ⟨he, _, .tail _ (.head _)⟩

/-- Behind an actor that was found, the service is asked for. -/
theorem Course.of_actor (h : Course now request u r) {actor : Actor}
    (ha : ⟨.findActor request.user, .ok (some actor)⟩ ∈ u) :
    ∃ a, ⟨.findService request.table, a⟩ ∈ u := by
  have hfound {a : Except Error (Option Actor)} (ha' : ⟨.findActor request.user, a⟩ ∈ u) :
      a = .ok (some actor) := by
    cases h.eq_of_lookup? ha ha' rfl rfl
    rfl
  cases h with
  | emptyId => cases ha
  | sessionFailed | noSession => cases List.mem_singleton.1 ha
  | expired =>
    rcases List.mem_cons.1 ha with ha | ha
    · cases ha
    · cases List.mem_singleton.1 ha
  | actorFailed | noActor => cases hfound (.tail _ (.head _))
  | serviceFailed | decided => exact ⟨_, .tail _ (.tail _ (.head _))⟩

/-- Behind a service that was looked up, the chain is asked. -/
theorem Course.of_service (h : Course now request u r) {actor : Actor} {service : Option Service}
    (ha : ⟨.findActor request.user, .ok (some actor)⟩ ∈ u)
    (hv : ⟨.findService request.table, .ok service⟩ ∈ u) :
    ∃ v, Decided request ⟨actor, request.task, (service.filter Service.isTable).map Service.id,
        request.ids, none, none⟩ v r ∧ v <:+ u ∧
      ∀ e ∈ u, lookup? e = some .grants → e ∈ v := by
  have hactor {a : Except Error (Option Actor)} (ha' : ⟨.findActor request.user, a⟩ ∈ u) :
      a = .ok (some actor) := by
    cases h.eq_of_lookup? ha ha' rfl rfl
    rfl
  have hservice {a : Except Error (Option Service)} (hv' : ⟨.findService request.table, a⟩ ∈ u) :
      a = .ok service := by
    cases h.eq_of_lookup? hv hv' rfl rfl
    rfl
  cases h with
  | emptyId => cases ha
  | sessionFailed | noSession => cases List.mem_singleton.1 ha
  | expired =>
    rcases List.mem_cons.1 ha with ha | ha
    · cases ha
    · cases List.mem_singleton.1 ha
  | actorFailed | noActor => cases hactor (.tail _ (.head _))
  | serviceFailed => cases hservice (.tail _ (.tail _ (.head _)))
  | @decided _ _ _ _ v _ hd =>
    cases hactor (.tail _ (.head _))
    cases hservice (.tail _ (.tail _ (.head _)))
    refine ⟨v, decide_course rfl rfl hd, ⟨[_, _, _], rfl⟩, fun e he hk => ?_⟩
    simp only [List.mem_cons] at he
    rcases he with rfl | rfl | rfl | he
    · cases hk
    · cases hk
    · cases hk
    · exact he

/-- Grants are looked up behind the actor and the service. -/
theorem Course.of_grants (h : Course now request u r) {services groups : List String}
    {a : Except Error (List Grant)} (hg : ⟨.roleGrants services groups, a⟩ ∈ u) :
    ∃ service, ⟨.findService request.table, .ok service⟩ ∈ u := by
  cases h with
  | emptyId => cases hg
  | decided => exact ⟨_, .tail _ (.tail _ (.head _))⟩
  | sessionFailed | noSession | expired | actorFailed | noActor | serviceFailed =>
    simp only [List.mem_cons, List.not_mem_nil, or_false] at hg
    rcases hg with hg | hg | hg <;> cases hg

theorem Decided.grants_mem {c : AccessContext} (h : Decided request c u r)
    (hactive : c.actor.isActive) (hadmin : c.actor.isAdmin = false) :
    ∃ a, ⟨.roleGrants c.serviceIds c.actor.groups, a⟩ ∈ u := by
  cases h with
  | inactive ha => exact absurd hactive (ne_true_of_eq_false ha)
  | admin _ ha => exact absurd ha (ne_true_of_eq_false hadmin)
  | grantsFailed | ungranted | ownerFailed | weighed => exact ⟨_, .head _⟩

/-- The question of ownership is asked behind some grants. -/
theorem Decided.owned_mem {c : AccessContext} (h : Decided request c u r)
    {services groups : List String} {grants : List Grant}
    (hg : ⟨.roleGrants services groups, .ok grants⟩ ∈ u) (hne : grants ≠ [])
    (huser : c.actor.user ≠ "") (hids : request.ids ≠ []) :
    ∃ a, ⟨.countOwned request.table (Keyed.nameSet request.ids) c.actor.user, a⟩ ∈ u := by
  have howned {v : List accessStore.Event} {owner : Except Error Bool}
      (ho : Owning request.table request.ids c.actor.user v owner) :
      ∃ a, ⟨.countOwned request.table (Keyed.nameSet request.ids) c.actor.user, a⟩ ∈ v := by
    cases ho with
    | unasked h => exact absurd h (not_or_intro hids huser)
    | failed | counted => exact ⟨_, .head _⟩
  cases h with
  | inactive | admin => cases hg
  | grantsFailed => cases List.mem_singleton.1 hg
  | ungranted =>
    cases List.mem_singleton.1 hg
    exact absurd rfl hne
  | ownerFailed _ _ _ ho | weighed _ _ _ ho =>
    obtain ⟨a, ha⟩ := howned ho
    exact ⟨a, .tail _ ha⟩

/-- All that is due is asked. -/
theorem Course.mem_of_due (hi : "" ∉ request.ids) (h : Course now request u r)
    (hc : Due now request u c) : ∃ a, ⟨c, a⟩ ∈ u := by
  cases hc with
  | session =>
    cases h with
    | emptyId he => exact absurd (any_isEmpty_iff.1 he) hi
    | sessionFailed | noSession | expired | actorFailed | noActor | serviceFailed | decided =>
      exact ⟨_, .head _⟩
  | removal hs he =>
    rcases h.of_session hs with ⟨-, d, rfl, -⟩ | ⟨he', -⟩
    · exact ⟨d, .tail _ (.head _)⟩
    · exact absurd he (ne_true_of_eq_false he')
  | actor hs he =>
    rcases h.of_session hs with ⟨he', -⟩ | ⟨-, ha⟩
    · exact absurd he' (ne_true_of_eq_false he)
    · exact ha
  | service ha => exact h.of_actor ha
  | grants ha hv hactive hadmin =>
    obtain ⟨v, hd, hsub, -⟩ := h.of_service ha hv
    obtain ⟨a, ha⟩ := hd.grants_mem hactive hadmin
    exact ⟨a, hsub.mem ha⟩
  | owned ha hg hne huser hids hasc hnames =>
    obtain ⟨service, hv⟩ := h.of_grants hg
    obtain ⟨v, hd, hsub, hin⟩ := h.of_service ha hv
    obtain ⟨a, ha⟩ := hd.owned_mem (hin _ hg rfl) hne huser hids
    rw [Keyed.eq_of_ascending hasc (Keyed.keys_ascending _) fun id =>
      (hnames id).trans Keyed.mem_nameSet.symm]
    exact ⟨a, hsub.mem ha⟩

/-- How the removal of a session ends does not matter. -/
theorem run_expired {s : Session} (hi : "" ∉ request.ids) (hs : s.isExpiredAt now)
    (d : Except Error Nat) : Runs (check now request)
      [⟨.findSession request.user request.token, .ok (some s)⟩, ⟨.deleteSession s.user s.token, d⟩]
      (.error (.tokenExpired "login session has expired, please login again")) := by
  unfold check
  rw [if_neg (any_isEmpty_iff.not.2 hi)]
  refine runs_bind_iff.2 (.inr ⟨[_], _, some s, rfl, run_call_iff.2 rfl, ?_⟩)
  dsimp only
  rw [if_pos hs]
  refine runs_bind_iff.2 (.inr ⟨[_], [], (), rfl, ?_, runs_throw_bind_iff.2 ⟨rfl, rfl⟩⟩)
  exact run_bind_iff.2 ⟨_, [], d, rfl, run_call_iff.2 rfl, .done _⟩

/-! ## A check in order -/

/-- **The calls of a check.**  Its lookups come in their order, each once at most.  With an
    empty id there are none; else it makes just the calls that are due.  A session that was
    found expired is removed last, and then the check ends the same however that went. -/
theorem check_ordered (h : Runs (check now request) u r) :
    lookups u <+: Lookup.order ∧ ("" ∈ request.ids → u = []) ∧
      ("" ∉ request.ids → ∀ c, (∃ a, ⟨c, a⟩ ∈ u) ↔ Due now request u c) ∧
      ∀ s : Session, s.isExpiredAt now →
        ⟨.findSession request.user request.token, .ok (some s)⟩ ∈ u →
        ∃ d, u = [⟨.findSession request.user request.token, .ok (some s)⟩,
            ⟨.deleteSession s.user s.token, d⟩] ∧
          ∀ d' r', Runs (check now request)
              [⟨.findSession request.user request.token, .ok (some s)⟩,
                ⟨.deleteSession s.user s.token, d'⟩] r' ↔
            r' = .error (.tokenExpired "login session has expired, please login again") := by
  have hcourse := check_course h
  refine ⟨hcourse.lookups_ordered, fun hi => (check_emptyId hi h).1, fun hi c => ?_, ?_⟩
  · constructor
    · rintro ⟨a, ha⟩
      exact hcourse.due_of_mem hi _ ha
    · exact hcourse.mem_of_due hi
  · intro s he hs
    have hi : "" ∉ request.ids := by
      intro hi
      rw [(check_emptyId hi h).1] at hs
      cases hs
    obtain ⟨-, d, hu, -⟩ | ⟨he', -⟩ := hcourse.of_session hs
    · refine ⟨d, hu, fun d' r' => ⟨fun h' => ?_, ?_⟩⟩
      · obtain ⟨-, -, -, hr'⟩ | ⟨he', -⟩ := (check_course h').of_session (.head _)
        · exact hr'
        · exact absurd he (ne_true_of_eq_false he')
      · rintro rfl
        exact run_expired hi he d'
    · exact absurd he (ne_true_of_eq_false he')

/-- A session that expired at 100. -/
def expiredHoldings : Holdings :=
  .const (some ⟨"ann", "t", "Ann", 100⟩) none none [] 0

/-- At 101 the session is removed; before, all lookups are made. -/
theorem check_ordered_staff :
    lookups (staffHoldings.played (check 50 staffRequest).run) = Lookup.order ∧
      (∃ a, ⟨.countOwned "notes" ["7", "9"] "ann", a⟩ ∈
        staffHoldings.played (check 50 staffRequest).run) ∧
      ∃ d, expiredHoldings.played (check 101 staffRequest).run =
        [⟨.findSession "ann" "t", .ok (some ⟨"ann", "t", "Ann", 100⟩)⟩,
          ⟨.deleteSession "ann" "t", d⟩] := by
  have hstaff : Runs (check 50 staffRequest) (staffHoldings.played (check 50 staffRequest).run)
      (.ok ⟨true, "record role"⟩) := run_trace _ (check 50 staffRequest).run ()
  have hexpired : Runs (check 101 staffRequest)
      (expiredHoldings.played (check 101 staffRequest).run)
      (.error (.tokenExpired "login session has expired, please login again")) :=
    run_trace _ (check 101 staffRequest).run ()
  obtain ⟨horder, -, hdue, -⟩ := check_ordered hstaff
  obtain ⟨-, -, -, hremoved⟩ := check_ordered hexpired
  have hids : ∀ id, id ∈ ["7", "9"] ↔ id ∈ staffRequest.ids := by
    intro id
    simp only [staffRequest, List.mem_cons, List.not_mem_nil, or_false]
    tauto
  refine ⟨rfl, (hdue (by decide) _).2 ?_, ?_⟩
  · exact .owned (.tail _ (.head _)) (.tail _ (.tail _ (.tail _ (.head _)))) (by decide) (by decide)
      (by decide) (by decide) hids
  · obtain ⟨d, hd, -⟩ := hremoved ⟨"ann", "t", "Ann", 100⟩ rfl (.head _)
    exact ⟨d, hd⟩

end Rowgate.Access
