/-
  Runs of the access check.

  * `Course now request u r`: the ways that a check can go, each with its calls `u` and what
    it comes to; `check_course` says that there are no others;
  * `check_calls`: a check asks lookups of its request, and discards a session only when it
    has found that it is expired;
  * `check_licence`: without record ids there is no permit to an owner or by the grants on
    records.
-/
import Rowgate.Access.Check
import Rowgate.Proofs.Run

namespace Rowgate.Access

open Program

/-! ## How a check goes -/

/-- The ways that a check can go. -/
inductive Course (now : Int) (request : AccessRequest) :
    List accessStore.Event → Except Error AccessDecision → Prop where
  | emptyId (h : request.ids.any String.isEmpty) :
      Course now request [] (.error (.params "record ids must be non-empty"))
  | sessionFailed (e : Error) :
      Course now request [⟨.findSession request.user request.token, .error e⟩] (.error e)
  | noSession :
      Course now request [⟨.findSession request.user request.token, .ok none⟩]
        (.error (.unauthenticated "no login session found, please login"))
  | expired {s : Session} (h : s.isExpiredAt now) (d : Except Error Nat) :
      Course now request [⟨.findSession request.user request.token, .ok (some s)⟩,
          ⟨.deleteSession s.user s.token, d⟩]
        (.error (.tokenExpired "login session has expired, please login again"))
  | actorFailed {s : Session} (h : s.isExpiredAt now = false) (e : Error) :
      Course now request [⟨.findSession request.user request.token, .ok (some s)⟩,
        ⟨.findActor request.user, .error e⟩] (.error e)
  | noActor {s : Session} (h : s.isExpiredAt now = false) :
      Course now request [⟨.findSession request.user request.token, .ok (some s)⟩,
          ⟨.findActor request.user, .ok none⟩]
        (.error (.unauthorized "user account not found"))
  | serviceFailed {s : Session} (h : s.isExpiredAt now = false) (actor : Actor) (e : Error) :
      Course now request [⟨.findSession request.user request.token, .ok (some s)⟩,
        ⟨.findActor request.user, .ok (some actor)⟩, ⟨.findService request.table, .error e⟩]
        (.error e)
  | decided {s : Session} (h : s.isExpiredAt now = false) (actor : Actor)
      (service : Option Service) {u : List accessStore.Event} {r : Except Error AccessDecision}
      (hd : Runs (decide request ⟨actor, request.task,
        (service.filter Service.isTable).map Service.id, request.ids, none, none⟩
        Strategy.chain) u r) :
      Course now request (⟨.findSession request.user request.token, .ok (some s)⟩ ::
        ⟨.findActor request.user, .ok (some actor)⟩ ::
        ⟨.findService request.table, .ok service⟩ :: u) r

theorem check_course {now : Int} {request : AccessRequest} {u : List accessStore.Event}
    {r : Except Error AccessDecision} (h : Runs (check now request) u r) :
    Course now request u r := by
  unfold check at h
  by_cases hi : request.ids.any String.isEmpty
  · rw [if_pos hi] at h
    obtain ⟨rfl, rfl⟩ := runs_throw_bind_iff.1 h
    exact .emptyId hi
  rw [if_neg hi] at h
  rcases runs_bind_iff.1 h with ⟨e, h₁, rfl⟩ | ⟨t₁, u₁, session?, rfl, h₁, hu₁⟩
  · obtain rfl := run_call_iff.1 h₁
    exact .sessionFailed e
  obtain rfl := run_call_iff.1 h₁
  cases session? with
  | none =>
    obtain ⟨rfl, rfl⟩ := runs_throw_iff.1 hu₁
    exact .noSession
  | some s =>
  dsimp only at hu₁
  cases hs : s.isExpiredAt now with
  | true =>
    rw [hs, if_pos rfl] at hu₁
    obtain ⟨t₂, u₂, _, rfl, h₂, hu₂⟩ := (runs_bind_iff.1 hu₁).resolve_left fun ⟨e, he, _⟩ => by
      obtain ⟨_, _, _, -, -, he⟩ := run_bind_iff.1 he
      cases he
    obtain ⟨t₃, _, d, rfl, h₃, hd⟩ := run_bind_iff.1 h₂
    obtain rfl := run_call_iff.1 h₃
    cases hd
    obtain ⟨rfl, rfl⟩ := runs_throw_bind_iff.1 hu₂
    exact .expired hs d
  | false =>
    rw [hs, if_neg Bool.false_ne_true] at hu₁
    rcases runs_bind_iff.1 hu₁ with ⟨e, h₂, rfl⟩ | ⟨t₂, u₂, actor?, rfl, h₂, hu₂⟩
    · obtain rfl := run_call_iff.1 h₂
      exact .actorFailed hs e
    obtain rfl := run_call_iff.1 h₂
    cases actor? with
    | none =>
      obtain ⟨rfl, rfl⟩ := runs_throw_iff.1 hu₂
      exact .noActor hs
    | some actor =>
      rcases runs_bind_iff.1 hu₂ with ⟨e, h₃, rfl⟩ | ⟨t₃, u₃, service, rfl, h₃, hu₃⟩
      · obtain rfl := run_call_iff.1 h₃
        exact .serviceFailed hs actor e
      obtain rfl := run_call_iff.1 h₃
      exact .decided hs actor service hu₃

/-! ## What is asked -/

/-- The calls that look something up for a request. -/
inductive IsLookup (request : AccessRequest) : accessStore.Call → Prop where
  | session : IsLookup request (.findSession request.user request.token)
  | actor : IsLookup request (.findActor request.user)
  | service : IsLookup request (.findService request.table)
  | grants (services groups : List String) : IsLookup request (.roleGrants services groups)
  | owned (ids : List String) (user : String) :
      IsLookup request (.countOwned request.table ids user)

theorem ownsAll_calls {request : AccessRequest} {user : String} {u : List accessStore.Event}
    {r : Except Error Bool} (h : Runs (ownsAll request.table request.ids user) u r) :
    ∀ e ∈ u, IsLookup request e.1 := by
  unfold ownsAll at h
  dsimp only at h
  split_ifs at h
  · obtain ⟨rfl, -⟩ := runs_pure_iff.1 h
    simp
  · obtain ⟨_, h, -⟩ := runs_bind_pure_iff.1 h
    obtain rfl := run_call_iff.1 h
    rintro _ (⟨⟩ | ⟨_, ⟨⟩⟩)
    exact .owned _ _

theorem load_calls {request : AccessRequest} {c : AccessContext} {s : Strategy}
    {u : List accessStore.Event} {r : Except Error AccessContext}
    (h : Runs (load request c s) u r) : ∀ e ∈ u, IsLookup request e.1 := by
  unfold load at h
  split at h
  · split_ifs at h
    · obtain ⟨_, h, -⟩ := runs_bind_pure_iff.1 h
      obtain rfl := run_call_iff.1 h
      rintro _ (⟨⟩ | ⟨_, ⟨⟩⟩)
      exact .grants _ _
    · obtain ⟨rfl, -⟩ := runs_pure_iff.1 h
      simp
  · split_ifs at h
    · obtain ⟨_, h, -⟩ := runs_bind_pure_iff.1 h
      exact ownsAll_calls h
    · obtain ⟨rfl, -⟩ := runs_pure_iff.1 h
      simp
  · obtain ⟨rfl, -⟩ := runs_pure_iff.1 h
    simp

theorem decide_calls {request : AccessRequest} {c : AccessContext} {chain : List Strategy}
    {u : List accessStore.Event} {r : Except Error AccessDecision}
    (h : Runs (decide request c chain) u r) : ∀ e ∈ u, IsLookup request e.1 := by
  induction chain generalizing c u with
  | nil =>
    obtain ⟨rfl, -⟩ := runs_pure_iff.1 h
    simp
  | cons s chain ih =>
    rcases runs_bind_iff.1 h with ⟨e, h₁, -⟩ | ⟨t, u, c', rfl, h₁, h₂⟩
    · exact load_calls h₁
    · intro e he
      rcases List.mem_append.1 he with he | he
      · exact load_calls h₁ e he
      · split at h₂
        · obtain ⟨rfl, -⟩ := runs_pure_iff.1 h₂
          cases he
        · obtain ⟨rfl, -⟩ := runs_pure_iff.1 h₂
          cases he
        · exact ih h₂ e he

/-- A check that comes to ask for a decision asks nothing but lookups. -/
theorem decided_calls {request : AccessRequest} {s : Except Error (Option Session)}
    {a : Except Error (Option Actor)} {v : Except Error (Option Service)} {c : AccessContext}
    {chain : List Strategy} {u : List accessStore.Event} {r : Except Error AccessDecision}
    (h : Runs (decide request c chain) u r) :
    ∀ e ∈ (⟨.findSession request.user request.token, s⟩ :: ⟨.findActor request.user, a⟩ ::
      ⟨.findService request.table, v⟩ :: u : List accessStore.Event), IsLookup request e.1 := by
  intro e he
  rcases List.mem_cons.1 he with rfl | he
  · exact .session
  rcases List.mem_cons.1 he with rfl | he
  · exact .actor
  rcases List.mem_cons.1 he with rfl | he
  · exact .service
  · exact decide_calls h e he

theorem check_lookups {now : Int} {request : AccessRequest} {u : List accessStore.Event}
    {d : AccessDecision} (h : Runs (check now request) u (.ok d)) :
    ∀ e ∈ u, IsLookup request e.1 := by
  cases check_course h with
  | decided _ _ _ hd => exact decided_calls hd

/-- A check asks lookups of its request, and discards nothing but an expired session that it
    has found. -/
theorem check_calls {now : Int} {request : AccessRequest} {u : List accessStore.Event}
    {r : Except Error AccessDecision} (h : Runs (check now request) u r) :
    ∀ e ∈ u, IsLookup request e.1 ∨ ∃ s : Session, s.isExpiredAt now ∧
      ⟨.findSession request.user request.token, .ok (some s)⟩ ∈ u ∧
      e.1 = .deleteSession s.user s.token := by
  intro e he
  cases check_course h with
  | emptyId => cases he
  | sessionFailed | noSession =>
    cases List.mem_singleton.1 he
    exact .inl .session
  | @expired s hs d =>
    rcases List.mem_cons.1 he with rfl | he
    · exact .inl .session
    · cases List.mem_singleton.1 he
      exact .inr ⟨s, hs, List.mem_cons_self, rfl⟩
  | actorFailed | noActor =>
    rcases List.mem_cons.1 he with rfl | he
    · exact .inl .session
    · cases List.mem_singleton.1 he
      exact .inl .actor
  | serviceFailed =>
    rcases List.mem_cons.1 he with rfl | he
    · exact .inl .session
    rcases List.mem_cons.1 he with rfl | he
    · exact .inl .actor
    · cases List.mem_singleton.1 he
      exact .inl .service
  | decided _ _ _ hd => exact .inl (decided_calls hd e he)

/-! ## What a permit rests on -/

/-- The reasons to permit a request about these ids: only what is permitted for the table as
    a whole goes without ids. -/
def Licence (ids : List String) (reason : String) : Prop :=
  reason = "admin" ∨ reason = "table role" ∨
    (reason = "owner" ∨ reason = "record role") ∧ ids ≠ []

/-- What holds of the context all along the chain. -/
structure Coherent (request : AccessRequest) (c : AccessContext) : Prop where
  ids : c.ids = request.ids
  owner : c.owner = some true → request.ids ≠ []

theorem ownsAll_ne_nil {table user : String} {ids : List String} {u : List accessStore.Event}
    (h : Runs (ownsAll table ids user) u (.ok true)) : ids ≠ [] := by
  rintro rfl
  unfold ownsAll at h
  obtain ⟨-, h⟩ := runs_pure_iff.1 h
  cases h

theorem load_coherent {request : AccessRequest} {c c' : AccessContext} {s : Strategy}
    {u : List accessStore.Event} (hc : Coherent request c)
    (h : Runs (load request c s) u (.ok c')) : Coherent request c' := by
  unfold load at h
  split at h
  · split_ifs at h
    · obtain ⟨x, -, hx⟩ := runs_bind_pure_iff.1 h
      obtain ⟨grants, -, rfl⟩ := Except.map_eq_ok.1 hx.symm
      exact ⟨hc.ids, hc.owner⟩
    · obtain ⟨-, h⟩ := runs_pure_iff.1 h
      cases h
      exact hc
  · split_ifs at h
    · obtain ⟨x, hx, he⟩ := runs_bind_pure_iff.1 h
      obtain ⟨owner, rfl, rfl⟩ := Except.map_eq_ok.1 he.symm
      refine ⟨hc.ids, fun ho => ?_⟩
      cases ho
      exact ownsAll_ne_nil hx
    · obtain ⟨-, h⟩ := runs_pure_iff.1 h
      cases h
      exact hc
  · obtain ⟨-, h⟩ := runs_pure_iff.1 h
    cases h
    exact hc

theorem evaluate_licence {request : AccessRequest} {c : AccessContext} {s : Strategy}
    {reason : String} (hc : Coherent request c) (h : s.evaluate c = .permit reason) :
    Licence request.ids reason := by
  cases s with
  | activeAccount =>
    simp only [Strategy.evaluate] at h
    split_ifs at h
  | adminOverride =>
    simp only [Strategy.evaluate] at h
    split_ifs at h
    cases h
    exact .inl rfl
  | rolePresence =>
    simp only [Strategy.evaluate] at h
    split_ifs at h
  | ownership =>
    simp only [Strategy.evaluate] at h
    split_ifs at h with ho
    cases h
    exact .inr (.inr ⟨.inl rfl, hc.owner ho⟩)
  | tableRole =>
    simp only [Strategy.evaluate] at h
    split_ifs at h
    cases h
    exact .inr (.inl rfl)
  | recordRole =>
    simp only [Strategy.evaluate] at h
    split_ifs at h with hr
    cases h
    refine .inr (.inr ⟨.inr rfl, ?_⟩)
    rw [← hc.ids]
    rintro he
    simp [recordPermitted, he] at hr

theorem decide_licence {request : AccessRequest} {c : AccessContext} {chain : List Strategy}
    {u : List accessStore.Event} {reason : String} (hc : Coherent request c)
    (h : Runs (decide request c chain) u (.ok ⟨true, reason⟩)) : Licence request.ids reason := by
  induction chain generalizing c u with
  | nil =>
    obtain ⟨-, h⟩ := runs_pure_iff.1 h
    cases h
  | cons s chain ih =>
    rcases runs_bind_iff.1 h with ⟨e, -, h⟩ | ⟨t, u, c', rfl, h₁, h₂⟩
    · cases h
    · have hc' := load_coherent hc h₁
      split at h₂
      · rename_i he
        obtain ⟨-, h₂⟩ := runs_pure_iff.1 h₂
        cases h₂
        exact evaluate_licence hc' he
      · obtain ⟨-, h₂⟩ := runs_pure_iff.1 h₂
        cases h₂
      · exact ih hc' h₂

/-- Without record ids, nothing is permitted to an owner or by the grants on records. -/
theorem check_licence {now : Int} {request : AccessRequest} {u : List accessStore.Event}
    {reason : String} (h : Runs (check now request) u (.ok ⟨true, reason⟩)) :
    Licence request.ids reason := by
  cases check_course h with
  | decided _ actor service hd => exact decide_licence ⟨rfl, fun h => by cases h⟩ hd

end Rowgate.Access
