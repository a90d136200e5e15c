/-
  Requests whose statements cannot be built.

  * `authorize_lookups`: a check that is passed asks the time and sends its lookups;
  * `Dropped`: what looking for rows that are over does to a cache;
  * `unplanned_call`: if not all statements of a request can be built, none of them is sent,
    nothing goes to the cache or the audit sink, and the answer is the failure;
  * `stale_read`: a read looks in the cache before, and so may drop rows that are over.
-/
import Rowgate.Proofs.Keeper.Operation

namespace Rowgate.Keeper

open Program World Script

variable {k : Keeper} {nested : Bool} {p : Params} {op : Operation} {task : Task}
  {ids : List String} {t : List world.Event}

/-! ## What a check asks that is passed -/

/-- A statement that looks something up for the access check of a task. -/
def LookupCall (k : Keeper) (p : Params) (task : Task) (ids : List String) (d : DatabaseCall) :
    Prop :=
  ∃ c, Access.IsLookup (request p task ids) c ∧ SqlStore.statement k.options.tables c = .ok d

theorem authorize_lookups (h : Runs (k.authorize p task ids) t (.ok ())) :
    ∀ e ∈ t, e.1 = .now ∨ ∃ d, e.1 = .database d ∧ LookupCall k p task ids d := by
  intro e he
  cases hk : k.options.checkAccess with
  | false =>
    obtain ⟨rfl, -⟩ := authorize_off hk h
    cases he
  | true =>
    rcases authorize_run hk h with ⟨reason, -, h⟩ | ⟨_, _, hr, -, -⟩
    · obtain ⟨now, u, rfl, hu⟩ := accessCheck_run h
      rcases List.mem_cons.1 he with rfl | he
      · exact .inl rfl
      · obtain ⟨e', he', rfl⟩ := List.mem_map.1 he
        exact .inr ⟨e'.1, rfl, SqlStore.check_lookups hu e' he'⟩
    · cases hr

/-! ## Looking in the cache -/

/-- The cache without the rows of the request, which were over. -/
def Dropped (p : Params) (c c' : Cache) : Prop :=
  ∃ entry now, c.entry? p.table p.hashKey = some entry ∧ entry.expires ≤ now ∧
    c' = c.delete p.table p.hashKey

theorem get_dropped (c : Cache) (now : Moment) :
    (c.get now p.table p.hashKey).2 = c ∨ Dropped p c (c.get now p.table p.hashKey).2 := by
  unfold Cache.get
  cases he : c.entry? p.table p.hashKey with
  | none => exact .inl rfl
  | some entry =>
    dsimp only
    split_ifs with hlive
    · exact .inl rfl
    · exact .inr ⟨entry, now, he, Fin.not_lt.1 hlive, rfl⟩

theorem Missed.replays {useCache : Bool} (h : Missed p useCache t) {c c' : Cache}
    (hc : Replays c t c') : c' = c ∨ useCache ∧ Dropped p c c' := by
  cases h with
  | unused =>
    cases hc
    exact .inl rfl
  | missed =>
    obtain _ | ⟨he, hc⟩ := hc
    cases hc
    cases he
    exact (get_dropped c _).imp_right fun h => ⟨rfl, h⟩

theorem Missed.mem {useCache : Bool} (h : Missed p useCache t) {e : world.Event} (he : e ∈ t) :
    e.1 = .cached p.table p.hashKey := by
  cases h with
  | unused => cases he
  | missed =>
    cases List.mem_singleton.1 he
    rfl

/-! ## Nothing is sent of what cannot be built -/

/-- An operation that comes to build its statements has looked for access and rows only. -/
theorem built_mem (h : op.Built k p t) {e : world.Event} (he : e ∈ t) :
    (∃ task ids, op.checked? p = some (task, ids) ∧
      (e.1 = .now ∨ ∃ d, e.1 = .database d ∧ LookupCall k p task ids d)) ∨
      e.1 = .cached p.table p.hashKey := by
  cases h with
  | unchecked => cases he
  | write hc ha => exact .inl ⟨_, _, hc, authorize_lookups ha e he⟩
  | read ha hm =>
    rcases List.mem_append.1 he with he | he
    · exact .inl ⟨_, _, rfl, authorize_lookups ha e he⟩
    · exact .inr (hm.mem he)

theorem built_replays (h : op.Built k p t) {c c' : Cache} (hc : Replays c t c') :
    c' = c ∨ op = .entry .get ∧ k.options.cacheEnabled ∧ Dropped p c c' := by
  cases h with
  | unchecked =>
    cases hc
    exact .inl rfl
  | write _ ha => exact .inl ((Replays.iff_unchanged (authorize_usesCache ha)).1 hc)
  | read ha hm =>
    obtain ⟨c₁, h₁, h₂⟩ := Replays.append_iff.1 hc
    obtain rfl := (Replays.iff_unchanged (authorize_usesCache ha)).1 h₁
    exact (hm.replays h₂).imp_right fun h => ⟨rfl, h⟩

/-- **All or nothing is built.**  If an operation comes to build its statements and one of them
    cannot be built, then all that is sent are the lookups of its access check; the audit
    sink gets nothing; the cache stays, but that a read drops its own rows if they are over;
    and the answer is the failure. -/
theorem unplanned_call {r : Response} {e : Error} (h : Run (op.run k nested p) t r)
    (hp : op.planned k p = .error e) (hb : op.Builds k p t) :
    (∀ ev ∈ t, ∀ d, ev.1 = .database d →
      ∃ task ids, op.checked? p = some (task, ids) ∧ LookupCall k p task ids d) ∧
      (∀ ev ∈ t, ∀ action actor entry, ev.1 ≠ .record action actor entry) ∧
      (∀ c c', Replays c t c' →
        c' = c ∨ op = .entry .get ∧ k.options.cacheEnabled ∧ Dropped p c c') ∧
      r = .ofResult op.fallback (.error e) := by
  obtain ⟨hbuilt, hr⟩ := Operation.run_unplanned h hp hb
  refine ⟨fun ev hev d hd => ?_, fun ev hev action actor entry hrec => ?_,
    fun c c' hc => built_replays hbuilt hc, hr⟩
  · rcases built_mem hbuilt hev with ⟨task, ids, hc, hnow | ⟨d', hd', hl⟩⟩ | hcached
    · rw [hd] at hnow
      cases hnow
    · rw [hd] at hd'
      cases hd'
      exact ⟨task, ids, hc, hl⟩
    · rw [hd] at hcached
      cases hcached
  · rcases built_mem hbuilt hev with ⟨task, ids, hc, hnow | ⟨d, hd, -⟩⟩ | hcached
    · rw [hrec] at hnow
      cases hnow
    · rw [hrec] at hd
      cases hd
    · rw [hrec] at hcached
      cases hcached

/-- A session that never ends and an admin. -/
def adminScene : Scene :=
  let text (name : String) : Column := ⟨name, .base .text⟩
  let bool (name : String) : Column := ⟨name, .base .bool⟩
  .ofReplies [
    .ofCells [(text "user_id", none), (text "token", none), (text "login_name", none),
      (⟨"expire", .base .int8⟩, some [0, 0, 0, 0, 0, 0, 0, 9])],
    .ofCells [(text "id", some [97]), (text "groups", none), (bool "is_admin", some [1]),
      (bool "is_active", some [1])]]

/-- An update of two notes, the second by a field that the first has not. -/
def unevenParams : Params :=
  { Params.ofIds "notes" "ann" [] with
    records := [
      .ofList [("id", .integer 7), ("title", .string "a")],
      .ofList [("id", .integer 9), ("text", .string "b")]] }

def unevenSave : Program world Response :=
  (Operation.entry .save).run (.standard true) false unevenParams

theorem unplanned_call_uneven :
    (adminScene.play unevenSave).1.code = .paramsError ∧
      ∀ c c', Replays c (adminScene.trace unevenSave) c' → c' = c := by
  have hcheck : Runs (authorize (.standard true) unevenParams .update ["7", "9"]) _ (.ok ()) :=
    adminScene.run_play (authorize (.standard true) unevenParams .update ["7", "9"])
  have hbuilds : Operation.Builds (.standard true) unevenParams (.entry .save)
      (adminScene.trace unevenSave) := by
    refine ⟨fun task ids hc => ?_, fun rows hrows => ?_⟩
    · cases hc
      exact ⟨_, [], (List.append_nil _).symm, hcheck⟩
    · cases authorize_usesCache hcheck _ hrows
  have hrun : Run unevenSave (adminScene.trace unevenSave) _ := adminScene.run_play unevenSave
  obtain ⟨-, -, hcache, hr⟩ := unplanned_call hrun rfl hbuilds
  refine ⟨?_, fun c c' hc => (hcache c c' hc).resolve_right fun ⟨hget, _⟩ => ?_⟩
  · rw [hr]
    rfl
  · cases hget

/-- A read of a table by what is no name. -/
def staleParams : Params :=
  .ofIds "1abc" "ann" ["7"]

/-- A cache that is full, with rows of notes and, put there later, rows of that read that are
    over. -/
def staleCache : Cache :=
  ((Cache.ofCapacity 2).set 0 "notes" "b" [.ofList [("id", .string "b")]] ⟨1000000000⟩).set 0
    "1abc" staleParams.hashKey [.ofList [("id", .string "7")]] ⟨0⟩

def staleScene : Scene :=
  { Scene.ofReplies [] with cache := staleCache }

def staleGet : Program world Response :=
  (Operation.entry .get).run (.standard false) false staleParams

/-- A read that cannot be built may drop its rows from the cache; there is room then for others
    without losing the rows of notes. -/
theorem stale_read : ∃ (t : List world.Event) (r : Response) (e : Error) (c' : Cache),
    Run staleGet t r ∧ (Operation.entry .get).planned (.standard false) staleParams = .error e ∧
      (Operation.entry .get).Builds (.standard false) staleParams t ∧
      Replays staleCache t c' ∧ c' ≠ staleCache ∧
      ((staleCache.set 0 "notes" "c" [] ⟨1000000000⟩).get 0 "notes" "b").1 = none ∧
      ((c'.set 0 "notes" "c" [] ⟨1000000000⟩).get 0 "notes" "b").1 =
        some [.ofList [("id", .string "b")]] := by
  have hkept : (((staleScene.play staleGet).2.cache.set 0 "notes" "c" [] ⟨1000000000⟩).get 0
      "notes" "b").1 = some [.ofList [("id", .string "b")]] := rfl
  have hlost : ((staleCache.set 0 "notes" "c" [] ⟨1000000000⟩).get 0 "notes" "b").1 = none := rfl
  refine ⟨staleScene.trace staleGet, _, _, (staleScene.play staleGet).2.cache,
    staleScene.run_play staleGet, rfl, ⟨fun task ids hc => ?_, fun rows hrows => ?_⟩,
    staleScene.trace_replays staleGet, fun he => ?_, hlost, hkept⟩
  · cases hc
    exact ⟨[], _, rfl, runs_pure_iff.2 ⟨rfl, rfl⟩⟩
  · have htrace : staleScene.trace staleGet =
      [⟨.cached "1abc" staleParams.hashKey, (none : Option (List Record))⟩] := rfl
    rw [htrace] at hrows
    cases List.mem_singleton.1 hrows
  · rw [he, hlost] at hkept
    cases hkept

end Rowgate.Keeper
