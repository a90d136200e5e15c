/-
  What reading does behind the access check.

  * `Fetched`: the ways that rows are fetched, from the cache or by one query; `fetch_run`
    says that there are no others.
-/
import Rowgate.Keeper.Get
import Rowgate.Proofs.Keeper.Basic

namespace Rowgate.Keeper

open Program World

variable {k : Keeper} {p : Params} {t : List world.Event}

/-- Asking the cache, if it is used, without getting rows. -/
inductive Missed (p : Params) : Bool → List world.Event → Prop where
  | unused : Missed p false []
  | missed {rows : Option (List Record)} (h : rows = none ∨ rows = some []) :
      Missed p true [⟨.cached p.table p.hashKey, rows⟩]

/-- Telling a cache that is used what was read, unless that is nothing. -/
def remembered (k : Keeper) (p : Params) (useCache : Bool) :
    Except Error (List Record) → List world.Event
  | .ok rows =>
    if useCache && !rows.isEmpty then
      [⟨.remember p.table p.hashKey rows k.options.cacheTtl, ()⟩]
    else []
  | .error _ => []

/-- The ways that rows are fetched. -/
inductive Fetched (k : Keeper) (p : Params) (useCache : Bool) :
    List world.Event → Except Error (List Record) → Prop where
  | hit (hc : useCache) {rows : List Record} (hne : rows ≠ []) :
      Fetched k p useCache [⟨.cached p.table p.hashKey, some rows⟩] (.ok rows)
  | unplanned {t : List world.Event} {e : Error} (hm : Missed p useCache t)
      (h : k.readStatement p = .error e) : Fetched k p useCache t (.error e)
  | asked {t : List world.Event} {sql : String} (hm : Missed p useCache t)
      (h : k.readStatement p = .ok sql) (a : Except Error (List Row)) :
      Fetched k p useCache
        (t ++ ⟨.database (.query k.options.timeout sql []), a⟩ ::
          k.remembered p useCache (records .read a))
        (records .read a)

theorem Fetched.of_records {useCache : Bool} {sql : String} (hm : Missed p useCache t)
    (hs : k.readStatement p = .ok sql) {a : Except Error (List Row)}
    {r : Except Error (List Record)} (hr : r = records .read a) :
    Fetched k p useCache (t ++ ⟨.database (.query k.options.timeout sql []), a⟩ ::
      k.remembered p useCache r) r := by
  rw [hr]
  exact .asked hm hs a

/-- Reading, once the cache had no rows. -/
theorem fetched_of_missed {useCache : Bool} {t₁ t₂ : List world.Event} (hm : Missed p useCache t₁)
    {r : Except Error (List Record)}
    (h : Runs (do
      let sql ← given (k.readStatement p)
      let records ← k.queryRecords .read sql []
      if useCache && !records.isEmpty then
        ask (.remember p.table p.hashKey records k.options.cacheTtl)
      return records) t₂ r) : Fetched k p useCache (t₁ ++ t₂) r := by
  rcases runs_given_bind_iff.1 h with ⟨e, he, rfl, rfl⟩ | ⟨sql, hs, h⟩
  · rw [List.append_nil]
    exact .unplanned hm he
  rcases runs_bind_iff.1 h with ⟨e, h₁, rfl⟩ | ⟨t₃, t₄, rows, rfl, h₁, h₂⟩
  · obtain ⟨a, rfl, he⟩ := queryRecords_run h₁
    exact Fetched.of_records hm hs he
  · obtain ⟨a, rfl, he⟩ := queryRecords_run h₁
    have := Fetched.of_records hm hs he
    dsimp only at h₂
    split_ifs at h₂ with hu
    · rw [show k.remembered p useCache (.ok rows) = _ from if_pos hu] at this
      rcases runs_bind_iff.1 h₂ with ⟨e, h₃, -⟩ | ⟨t₅, t₆, _, rfl, h₃, h₄⟩
      · obtain ⟨_, -, h⟩ := runs_ask_iff.1 h₃
        cases h
      · obtain ⟨_, rfl, -⟩ := runs_ask_iff.1 h₃
        obtain ⟨rfl, rfl⟩ := runs_pure_iff.1 h₄
        exact this
    · rw [show k.remembered p useCache (.ok rows) = _ from if_neg hu] at this
      obtain ⟨rfl, rfl⟩ := runs_pure_iff.1 h₂
      exact this

theorem fetch_run {cached : Bool} {r : Except Error (List Record)}
    (h : Runs (k.fetch p cached) t r) : Fetched k p (cached && k.options.cacheEnabled) t r := by
  unfold fetch at h
  dsimp only at h
  cases hc : cached && k.options.cacheEnabled with
  | false =>
    rw [hc] at h
    exact fetched_of_missed .unused h
  | true =>
    rw [hc, if_pos rfl] at h
    rcases runs_bind_iff.1 h with ⟨e, h₁, -⟩ | ⟨t₁, t₂, kept, rfl, h₁, h₂⟩
    · obtain ⟨_, -, h⟩ := runs_ask_iff.1 h₁
      cases h
    obtain ⟨_, rfl, hk⟩ := runs_ask_iff.1 h₁
    cases hk
    split at h₂
    · obtain ⟨rfl, rfl⟩ := runs_pure_iff.1 h₂
      exact .hit rfl (by simp)
    · rename_i hn
      refine fetched_of_missed (.missed ?_) h₂
      match kept, hn with
      | none, _ => exact .inl rfl
      | some [], _ => exact .inr rfl
      | some (r :: rs), hn => exact absurd rfl (hn r rs)

/-! ## Reads that are there -/

variable {rows : List Record}

theorem fetch_hits (hc : k.options.cacheEnabled) (hne : rows ≠ []) :
    Runs (k.fetch p true) [⟨.cached p.table p.hashKey, some rows⟩] (.ok rows) := by
  obtain ⟨row, rows, rfl⟩ := List.exists_cons_of_ne_nil hne
  unfold fetch
  rw [hc]
  refine runs_bind_iff.2 (.inr ⟨[_], [], some (row :: rows), rfl, ?_, ?_⟩)
  · exact runs_ask_iff.2 ⟨_, rfl, rfl⟩
  · exact runs_pure_iff.2 ⟨rfl, rfl⟩

theorem fetch_stores (hc : k.options.cacheEnabled) {sql : String}
    (hs : k.readStatement p = .ok sql) {a : Except Error (List Row)}
    (ha : records .read a = .ok rows) (hne : rows ≠ []) :
    Runs (k.fetch p true) [⟨.cached p.table p.hashKey, (none : Option (List Record))⟩,
      ⟨.database (.query k.options.timeout sql []), a⟩,
      ⟨.remember p.table p.hashKey rows k.options.cacheTtl, ()⟩] (.ok rows) := by
  have hquery : Runs (k.queryRecords .read sql []) _ _ := queryRecords_runs .read sql [] a
  rw [ha] at hquery
  unfold fetch
  rw [hc]
  refine runs_bind_iff.2 (.inr ⟨[_], _, none, rfl, runs_ask_iff.2 ⟨_, rfl, rfl⟩, ?_⟩)
  refine runs_given_bind_iff.2 (.inr ⟨sql, hs, ?_⟩)
  refine runs_bind_iff.2 (.inr ⟨[_], _, rows, rfl, hquery, ?_⟩)
  have huse : (true && true && !rows.isEmpty) = true := by simpa using hne
  dsimp only
  rw [if_pos huse]
  refine runs_bind_iff.2 (.inr ⟨[_], [], (), rfl, runs_ask_iff.2 ⟨_, rfl, rfl⟩, ?_⟩)
  exact runs_pure_iff.2 ⟨rfl, rfl⟩

end Rowgate.Keeper
