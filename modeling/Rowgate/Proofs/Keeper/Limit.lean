/-
  Which limit the rows of a read were selected by, when keepers with limits of their own share
  a cache.

  * `LimitedTo`: a SELECT with a limit, behind which there is no more than an offset;
  * `readStatement_limited`: the SELECT of a read has a limit, which is at most what its keeper
    allows and what was asked for;
  * `read_limited`: so have the rows of a read, but by what is allowed by the keeper that read
    them from the database;
  * `shared_unlimited`: that may be far more than the keeper allows that answers with them.
-/
import Rowgate.Proofs.Keeper.CacheKey
import Rowgate.Proofs.Keeper.Origin
import Rowgate.Proofs.Sql.Builder

namespace Rowgate

/-! ## Statements with a limit -/

namespace Sql

/-- A SELECT with a limit, behind which there is no more than an offset. -/
def LimitedTo (sql : String) (n : Int) : Prop :=
  ∃ ts rest, tokens? sql =
      some (.word "SELECT" :: ts ++ .word "LIMIT" :: .number (toString n) :: rest) ∧
    (rest = [] ∨ ∃ m, rest = [.word "OFFSET", .number m])

/-- A statement has one limit only. -/
theorem LimitedTo.unique {sql : String} {m n : Int} (h : LimitedTo sql m) (h' : LimitedTo sql n) :
    m = n := by
  obtain ⟨ts, rest, hsql, hrest⟩ := h
  obtain ⟨ts', rest', hsql', hrest'⟩ := h'
  have htokens : ts ++ .word "LIMIT" :: .number (toString m) :: rest =
      ts' ++ .word "LIMIT" :: .number (toString n) :: rest' :=
    (List.cons.inj (Option.some.inj (hsql.symm.trans hsql'))).2
  -- from the end, the last two tokens are a limit or an offset
  have hends {us us' : List Token} {x y z : Token} : us ++ [.word "LIMIT", x] ≠
      us' ++ [.word "LIMIT", y, .word "OFFSET", z] := by
    intro h
    rw [show us' ++ [.word "LIMIT", y, .word "OFFSET", z] =
      (us' ++ [.word "LIMIT", y]) ++ [.word "OFFSET", z] from by simp] at h
    exact absurd (Token.word.inj (List.cons.inj (List.append_inj_right' h rfl)).1) (by decide)
  refine intText_inj (Token.number.inj ?_)
  rcases hrest with rfl | ⟨x, rfl⟩ <;> rcases hrest' with rfl | ⟨y, rfl⟩
  · exact (List.cons.inj (List.cons.inj (List.append_inj_right' htokens rfl)).2).1
  · exact absurd htokens hends
  · exact absurd htokens.symm hends
  · exact (List.cons.inj (List.cons.inj (List.append_inj_right' htokens rfl)).2).1

theorem numberTokens_of_pos {n : Int} (hn : 0 < n) :
    numberTokens (toString n) = [.number (toString n)] := by
  cases n with
  | negSucc m => exact absurd hn (by simp)
  | ofNat m =>
    unfold numberTokens
    split
    case h_1 r hminus =>
      have hdigit := natText_isDigit m '-' (hminus ▸ List.mem_cons_self)
      cases hdigit
    case h_2 => rw [String.ofList_toList]

/-- The tokens of a SELECT before its limit. -/
def SelectShape.head (s : SelectShape) (predicate : Option (List Token)) : List Token :=
  (if s.columns.isEmpty then [.operator "*"] else commas s.columns) ++ .word "FROM" :: s.table ++
    whereTokens predicate ++
    (if s.orderBy.isEmpty then [] else .word "ORDER" :: .word "BY" :: commas s.orderBy)

theorem SelectShape.limitedTo {s : SelectShape} {sql : String} {predicate : Option (List Token)}
    (hpieces : List.Forall₂ Piece [sql] [s.tokens predicate]) (hlimit : 0 < s.limit) :
    LimitedTo sql s.limit := by
  obtain ⟨hpiece, -⟩ := List.forall₂_cons.1 hpieces
  have htokens : s.tokens predicate = .word "SELECT" :: s.head predicate ++ .word "LIMIT" ::
      .number (toString s.limit) ::
        (if 0 < s.offset then .word "OFFSET" :: numberTokens (toString s.offset) else []) := by
    rw [tokens, tail, if_pos hlimit, numberTokens_of_pos hlimit]
    simp [head]
  refine ⟨s.head predicate, _, hpiece.tokens?_eq.trans (congrArg some htokens), ?_⟩
  split_ifs with hoffset
  · exact .inr ⟨_, by rw [numberTokens_of_pos hoffset]⟩
  · exact .inl rfl

end Sql

/-- With a positive limit of its own, a keeper never reads without one, nor above it. -/
theorem Options.effectiveLimit_bounds {o : Options} (h : 1 ≤ o.maxQueryLimit) (requested : Int) :
    1 ≤ o.effectiveLimit requested ∧ o.effectiveLimit requested ≤ o.maxQueryLimit ∧
      (0 < requested → o.effectiveLimit requested ≤ requested) := by
  unfold effectiveLimit
  split_ifs with hlimit <;> omega

namespace Keeper

open Program World Script Sql

variable {k : Keeper} {p : Params} {t : List world.Event}

theorem readStatement_limited {sql : String} (h : k.readStatement p = .ok sql)
    (hlimit : 1 ≤ k.options.maxQueryLimit) :
    LimitedTo sql (k.options.effectiveLimit p.limit) := by
  unfold readStatement at h
  obtain ⟨select, hselect, h⟩ := Except.bind_eq_ok.1 h
  obtain ⟨projected, hproject, h⟩ := Except.bind_eq_ok.1 h
  obtain ⟨sorted, hsort, h⟩ := Except.bind_eq_ok.1 h
  obtain ⟨shape, hs, hshape⟩ : ∃ shape, Shaped ((sorted.withLimit
      (k.options.effectiveLimit p.limit)).withOffset (max p.skip 0)) shape ∧
        shape.limit = k.options.effectiveLimit p.limit :=
    ⟨_, ((((Shaped.ofTable hselect).project hproject).sort hsort).withLimit _).withOffset _, rfl⟩
  have hpositive : 0 < shape.limit := by
    rw [hshape]
    exact (Options.effectiveLimit_bounds hlimit p.limit).1
  rw [← hshape]
  dsimp only at h
  split_ifs at h
  · have hpieces : List.Forall₂ Piece [sql] [shape.tokens (Rows.ids p.ids).tokens?] :=
      Builder.select_piece hs (Except.map_eq_ok.2 ⟨sql, h, rfl⟩)
    exact SelectShape.limitedTo hpieces hpositive
  · have hpieces : List.Forall₂ Piece [sql] [shape.tokens (Rows.condition p.condition).tokens?] :=
      Builder.select_piece hs (Except.map_eq_ok.2 ⟨sql, h, rfl⟩)
    exact SelectShape.limitedTo hpieces hpositive
  · have hpieces : List.Forall₂ Piece [sql] [shape.tokens Rows.all.tokens?] :=
      Builder.select_piece hs (congrArg (Except.map ([·])) h)
    exact SelectShape.limitedTo hpieces hpositive

/-! ## Answers -/

theorem Fetched.received {rows : List Record} (h : Fetched k p false t (.ok rows)) :
    Received k p t rows := by
  generalize hx : Except.ok rows = x at h
  cases h with
  | hit hc => cases hc
  | unplanned => cases hx
  | @asked t sql hm hs a => exact ⟨sql, a, hs, by simp, hx.symm⟩

/-- What a lookup that succeeds answers with, which is never from the cache. -/
theorem lookup_answer {r : Response} (h : Run (k.lookup p) t r) (hr : r.code = .success) :
    ∃ rows, r.outcome = readOutcome p rows ∧ Received k p t rows := by
  obtain ⟨x, hf, rfl⟩ := lookup_fetched h
  cases x with
  | error e => exact absurd hr (Entry.get.ofResult_error e).1
  | ok rows => exact ⟨rows, rfl, hf.received⟩

/-- The call reads rows by a SELECT with a limit, and receives them. -/
def Call.Selects (x : Call) (rows : List Record) (limit : Int) : Prop :=
  ∃ sql a, x.keeper.readStatement x.params = .ok sql ∧ LimitedTo sql limit ∧
    ⟨.database (.query x.keeper.options.timeout sql []), a⟩ ∈ x.trace ∧ records .read a = .ok rows

variable {capacity : Nat} {deeds : List Deed} {n n' : Moment} {c c' : Cache} {x y : Call}
  {rows : List Record}

theorem Call.selects (h : Received x.keeper x.params x.trace rows)
    (hlimit : 1 ≤ x.keeper.options.maxQueryLimit) :
    x.Selects rows (x.keeper.options.effectiveLimit x.params.limit) := by
  obtain ⟨sql, a, hs, hmem, ha⟩ := h
  exact ⟨sql, a, hs, readStatement_limited hs hlimit, hmem, ha⟩

/-- The call finds rows that another call of the session has read. -/
structure FoundOf (deeds : List Deed) (x y : Call) (rows : List Record) : Prop where
  operation : y.operation = .entry .get
  enabled : y.keeper.options.cacheEnabled
  hits : y.Hits rows
  done : ∃ client, .call client x ∈ deeds
  table : x.params.table = y.params.table
  key : x.params.hashKey = y.params.hashKey

/-- What a read that succeeds answers with: rows that it received, or rows of another read
    with the same key. -/
theorem Session.answer (h : Session capacity deeds n c) (hy : Passes n c y.trace n' c')
    (hop : y.operation = .entry .get ∨ y.operation = .lookup) (hr : y.response.code = .success) :
    ∃ rows x, y.response.outcome = readOutcome y.params rows ∧
      Received x.keeper x.params x.trace rows ∧ (x = y ∨ FoundOf deeds x y rows) := by
  have hrun := y.run
  rcases hop with hop | hop
  · rw [hop] at hrun
    have hget : Run (Entry.get.run y.keeper y.nested y.params) y.trace y.response := hrun
    obtain ⟨rows, hrows, hreceived | ⟨hne, hc, hmem⟩⟩ := get_answer hget hr
    · exact ⟨rows, y, hrows, hreceived, .inl rfl⟩
    obtain ⟨⟨e, he, rfl, -⟩, -⟩ := (run_cacheUse y.run).hit hy hne hmem
    obtain ⟨client, x, later, hsource⟩ := h.source he
    obtain ⟨hreads, -⟩ := hsource.stores.reads
    obtain ⟨earlier, hdone⟩ := hsource.done
    exact ⟨e.rows, x, hrows, hreads.received,
      .inr ⟨hop, hc, ⟨hne, hmem⟩, ⟨client, by simp [hdone]⟩, hreads.table, hreads.key⟩⟩
  · rw [hop] at hrun
    obtain ⟨rows, hrows, hreceived⟩ := lookup_answer hrun hr
    exact ⟨rows, y, hrows, hreceived, .inl rfl⟩

/-- **The limit of a read.**  When calls of keepers that all allow some rows share a cache, the
    rows that a read answers with were received for a SELECT with a limit, which is at most the
    one that was asked for, if that is positive.  It is at most what is allowed by the keeper
    that has sent the SELECT: the one that answers, unless it has found the rows in the cache,
    where they were left by a read with the same key. -/
theorem read_limited (h : Session capacity deeds n c) (y : Call) (hy : Passes n c y.trace n' c')
    (hop : y.operation = .entry .get ∨ y.operation = .lookup) (hr : y.response.code = .success)
    (hlimit : 1 ≤ y.keeper.options.maxQueryLimit)
    (hlimits : ∀ client x, .call client x ∈ deeds → 1 ≤ x.keeper.options.maxQueryLimit) :
    ∃ rows x limit, y.response.outcome = readOutcome y.params rows ∧ x.Selects rows limit ∧
      1 ≤ limit ∧ limit ≤ x.keeper.options.maxQueryLimit ∧
      (0 < y.params.limit → limit ≤ y.params.limit) ∧ (x = y ∨ FoundOf deeds x y rows) := by
  obtain ⟨rows, x, hrows, hreceived, hfound⟩ := h.answer hy hop hr
  have hpositive : 1 ≤ x.keeper.options.maxQueryLimit := by
    rcases hfound with rfl | hfound
    · exact hlimit
    · obtain ⟨client, hdone⟩ := hfound.done
      exact hlimits client x hdone
  -- the key tells which limit was asked for, as far as it is positive
  have hsame : x.keeper.options.effectiveLimit x.params.limit =
      x.keeper.options.effectiveLimit y.params.limit := by
    rcases hfound with rfl | hfound
    · rfl
    · exact effectiveLimit_congr _ ((Params.hashKey_eq_iff hfound.table).1 hfound.key).limit
  have hselects := Call.selects hreceived hpositive
  rw [hsame] at hselects
  obtain ⟨hleast, hmost, hasked⟩ := Options.effectiveLimit_bounds hpositive y.params.limit
  exact ⟨rows, x, _, hrows, hselects, hleast, hmost, hasked, hfound⟩

/-- A request for all notes. -/
def notesParams : Params :=
  .ofIds "notes" "ann" []

/-- A process that finds two rows. -/
def pairScene : Scene :=
  .ofReplies [{ Reply.ofCells [(⟨"id", .base .text⟩, some [97])] with
    rows := [[some [97]], [some [98]]] }]

/-- A keeper without access checks that allows one row. -/
def narrowKeeper : Keeper :=
  ⟨(Options.standard.withCheckAccess false).withMaxQueryLimit 1, true, none⟩

/-- A read of all notes by a keeper with the standard limit. -/
def wideRead : Call :=
  .ofScene pairScene (.standard false) false notesParams (.entry .get)

/-- A process without any row, with the cache that the wide read has left. -/
def leftScene : Scene :=
  { Scene.ofReplies [] with
    cache := (pairScene.play ((Operation.entry .get).run (.standard false) false notesParams)).2.cache }

/-- The same read by the narrow keeper. -/
def narrowRead : Call :=
  .ofScene leftScene narrowKeeper false notesParams (.entry .get)

theorem wideRead_session :
    Session Cache.standardCapacity [.call 0 wideRead] 0 leftScene.cache :=
  .call (.new 0) 0 wideRead (pairScene.trace_passes _)

def pairRows : List Record :=
  [.ofList [("id", .string "a")], .ofList [("id", .string "b")]]

theorem read_limited_shared : narrowRead.response.outcome.records = pairRows ∧
    ∃ x limit, x.Selects pairRows limit ∧ 1 ≤ limit ∧ limit ≤ x.keeper.options.maxQueryLimit ∧
      (x = narrowRead ∨ FoundOf [.call 0 wideRead] x narrowRead pairRows) := by
  have hlimits : ∀ client x, Deed.call client x ∈ [.call 0 wideRead] →
      1 ≤ x.keeper.options.maxQueryLimit := by
    intro client x hx
    cases List.mem_singleton.1 hx
    decide
  obtain ⟨rows, x, limit, hrows, hselects, hleast, hmost, -, hfound⟩ := read_limited
    wideRead_session narrowRead (leftScene.trace_passes _) (.inl rfl) rfl (by decide) hlimits
  have hpair : rows = pairRows := (congrArg Outcome.records hrows).symm
  subst hpair
  exact ⟨rfl, x, limit, hselects, hleast, hmost, hfound⟩

/-- A keeper that allows one row answers with two, and the only limit that a SELECT has been sent
    with is that of the other keeper. -/
theorem shared_unlimited :
    Session Cache.standardCapacity [.call 0 wideRead] 0 leftScene.cache ∧
      (∃ n c, Passes 0 leftScene.cache narrowRead.trace n c) ∧
      narrowRead.operation = .entry .get ∧ narrowRead.keeper.options.maxQueryLimit = 1 ∧
      wideRead.keeper.options.maxQueryLimit = 10000 ∧
      narrowRead.response.code = .success ∧ narrowRead.response.outcome.records = pairRows ∧
      ∀ x, x = narrowRead ∨ x = wideRead → ∀ rows limit, x.Selects rows limit →
        limit = 10000 := by
  refine ⟨wideRead_session, ⟨0, _, leftScene.trace_passes _⟩, rfl, rfl, rfl, rfl, rfl, ?_⟩
  have hwide : LimitedTo "SELECT * FROM notes LIMIT 10000" 10000 :=
    readStatement_limited (k := .standard false) (p := notesParams) rfl (by decide)
  rintro x hx rows limit ⟨sql, a, -, hsql, hmem, -⟩
  rcases hx with rfl | rfl
  · -- the only event is the answer of the cache
    rcases hmem with _ | ⟨_, ⟨⟩⟩
  · rcases hmem with _ | ⟨_, _ | ⟨_, _ | ⟨_, ⟨⟩⟩⟩⟩
    exact hsql.unique hwide

end Keeper

end Rowgate
