/-
  Where the rows of a read come from, when calls on many clients share a cache and callers
  have transactions of their own.

  * `Session`: calls on clients, and the commits and rollbacks of their callers, since the cache
    was new, and the cache that they leave;
  * `Passes.origin`: an entry was stored by the events that have passed, or was there before;
  * `Source`: the call that stored rows last, with no write of their table since;
  * `answer_origin`: a read answers with rows of its own client, or with those of such a call;
  * `rolled_back_read`: the client of that call may have been in a transaction that its caller
    has rolled back.
-/
import Rowgate.Proofs.Keeper.History

namespace Rowgate

/-- An entry was stored by one of the events, or was there before and none has stored another. -/
theorem Passes.origin {n n' : Moment} {c c' : Cache} {t : List world.Event} {table key : String}
    {e : Cache.Entry} (h : Passes n c t n' c') (he : c'.entry? table key = some e) :
    (∃ ttl, ⟨.remember table key e.rows ttl, ()⟩ ∈ t) ∨
      c.entry? table key = some e ∧ ∀ rows ttl, ⟨.remember table key rows ttl, ()⟩ ∉ t := by
  induction h with
  | nil => exact .inr ⟨he, fun _ _ => List.not_mem_nil⟩
  | @cons n m n' c c₁ c' ev t hn hev ht ih =>
    rcases ih he with ⟨ttl, hmem⟩ | ⟨hold, hnone⟩
    · exact .inl ⟨ttl, .tail _ hmem⟩
    -- what the first event leaves is still there at the end
    have hrest (hev : ∀ rows ttl, ev ≠ ⟨.remember table key rows ttl, ()⟩) (rows : List Record)
        (ttl : Span) : (⟨.remember table key rows ttl, ()⟩ : world.Event) ∉ ev :: t := by
      rw [List.mem_cons, not_or]
      exact ⟨fun h => hev rows ttl h.symm, hnone rows ttl⟩
    cases hev with
    | quiet hquiet =>
      refine .inr ⟨hold, hrest fun rows ttl h => ?_⟩
      rw [h] at hquiet
      cases hquiet
    | cached => exact .inr ⟨Cache.entry?_of_get hold, hrest fun _ _ => nofun⟩
    | forget =>
      rw [Cache.entry?_deleteTable] at hold
      split_ifs at hold
      exact .inr ⟨hold, hrest fun _ _ => nofun⟩
    | remember table' key' rows' ttl' =>
      rcases Cache.entry?_of_set hold with ⟨⟨⟩, rfl, -⟩ | ⟨hkey, hold⟩
      · exact .inl ⟨ttl', .head _⟩
      · refine .inr ⟨hold, hrest fun rows ttl h => hkey ?_⟩
        cases h
        rfl

namespace Keeper

open Program World Script

variable {k : Keeper} {nested : Bool} {p : Params} {t : List world.Event}

/-! ## Reads -/

/-- The call puts rows into the cache. -/
def Call.Stores (x : Call) (table key : String) (rows : List Record) : Prop :=
  ∃ ttl, ⟨.remember table key rows ttl, ()⟩ ∈ x.trace

theorem CacheUse.stored {op : Operation} {r : Response} (h : CacheUse k p op t r)
    {table key : String} {rows : List Record} {ttl : Span}
    (hmem : ⟨.remember table key rows ttl, ()⟩ ∈ t) :
    op = .entry .get ∧ k.options.cacheEnabled ∧ p.table = table ∧ p.hashKey = key ∧
      Received k p t rows := by
  cases h with
  | quiet ht => cases ht _ hmem
  | forgot _ h₁ h₂ => cases List.mem_singleton.1 (h₁.mem_inner h₂ hmem rfl)
  | looked hop hc h₁ h₂ h₃ =>
    have hinner := Quiet.mem_inner (authorize_usesCache h₁) h₃.usesCache hmem rfl
    cases h₂ with
    | hit => cases List.mem_singleton.1 hinner
    | missed _ ht =>
      rcases List.mem_cons.1 hinner with h | h
      · cases h
      · cases ht _ h
    | @stored _ _ sql hs a rows' ha =>
      simp only [List.mem_cons, List.not_mem_nil, or_false] at hinner
      rcases hinner with h | h | h
      · cases h
      · cases h
      · cases h
        refine ⟨hop, hc, rfl, rfl, sql, a, hs, ?_, ha⟩
        simp

/-- Only a read by a keeper whose cache is enabled stores rows, and it has received them. -/
theorem Call.Stores.reads {x : Call} {table key : String} {rows : List Record}
    (h : x.Stores table key rows) :
    x.Reads table key rows ∧ x.keeper.options.cacheEnabled := by
  obtain ⟨ttl, hmem⟩ := h
  obtain ⟨hop, hc, htable, hkey, hreceived⟩ := (run_cacheUse x.run).stored hmem
  exact ⟨⟨hop, htable, hkey, hreceived⟩, hc⟩

/-- What a read that succeeds answers with: rows that it received, or found in the cache. -/
theorem get_answer {r : Response} (h : Run (Entry.get.run k nested p) t r)
    (hr : r.code = .success) :
    ∃ rows, r.outcome = readOutcome p rows ∧ (Received k p t rows ∨
      rows ≠ [] ∧ k.options.cacheEnabled ∧ ⟨.cached p.table p.hashKey, some rows⟩ ∈ t) := by
  obtain ⟨x, rfl, hcourse⟩ := Entry.run_course h
  cases hcourse with
  | invalid _ e => exact absurd hr (Entry.get.ofResult_error e).1
  | refused => exact absurd hr (Entry.get.ofResult_error _).1
  | admitted hc ha hb =>
    cases hb with
    | unread => exact absurd hr (Entry.get.ofResult_error _).1
    | written hne => exact absurd rfl hne
    | @read t t' rows hf =>
      refine ⟨rows, rfl, ?_⟩
      generalize hx : Except.ok rows = x at hf
      cases hf with
      | hit hc hne =>
        cases hx
        exact .inr ⟨hne, hc, by simp⟩
      | unplanned => cases hx
      | @asked t sql hm hs a => exact .inl ⟨sql, a, hs, by simp, hx.symm⟩

/-! ## Sessions -/

/-- What callers do: a call on a client, or the end of their own transaction on it. -/
inductive Deed where
  | call (client : Nat) (x : Call)
  | commit (client : Nat)
  | rollback (client : Nat)

/-- What was done since the cache was new, the last thing first, with the time and the cache at
    the end.  Nobody tells the cache of a commit or a rollback. -/
inductive Session (capacity : Nat) : List Deed → Moment → Cache → Prop where
  | new (n : Moment) : Session capacity [] n (.ofCapacity capacity)
  | call {deeds : List Deed} {n n' : Moment} {c c' : Cache} (h : Session capacity deeds n c)
      (client : Nat) (x : Call) (hx : Passes n c x.trace n' c') :
      Session capacity (.call client x :: deeds) n' c'
  | commit {deeds : List Deed} {n n' : Moment} {c : Cache} (h : Session capacity deeds n c)
      (hn : n ≤ n') (client : Nat) : Session capacity (.commit client :: deeds) n' c
  | rollback {deeds : List Deed} {n n' : Moment} {c : Cache} (h : Session capacity deeds n c)
      (hn : n ≤ n') (client : Nat) : Session capacity (.rollback client :: deeds) n' c

/-- The call that stored rows under a key of a table last, and what was done since: nothing
    else was stored there, and no write of the table has succeeded. -/
structure Source (deeds : List Deed) (table key : String) (rows : List Record) (client : Nat)
    (x : Call) (later : List Deed) : Prop where
  done : ∃ earlier, deeds = later ++ .call client x :: earlier
  stores : x.Stores table key rows
  last : ∀ client' y, .call client' y ∈ later →
    ¬ y.Wrote table ∧ ∀ rows', ¬ y.Stores table key rows'

variable {capacity : Nat} {deeds later : List Deed} {n n' : Moment} {c c' : Cache} {x y : Call}
  {table key : String} {rows : List Record} {client : Nat} {e : Cache.Entry}

/-- One more thing that was done, and is no call that stores there or writes the table. -/
theorem Source.cons (h : Source deeds table key rows client x later) {d : Deed}
    (hd : ∀ client' y, d = .call client' y → ¬ y.Wrote table ∧ ∀ rows', ¬ y.Stores table key rows') :
    Source (d :: deeds) table key rows client x (d :: later) where
  done := by
    obtain ⟨earlier, rfl⟩ := h.done
    exact ⟨earlier, rfl⟩
  stores := h.stores
  last client' y hy := by
    rcases List.mem_cons.1 hy with hy | hy
    · exact hd client' y hy.symm
    · exact h.last client' y hy

/-- All entries of the cache have a source. -/
theorem Session.source (h : Session capacity deeds n c) (he : c.entry? table key = some e) :
    ∃ client x later, Source deeds table key e.rows client x later := by
  induction h with
  | new => cases he
  | commit _ _ _ ih | rollback _ _ _ ih =>
    obtain ⟨client, x, later, hsource⟩ := ih he
    exact ⟨client, x, _, hsource.cons fun _ _ => nofun⟩
  | @call deeds n n' c c' h client y hy ih =>
    rcases hy.origin he with hstores | ⟨hold, hnone⟩
    · exact ⟨client, y, [], ⟨deeds, rfl⟩, hstores, fun _ _ => nofun⟩
    obtain ⟨client', x, later, hsource⟩ := ih hold
    refine ⟨client', x, _, hsource.cons fun _ _ hd => ?_⟩
    cases hd
    refine ⟨fun ⟨hw, htable, hs⟩ => ?_, fun rows ⟨ttl, hmem⟩ => hnone rows ttl hmem⟩
    -- a write of the table that succeeds would have taken the entry
    have hforgotten := (run_cacheUse y.run).forgotten hy hw hs key
    rw [htable, he] at hforgotten
    cases hforgotten

/-- **Where the rows of a read come from.**  A read that succeeds answers with rows that its own
    client has returned to it, or with those of an entry that is not over.  These were received
    by the last read that stored there, of the same table under the same key by a keeper whose
    cache is enabled, on whatever client, and no write of the table has succeeded since.  So
    rows that are read on a client in a transaction reach a read on another client in this way
    only, whether or not the transaction has been committed. -/
theorem answer_origin (h : Session capacity deeds n c) (y : Call)
    (hy : Passes n c y.trace n' c') (hop : y.operation = .entry .get)
    (hr : y.response.code = .success) :
    ∃ rows, y.response.outcome = readOutcome y.params rows ∧
      (Received y.keeper y.params y.trace rows ∨ rows ≠ [] ∧ y.keeper.options.cacheEnabled ∧
        (∃ e, c.entry? y.params.table y.params.hashKey = some e ∧ e.rows = rows ∧ n < e.expires) ∧
        ∃ client x later, Source deeds y.params.table y.params.hashKey rows client x later ∧
          x.Reads y.params.table y.params.hashKey rows ∧ x.keeper.options.cacheEnabled) := by
  have hrun : Run (Entry.get.run y.keeper y.nested y.params) y.trace y.response := by
    have hrun := y.run
    rw [hop] at hrun
    exact hrun
  obtain ⟨rows, hrows, hreceived | ⟨hne, hc, hmem⟩⟩ := get_answer hrun hr
  · exact ⟨rows, hrows, .inl hreceived⟩
  refine ⟨rows, hrows, .inr ⟨hne, hc, ?_⟩⟩
  obtain ⟨⟨e, he, rfl, hlive⟩, -⟩ := (run_cacheUse y.run).hit hy hne hmem
  obtain ⟨client, x, later, hsource⟩ := h.source he
  exact ⟨⟨e, he, rfl, hlive⟩, client, x, later, hsource, hsource.stores.reads⟩

/-- A read of the row on a client in a transaction. -/
def openRead : Call :=
  .ofScene rowScene (.standard false) true ownedParams (.entry .get)

/-- A process where no statement finds a row, with the cache that the read has left. -/
def emptyScene : Scene :=
  { Scene.ofReplies [] with
    cache := (rowScene.play ((Operation.entry .get).run (.standard false) true ownedParams)).2.cache }

/-- The same read on a client in no transaction. -/
def outsideRead : Call :=
  .ofScene emptyScene (.standard false) false ownedParams (.entry .get)

theorem openRead_session :
    Session Cache.standardCapacity [.rollback 1, .call 1 openRead] 0 emptyScene.cache := by
  have hread : Session Cache.standardCapacity [.call 1 openRead] 0 emptyScene.cache :=
    .call (.new 0) 1 openRead (rowScene.trace_passes _)
  exact .rollback hread (Fin.le_refl 0) 1

theorem answer_origin_shared :
    outsideRead.response.outcome.records = [.ofList [("id", .string "7")]] ∧
      ∃ client x later, Source [.rollback 1, .call 1 openRead] "notes" ownedParams.hashKey
        [.ofList [("id", .string "7")]] client x later := by
  obtain ⟨rows, hrows, ⟨sql, a, -, hmem, -⟩ | ⟨-, -, -, client, x, later, hsource, -⟩⟩ :=
    answer_origin openRead_session outsideRead (emptyScene.trace_passes _) rfl rfl
  · rcases hmem with _ | ⟨_, _ | ⟨_, ⟨⟩⟩⟩
  · have hrecords : rows = [.ofList [("id", .string "7")]] :=
      (congrArg Outcome.records hrows).symm
    rw [hrecords] at hsource
    exact ⟨rfl, client, x, later, hsource⟩

/-- Rows that were read in a transaction which its caller has rolled back are answered to a read
    on another client that is in none, without any statement. -/
theorem rolled_back_read :
    Session Cache.standardCapacity [.rollback 1, .call 1 openRead] 0 emptyScene.cache ∧
      openRead.nested = true ∧
      Received openRead.keeper openRead.params openRead.trace [.ofList [("id", .string "7")]] ∧
      (∃ n c, Passes 0 emptyScene.cache outsideRead.trace n c) ∧
      outsideRead.operation = .entry .get ∧ outsideRead.nested = false ∧
      (∀ ev ∈ outsideRead.trace, ∀ d, ev.1 ≠ .database d) ∧
      outsideRead.response.outcome.records = [.ofList [("id", .string "7")]] := by
  refine ⟨openRead_session, rfl, ⟨_, _, rfl, .tail _ (.head _), rfl⟩,
    ⟨0, _, emptyScene.trace_passes _⟩, rfl, rfl, fun ev hev d hd => ?_, rfl⟩
  rcases hev with _ | ⟨_, ⟨⟩⟩
  cases hd

end Keeper

end Rowgate
