/-
  Calls one after the other, of any keepers, that share a cache.

  * `History`: the calls since the cache was new, and the cache that they leave;
  * `Backed`: rows that a read received, and no write of their table has succeeded since;
  * `history_backed`: all rows in the cache are backed; a call that finds rows there answers
    with them, and one that fails adds none and loses none that are not over;
  * `counted_read`: such a call may have counted rows of the table for its access check.
-/
import Rowgate.Proofs.Keeper.CacheUse

namespace Rowgate.Keeper

open Program World Script

/-- A call of an operation, with what it asked, what it was answered, and its own answer. -/
structure Call where
  keeper : Keeper
  nested : Bool
  params : Params
  operation : Operation
  trace : List world.Event
  response : Response
  run : Run (operation.run keeper nested params) trace response

/-- The calls since the cache was new, the last one first, with the time and the cache at
    their end. -/
inductive History (capacity : Nat) : List Call → Moment → Cache → Prop where
  | new (n : Moment) : History capacity [] n (.ofCapacity capacity)
  | call {calls : List Call} {n n' : Moment} {c c' : Cache} (h : History capacity calls n c) (x : Call)
      (hx : Passes n c x.trace n' c') : History capacity (x :: calls) n' c'

namespace Call

/-- The call finds rows in the cache. -/
def Hits (x : Call) (rows : List Record) : Prop :=
  rows ≠ [] ∧ ⟨.cached x.params.table x.params.hashKey, some rows⟩ ∈ x.trace

/-- The call changes rows of a table. -/
def Wrote (x : Call) (table : String) : Prop :=
  x.operation.isWrite ∧ x.params.table = table ∧ x.response.code = .success

/-- The call reads under a key of a table, and these are the rows that it receives. -/
structure Reads (x : Call) (table key : String) (rows : List Record) : Prop where
  operation : x.operation = .entry .get
  table : x.params.table = table
  key : x.params.hashKey = key
  received : Received x.keeper x.params x.trace rows

end Call

/-- Rows that a read received, and no write of the table has succeeded since. -/
def Backed (calls : List Call) (table key : String) (rows : List Record) : Prop :=
  rows ≠ [] ∧ ∃ later x earlier, calls = later ++ x :: earlier ∧ x.Reads table key rows ∧
    ∀ y ∈ later, ¬ y.Wrote table

/-- All entries of one cache are entries of another. -/
def Within (c c' : Cache) : Prop :=
  ∀ table key e, c.entry? table key = some e → c'.entry? table key = some e

/-- What a call has to do with the entries of the cache. -/
structure Call.Conduct (x : Call) (n : Moment) (c : Cache) (n' : Moment) (c' : Cache) : Prop where
  /-- With rows from the cache, a call is answered by them, and sends nothing but the
      lookups of its access check. -/
  hit : ∀ rows, x.Hits rows →
    (∃ e, c.entry? x.params.table x.params.hashKey = some e ∧ e.rows = rows ∧ n < e.expires) ∧
      x.response.code = .success ∧ x.response.outcome = readOutcome x.params rows ∧
      ∀ ev ∈ x.trace, ∀ d, ev.1 = .database d → x.keeper.options.checkAccess ∧
        LookupCall x.keeper x.params .read x.params.ids d
  empty : x.operation = .entry .get →
    (∀ rows, Received x.keeper x.params x.trace rows → rows = []) → Within c' c
  apart : x.operation = .lookup ∨ x.keeper.options.cacheEnabled = false →
    (∀ ev ∈ x.trace, ∀ table key, ev.1 ≠ .cached table key) ∧ Within c' c
  failed : x.response.code ≠ .success → Within c' c ∧
    ∀ table key e, c.entry? table key = some e → n' < e.expires → c'.entry? table key = some e

variable {capacity : Nat} {calls : List Call} {n n' : Moment} {c c' : Cache} {x : Call}

theorem Call.conduct (h : Passes n c x.trace n' c') : x.Conduct n c n' c' := by
  have huse := run_cacheUse x.run
  refine ⟨fun rows ⟨hne, hmem⟩ => ?_, fun _ hempty table key e he => ?_, fun hapart => ⟨?_, ?_⟩,
    fun hr => ⟨fun table key e he => ?_, fun table key e => huse.kept h hr⟩⟩
  · obtain ⟨hentry, -, hrest⟩ := huse.hit h hne hmem
    exact ⟨hentry, hrest⟩
  · rcases huse.added h he with he | ⟨-, -, -, -, -, hne, hreceived⟩
    · exact he
    · exact absurd (hempty _ hreceived) hne
  · intro ev hev table key hcached
    obtain ⟨hop, hc⟩ := huse.cached hev hcached
    rw [hop, hc] at hapart
    rcases hapart with h | h <;> cases h
  · intro table key e he
    rcases huse.added h he with he | ⟨hop, hc, -⟩
    · exact he
    · rw [hop, hc] at hapart
      rcases hapart with h | h <;> cases h
  · rcases huse.added h he with he | ⟨-, -, hs, -⟩
    · exact he
    · exact absurd hs hr

theorem Backed.cons {table key : String} {rows : List Record} (h : Backed calls table key rows)
    (hx : ¬ x.Wrote table) : Backed (x :: calls) table key rows := by
  obtain ⟨hne, later, y, earlier, rfl, hy, hlater⟩ := h
  exact ⟨hne, x :: later, y, earlier, rfl, hy, List.forall_mem_cons.2 ⟨hx, hlater⟩⟩

/-- One call keeps the rows in the cache backed. -/
theorem backed_step (hbacked : ∀ table key e, c.entry? table key = some e →
    Backed calls table key e.rows) (hx : Passes n c x.trace n' c') (table key : String)
    (e : Cache.Entry) (he : c'.entry? table key = some e) :
    Backed (x :: calls) table key e.rows := by
  have huse := run_cacheUse x.run
  rcases huse.added hx he with hold | ⟨hop, -, -, htable, hkey, hne, hreceived⟩
  · -- a write of the table that succeeds would have taken the entry
    refine (hbacked table key e hold).cons fun ⟨hw, htable, hs⟩ => ?_
    rw [← htable, huse.forgotten hx hw hs key] at he
    cases he
  · exact ⟨hne, [], x, calls, rfl, ⟨hop, htable, hkey, hreceived⟩, by simp⟩

/-- **The cache and its history.**  Whatever calls of whatever keepers share a cache, all rows
    in it are backed by what they received; and whatever call comes next, what it has to do with
    the entries is as `Call.Conduct` says. -/
theorem history_backed (h : History capacity calls n c) :
    (∀ table key e, c.entry? table key = some e → Backed calls table key e.rows) ∧
      ∀ (x : Call) (n' : Moment) (c' : Cache), Passes n c x.trace n' c' → x.Conduct n c n' c' := by
  refine ⟨?_, fun x n' c' hx => x.conduct hx⟩
  induction h with
  | new =>
    intro table key e he
    cases he
  | call _ x hx ih => exact backed_step ih hx

/-- What a scene makes of a call. -/
def Call.ofScene (s : Scene) (k : Keeper) (nested : Bool) (p : Params) (op : Operation) : Call :=
  ⟨k, nested, p, op, s.trace (op.run k nested p), (s.play (op.run k nested p)).1, s.run_play _⟩

def ownedParams : Params :=
  .ofIds "notes" "ann" ["7"]

/-- A process that finds the row. -/
def rowScene : Scene :=
  .ofReplies [.ofCells [(⟨"id", .base .text⟩, some [55])]]

/-- A read of the row without access check. -/
def firstRead : Call :=
  .ofScene rowScene (.standard false) false ownedParams (.entry .get)

/-- The process of the owner of the row, with the cache that the first read has left. -/
def sharedScene : Scene :=
  { ownerScene with
    cache := (rowScene.play ((Operation.entry .get).run (.standard false) false ownedParams)).2.cache }

/-- The owner's read of the row, with access check. -/
def secondRead : Call :=
  .ofScene sharedScene (.standard true) false ownedParams (.entry .get)

theorem firstRead_history : History Cache.standardCapacity [firstRead] 0 sharedScene.cache :=
  .call (.new 0) firstRead (rowScene.trace_passes _)

theorem secondRead_hits : secondRead.Hits [.ofList [("id", .string "7")]] :=
  ⟨List.cons_ne_nil _ _, .tail _ (.tail _ (.tail _ (.tail _ (.tail _ (.tail _ (.head _))))))⟩

theorem history_backed_owner :
    secondRead.response.outcome.records = [.ofList [("id", .string "7")]] ∧
      Backed [firstRead] "notes" ownedParams.hashKey [.ofList [("id", .string "7")]] := by
  obtain ⟨hbacked, hconduct⟩ := history_backed firstRead_history
  obtain ⟨⟨e, he, hrows, -⟩, -, houtcome, -⟩ :=
    (hconduct secondRead 0 _ (sharedScene.trace_passes _)).hit _ secondRead_hits
  refine ⟨by rw [houtcome]; rfl, ?_⟩
  rw [← hrows]
  exact hbacked _ _ e he

/-- A read that finds its rows in the cache may send a SELECT on their table, the one that counts
    the rows of the user for the access check. -/
theorem counted_read : History Cache.standardCapacity [firstRead] 0 sharedScene.cache ∧
    (∃ n c, Passes 0 sharedScene.cache secondRead.trace n c) ∧
      secondRead.Hits [.ofList [("id", .string "7")]] ∧ secondRead.params.table = "notes" ∧
      ∃ ev ∈ secondRead.trace, ev.1 = .database (.query none
        "SELECT COUNT(*) FROM notes WHERE id = ANY($1) AND created_by = $2"
        [.stringArray ["7"], .string "a"]) :=
  ⟨firstRead_history, ⟨0, _, sharedScene.trace_passes _⟩, secondRead_hits, rfl, _,
    .tail _ (.tail _ (.tail _ (.tail _ (.tail _ (.head _))))), rfl⟩

end Rowgate.Keeper
