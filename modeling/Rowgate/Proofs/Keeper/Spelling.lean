/-
  Writes and reads of a table by several spellings of its name.

  * `LastStore`: the call that stored rows under a key of a table last; there is only one;
  * `Outlives`: a read finds rows in the cache that were stored there before a write;
  * `Call.Invalidates`: after a write, no read with some parameters does so;
  * `Keeps`: a keeper can answer a read and keeps the rows for a while; `Keeps.stores` is such a
    read, and `Keeps.hits` one that finds the rows;
  * `invalidates_spelling`: a write invalidates the reads by its own spelling of the table, and
    no others; `notes_outlive` is a read by another one.
-/
import Rowgate.Proofs.Keeper.Origin
import Rowgate.Proofs.Resolution

namespace Rowgate.Keeper

open Program World Script

variable {k : Keeper} {p : Params} {t t₁ t₂ : List world.Event} {rows rows' : List Record}
  {n n' : Moment} {c c' : Cache} {x x' w y : Call} {deeds later later' : List Deed}
  {table key : String}

/-! ## Stores and writes -/

/-- The call that stored rows under a key of a table last, and what was done since. -/
structure LastStore (deeds : List Deed) (table key : String) (rows : List Record) (x : Call)
    (later : List Deed) : Prop where
  done : ∃ client earlier, deeds = later ++ .call client x :: earlier
  stores : x.Stores table key rows
  last : ∀ client y, .call client y ∈ later → ∀ rows', ¬ y.Stores table key rows'

theorem Source.lastStore {client : Nat} (h : Source deeds table key rows client x later) :
    LastStore deeds table key rows x later where
  done := ⟨client, h.done⟩
  stores := h.stores
  last client' y hy := (h.last client' y hy).2

theorem eq_nil_of_stores {d tail earlier : List Deed} {client : Nat}
    (hx : x.Stores table key rows) (heq : .call client x :: earlier = d ++ tail)
    (hlast : ∀ client y, .call client y ∈ later ++ d → ∀ rows', ¬ y.Stores table key rows') :
    d = [] := by
  cases d with
  | nil => rfl
  | cons e d =>
    obtain rfl := (List.cons.inj heq).1
    exact absurd hx (hlast client x (by simp) rows)

/-- Of two last stores, none is among what was done since the other. -/
theorem LastStore.unique (h : LastStore deeds table key rows x later)
    (h' : LastStore deeds table key rows' x' later') : later = later' := by
  obtain ⟨client, earlier, rfl⟩ := h.done
  obtain ⟨client', earlier', heq⟩ := h'.done
  rcases List.append_eq_append_iff.1 heq with ⟨d, rfl, htail⟩ | ⟨d, rfl, htail⟩
  · rw [eq_nil_of_stores h.stores htail h'.last, List.append_nil]
  · rw [eq_nil_of_stores h'.stores htail h.last, List.append_nil]

/-- All calls that were done are those of one keeper. -/
def OfKeeper (k : Keeper) (deeds : List Deed) : Prop :=
  ∀ client x, .call client x ∈ deeds → x.keeper = k

/-- A read finds rows in the cache that were stored there before a write, and nothing else was
    since. -/
def Outlives (deeds : List Deed) (w y : Call) : Prop :=
  ∃ rows, y.Hits rows ∧ ∃ x later,
    LastStore deeds y.params.table y.params.hashKey rows x later ∧
      ∃ client, .call client w ∈ later

/-- Whatever is done with the keeper of a write, no read with these parameters answers from rows
    that were stored before it. -/
def Call.Invalidates (w : Call) (p : Params) : Prop :=
  ∀ capacity deeds n c, Session capacity deeds n c → OfKeeper w.keeper deeds →
    ∀ y n' c', Passes n c y.trace n' c' → y.keeper = w.keeper → y.params = p → ¬ Outlives deeds w y

/-- What was stored last is in the cache, and no write of its table has succeeded since. -/
theorem no_write_since {capacity : Nat} (h : Session capacity deeds n c)
    (hy : Passes n c y.trace n' c') (hhits : y.Hits rows)
    (hlast : LastStore deeds y.params.table y.params.hashKey rows x later) {client : Nat}
    (hw : .call client w ∈ later) : ¬ w.Wrote y.params.table := by
  obtain ⟨⟨e, he, -, -⟩, -⟩ := (run_cacheUse y.run).hit hy hhits.1 hhits.2
  obtain ⟨client', x', later', hsource⟩ := h.source he
  rw [hlast.unique hsource.lastStore] at hw
  exact (hsource.last client w hw).1

/-- A write that succeeds takes the entries under its spelling of the table, and no others. -/
theorem CacheUse.passes {op : Operation} {r : Response} (h : CacheUse k p op t r)
    (hw : op.isWrite) (hr : r.code = .success) (n : Moment) (c : Cache) :
    Passes n c t n (c.deleteTable p.table) := by
  cases h with
  | quiet _ hs => exact absurd hr (hs hw)
  | forgot _ h₁ h₂ =>
    exact Passes.append_iff.2 ⟨n, c, h₁.passes n c,
      .cons (Fin.le_refl n) (.forget c p.table) (h₂.passes n _)⟩
  | looked hop =>
    rw [hop] at hw
    cases hw

/-! ## Reads through the cache -/

/-- The keeper can answer a read, and keeps the rows for a while, which the clock can tell. -/
structure Keeps (k : Keeper) (p : Params) : Prop where
  enabled : k.options.cacheEnabled
  lives : 0 < k.options.cacheTtl.nanos.val
  told : k.options.cacheTtl.nanos.val < Moment.range
  planned : ∃ sql, k.readStatement p = .ok sql
  admitted : ∃ t, Runs (k.authorize p .read p.ids) t (.ok ())

theorem exists_recordAudit (k : Keeper) (enabled : Bool) (task : Task) (actor : String)
    (entry : AuditEntry) (message : String) : ∃ t m, Audited task actor t ∧
      Runs (k.recordAudit enabled task actor entry message) t (.ok m) := by
  have hrun := (Scene.ofReplies []).run_play (k.recordAudit enabled task actor entry message).run
  obtain ⟨haudited, m, hm⟩ := recordAudit_run hrun
  rw [hm] at hrun
  exact ⟨_, m, haudited, hrun⟩

/-- A read of rows that are fetched. -/
theorem exists_get (ha : Runs (k.authorize p .read p.ids) t₁ (.ok ()))
    (hf : Runs (k.fetch p true) t₂ (.ok rows)) :
    ∃ x : Call, x.keeper = k ∧ x.params = p ∧
      ∃ t₃, x.trace = t₁ ++ (t₂ ++ t₃) ∧ Quiet t₁ ∧ Quiet t₃ := by
  obtain ⟨t₃, m, haudited, hm⟩ := k.exists_recordAudit k.options.audit.read .read p.user
    ⟨p.table, [], requestJson p⟩ "Record(s) retrieved successfully"
  have hrun : Run (k.get p) (t₁ ++ (t₂ ++ t₃))
      (.ofResult .readError (.ok (m, readOutcome p rows))) := by
    refine run_bind_iff.2 ⟨_, [], _, (List.append_nil _).symm, ?_, .done _⟩
    refine runs_bind_iff.2 (.inr ⟨t₁, t₂ ++ t₃, (), rfl, ha, ?_⟩)
    refine runs_bind_iff.2 (.inr ⟨t₂, t₃, rows, rfl, hf, ?_⟩)
    exact runs_bind_pure_iff.2 ⟨.ok m, hm, rfl⟩
  exact ⟨⟨k, false, p, .entry .get, _, _, hrun⟩, rfl, rfl, t₃, rfl, authorize_usesCache ha,
    haudited.usesCache⟩

/-- A read that finds no rows in an empty cache, and stores those that it receives. -/
theorem Keeps.stores (h : k.Keeps p) :
    ∃ (x : Call) (c : Cache) (e : Cache.Entry), x.keeper = k ∧
      Passes 0 (.ofCapacity Cache.standardCapacity) x.trace 0 c ∧
        x.Stores p.table p.hashKey e.rows ∧ c.entry? p.table p.hashKey = some e ∧
          e.rows ≠ [] ∧ 0 < e.expires := by
  obtain ⟨sql, hsql⟩ := h.planned
  obtain ⟨t₁, ha⟩ := h.admitted
  have hrow : records .read (.ok [⟨[]⟩]) = .ok [.empty] := rfl
  have hfetch := fetch_stores h.enabled hsql hrow (List.cons_ne_nil _ _)
  obtain ⟨x, hkeeper, -, t₃, htrace, h₁, h₃⟩ := exists_get ha hfetch
  have hroom : (Cache.ofCapacity Cache.standardCapacity).queue.length <
    (Cache.ofCapacity Cache.standardCapacity).capacity := by decide
  have hend : (0 : Moment).after? k.options.cacheTtl = some ⟨_, h.told⟩ :=
    Moment.after?_eq_some_iff.2 (Nat.zero_add _).symm
  refine ⟨x, _, _, hkeeper, ?_, ⟨k.options.cacheTtl, ?_⟩,
    Cache.entry?_set_of_room hroom hend p.table p.hashKey [.empty], ?_, h.lives⟩
  · rw [htrace]
    refine Passes.append_iff.2 ⟨0, _, h₁.passes 0 _, ?_⟩
    refine Passes.append_iff.2 ⟨0, _, ?_, h₃.passes 0 _⟩
    refine .cons (Fin.le_refl 0) (.cached _ p.table p.hashKey) ?_
    refine .cons (Fin.le_refl 0) (.quiet _ rfl) ?_
    refine .cons (Fin.le_refl 0) (.remember _ p.table p.hashKey [.empty] k.options.cacheTtl) ?_
    exact .nil (Fin.le_refl 0) _
  · rw [htrace]
    simp
  · exact List.cons_ne_nil _ _

/-- A read that finds rows in the cache, and leaves them there. -/
theorem Keeps.hits (h : k.Keeps p) {e : Cache.Entry} (he : c.entry? p.table p.hashKey = some e)
    (hne : e.rows ≠ []) (hlive : n < e.expires) :
    ∃ y : Call, y.keeper = k ∧ y.params = p ∧ y.Hits e.rows ∧ Passes n c y.trace n c := by
  obtain ⟨t₁, ha⟩ := h.admitted
  obtain ⟨y, hkeeper, rfl, t₃, htrace, h₁, h₃⟩ := exists_get ha (fetch_hits h.enabled hne)
  have hget := Cache.get_of_live he hlive
  have hcached : EffectAt n c _ _ := .cached c y.params.table y.params.hashKey
  rw [hget] at hcached
  refine ⟨y, hkeeper, rfl, ⟨hne, ?_⟩, ?_⟩
  · rw [htrace]
    simp
  · rw [htrace]
    refine Passes.append_iff.2 ⟨n, c, h₁.passes n c, ?_⟩
    exact .cons (Fin.le_refl n) hcached (h₃.passes n c)

/-! ## Spellings -/

/-- A read of some table, a write that succeeds by another name, and the same read once more. -/
theorem exists_outlives (hw : w.Wrote table) (hp : w.keeper.Keeps p) (hother : p.table ≠ table) :
    ∃ (deeds : List Deed) (c : Cache) (y : Call), Session Cache.standardCapacity deeds 0 c ∧
      OfKeeper w.keeper deeds ∧ Passes 0 c y.trace 0 c ∧ y.keeper = w.keeper ∧ y.params = p ∧
        Outlives deeds w y := by
  obtain ⟨hwrite, rfl, hsuccess⟩ := hw
  have huse := run_cacheUse w.run
  obtain ⟨x, c, e, hkeeper, hx, hstores, he, hne, hlive⟩ := hp.stores
  have hkept : Cache.entry? (c.deleteTable w.params.table) p.table p.hashKey = some e := by
    rw [Cache.entry?_deleteTable, if_neg hother, he]
  obtain ⟨y, hy, rfl, hhits, hpasses⟩ := hp.hits hkept hne hlive
  have hread : Session Cache.standardCapacity [.call 1 x] 0 c := .call (.new 0) 1 x hx
  refine ⟨[.call 1 w, .call 1 x], _, y, hread.call 1 w (huse.passes hwrite hsuccess 0 c), ?_,
    hpasses, hy, rfl, e.rows, hhits, x, [.call 1 w], ⟨⟨1, [], rfl⟩, hstores, ?_⟩, 1, by simp⟩
  · intro client z hz
    simp only [List.mem_cons, Deed.call.injEq, List.not_mem_nil, or_false] at hz
    rcases hz with ⟨-, rfl⟩ | ⟨-, rfl⟩
    · rfl
    · exact hkeeper
  · -- a write is no read, and only reads store rows
    intro client z hz rows hstores
    obtain ⟨-, rfl⟩ : client = 1 ∧ z = w := by simpa using hz
    rw [hstores.reads.1.operation] at hwrite
    cases hwrite

/-- **A write invalidates one spelling of its table.**  After a save or a deletion that succeeds,
    no read by the same spelling answers from rows that were stored before it.  A read by any
    other text for a table does so in some run, if its keeper can answer it and keeps rows for
    a while: be it another table, or the same one in other letters. -/
theorem invalidates_spelling (hw : w.Wrote table) (p : Params) :
    (p.table = table → w.Invalidates p) ∧
      (w.keeper.Keeps p → (w.Invalidates p ↔ p.table = table)) := by
  have hsame : p.table = table → w.Invalidates p := by
    rintro rfl capacity deeds n c hsession - y n' c' hy - rfl ⟨rows, hhits, x, later, hlast, hmem⟩
    obtain ⟨client, hmem⟩ := hmem
    exact no_write_since hsession hy hhits hlast hmem hw
  refine ⟨hsame, fun hp => ⟨fun hinvalidates => ?_, hsame⟩⟩
  by_contra hother
  obtain ⟨deeds, c, y, hsession, hdeeds, hpasses, hy, hparams, houtlives⟩ :=
    exists_outlives hw hp hother
  exact hinvalidates _ deeds 0 c hsession hdeeds y 0 c hpasses hy hparams houtlives

/-- The process after the first read of notes. -/
def wipingScene : Scene :=
  { Scene.ofReplies [] with cache := sharedScene.cache }

/-- All notes are deleted, by the name in capitals. -/
def loudWipe : Call :=
  .ofScene wipingScene (.standard false) false (.ofIds "NOTES" "ann" []) .deleteAll

/-- The process after that. -/
def wipedScene : Scene :=
  (wipingScene.play (Operation.deleteAll.run (.standard false) false (.ofIds "NOTES" "ann" []))).2

/-- The first read once more. -/
def lateRead : Call :=
  .ofScene wipedScene (.standard false) false ownedParams (.entry .get)

theorem loudWipe_wrote : loudWipe.Wrote "NOTES" :=
  ⟨rfl, rfl, rfl⟩

theorem invalidates_spelling_notes :
    loudWipe.Wrote "NOTES" ∧ (Keeper.standard false).Keeps ownedParams ∧
      ¬ loudWipe.Invalidates ownedParams := by
  have hkeeps : (Keeper.standard false).Keeps ownedParams :=
    ⟨rfl, by decide, by decide, ⟨_, rfl⟩, [], runs_pure_iff.2 ⟨rfl, rfl⟩⟩
  refine ⟨loudWipe_wrote, hkeeps, fun h => ?_⟩
  have hsame := ((invalidates_spelling loudWipe_wrote ownedParams).2 hkeeps).1 h
  revert hsame
  decide

/-- Two names of one table: after all its rows were deleted by the one, a read by the other finds
    the row that was stored before, and sends no statement. -/
theorem notes_outlive :
    resolve? "notes" = some ["notes"] ∧ resolve? "NOTES" = some ["notes"] ∧
      Session Cache.standardCapacity [.call 1 loudWipe, .call 1 firstRead] 0 wipedScene.cache ∧
      loudWipe.Wrote "NOTES" ∧ lateRead.params.table = "notes" ∧
      (∃ n c, Passes 0 wipedScene.cache lateRead.trace n c) ∧
      Outlives [.call 1 loudWipe, .call 1 firstRead] loudWipe lateRead ∧
      (∀ ev ∈ lateRead.trace, ∀ d, ev.1 ≠ .database d) ∧
      lateRead.response.outcome.records = [.ofList [("id", .string "7")]] := by
  have hread : Session Cache.standardCapacity [.call 1 firstRead] 0 sharedScene.cache :=
    .call (.new 0) 1 firstRead (rowScene.trace_passes _)
  have hlast : LastStore [.call 1 loudWipe, .call 1 firstRead] "notes" ownedParams.hashKey
      [.ofList [("id", .string "7")]] firstRead [.call 1 loudWipe] := by
    refine ⟨⟨1, [], rfl⟩, ⟨_, .tail _ (.tail _ (.head _))⟩, fun client y hy rows hstores => ?_⟩
    obtain ⟨-, rfl⟩ : client = 1 ∧ y = loudWipe := by simpa using hy
    cases hstores.reads.1.operation
  refine ⟨by decide, by decide, hread.call 1 loudWipe (wipingScene.trace_passes _), loudWipe_wrote,
    rfl, ⟨0, _, wipedScene.trace_passes _⟩, ?_, fun ev hev d hd => ?_, rfl⟩
  · exact ⟨_, ⟨List.cons_ne_nil _ _, .head _⟩, firstRead, _, hlast, 1, .head _⟩
  · rcases hev with _ | ⟨_, ⟨⟩⟩
    cases hd

end Rowgate.Keeper
