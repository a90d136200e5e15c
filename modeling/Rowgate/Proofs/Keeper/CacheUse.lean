/-
  The ways that operations use the cache.

  * `Looked`: a read that looks in the cache finds its rows there, finds none and stores
    nothing, or stores what it receives;
  * `CacheUse`: an operation leaves the cache alone, forgets its table, or looks in it;
    `run_cacheUse` says that there is nothing else;
  * `CacheUse.added`, `CacheUse.kept`, `CacheUse.forgotten`, `CacheUse.hit`: what each does to
    the entries.
-/
import Rowgate.Proofs.Cache
import Rowgate.Proofs.Keeper.Atomic
import Rowgate.Proofs.Keeper.Unplanned
import Rowgate.Proofs.Passage

namespace Rowgate

open Program World Keeper

/-- Whether an operation changes rows. -/
def Operation.isWrite : Operation → Bool
  | .entry .get | .lookup => false
  | .entry .save | .entry .delete | .deleteAll => true

namespace Keeper

variable {k : Keeper} {nested : Bool} {p : Params} {op : Operation} {t : List world.Event}

/-! ## Reads -/

/-- A read gets these rows from the database. -/
def Received (k : Keeper) (p : Params) (t : List world.Event) (rows : List Record) : Prop :=
  ∃ sql a, k.readStatement p = .ok sql ∧
    ⟨.database (.query k.options.timeout sql []), a⟩ ∈ t ∧ records .read a = .ok rows

/-- The ways that rows are fetched by a read that looks in the cache. -/
inductive Looked (k : Keeper) (p : Params) :
    List world.Event → Except Error (List Record) → Prop where
  | hit {rows : List Record} (hne : rows ≠ []) :
      Looked k p [⟨.cached p.table p.hashKey, some rows⟩] (.ok rows)
  | missed {kept : Option (List Record)} (hk : kept = none ∨ kept = some [])
      {t : List world.Event} (ht : Quiet t) (r : Except Error (List Record)) :
      Looked k p (⟨.cached p.table p.hashKey, kept⟩ :: t) r
  | stored {kept : Option (List Record)} (hk : kept = none ∨ kept = some []) {sql : String}
      (hs : k.readStatement p = .ok sql) {a : Except Error (List Row)} {rows : List Record}
      (ha : records .read a = .ok rows) (hne : rows ≠ []) :
      Looked k p [⟨.cached p.table p.hashKey, kept⟩,
        ⟨.database (.query k.options.timeout sql []), a⟩,
        ⟨.remember p.table p.hashKey rows k.options.cacheTtl, ()⟩] (.ok rows)

theorem Fetched.quiet {r : Except Error (List Record)} (h : Fetched k p false t r) : Quiet t := by
  cases h with
  | hit hc => cases hc
  | unplanned hm =>
    cases hm
    exact .nil
  | asked hm _ a =>
    cases hm
    cases records .read a <;> exact .single rfl

theorem Fetched.looked {r : Except Error (List Record)} (h : Fetched k p true t r) :
    Looked k p t r := by
  cases h with
  | hit _ hne => exact .hit hne
  | unplanned hm =>
    cases hm with
    | missed hk => exact .missed hk .nil _
  | asked hm hs a =>
    cases hm with
    | missed hk =>
      cases ha : records .read a with
      | error e => exact .missed hk (.single rfl) _
      | ok rows =>
        cases rows with
        | nil => exact .missed hk (.single rfl) _
        | cons row rows => exact .stored hk hs ha (List.cons_ne_nil row rows)

/-! ## Operations -/

/-- The ways that operations use the cache. -/
inductive CacheUse (k : Keeper) (p : Params) (op : Operation) :
    List world.Event → Response → Prop where
  | quiet {t : List world.Event} (ht : Quiet t) {r : Response}
      (hw : op.isWrite → r.code ≠ .success) : CacheUse k p op t r
  | forgot (hw : op.isWrite) {t₁ t₂ : List world.Event} (h₁ : Quiet t₁) (h₂ : Quiet t₂)
      {r : Response} (hr : r.code = .success) :
      CacheUse k p op (t₁ ++ ([⟨.forget p.table, ()⟩] ++ t₂)) r
  | looked (hop : op = .entry .get) (hc : k.options.cacheEnabled) {t₁ t₂ t₃ : List world.Event}
      (h₁ : Runs (k.authorize p .read p.ids) t₁ (.ok ())) {x : Except Error (List Record)}
      (h₂ : Looked k p t₂ x) (h₃ : Audited .read p.user t₃) (message : String) :
      CacheUse k p op (t₁ ++ (t₂ ++ t₃))
        (.ofResult .readError (x.map fun rows => (message, readOutcome p rows)))

theorem behind_cacheUse {entry : Entry} {task : Task} {ids : List String}
    {t₁ t₂ : List world.Event} {x : Except Error (String × Outcome)}
    (hc : entry.checked? p = some (task, ids)) (ha : Runs (k.authorize p task ids) t₁ (.ok ()))
    (hb : Entry.Behind k nested p task entry t₂ x) :
    CacheUse k p (.entry entry) (t₁ ++ t₂) (.ofResult entry.fallback x) := by
  have h₁ : Quiet t₁ := authorize_usesCache ha
  cases hb with
  | read hf haudit message =>
    cases hc
    cases hu : k.options.cacheEnabled with
    | false =>
      rw [hu] at hf
      exact .quiet (h₁.append (hf.quiet.append haudit.usesCache)) nofun
    | true =>
      rw [hu] at hf
      exact .looked rfl hu ha hf.looked haudit message
  | unread hf =>
    cases hc
    cases hu : k.options.cacheEnabled with
    | false =>
      rw [hu] at hf
      exact .quiet (h₁.append hf.quiet) nofun
    | true =>
      rw [hu] at hf
      have hlooked := CacheUse.looked rfl hu ha hf.looked .silent ""
      rwa [List.append_nil] at hlooked
  | written hne hw =>
    cases hw with
    | unplanned => exact .quiet (h₁.append .nil) fun _ => (entry.ofResult_error _).1
    | undone _ hs e =>
      exact .quiet (h₁.append (Scoped.usesCache hs)) fun _ => (entry.ofResult_error e).1
    | @done cs t t' _ hs haudit x =>
      have hw : (Operation.entry entry).isWrite := by
        cases entry with
        | get => exact absurd rfl hne
        | _ => rfl
      have hforgot := CacheUse.forgot (k := k) (p := p) hw (h₁.append (Scoped.usesCache hs))
        haudit.usesCache (r := .ofResult entry.fallback (.ok x)) rfl
      rwa [List.append_assoc] at hforgot

theorem run_cacheUse {r : Response} (h : Run (op.run k nested p) t r) : CacheUse k p op t r := by
  cases op with
  | entry entry =>
    obtain ⟨x, rfl, hcourse⟩ := Entry.run_course h
    cases hcourse with
    | invalid hc e => exact .quiet .nil fun _ => (entry.ofResult_error e).1
    | refused hc ha => exact .quiet (authorize_usesCache ha) fun _ => (entry.ofResult_error _).1
    | admitted hc ha hb => exact behind_cacheUse hc ha hb
  | lookup =>
    obtain ⟨x, hf, rfl⟩ := lookup_fetched h
    exact .quiet hf.quiet nofun
  | deleteAll =>
    obtain ⟨x, hw, rfl⟩ := deleteAll_wiped h
    have hcode (e : Error) : (Response.ofResult .deleteError (.error e)).code ≠ .success :=
      e.responseCode_ne_success (by decide)
    cases hw with
    | unplanned => exact .quiet .nil fun _ => hcode _
    | failed _ a e => exact .quiet (.single rfl) fun _ => hcode e
    | done _ n x => exact .forgot rfl (.single rfl) .nil rfl

/-! ## The entries of the cache -/

variable {n n' : Moment} {c c' : Cache} {r : Response} {table key : String} {e : Cache.Entry}

theorem passes_cached {kept : Option (List Record)} {t : List world.Event}
    (h : Passes n c (⟨.cached table key, kept⟩ :: t) n' c') :
    ∃ m, n ≤ m ∧ m ≤ n' ∧ kept = (c.get m table key).1 ∧
      Passes m (c.get m table key).2 t n' c' := by
  obtain ⟨m, c₁, hn, he, h⟩ := Passes.cons_iff.1 h
  cases he with
  | quiet he => cases he
  | cached => exact ⟨m, hn, h.le, rfl, h⟩

theorem passes_remember {rows : List Record} {ttl : Span} {t : List world.Event}
    (h : Passes n c (⟨.remember table key rows ttl, ()⟩ :: t) n' c') :
    ∃ m, n ≤ m ∧ Passes m (c.set m table key rows ttl) t n' c' := by
  obtain ⟨m, c₁, hn, he, h⟩ := Passes.cons_iff.1 h
  cases he with
  | quiet he => cases he
  | remember => exact ⟨m, hn, h⟩

theorem passes_forget (h : Passes n c [⟨.forget table, ()⟩] n' c') : c' = c.deleteTable table := by
  obtain ⟨m, c₁, hn, he, h⟩ := Passes.cons_iff.1 h
  obtain ⟨-, rfl⟩ := Passes.nil_iff.1 h
  cases he with
  | quiet he => cases he
  | forget => rfl

/-- Only a read that succeeds adds an entry, with the rows that it received. -/
theorem CacheUse.added (h : CacheUse k p op t r) (hp : Passes n c t n' c')
    (he : c'.entry? table key = some e) :
    c.entry? table key = some e ∨ op = .entry .get ∧ k.options.cacheEnabled ∧
      r.code = .success ∧ p.table = table ∧ p.hashKey = key ∧ e.rows ≠ [] ∧
        Received k p t e.rows := by
  cases h with
  | quiet ht =>
    obtain rfl := hp.quiet ht
    exact .inl he
  | forgot _ h₁ h₂ =>
    rw [passes_forget (hp.inner h₁ h₂), Cache.entry?_deleteTable] at he
    split_ifs at he
    exact .inl he
  | looked hop hc h₁ h₂ h₃ message =>
    have hp := hp.inner (authorize_usesCache h₁) h₃.usesCache
    cases h₂ with
    | hit =>
      obtain ⟨m, -, -, -, hp⟩ := passes_cached hp
      obtain ⟨-, rfl⟩ := Passes.nil_iff.1 hp
      exact .inl (Cache.entry?_of_get he)
    | missed _ ht =>
      obtain ⟨m, -, -, -, hp⟩ := passes_cached hp
      obtain rfl := hp.quiet ht
      exact .inl (Cache.entry?_of_get he)
    | @stored _ _ sql hs a rows ha hne =>
      obtain ⟨m, -, -, -, hp⟩ := passes_cached hp
      obtain ⟨m', c₁, -, hd, hp⟩ := Passes.cons_iff.1 hp
      obtain rfl := (effect_iff rfl).1 hd.effect
      obtain ⟨m'', -, hp⟩ := passes_remember hp
      obtain ⟨-, rfl⟩ := Passes.nil_iff.1 hp
      rcases Cache.entry?_of_set he with ⟨⟨⟩, rfl, -⟩ | ⟨-, he⟩
      · refine .inr ⟨hop, hc, rfl, rfl, rfl, hne, sql, a, hs, ?_, ha⟩
        simp
      · exact .inl (Cache.entry?_of_get he)

/-- A call that fails takes no entry that is not over. -/
theorem CacheUse.kept (h : CacheUse k p op t r) (hp : Passes n c t n' c')
    (hr : r.code ≠ .success) (he : c.entry? table key = some e) (hlive : n' < e.expires) :
    c'.entry? table key = some e := by
  cases h with
  | quiet ht => rwa [hp.quiet ht]
  | forgot _ _ _ hs => exact absurd hs hr
  | looked hop hc h₁ h₂ h₃ message =>
    have hp := hp.inner (authorize_usesCache h₁) h₃.usesCache
    cases h₂ with
    | hit | stored => exact absurd rfl hr
    | missed _ ht =>
      obtain ⟨m, -, hm, -, hp⟩ := passes_cached hp
      rw [hp.quiet ht]
      exact Cache.entry?_get he (Fin.lt_of_le_of_lt hm hlive)

/-- A write that succeeds takes all entries of its table. -/
theorem CacheUse.forgotten (h : CacheUse k p op t r) (hp : Passes n c t n' c')
    (hw : op.isWrite) (hr : r.code = .success) (key : String) : c'.entry? p.table key = none := by
  cases h with
  | quiet _ hs => exact absurd hr (hs hw)
  | forgot _ h₁ h₂ => rw [passes_forget (hp.inner h₁ h₂), Cache.entry?_deleteTable, if_pos rfl]
  | looked hop =>
    rw [hop] at hw
    cases hw

/-! ## Answers from the cache -/

/-- Only a read by a keeper whose cache is enabled looks in the cache. -/
theorem CacheUse.cached (h : CacheUse k p op t r) {ev : world.Event} (hev : ev ∈ t)
    (hcached : ev.1 = .cached table key) : op = .entry .get ∧ k.options.cacheEnabled := by
  have huses : WorldCall.usesCache ev.1 := by
    rw [hcached]
    rfl
  cases h with
  | quiet ht =>
    rw [ht ev hev] at huses
    cases huses
  | forgot _ h₁ h₂ =>
    cases List.mem_singleton.1 (h₁.mem_inner h₂ hev huses)
    cases hcached
  | looked hop hc => exact ⟨hop, hc⟩

/-- The rows that a read found in the cache. -/
theorem Looked.hit_eq {x : Except Error (List Record)} (h : Looked k p t x) {rows : List Record}
    (hne : rows ≠ []) (hmem : ⟨.cached p.table p.hashKey, some rows⟩ ∈ t) :
    t = [⟨.cached p.table p.hashKey, some rows⟩] ∧ x = .ok rows := by
  cases h with
  | hit =>
    cases List.mem_singleton.1 hmem
    exact ⟨rfl, rfl⟩
  | missed hk ht =>
    rcases List.mem_cons.1 hmem with he | hmem
    · cases he
      simp [hne] at hk
    · cases ht _ hmem
  | stored hk =>
    simp only [List.mem_cons, List.not_mem_nil, or_false] at hmem
    rcases hmem with he | he | he
    · cases he
      simp [hne] at hk
    · cases he
    · cases he

/-- What is sent by a read whose rows are in the cache. -/
theorem authorize_sent {task : Task} {ids : List String}
    (h : Runs (k.authorize p task ids) t (.ok ())) {ev : world.Event} (hev : ev ∈ t)
    {d : DatabaseCall} (hd : ev.1 = .database d) :
    k.options.checkAccess ∧ LookupCall k p task ids d := by
  cases hk : k.options.checkAccess with
  | false =>
    obtain ⟨rfl, -⟩ := authorize_off hk h
    cases hev
  | true =>
    rcases authorize_lookups h ev hev with hnow | ⟨d', hd', hl⟩
    · rw [hd] at hnow
      cases hnow
    · rw [hd] at hd'
      cases hd'
      exact ⟨rfl, hl⟩

theorem CacheUse.hit (h : CacheUse k p op t r) (hp : Passes n c t n' c') {rows : List Record}
    (hne : rows ≠ []) (hmem : ⟨.cached p.table p.hashKey, some rows⟩ ∈ t) :
    (∃ e, c.entry? p.table p.hashKey = some e ∧ e.rows = rows ∧ n < e.expires) ∧ c' = c ∧
      r.code = .success ∧ r.outcome = readOutcome p rows ∧
      ∀ ev ∈ t, ∀ d, ev.1 = .database d →
        k.options.checkAccess ∧ LookupCall k p .read p.ids d := by
  cases h with
  | quiet ht => cases ht _ hmem
  | forgot _ h₁ h₂ => cases List.mem_singleton.1 (h₁.mem_inner h₂ hmem rfl)
  | looked _ _ h₁ h₂ h₃ message =>
    have hquiet : Quiet _ := authorize_usesCache h₁
    obtain ⟨rfl, rfl⟩ := h₂.hit_eq hne (hquiet.mem_inner h₃.usesCache hmem rfl)
    obtain ⟨m, hn, -, hkept, hpass⟩ := passes_cached (hp.inner hquiet h₃.usesCache)
    obtain ⟨e, he, hrows, hlive, hsame⟩ := Cache.get_hit hkept.symm
    obtain ⟨-, rfl⟩ := Passes.nil_iff.1 hpass
    refine ⟨⟨e, he, hrows, Fin.lt_of_le_of_lt hn hlive⟩, hsame, rfl, rfl, fun ev hev d hd => ?_⟩
    rcases List.mem_append.1 hev with hev | hev
    · exact authorize_sent h₁ hev hd
    rcases List.mem_cons.1 hev with rfl | hev
    · cases hd
    · exact absurd hd (h₃.no_database ev hev d)

end Keeper

end Rowgate
