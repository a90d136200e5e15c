/-
  What a request to save is taken for, and what an update of it aims at.

  * `HasId`, `LacksId`, `WrongId`: what the id of a record may be;
  * `Routed`: the outcomes of the classification with their guards, which exclude each other;
    `classify_iff` says that these are all of them;
  * `Targets`: an update aims at the ids of the records, at those of the request, or at its
    condition; `updateStatements_target` says that its statements are built for that;
  * `save_routed`: every update has a target, and a call sends statements of one kind only.
-/
import Rowgate.Proofs.Keeper.Conditioned
import Rowgate.Proofs.Query.Accepted

namespace Rowgate

open Program World Statement

variable {p : Params} {r : Record} {records : List Record} {v : Value}

/-! ## The ids of records -/

/-- The id names a row: it is a text that is not empty, or an integer. -/
def HasId (r : Record) : Prop :=
  (∃ s, r.get? idField = some (.string s) ∧ s ≠ "") ∨ ∃ n, r.get? idField = some (.integer n)

def LacksId (r : Record) : Prop :=
  r.get? idField = none ∨ r.get? idField = some .null ∨ r.get? idField = some (.string "")

/-- The id is a value that can be none. -/
def WrongId (r : Record) (v : Value) : Prop :=
  r.get? idField = some v ∧ v ≠ .null ∧ (∀ s, v ≠ .string s) ∧ ∀ n, v ≠ .integer n

namespace RecordKey

theorem ofRecord_eq_usable : ofRecord r = .usable ↔ HasId r := by
  unfold ofRecord HasId
  rcases r.get? idField with _ | v
  · simp
  · cases v <;> simp

theorem ofRecord_eq_absent : ofRecord r = .absent ↔ LacksId r := by
  unfold ofRecord LacksId
  rcases r.get? idField with _ | v
  · simp
  · cases v <;> simp

theorem ofRecord_eq_wrong : ofRecord r = .wrong v ↔ WrongId r v := by
  unfold ofRecord WrongId
  rcases r.get? idField with _ | w
  · simp
  · cases w with
    | null => exact iff_of_false nofun fun ⟨hv, hn, _⟩ => hn (Option.some.inj hv).symm
    | integer n => exact iff_of_false nofun fun ⟨hv, _, _, hi⟩ => hi n (Option.some.inj hv).symm
    | string s =>
      refine iff_of_false ?_ fun ⟨hv, _, hs, _⟩ => hs s (Option.some.inj hv).symm
      dsimp only
      split_ifs
      · exact nofun
      · exact nofun
    | bool _ | float _ | timestamp _ | stringArray _ | numericArray _ =>
      refine ⟨?_, ?_⟩
      · rintro ⟨⟩
        simp
      · rintro ⟨⟨⟩, -⟩
        rfl

end RecordKey

open RecordKey

instance : DecidablePred HasId := fun _ => decidable_of_iff _ ofRecord_eq_usable

instance : DecidablePred LacksId := fun _ => decidable_of_iff _ ofRecord_eq_absent

theorem HasId.not_lacksId (h : HasId r) : ¬ LacksId r := by
  rw [← ofRecord_eq_usable] at h
  rw [← ofRecord_eq_absent, h]
  exact nofun

theorem WrongId.not_hasId (h : WrongId r v) : ¬ HasId r := by
  rw [← ofRecord_eq_wrong] at h
  rw [← ofRecord_eq_usable, h]
  exact nofun

theorem WrongId.not_lacksId (h : WrongId r v) : ¬ LacksId r := by
  rw [← ofRecord_eq_wrong] at h
  rw [← ofRecord_eq_absent, h]
  exact nofun

theorem hasId_or_lacksId (h : ∀ v, ¬ WrongId r v) : HasId r ∨ LacksId r := by
  simp only [← ofRecord_eq_wrong, ← ofRecord_eq_usable, ← ofRecord_eq_absent] at h ⊢
  cases hk : ofRecord r with
  | usable => exact .inl rfl
  | absent => exact .inr rfl
  | wrong v => exact absurd hk (h v)

theorem recordId?_isSome : (recordId? r).isSome ↔ HasId r := by
  unfold recordId? HasId
  rcases r.get? idField with _ | v
  · simp
  · cases v with
    | string s =>
      dsimp only
      split_ifs with hs
      · simpa using hs
      · simpa using hs
    | _ => simp

namespace SaveTask

/-! ## The classification -/

/-- The error for the id of record number `n`. -/
def wrongIdError (n : Nat) (v : Value) : Error :=
  .params ("Record #" ++ toString n ++ ": id must be a string or an integer, got " ++ v.typeName)

theorem checkKey_wrong (h : WrongId r v) (n : Nat) : checkKey n r = .error (wrongIdError n v) := by
  rw [checkKey, ofRecord_eq_wrong.2 h]
  rfl

theorem checkKey_right (h : ∀ v, ¬ WrongId r v) (n : Nat) : checkKey n r = .ok () := by
  unfold checkKey
  split
  · rename_i v hv
    exact absurd (ofRecord_eq_wrong.1 hv) (h v)
  · rfl

theorem numbered_checkKey_right (h : ∀ r ∈ records, ∀ v, ¬ WrongId r v) :
    ∃ units, numbered checkKey records = .ok units := by
  refine mapM_succeeds_iff.2 fun e he => ⟨(), checkKey_right (h e.1 ?_) _⟩
  exact List.fst_mem_of_mem_zipIdx he

/-- The records in front of the first wrong id are counted. -/
theorem numbered_checkKey_wrong {before after : List Record}
    (hb : ∀ r ∈ before, ∀ v, ¬ WrongId r v) (h : WrongId r v) :
    numbered checkKey (before ++ r :: after) = .error (wrongIdError (before.length + 1) v) := by
  suffices hfrom : ∀ k, ((before ++ r :: after).zipIdx k).mapM (fun e => checkKey (e.2 + 1) e.1) =
      .error (wrongIdError (k + before.length + 1) v) by
    have hzero := hfrom 0
    rw [Nat.zero_add] at hzero
    exact hzero
  induction before with
  | nil =>
    intro k
    rw [List.nil_append, List.zipIdx_cons, List.mapM_cons, checkKey_wrong h]
    rfl
  | cons r' before ih =>
    intro k
    rw [List.cons_append, List.zipIdx_cons, List.mapM_cons,
      checkKey_right (hb r' List.mem_cons_self)]
    have htail := ih (fun r hr => hb r (List.mem_cons_of_mem _ hr)) (k + 1)
    rw [List.length_cons, show k + (before.length + 1) + 1 = k + 1 + before.length + 1 by omega]
    exact congrArg (fun x => x >>= fun us => Except.ok (() :: us)) htail

/-- The outcomes, each with its guard. -/
inductive Routed (p : Params) : Except Error SaveTask → Prop
  | noRecords (h : p.records = []) :
      Routed p (.error (.params "actionParams: at least one record is required"))
  | wrongId {before after : List Record} {r : Record} {v : Value}
      (h : p.records = before ++ r :: after) (hb : ∀ r ∈ before, ∀ v, ¬ WrongId r v)
      (hv : WrongId r v) : Routed p (.error (wrongIdError (before.length + 1) v))
  | conflict (hright : ∀ r ∈ p.records, ∀ v, ¬ WrongId r v) (hu : ∃ r ∈ p.records, HasId r)
      (hc : ∃ r ∈ p.records, LacksId r) : Routed p (.error .saveConflict)
  | updateEach (hne : p.records ≠ []) (h : ∀ r ∈ p.records, HasId r) : Routed p (.ok .update)
  | updateOne {r : Record} (h : p.records = [r]) (hl : LacksId r)
      (ht : p.ids ≠ [] ∨ p.condition ≠ []) : Routed p (.ok .update)
  | create (hne : p.records ≠ []) (h : ∀ r ∈ p.records, LacksId r)
      (ht : p.records.length = 1 → p.ids = [] ∧ p.condition = []) :
      Routed p (.ok (.create (p.records.map (·.erase idField))))

/-- The branches behind the check of the ids. -/
theorem classify_right (hne : p.records ≠ []) (hright : ∀ r ∈ p.records, ∀ v, ¬ WrongId r v) :
    classify p =
      if (∃ r ∈ p.records, HasId r) ∧ ∃ r ∈ p.records, LacksId r then .error .saveConflict
      else if ∃ r ∈ p.records, HasId r then .ok .update
      else if p.records.length = 1 ∧ (p.ids ≠ [] ∨ p.condition ≠ []) then .ok .update
      else .ok (.create ((p.records.filter LacksId).map (·.erase idField))) := by
  obtain ⟨units, hunits⟩ := numbered_checkKey_right hright
  have hsome (q : Record → Prop) [DecidablePred q] :
      (!(p.records.filter q).isEmpty) = true ↔ ∃ r ∈ p.records, q r := by
    simp
  have htargets : (!p.ids.isEmpty || !p.condition.isEmpty) = true ↔
      p.ids ≠ [] ∨ p.condition ≠ [] := by
    simp
  unfold classify
  rw [if_neg (by simpa using hne), hunits]
  simp only [ofRecord_eq_usable, ofRecord_eq_absent, Bool.and_eq_true, hsome, htargets,
    decide_eq_true_eq]
  rfl

theorem Routed.classify_eq {x : Except Error SaveTask} (h : Routed p x) : classify p = x := by
  cases h with
  | noRecords h => simp [classify, h]
  | @wrongId before after r v h hb hv =>
    unfold classify
    rw [if_neg (by simp [h]), h, numbered_checkKey_wrong hb hv]
    rfl
  | conflict hright hu hc =>
    obtain ⟨r, hr, -⟩ := id hu
    rw [classify_right (List.ne_nil_of_mem hr) hright, if_pos ⟨hu, hc⟩]
  | updateEach hne h =>
    have hright : ∀ r ∈ p.records, ∀ v, ¬ WrongId r v := fun r hr v hv => hv.not_hasId (h r hr)
    have hnone : ¬ ∃ r ∈ p.records, LacksId r := fun ⟨r, hr, hl⟩ => (h r hr).not_lacksId hl
    have hsome : ∃ r ∈ p.records, HasId r := (List.exists_mem_of_ne_nil _ hne).imp fun r hr =>
      ⟨hr, h r hr⟩
    rw [classify_right hne hright, if_neg (fun hboth => hnone hboth.2), if_pos hsome]
  | @updateOne r h hl ht =>
    have hright : ∀ r ∈ p.records, ∀ v, ¬ WrongId r v := by
      rw [h, List.forall_mem_singleton]
      exact fun v hv => hv.not_lacksId hl
    have hnone : ¬ ∃ r ∈ p.records, HasId r := by
      rw [h]
      simpa using fun hid : HasId r => hid.not_lacksId hl
    rw [classify_right (by simp [h]) hright, if_neg (fun hboth => hnone hboth.1), if_neg hnone,
      if_pos ⟨by simp [h], ht⟩]
  | create hne h ht =>
    have hright : ∀ r ∈ p.records, ∀ v, ¬ WrongId r v := fun r hr v hv => hv.not_lacksId (h r hr)
    have hnone : ¬ ∃ r ∈ p.records, HasId r := fun ⟨r, hr, hid⟩ => hid.not_lacksId (h r hr)
    have htarget : ¬ (p.records.length = 1 ∧ (p.ids ≠ [] ∨ p.condition ≠ [])) := by
      rintro ⟨hone, hids | hcondition⟩
      · exact hids (ht hone).1
      · exact hcondition (ht hone).2
    rw [classify_right hne hright, if_neg (fun hboth => hnone hboth.1), if_neg hnone,
      if_neg htarget, List.filter_eq_self.2 (by simpa using h)]

theorem routed_exists (p : Params) : ∃ x, Routed p x := by
  by_cases hne : p.records = []
  · exact ⟨_, .noRecords hne⟩
  by_cases hwrong : ∃ r ∈ p.records, ∃ v, WrongId r v
  · obtain ⟨v, before, r, after, h, hb, hv⟩ := FirstFault.exists_iff.2 hwrong
    exact ⟨_, .wrongId h hb hv⟩
  have hright : ∀ r ∈ p.records, ∀ v, ¬ WrongId r v := fun r hr v hv => hwrong ⟨r, hr, v, hv⟩
  by_cases hlacks : ∃ r ∈ p.records, LacksId r
  · by_cases hhas : ∃ r ∈ p.records, HasId r
    · exact ⟨_, .conflict hright hhas hlacks⟩
    have hall : ∀ r ∈ p.records, LacksId r := fun r hr =>
      (hasId_or_lacksId (hright r hr)).resolve_left fun hid => hhas ⟨r, hr, hid⟩
    by_cases ht : p.records.length = 1 ∧ (p.ids ≠ [] ∨ p.condition ≠ [])
    · obtain ⟨r, hr⟩ := List.length_eq_one_iff.1 ht.1
      exact ⟨_, .updateOne hr (hall r (by simp [hr])) ht.2⟩
    · refine ⟨_, .create hne hall fun hone => ?_⟩
      simpa [hone] using ht
  · exact ⟨_, .updateEach hne fun r hr =>
      (hasId_or_lacksId (hright r hr)).resolve_right fun hl => hlacks ⟨r, hr, hl⟩⟩

theorem classify_iff {x : Except Error SaveTask} : classify p = x ↔ Routed p x := by
  refine ⟨?_, Routed.classify_eq⟩
  rintro rfl
  obtain ⟨x, hx⟩ := routed_exists p
  rwa [hx.classify_eq]

end SaveTask

namespace Keeper

open SaveTask Script

/-! ## What an update aims at -/

inductive Target where
  /-- The ids of the records, each for its own record. -/
  | own (ids : List String)
  /-- The ids of the request, for its one record. -/
  | given (ids : List String)
  | condition

/-- The statements for a target, and the query for the rows before. -/
def Target.plan (p : Params) (select : Select) : Target → Except Error (List String × String)
  | own ids => return (← updateByRecords p.table p.records p.fields, ← select.byIds ids)
  | given ids => return ([← updateByIds p.table p.records p.fields ids], ← select.byIds ids)
  | condition =>
    return ([← updateByCondition p.table p.records p.fields p.condition],
      ← select.byCondition p.condition)

/-- The condition is the target only when there are no ids. -/
inductive Targets (p : Params) : Target → Prop
  | own {ids : List String} (h : p.records.mapM recordId? = some ids) : Targets p (.own ids)
  | given {r : Record} (h : p.records = [r]) (hl : LacksId r) (hne : p.ids ≠ []) :
      Targets p (.given p.ids)
  | condition {r : Record} (h : p.records = [r]) (hl : LacksId r) (he : p.ids = [])
      (hne : p.condition ≠ []) : Targets p .condition

theorem targets_exists (h : classify p = .ok .update) : ∃ target, Targets p target := by
  have hrouted := classify_iff.1 h
  generalize hx : Except.ok SaveTask.update = x at hrouted
  cases hrouted with
  | noRecords | wrongId | conflict | create => cases hx
  | updateEach hne h =>
    have hids : (p.records.mapM recordId?).isSome :=
      isSome_mapM fun r hr => recordId?_isSome.2 (h r hr)
    obtain ⟨ids, hids⟩ := Option.isSome_iff_exists.1 hids
    exact ⟨_, .own hids⟩
  | updateOne h hl ht =>
    by_cases hids : p.ids = []
    · exact ⟨_, .condition h hl hids (ht.resolve_left (not_not.2 hids))⟩
    · exact ⟨_, .given h hl hids⟩

theorem mapM_recordId?_single (hl : LacksId r) : [r].mapM recordId? = none := by
  have hnone : recordId? r = none := by
    rw [← Option.not_isSome_iff_eq_none, recordId?_isSome]
    exact fun hid => hid.not_lacksId hl
  rw [List.mapM_cons, hnone]
  rfl

theorem updateStatements_target {target : Target} (h : Targets p target) :
    updateStatements p (p.records.mapM recordId?).isSome (updateIds p) =
      Select.ofTable p.table >>= fun select => target.plan p select := by
  unfold updateStatements updateIds
  refine congrArg _ (funext fun select => ?_)
  cases h with
  | own h =>
    rw [h]
    rfl
  | given h hl hne =>
    rw [h, mapM_recordId?_single hl, Option.isSome_none, if_neg (by decide), Option.getD_none,
      if_pos (by simpa using hne), Target.plan, h]
  | condition h hl he hne =>
    rw [h, mapM_recordId?_single hl, Option.isSome_none, if_neg (by decide), Option.getD_none,
      if_neg (by simp [he]), if_pos (by simpa using hne), Target.plan, h]

/-! ## Updates without a target -/

/-- The errors of an update that has no target, or one for a single record and several records. -/
def untargeted : List Error :=
  [.execution .save "an update requires record ids or query params",
    .params "exactly one record is required for an update by ids or by condition"]

/-- The result is none of these errors. -/
def Aims {α : Type} (x : Except Error α) : Prop :=
  ∀ e, x = .error e → e ∉ untargeted

section
variable {α β : Type} {x : Except Error α}

theorem aims_ok (a : α) : Aims (.ok a : Except Error α) :=
  nofun

theorem Aims.bind {f : α → Except Error β} (hx : Aims x) (hf : ∀ a, x = .ok a → Aims (f a)) :
    Aims (x >>= f) := by
  cases x with
  | error e =>
    rintro e' ⟨⟩
    exact hx e rfl
  | ok a => exact hf a rfl

theorem aims_mapM {f : α → Except Error β} (hf : ∀ a, Aims (f a)) (as : List α) :
    Aims (as.mapM f) := by
  induction as with
  | nil => exact aims_ok []
  | cons a as ih =>
    rw [List.mapM_cons]
    exact (hf a).bind fun b _ => ih.bind fun bs _ => aims_ok (b :: bs)

theorem aims_of_isCompile (h : ∀ e, x = .error e → e.isCompile) : Aims x := by
  intro e he hmem
  have hnone : ∀ e ∈ untargeted, ¬ e.isCompile := by decide
  exact hnone e hmem (h e he)

theorem aims_params {m : String}
    (h : m ≠ "exactly one record is required for an update by ids or by condition") :
    Aims (.error (.params m) : Except Error α) := by
  rintro e ⟨⟩
  simpa [untargeted] using h

theorem aims_record (s : String) : Aims (.error (.params ("Record #" ++ s)) : Except Error α) := by
  refine aims_params fun h => ?_
  have hhead := congrArg (fun s => s.toList.head?) h
  rw [String.toList_append] at hhead
  cases hhead

end

theorem aims_sqlIdent (name : String) : Aims (sqlIdent name) := by
  refine aims_of_isCompile fun e h => ?_
  obtain ⟨fault, -, rfl⟩ := Condition.ident_eq_error.1 (Except.map_eq_error.1 h)
  rfl

theorem aims_setClause (n : Nat) (r : Record) (fields : List String) :
    Aims (setClause n r fields) := by
  unfold setClause
  dsimp only
  split_ifs
  · exact aims_params (by decide)
  · simp only [String.append_assoc]
    exact aims_record _
  · refine (aims_mapM (fun f => (aims_sqlIdent f).bind fun column _ => ?_) fields).bind
      fun parts _ => aims_ok _
    refine Aims.bind (aims_of_isCompile fun e h => ?_) fun text _ => aims_ok _
    obtain ⟨-, rfl⟩ := Sql.scalar_eq_error.1 h
    rfl

theorem aims_idLiteral (n : Nat) (r : Record) : Aims (idLiteral n r) := by
  have hmissing : Aims (.error (.params ("Record #" ++ toString n ++
      ": a non-empty string or integer id is required")) : Except Error String) := by
    rw [String.append_assoc]
    exact aims_record _
  unfold idLiteral
  dsimp only
  split
  · split_ifs
    · exact hmissing
    · exact aims_ok _
  · exact aims_ok _
  · exact hmissing

theorem aims_requireIds (ids : List String) : Aims (requireIds ids) := by
  unfold requireIds
  split_ifs
  · exact aims_params (by decide)
  · exact aims_ok ()

theorem aims_predicate (groups : List QueryGroup) : Aims (Condition.predicate groups) := by
  refine aims_of_isCompile fun e h => ?_
  rcases Condition.predicate_eq_error.1 h with ⟨-, rfl⟩ | hfault | ⟨-, -, rfl⟩
  · rfl
  · exact hfault.isCompile
  · rfl

theorem aims_whereClause (groups : List QueryGroup) : Aims (Condition.whereClause groups) :=
  fun e h => aims_predicate groups e (Except.map_eq_error.1 h)

/-- The plan for a target fails for other reasons only. -/
theorem aims_plan {target : Target} (h : Targets p target) (select : Select) :
    Aims (target.plan p select) := by
  have hbyIds (ids : List String) : Aims (select.byIds ids) :=
    (aims_requireIds ids).bind fun _ _ => aims_ok _
  have hbyCondition : Aims (select.byCondition p.condition) :=
    (aims_whereClause p.condition).bind fun _ _ => aims_ok _
  cases h with
  | own h =>
    refine Aims.bind ?_ fun texts _ => (hbyIds _).bind fun before _ => aims_ok _
    refine (aims_sqlIdent _).bind fun name _ => aims_mapM (fun e => ?_) _
    exact (aims_idLiteral _ _).bind fun id _ => (aims_setClause _ _ _).bind fun set _ => aims_ok _
  | @given r h =>
    refine Aims.bind ?_ fun text _ => (hbyIds _).bind fun before _ => aims_ok _
    unfold updateByIds
    rw [h]
    exact (aims_sqlIdent _).bind fun name _ => (aims_requireIds _).bind fun _ _ =>
      (aims_ok r).bind fun r _ => (aims_setClause _ _ _).bind fun set _ => aims_ok _
  | @condition r h =>
    refine Aims.bind ?_ fun text _ => hbyCondition.bind fun before _ => aims_ok _
    unfold updateByCondition
    rw [h]
    exact (aims_sqlIdent _).bind fun name _ => (aims_ok r).bind fun r _ =>
      (aims_whereClause _).bind fun condition _ =>
        (aims_setClause _ _ _).bind fun set _ => aims_ok _

/-! ## What a call sends -/

/-- The text of a statement that is sent. -/
def SentText (t : List world.Event) (sql : String) : Prop :=
  ∃ e ∈ t, ∃ d, e.1 = .database d ∧ sql ∈ texts d

def Inserts (sql : String) : Prop :=
  Begins "INSERT" sql ∨ Begins "COPY" sql

section
variable {k : Keeper} {nested : Bool} {t : List world.Event} {response : Response} {sql : String}

/-- What is sent besides the plan of a call is about access, or about its transaction. -/
theorem save_sent (h : Run (k.save nested p) t response) (hs : SentText t sql) :
    Leads ["SELECT", "DELETE", "BEGIN", "COMMIT", "ROLLBACK", "SAVEPOINT", "RELEASE"] sql ∨
      ∃ cs, Entry.save.planned k p = .ok cs ∧ ∃ d ∈ cs, sql ∈ texts d := by
  obtain ⟨e, he, d, hd, hsql⟩ := hs
  have hrun : Run ((Operation.entry .save).run k nested p) t response := h
  rcases Operation.run_sent hrun he hd with ⟨task, ids, -, hc⟩ | hscope | ⟨cs, hcs, hmem⟩
  · exact .inl ((check_leads hc sql hsql).mono (by decide))
  · exact .inl ((scope_leads hscope sql hsql).mono (by decide))
  · exact .inr ⟨cs, hcs, d, hmem, hsql⟩

theorem save_planned {cs : List DatabaseCall} (h : Entry.save.planned k p = .ok cs) :
    (∃ records, classify p = .ok (.create records) ∧
        ∀ d ∈ cs, ∀ sql ∈ texts d, Leads ["INSERT", "COPY", "SELECT"] sql) ∨
      classify p = .ok .update ∧ ∀ d ∈ cs, ∀ sql ∈ texts d, Leads ["UPDATE", "SELECT"] sql := by
  obtain ⟨task, htask, h⟩ := Except.bind_eq_ok.1 h
  cases task with
  | create records =>
    obtain ⟨_, -, h⟩ := Except.bind_eq_ok.1 h
    exact .inl ⟨records, htask, insertCalls_leads h⟩
  | update => exact .inr ⟨htask, updateCalls_leads h⟩

theorem classify_of_update (h : Run (k.save nested p) t response) (hs : SentText t sql)
    (hu : Begins "UPDATE" sql) : classify p = .ok .update := by
  rcases save_sent h hs with hleads | ⟨cs, hcs, d, hd, hsql⟩
  · exact absurd hu (hleads.not_begins (by decide))
  rcases save_planned hcs with ⟨_, -, hleads⟩ | ⟨hclass, -⟩
  · exact absurd hu ((hleads d hd sql hsql).not_begins (by decide))
  · exact hclass

theorem classify_of_insert (h : Run (k.save nested p) t response) (hs : SentText t sql)
    (hi : Inserts sql) : ∃ records, classify p = .ok (.create records) := by
  have hinserts : Leads ["INSERT", "COPY"] sql := by
    rcases hi with hi | hi
    · exact ⟨"INSERT", .head _, hi⟩
    · exact ⟨"COPY", .tail _ (.head _), hi⟩
  rcases save_sent h hs with hleads | ⟨cs, hcs, d, hd, hsql⟩
  · exact absurd (hinserts.meet hleads) (by decide)
  rcases save_planned hcs with ⟨records, hclass, -⟩ | ⟨-, hleads⟩
  · exact ⟨records, hclass⟩
  · exact absurd (hinserts.meet (hleads d hd sql hsql)) (by decide)

end

/-- **A request to save is taken for one thing.**  It comes to one of the outcomes of the
    classification, whose guards exclude each other.  If it is an update then it has a target,
    the condition only when there are no ids, and its statements are built for that target;
    this never fails for want of one.  A call that sends an UPDATE is an update, and one that
    sends an INSERT or a COPY creates records, so none sends both. -/
theorem save_routed (k : Keeper) (nested : Bool) (p : Params) :
    (∀ x, classify p = x ↔ Routed p x) ∧
      (classify p = .ok .update → ∃ target, Targets p target ∧
        updateStatements p (p.records.mapM recordId?).isSome (updateIds p) =
          (Select.ofTable p.table >>= fun select => target.plan p select) ∧
        Aims (updateStatements p (p.records.mapM recordId?).isSome (updateIds p))) ∧
      ∀ t response, Run (k.save nested p) t response →
        ((∃ sql, SentText t sql ∧ Begins "UPDATE" sql) → classify p = .ok .update) ∧
          ((∃ sql, SentText t sql ∧ Inserts sql) →
            ∃ records, classify p = .ok (.create records)) ∧
          ¬ ((∃ sql, SentText t sql ∧ Begins "UPDATE" sql) ∧
            ∃ sql, SentText t sql ∧ Inserts sql) := by
  refine ⟨fun x => classify_iff, fun h => ?_, fun t response h => ⟨?_, ?_, ?_⟩⟩
  · obtain ⟨target, htarget⟩ := targets_exists h
    have hplan := updateStatements_target htarget
    refine ⟨target, htarget, hplan, ?_⟩
    rw [hplan]
    refine Aims.bind ?_ fun select _ => aims_plan htarget select
    exact fun e he => aims_sqlIdent p.table e (Except.map_eq_error.1 he)
  · rintro ⟨sql, hs, hu⟩
    exact classify_of_update h hs hu
  · rintro ⟨sql, hs, hi⟩
    exact classify_of_insert h hs hi
  · rintro ⟨⟨sql, hs, hu⟩, sql', hs', hi⟩
    have hclass := classify_of_update h hs hu
    obtain ⟨records, hcreate⟩ := classify_of_insert h hs' hi
    rw [hclass] at hcreate
    cases hcreate

/-- A note with an empty id, for two ids and a condition. -/
def aimedParams : Params :=
  { Params.ofIds "notes" "ann" ["a", "b"] with
    records := [.ofList [("id", .string ""), ("n", .integer 1)]]
    condition := [⟨"", [], 0, ""⟩] }

/-- The ids come first; and the call of a title with an id inserts nothing. -/
theorem save_routed_aimed : Routed aimedParams (.ok .update) ∧
    (∃ target, Targets aimedParams target ∧
      (Select.ofTable "notes" >>= fun select => target.plan aimedParams select) =
        .ok (["UPDATE notes SET n=1 WHERE id IN ('a', 'b')"],
          "SELECT * FROM notes WHERE id IN ('a', 'b')")) ∧
    ∀ sql, SentText titleTrace sql → ¬ Inserts sql := by
  obtain ⟨hrouted, htarget, -⟩ := save_routed (.standard false) false aimedParams
  have haimed : classify aimedParams = .ok .update := rfl
  obtain ⟨target, htargets, hplan, -⟩ := htarget haimed
  refine ⟨(hrouted _).1 haimed, ⟨target, htargets, hplan.symm.trans rfl⟩, fun sql hs hi => ?_⟩
  obtain ⟨-, -, hruns⟩ := save_routed (.standard false) true titleParams
  have hrun : Run titleSave titleTrace _ := (Scene.ofReplies []).run_play titleSave
  obtain ⟨-, -, hnever⟩ := hruns _ _ hrun
  exact hnever ⟨⟨_, ⟨_, .tail _ (.tail _ (.head _)), _, rfl, List.mem_cons_self⟩, ⟨_, rfl⟩⟩,
    sql, hs, hi⟩

end Keeper

end Rowgate
