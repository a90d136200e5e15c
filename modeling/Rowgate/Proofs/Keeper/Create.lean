/-
  Creating records under a model.

  * `Supplied`: the rows of a batch are those of the records with their defaults, and without a
    list of fields each of them has all that the model fills in its record;
  * `Created`: the ways that a create can go; `create_created` says that there are no others;
  * `defaults_closed`: defaults change what a record lacks and nothing else, and it is the records
    with their defaults that are validated, inserted and written to the audit log.
-/
import Rowgate.Proofs.Keeper.Report
import Rowgate.Proofs.Keeper.Routing
import Rowgate.Proofs.Model.Defaults
import Rowgate.Proofs.Statement.FirstKeys

namespace Rowgate.Keeper

open Program World Statement SaveTask Script

variable {k : Keeper} {nested : Bool} {p : Params} {m : Model} {records rs : List Record}
  {e : Error} {t : List world.Event}

/-! ## Rows with their defaults -/

/-- The row has all that the model fills in the record. -/
def HasDefaults (m : Model) (fields : List String) (record : Record) (row : List Value) : Prop :=
  ∀ name v, m.Fills record name v → (name, v) ∈ fields.zip row

/-- The batch that is inserted for records: the columns are the given fields, or else the keys of
    the first record with its defaults. -/
structure Supplied (m : Model) (p : Params) (records : List Record) (b : Batch) : Prop
    extends Batch.Holds b p.table (records.map m.applyDefaults) where
  fields : b.fields = resolveFields (records.map m.applyDefaults) p.fields
  defaults (h : p.fields = []) : List.Forall₂ (HasDefaults m b.fields) records b.rows

/-- The first record has a key for every field with a default, so all rows have its column. -/
theorem hasDefaults_of_whole {b : Batch}
    (h : b.Whole p.table (records.map m.applyDefaults)) :
    List.Forall₂ (HasDefaults m b.fields) records b.rows := by
  obtain ⟨first, hfirst, hkeys⟩ := h.first
  rw [List.head?_map, Option.map_eq_some_iff] at hfirst
  obtain ⟨first, -, rfl⟩ := hfirst
  refine (List.forall₂_map_left_iff.1 h.restricts).imp fun record row hrow name v hfills => ?_
  have hv := (m.applyDefaults_completes record).filled hfills
  obtain ⟨rule, hm, hd, -⟩ := hfills
  refine (hrow name v).2 ⟨?_, hv⟩
  rw [hkeys]
  exact Model.mem_keys_applyDefaults hm hd first

theorem Supplied.of {b : Batch} (h : batch p.table (records.map m.applyDefaults) p.fields = .ok b) :
    Supplied m p records b := by
  refine ⟨batch_holds h, batch_fields h, fun he => ?_⟩
  rw [he] at h
  exact hasDefaults_of_whole (batch_eq_ok_iff.1 h)

/-! ## How a create goes -/

theorem withDefaults_eq (hk : k.model = some m) : k.withDefaults records =
    m.checkAll false (records.map m.applyDefaults) >>= fun _ =>
      .ok (records.map m.applyDefaults) := by
  rw [withDefaults, hk]
  rfl

theorem withDefaults_eq_ok (hk : k.model = some m) (h : k.withDefaults records = .ok rs) :
    m.problemsOfAll false (records.map m.applyDefaults) = [] ∧
      rs = records.map m.applyDefaults := by
  rw [withDefaults_eq hk] at h
  obtain ⟨_, hcheck, h⟩ := Except.bind_eq_ok.1 h
  exact ⟨Model.problemsOfAll_eq_nil_iff.2 (Model.checkAll_eq_ok_iff.1 hcheck),
    (Except.ok.inj h).symm⟩

theorem withDefaults_eq_error (hk : k.model = some m) (h : k.withDefaults records = .error e) :
    m.problemsOfAll false (records.map m.applyDefaults) ≠ [] ∧
      e = .validation (m.problemsOfAll false (records.map m.applyDefaults)) := by
  rw [withDefaults_eq hk] at h
  rcases Except.bind_eq_error.1 h with hcheck | ⟨_, -, h⟩
  · obtain ⟨⟨r, hr, hne⟩, rfl⟩ := Model.checkAll_eq_error_iff.1 hcheck
    exact ⟨fun hnil => hne (Model.problemsOfAll_eq_nil_iff.1 hnil r hr), rfl⟩
  · cases h

/-- A create that comes to its transaction: its check is passed, there is nothing wrong with the
    records with their defaults, and the statements insert these. -/
structure Ready (k : Keeper) (p : Params) (m : Model) (records : List Record) (b : Batch)
    (calls : List DatabaseCall) (t : List world.Event) : Prop where
  checked : Runs (k.authorize p .create []) t (.ok ())
  valid : m.problemsOfAll false (records.map m.applyDefaults) = []
  supplied : Supplied m p records b
  built : InsertBuilt k b calls

/-- The ways that a create can go.  The entry in the audit log has the records with their
    defaults. -/
inductive Created (k : Keeper) (nested : Bool) (p : Params) (m : Model) (records : List Record) :
    List world.Event → Except Error (String × Outcome) → Prop where
  | refused {t : List world.Event} {e : Error}
      (ha : Runs (k.authorize p .create []) t (.error e)) :
      Created k nested p m records t (.error e)
  | invalid {t : List world.Event} (ha : Runs (k.authorize p .create []) t (.ok ()))
      (hq : m.problemsOfAll false (records.map m.applyDefaults) ≠ []) :
      Created k nested p m records t
        (.error (.validation (m.problemsOfAll false (records.map m.applyDefaults))))
  | unbuilt {t : List world.Event} {e : Error} (ha : Runs (k.authorize p .create []) t (.ok ()))
      (hq : m.problemsOfAll false (records.map m.applyDefaults) = [])
      (h : k.insertCalls p (records.map m.applyDefaults) = .error e) :
      Created k nested p m records t (.error e)
  | undone {b : Batch} {cs : List DatabaseCall} {t u : List world.Event}
      (h : Ready k p m records b cs t) (hs : Scoped nested cs u false) (e : Error) :
      Created k nested p m records (t ++ u) (.error e)
  | done {b : Batch} {cs : List DatabaseCall} {t u w : List world.Event}
      (h : Ready k p m records b cs t) (hs : Scoped nested cs u true)
      (hl : Logged k k.options.audit.create .create p.user
        ⟨p.table, [], Record.listJson (records.map m.applyDefaults)⟩ w)
      (message : String) (ids : List String) :
      Created k nested p m records (t ++ (u ++ ⟨.forget p.table, ()⟩ :: w))
        (.ok (message, { Outcome.empty with ids, count := .ofNat records.length }))

theorem create_created (hk : k.model = some m) {x : Except Error (String × Outcome)}
    (h : Runs (k.create nested p records) t x) : Created k nested p m records t x := by
  rcases runs_bind_iff.1 h with ⟨e, ha, rfl⟩ | ⟨t₁, t₂, _, rfl, ha, h₂⟩
  · exact .refused ha
  rcases runs_given_bind_iff.1 h₂ with ⟨e, he, rfl, rfl⟩ | ⟨rs, hrs, h₃⟩
  · obtain ⟨hq, rfl⟩ := withDefaults_eq_error hk he
    rw [List.append_nil]
    exact .invalid ha hq
  -- from here on there are only the records with their defaults
  obtain ⟨hq, rfl⟩ := withDefaults_eq_ok hk hrs
  rcases runs_bind_iff.1 h₃ with ⟨e, h₄, rfl⟩ | ⟨u, v, ids, rfl, h₄, h₅⟩
  · rcases k.insertRecords_plans nested p _ _ _ h₄ with ⟨e', hc, rfl, he⟩ | ⟨cs, hc, hs⟩
    · cases he
      rw [List.append_nil]
      exact .unbuilt ha hq hc
    · obtain ⟨b, hb, hbuilt⟩ := insertCalls_built hc
      exact .undone ⟨ha, hq, .of hb, hbuilt⟩ hs e
  · rcases k.insertRecords_plans nested p _ _ _ h₄ with ⟨e', -, -, he⟩ | ⟨cs, hc, hs⟩
    · cases he
    obtain ⟨b, hb, hbuilt⟩ := insertCalls_built hc
    obtain ⟨w, message, rfl, hw, rfl⟩ := report_run h₅
    rw [List.length_map]
    exact .done ⟨ha, hq, .of hb, hbuilt⟩ hs (recordAudit_logged hw).1 message ids

/-- A save that creates has the records of the request, without their ids. -/
theorem save_created (hk : k.model = some m) (hc : classify p = .ok (.create records))
    {response : Response} (h : Run (k.save nested p) t response) :
    records = p.records.map (·.erase idField) ∧
      ∃ x, response = .ofResult .saveError x ∧ Created k nested p m records t x := by
  constructor
  · cases classify_iff.1 hc with
    | create => rfl
  · obtain ⟨x, hx, rfl⟩ := answer_run h
    rcases runs_given_bind_iff.1 hx with ⟨e, he, -, -⟩ | ⟨task, htask, hrun⟩
    · rw [hc] at he
      cases he
    · cases hc.symm.trans htask
      exact ⟨x, rfl, create_created hk hrun⟩

/-- **Defaults are a closure.**  What a record lacks and the model has a default for is set to
    that default; all else stays as it is, which determines the result, and doing it again
    changes nothing.  Then a field is reported to be required just if a record lacks it and it
    has no default but Null.  A create validates, inserts and logs the records of the request
    with these defaults: its rows have their values, and if no fields are given then each row has
    every default that its record lacked. -/
theorem defaults_closed (m : Model) :
    (∀ record r, m.applyDefaults record = r ↔ m.Completes record r) ∧
      (∀ record, m.applyDefaults (m.applyDefaults record) = m.applyDefaults record) ∧
      (∀ (records : List Record) name,
        (∃ q ∈ m.problemsOfAll false (records.map m.applyDefaults),
          q.code = .required ∧ q.field = name) ↔ ∃ record ∈ records, m.Demands record name) ∧
      ∀ k nested p records t response, k.model = some m → classify p = .ok (.create records) →
        Run (k.save nested p) t response →
          records = p.records.map (·.erase idField) ∧
            ∃ x, response = .ofResult .saveError x ∧ Created k nested p m records t x :=
  ⟨fun _ _ => Model.applyDefaults_eq_iff, m.applyDefaults_idem, fun _ _ => Model.required_iff,
    fun _ _ _ _ _ _ hk hc h => save_created hk hc h⟩

/-- Notes with a number, and a title that is required and has a default. -/
def titledModel : Model where
  table := "notes"
  fields := .ofList [("n", ⟨.integer, true, none, none, none, none, none, none⟩),
    ("title", ⟨.string, true, none, none, none, none, some (.string "?"), none⟩)]

def titledNote (n : Int64) : Record :=
  .ofList [("n", .integer n), ("title", .string "?")]

/-- Two notes: the first one has no title, and that of the second one is Null. -/
def untitledParams : Params :=
  { Params.ofIds "notes" "ann" [] with
    records := [.ofList [("n", .integer 1)], .ofList [("n", .integer 2), ("title", .null)]] }

def titledKeeper : Keeper :=
  ⟨Options.standard.withAudit ⟨true, false, false, false⟩, true, some titledModel⟩

def untitledSave : Program world Response :=
  titledKeeper.save true untitledParams

/-- The save in a process where nothing fails. -/
def untitledTrace : List world.Event :=
  (Scene.ofReplies []).trace untitledSave

/-- Both notes get the title, and the log has them with it. -/
theorem defaults_closed_untitled :
    untitledParams.records.map titledModel.applyDefaults = [titledNote 1, titledNote 2] ∧
      (∃ x, x.isOk = true ∧ Created titledKeeper true untitledParams titledModel
        untitledParams.records untitledTrace x) ∧
      recorded untitledTrace = [(.create, "ann",
        ⟨"notes", [], Record.listJson [titledNote 1, titledNote 2]⟩)] := by
  obtain ⟨-, -, -, hsaves⟩ := defaults_closed titledModel
  have hrun : Run untitledSave untitledTrace _ := (Scene.ofReplies []).run_play untitledSave
  obtain ⟨-, x, hx, hcreated⟩ := hsaves _ _ _ _ _ _ rfl rfl hrun
  refine ⟨rfl, ⟨x, ?_, hcreated⟩, rfl⟩
  have hsuccess : (Response.ofResult .saveError x).code = .success := by
    rw [← hx]
    rfl
  exact (Entry.save.ofResult_success x).1 hsuccess

end Rowgate.Keeper
