/-
  Which columns a projection selects.

  * `Keyed.Chosen`: the fields that are mapped to `true`, in order, but for the key;
  * `Keyed.Named`: all fields that are mapped to `true` are identifiers; `project_eq_ok_iff` says
    that a projection succeeds just then;
  * `columns_steps`: no later step but another projection changes the columns;
  * `projection_listed`: the columns of a SELECT are the key and then the chosen fields, and all
    columns just if no field but the key is chosen;
  * `projection_widened`: so the key on its own selects all columns.
-/
import Rowgate.Proofs.NameSet
import Rowgate.Proofs.Sql.Builder

namespace Rowgate

open Statement (idField)

theorem sqlIdent_succeeds_iff {n : String} : (∃ column, sqlIdent n = .ok column) ↔
    ∃ i, Ident.parse n = .ok i := by
  simp [sqlIdent, Except.map_eq_ok]

namespace Keyed

variable {fields : Keyed Bool} {names names' : List String}

/-- The names of the fields that are mapped to `true`, in ascending order, but for the key. -/
structure Chosen (fields : Keyed Bool) (names : List String) : Prop where
  ascending : names.Pairwise (· < ·)
  mem_iff : ∀ n, n ∈ names ↔ n ≠ idField ∧ fields.get? n = some true

theorem Chosen.unique (h : fields.Chosen names) (h' : fields.Chosen names') : names = names' :=
  eq_of_ascending h.ascending h'.ascending fun n => (h.mem_iff n).trans (h'.mem_iff n).symm

def chosenNames (fields : Keyed Bool) : List String :=
  (fields.entries.filter fun e => e.2 && e.1 ≠ idField).map (·.1)

theorem chosen_chosenNames (fields : Keyed Bool) : fields.Chosen fields.chosenNames where
  ascending := List.pairwise_map.2 (fields.sorted.sublist List.filter_sublist)
  mem_iff n := by
    simp [chosenNames, mem_entries_iff, and_comm]

/-- Every field that is mapped to `true` is an identifier. -/
def Named (fields : Keyed Bool) : Prop :=
  ∀ n, fields.get? n = some true → ∃ i, Ident.parse n = .ok i

theorem named_iff : fields.Named ↔ ∀ n ∈ fields.chosenNames, ∃ column, sqlIdent n = .ok column := by
  simp only [sqlIdent_succeeds_iff, fields.chosen_chosenNames.mem_iff]
  refine ⟨fun h n hn => h n hn.2, fun h n hn => ?_⟩
  rcases eq_or_ne n idField with rfl | hne
  · exact ⟨_, rfl⟩
  · exact h n ⟨hne, hn⟩

end Keyed

/-! ## The step of a projection -/

namespace Select

variable {s s' : Select} {fields : Keyed Bool} {e : Error}

theorem project_eq (s : Select) (fields : Keyed Bool) : s.project fields =
    (fields.chosenNames.mapM sqlIdent).map fun columns =>
      { s with columns := if columns.isEmpty then [] else idField :: columns } := by
  unfold project Keyed.chosenNames
  rw [List.mapM_map]
  rfl

theorem project_eq_ok_iff : (∃ s', s.project fields = .ok s') ↔ fields.Named := by
  simp only [project_eq, Except.map_eq_ok, Keyed.named_iff, ← mapM_succeeds_iff]
  exact ⟨fun ⟨_, columns, h, _⟩ => ⟨columns, h⟩, fun ⟨columns, h⟩ => ⟨_, columns, h, rfl⟩⟩

/-- A projection that fails does so at a field that is mapped to `true`. -/
theorem project_eq_error (h : s.project fields = .error e) :
    ∃ n, fields.get? n = some true ∧ Ident.parse n = .error e := by
  rw [project_eq, Except.map_eq_error] at h
  obtain ⟨n, hn, he⟩ := mapM_eq_error h
  exact ⟨n, ((fields.chosen_chosenNames.mem_iff n).1 hn).2, Except.map_eq_error.1 he⟩

end Select

/-! ## The columns of a statement -/

namespace Sql

theorem columns_project (s : SelectShape) (fields : Keyed Bool) : (s.project fields).columns =
    if fields.chosenNames = [] then [] else [.word "id"] :: fields.chosenNames.map nameTokens := by
  unfold SelectShape.project Keyed.chosenNames
  split
  case h_1 hnone => rw [hnone, List.map_nil, if_pos rfl]
  case h_2 hsome =>
    rw [if_neg fun h => hsome (List.map_eq_nil_iff.1 h), List.map_map]
    rfl

theorem columns_step {s : SelectShape} {step : SelectStep} (h : ∀ f, step ≠ .project f) :
    (step.shape s).columns = s.columns := by
  cases step with
  | project f => exact absurd rfl (h f)
  | sort | limit | offset => rfl

theorem columns_steps {s : SelectShape} {steps : List SelectStep}
    (h : ∀ f, .project f ∉ steps) : (steps.foldl SelectStep.shape s).columns = s.columns := by
  induction steps generalizing s with
  | nil => rfl
  | cons step steps ih =>
    rw [List.foldl_cons, ih fun f hf => h f (List.mem_cons_of_mem _ hf)]
    refine columns_step ?_
    rintro f rfl
    exact h f List.mem_cons_self

theorem table_step (s : SelectShape) (step : SelectStep) : (step.shape s).table = s.table := by
  cases step with
  | project fields =>
    unfold SelectStep.shape SelectShape.project
    dsimp only
    split <;> rfl
  | sort | limit | offset => rfl

theorem table_steps (s : SelectShape) (steps : List SelectStep) :
    (steps.foldl SelectStep.shape s).table = s.table := by
  induction steps generalizing s with
  | nil => rfl
  | cons step steps ih => rw [List.foldl_cons, ih, table_step]

namespace Builder

variable {table : String} {before after : List SelectStep} {fields : Keyed Bool} {rows : Rows}

/-- The projections of a statement that is built have succeeded. -/
theorem named_of_texts {texts : List String}
    (h : (select table (before ++ .project fields :: after) rows).texts = .ok texts) :
    fields.Named := by
  obtain ⟨_, -, h⟩ := Except.bind_eq_ok.1 h
  obtain ⟨_, hsteps, -⟩ := Except.bind_eq_ok.1 h
  rw [List.foldlM_append] at hsteps
  obtain ⟨s, -, hsteps⟩ := Except.bind_eq_ok.1 hsteps
  rw [List.foldlM_cons] at hsteps
  obtain ⟨s', hs', -⟩ := Except.bind_eq_ok.1 hsteps
  exact Select.project_eq_ok_iff.1 ⟨s', hs'⟩

/-- **What a projection selects.**  A projection succeeds just if all fields that are mapped to
    `true` are identifiers, and else its error is that of one of them.  Whatever else is set
    before it and after it, the columns of the statement are the key, and then the other fields
    that are mapped to `true` in ascending order; and all columns just if there are no others. -/
theorem projection_listed (hafter : ∀ f, .project f ∉ after) :
    (∀ s : Select, ((∃ s', s.project fields = .ok s') ↔ fields.Named) ∧
      ∀ e, s.project fields = .error e →
        ∃ n, fields.get? n = some true ∧ Ident.parse n = .error e) ∧
    ∀ texts, (select table (before ++ .project fields :: after) rows).texts = .ok texts →
      fields.Named ∧ ∃ names rest, fields.Chosen names ∧ texts.map tokens? =
        [some (.word "SELECT" ::
          (if names = [] then [.operator "*"] else commas ([.word "id"] :: names.map nameTokens)) ++
            .word "FROM" :: nameTokens table ++ rest)] := by
  refine ⟨fun s => ⟨Select.project_eq_ok_iff, fun e he => Select.project_eq_error he⟩, ?_⟩
  intro texts htexts
  refine ⟨named_of_texts htexts, fields.chosenNames, ?_⟩
  let shape := (before ++ .project fields :: after).foldl SelectStep.shape (.ofTable table)
  refine ⟨whereTokens rows.tokens? ++ shape.tail, fields.chosen_chosenNames, ?_⟩
  have htable : shape.table = nameTokens table := table_steps _ _
  have hcolumns : shape.columns = if fields.chosenNames = [] then [] else
      [.word "id"] :: fields.chosenNames.map nameTokens := by
    simp only [shape, List.foldl_append, List.foldl_cons, columns_steps hafter]
    exact columns_project _ _
  have hpieces : List.Forall₂ Piece texts [shape.tokens rows.tokens?] := texts_pieces htexts
  obtain ⟨text, _, htext, hnone, rfl⟩ := List.forall₂_cons_right_iff.1 hpieces
  obtain rfl := List.forall₂_nil_right_iff.1 hnone
  rw [List.map_singleton, htext.tokens?_eq, SelectShape.tokens, hcolumns, htable,
    List.append_assoc]
  by_cases hnames : fields.chosenNames = []
  · rw [if_pos hnames, if_pos hnames]
    rfl
  · rw [if_neg hnames, if_neg hnames]
    rfl

/-- The fields of a note, one of them with a space in its name. -/
def noteFields : Keyed Bool :=
  .ofList [("title", true), ("id", true), ("secret", false), ("\"Due date\"", true)]

/-- Two fields and the key, which is written first. -/
theorem projection_listed_note : ∃ rest,
    ["SELECT id, \"Due date\", title FROM notes ORDER BY title DESC LIMIT 5"].map tokens? =
      [some (.word "SELECT" :: commas [[.word "id"], [.name "Due date"], [.word "title"]] ++
        .word "FROM" :: [.word "notes"] ++ rest)] := by
  have htexts : (select "notes" ([.limit 5] ++ .project noteFields ::
      [.sort (.ofList [("title", "desc")])]) .all).texts =
        .ok ["SELECT id, \"Due date\", title FROM notes ORDER BY title DESC LIMIT 5"] := by
    rfl
  have hafter : ∀ f, .project f ∉ [SelectStep.sort (.ofList [("title", "desc")])] := by
    simp
  obtain ⟨-, names, rest, hnames, htokens⟩ := (projection_listed hafter).2 _ htexts
  have hchosen : names = ["\"Due date\"", "title"] := hnames.unique noteFields.chosen_chosenNames
  subst hchosen
  exact ⟨rest, htokens⟩

/-- The key on its own, which is mapped to `true` and is an identifier, does not count. -/
theorem projection_widened :
    (Keyed.ofList [("id", true)]).get? "id" = some true ∧
      (Keyed.ofList [("id", true)]).Named ∧
      (select "notes" [.project (.ofList [("id", true)])] .all).texts =
        .ok ["SELECT * FROM notes"] ∧
      ["SELECT * FROM notes"].map tokens? =
        [some [.word "SELECT", .operator "*", .word "FROM", .word "notes"]] := by
  refine ⟨rfl, Keyed.named_iff.2 ?_, rfl, by rfl⟩
  exact fun n hn => absurd hn List.not_mem_nil

end Builder

end Sql

end Rowgate
