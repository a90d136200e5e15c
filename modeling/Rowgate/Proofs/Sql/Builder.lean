/-
  What a statement builder returns splits into the tokens of the statement's shape.

  * `Builder` is a call of a builder: a condition on its own, a SELECT after any number of
    steps, or any other statement;
  * `texts` is what the call returns, `shapes` the tokens its arguments stand for;
  * `texts_tokens`: each text splits into the tokens of its shape.
-/
import Rowgate.Proofs.Sql.Statement

namespace Rowgate.Sql

open Statement

/-- A call on a SELECT before its predicate. -/
inductive SelectStep where
  | project (fields : Keyed Bool)
  | sort (order : Keyed String)
  | limit (n : Int)
  | offset (n : Int)

namespace SelectStep

def apply (s : Select) : SelectStep → Except Error Select
  | project fields => s.project fields
  | sort order => s.sort order
  | limit n => .ok (s.withLimit n)
  | offset n => .ok (s.withOffset n)

def shape (s : SelectShape) : SelectStep → SelectShape
  | project fields => s.project fields
  | sort order => s.sort order
  | limit n => { s with limit := n }
  | offset n => { s with offset := n }

end SelectStep

/-- The rows that a statement is about. -/
inductive Rows where
  | ids (ids : List String)
  | condition (groups : List QueryGroup)
  | all

/-- The predicate, if there is one. -/
def Rows.tokens? : Rows → Option (List Token)
  | ids keys => some (keyInTokens keys)
  | condition groups => some (conditionTokens groups)
  | all => none

/-- A call of a statement builder. -/
inductive Builder where
  | predicate (groups : List QueryGroup)
  | whereClause (groups : List QueryGroup)
  | select (table : String) (steps : List SelectStep) (rows : Rows)
  | insertLiteral (table : String) (records : List Record) (fields : List String)
  | insertParameterized (table : String) (records : List Record) (fields : List String)
  | insertCopy (table : String) (records : List Record) (fields : List String)
  | updateByRecords (table : String) (records : List Record) (fields : List String)
  | updateByIds (table : String) (records : List Record) (fields ids : List String)
  | updateByCondition (table : String) (records : List Record) (fields : List String)
      (groups : List QueryGroup)
  | delete (table : String) (rows : Rows)

namespace Builder

/-- The texts that a call returns, in order. -/
def texts : Builder → Except Error (List String)
  | predicate groups => (Condition.predicate groups).map ([·])
  | whereClause groups => (Condition.whereClause groups).map ([·])
  | select table steps rows => do
    let s ← steps.foldlM SelectStep.apply (← Select.ofTable table)
    match rows with
    | .ids ids => (s.byIds ids).map ([·])
    | .condition groups => (s.byCondition groups).map ([·])
    | .all => return [s.all]
  | insertLiteral table records fields => Statement.insertLiteral table records fields
  | insertParameterized table records fields =>
    (Statement.insertParameterized table records fields).map ([·.sql])
  | insertCopy table records fields =>
    (Statement.insertCopy table records fields).map fun c => [c.sql, c.typesSql]
  | updateByRecords table records fields => Statement.updateByRecords table records fields
  | updateByIds table records fields ids =>
    (Statement.updateByIds table records fields ids).map ([·])
  | updateByCondition table records fields groups =>
    (Statement.updateByCondition table records fields groups).map ([·])
  | delete table (.ids ids) => (deleteByIds table ids).map ([·])
  | delete table (.condition groups) => (deleteByCondition table groups).map ([·])
  | delete table .all => (deleteAll table).map ([·])

/-- The tokens of each text. -/
def shapes : Builder → List (List Token)
  | predicate groups => [conditionTokens groups]
  | whereClause groups => [whereTokens (some (conditionTokens groups))]
  | select table steps rows =>
    [(steps.foldl SelectStep.shape (SelectShape.ofTable table)).tokens rows.tokens?]
  | insertLiteral table records fields =>
    let fields := resolveFields records fields
    records.map fun record => insertTokens table fields
      (fields.map fun f => literalTokens ((record.get? f).getD .null))
  | insertParameterized table records fields =>
    let fields := resolveFields records fields
    [insertTokens table fields
      ((List.range fields.length).map fun i => [.parameter (toString (i + 1))])]
  | insertCopy table records fields =>
    let fields := resolveFields records fields
    [copyTokens table fields, typesTokens table fields]
  | updateByRecords table records fields =>
    records.map fun record =>
      updateTokens table record (updateFields records fields) (keyIsTokens record)
  | updateByIds table records fields ids =>
    records.map fun record =>
      updateTokens table record (updateFields records fields) (keyInTokens ids)
  | updateByCondition table records fields groups =>
    records.map fun record =>
      updateTokens table record (updateFields records fields) (conditionTokens groups)
  | delete table rows => [deleteTokens table rows.tokens?]

/-! ## One step of a SELECT, and any number of them -/

theorem shaped_step {s s' : Select} {shape : SelectShape} (hs : Shaped s shape) {step : SelectStep}
    (h : step.apply s = .ok s') : Shaped s' (step.shape shape) := by
  cases step with
  | project fields => exact hs.project h
  | sort order => exact hs.sort h
  | limit n => cases h; exact hs.withLimit n
  | offset n => cases h; exact hs.withOffset n

theorem shaped_steps {s s' : Select} {shape : SelectShape} (hs : Shaped s shape)
    {steps : List SelectStep} (h : steps.foldlM SelectStep.apply s = .ok s') :
    Shaped s' (steps.foldl SelectStep.shape shape) := by
  induction steps generalizing s shape with
  | nil => cases h; exact hs
  | cons step steps ih =>
    rw [List.foldlM_cons] at h
    obtain ⟨next, hnext, h⟩ := Except.bind_eq_ok.1 h
    exact ih (shaped_step hs hnext) h

theorem select_piece {s : Select} {shape : SelectShape} (hs : Shaped s shape) {rows : Rows}
    {texts : List String}
    (h : (match rows with
      | .ids ids => (s.byIds ids).map ([·])
      | .condition groups => (s.byCondition groups).map ([·])
      | .all => .ok [s.all]) = .ok texts) :
    List.Forall₂ Piece texts [shape.tokens rows.tokens?] := by
  cases rows with
  | ids ids =>
    obtain ⟨text, ht, rfl⟩ := Except.map_eq_ok.1 h
    obtain ⟨_, hids, ht⟩ := Except.bind_eq_ok.1 ht
    rw [← Except.ok.inj ht]
    exact .cons (hs.render (.some (piece_keyIn (requireIds_eq_ok hids).1))) .nil
  | condition groups =>
    obtain ⟨text, ht, rfl⟩ := Except.map_eq_ok.1 h
    obtain ⟨condition, hc, ht⟩ := Except.bind_eq_ok.1 ht
    rw [← Except.ok.inj ht]
    exact .cons (hs.render (.some (piece_where hc))) .nil
  | all =>
    rw [← Except.ok.inj h]
    exact .cons (hs.render .none) .nil

/-! ## All builders -/

theorem texts_pieces {b : Builder} {texts : List String} (h : b.texts = .ok texts) :
    List.Forall₂ Piece texts b.shapes := by
  cases b with
  | predicate groups =>
    obtain ⟨text, ht, rfl⟩ := Except.map_eq_ok.1 h
    exact .cons (piece_predicate ht) .nil
  | whereClause groups =>
    obtain ⟨text, ht, rfl⟩ := Except.map_eq_ok.1 h
    exact .cons (piece_where ht) .nil
  | select table steps rows =>
    obtain ⟨s, hs, h⟩ := Except.bind_eq_ok.1 h
    obtain ⟨s', hs', h⟩ := Except.bind_eq_ok.1 h
    exact select_piece (shaped_steps (Shaped.ofTable hs) hs') h
  | insertLiteral table records fields => exact insertLiteral_pieces h
  | insertParameterized table records fields =>
    obtain ⟨i, hi, rfl⟩ := Except.map_eq_ok.1 h
    exact .cons (insertParameterized_piece hi) .nil
  | insertCopy table records fields =>
    obtain ⟨c, hc, rfl⟩ := Except.map_eq_ok.1 h
    obtain ⟨hsql, htypes⟩ := insertCopy_pieces hc
    exact .cons hsql (.cons htypes .nil)
  | updateByRecords table records fields => exact updateByRecords_pieces h
  | updateByIds table records fields ids =>
    obtain ⟨text, ht, rfl⟩ := Except.map_eq_ok.1 h
    obtain ⟨record, rfl, hp⟩ := updateByIds_piece ht
    exact .cons hp .nil
  | updateByCondition table records fields groups =>
    obtain ⟨text, ht, rfl⟩ := Except.map_eq_ok.1 h
    obtain ⟨record, rfl, hp⟩ := updateByCondition_piece ht
    exact .cons hp .nil
  | delete table rows =>
    cases rows with
    | ids ids =>
      obtain ⟨text, ht, rfl⟩ := Except.map_eq_ok.1 h
      exact .cons (deleteByIds_piece ht) .nil
    | condition groups =>
      obtain ⟨text, ht, rfl⟩ := Except.map_eq_ok.1 h
      exact .cons (deleteByCondition_piece ht) .nil
    | all =>
      obtain ⟨text, ht, rfl⟩ := Except.map_eq_ok.1 h
      exact .cons (deleteAll_piece ht) .nil

/-- Every text that a builder returns splits into the tokens of its shape. -/
theorem texts_tokens {b : Builder} {texts : List String} (h : b.texts = .ok texts) :
    texts.map tokens? = b.shapes.map some := by
  have hp := texts_pieces h
  rw [← List.forall₂_eq_eq_eq, List.forall₂_map_left_iff, List.forall₂_map_right_iff]
  exact hp.imp fun _ _ h => h.tokens?_eq

/-- A quote in an id, and points, quotes and a semicolon in the name of a table. -/
theorem texts_tokens_delete :
    ["DELETE FROM app.\"a\"\"; b\" WHERE id IN ('it''s', '); --')"].map tokens? =
      [some [.word "DELETE", .word "FROM", .word "app", .mark '.', .name "a\"; b", .word "WHERE",
        .word "id", .word "IN", .mark '(', .string "it's", .mark ',', .string "); --",
        .mark ')']] :=
  texts_tokens (b := .delete "app.\"a\"\"; b\"" (.ids ["it's", "); --"]))
    (show _ = Except.ok ["DELETE FROM app.\"a\"\"; b\" WHERE id IN ('it''s', '); --')"] by
      rfl)

end Builder

end Rowgate.Sql
