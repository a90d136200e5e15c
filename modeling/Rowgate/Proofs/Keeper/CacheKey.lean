/-
  What the cache key of a read tells of the read.

  * `hashKey_eq_iff`: two reads of a table have one key just if their conditions have one JSON
    text, and their orders, projections, ids and pages are the same;
  * `hashKey_parts`: so the texts that stand side by side in a key are the same one by one;
  * `readStatement_of_hashKey`: their statements are then the same, unless the conditions
    hold confusable values at some place;
  * `instant_and_text`: an instant and its text are confusable, and are read by two statements.
-/
import Rowgate.Proofs.Keeper.Entry
import Rowgate.Proofs.Query.Matched

namespace Rowgate

open Json (Same Ends ends_cons)

/-! ## The parts of a key -/

namespace Params

variable {p q : Params}

/-- Two reads that agree in all that a key is made of, but for the table. -/
structure SameParts (p q : Params) : Prop where
  condition : Same (QueryGroup.listJson p.condition) (QueryGroup.listJson q.condition)
  order : p.order = q.order
  projection : p.projection = q.projection
  ids : p.ids = q.ids
  skip : max p.skip 0 = max q.skip 0
  limit : max p.limit 0 = max q.limit 0

/-- The page at the end of a key. -/
def pageChars (p : Params) : List Char :=
  '|' :: ((toString (max p.skip 0)).toList ++ '|' :: (toString (max p.limit 0)).toList)

theorem toList_hashKey (p : Params) : p.hashKey.toList = p.table.toList ++
    ((QueryGroup.listJson p.condition).chars Json.escapedChar ++
      ((Json.ofKeyed Json.string p.order).chars Json.escapedChar ++
        ((Json.ofKeyed Json.bool p.projection).chars Json.escapedChar ++
          ((Json.ofStrings p.ids).chars Json.escapedChar ++ p.pageChars)))) := by
  simp [hashKey, Json.text, pageChars]

theorem ends_object (members : List (String × Json)) (r : List Char) :
    Ends ((Json.object members).chars Json.escapedChar ++ r) := by
  rw [Json.chars]
  exact ends_cons (by decide) _

theorem ends_array (items : List Json) (r : List Char) :
    Ends ((Json.array items).chars Json.escapedChar ++ r) := by
  rw [Json.chars]
  exact ends_cons (by decide) _

theorem intText_ne_bar (n : Int) : ∀ c ∈ (toString n).toList, c ≠ '|' := by
  rintro c hc rfl
  rcases (Json.intText_chars n).2 _ hc with hd | hd <;> cases hd

theorem pageChars_inj (h : p.pageChars = q.pageChars) :
    max p.skip 0 = max q.skip 0 ∧ max p.limit 0 = max q.limit 0 := by
  obtain ⟨hskip, hlimit⟩ := Sql.split_inj (intText_ne_bar _) (intText_ne_bar _) (by simp) (by simp)
    (List.cons.inj h).2
  exact ⟨intText_inj (String.toList_inj.1 hskip),
    intText_inj (String.toList_inj.1 (List.cons.inj hlimit).2)⟩

/-- A key is read back in one way only, though its parts stand in it side by side. -/
theorem hashKey_eq_iff (htable : p.table = q.table) : p.hashKey = q.hashKey ↔ p.SameParts q := by
  rw [← String.toList_inj, toList_hashKey, toList_hashKey, htable, List.append_cancel_left_eq]
  constructor
  · -- every rest starts with a bracket or a bar, so the value before it ends there
    intro h
    obtain ⟨hcondition, h⟩ := Json.chars_append_inj _ _ (ends_object _ _) (ends_object _ _) h
    obtain ⟨horder, h⟩ := Json.chars_append_inj _ _ (ends_object _ _) (ends_object _ _) h
    obtain ⟨hprojection, h⟩ := Json.chars_append_inj _ _ (ends_array _ _) (ends_array _ _) h
    obtain ⟨hids, h⟩ := Json.chars_append_inj _ _ (ends_cons (by decide) _)
      (ends_cons (by decide) _) h
    obtain ⟨hskip, hlimit⟩ := pageChars_inj h
    exact ⟨hcondition, (keyed_of_same horder).eq fun _ _ => Json.string_inj,
      (keyed_of_same hprojection).eq fun _ _ => Json.bool_inj, Json.strings_inj hids, hskip, hlimit⟩
  · rintro ⟨hcondition, horder, hprojection, hids, hskip, hlimit⟩
    rw [pageChars, pageChars, hcondition, horder, hprojection, hids, hskip, hlimit]

/-- **The parts of a key do not blend.**  Two reads of a table have one key just if each of their
    parts has one text, and their pages are the same, whatever brackets, quotes, bars and digits
    stand in them.  Their orders, projections and ids are then the same too. -/
theorem hashKey_parts (htable : p.table = q.table) :
    (p.hashKey = q.hashKey ↔
      (QueryGroup.listJson p.condition).text = (QueryGroup.listJson q.condition).text ∧
      (Json.ofKeyed Json.string p.order).text = (Json.ofKeyed Json.string q.order).text ∧
      (Json.ofKeyed Json.bool p.projection).text = (Json.ofKeyed Json.bool q.projection).text ∧
      (Json.ofStrings p.ids).text = (Json.ofStrings q.ids).text ∧
      max p.skip 0 = max q.skip 0 ∧ max p.limit 0 = max q.limit 0) ∧
    (p.hashKey = q.hashKey → p.order = q.order ∧ p.projection = q.projection ∧ p.ids = q.ids) := by
  refine ⟨⟨fun hkey => ?_, ?_⟩, fun hkey => ?_⟩
  · have hparts := (hashKey_eq_iff htable).1 hkey
    refine ⟨congrArg String.ofList hparts.condition, ?_, ?_, ?_, hparts.skip, hparts.limit⟩
    · rw [hparts.order]
    · rw [hparts.projection]
    · rw [hparts.ids]
  · rintro ⟨hcondition, horder, hprojection, hids, hskip, hlimit⟩
    simp only [hashKey, htable, hcondition, horder, hprojection, hids, hskip, hlimit]
  · have hparts := (hashKey_eq_iff htable).1 hkey
    exact ⟨hparts.order, hparts.projection, hparts.ids⟩

/-- A page of the notes with some ids. -/
def ofPage (user : String) (ids : List String) (skip limit : Int) : Params :=
  { ofIds "notes" user ids with skip, limit }

/-- Two ids, and one that looks like them between its quotes; an id that looks like a page;
    and pages from before the first row. -/
theorem hashKey_parts_quoted :
    (ofPage "ann" ["a", "b"] 0 0).hashKey ≠ (ofPage "ann" ["a\",\"b"] 0 0).hashKey ∧
      (ofPage "ann" ["7|1"] 0 0).hashKey ≠ (ofPage "ann" ["7"] 1 0).hashKey ∧
      (ofPage "ann" ["7"] 0 0).hashKey = (ofPage "bob" ["7"] (-3) (-1)).hashKey := by
  obtain ⟨-, hquoted⟩ := hashKey_parts (p := ofPage "ann" ["a", "b"] 0 0)
    (q := ofPage "ann" ["a\",\"b"] 0 0) rfl
  obtain ⟨-, hbarred⟩ := hashKey_parts (p := ofPage "ann" ["7|1"] 0 0)
    (q := ofPage "ann" ["7"] 1 0) rfl
  obtain ⟨hpaged, -⟩ := hashKey_parts (p := ofPage "ann" ["7"] 0 0)
    (q := ofPage "bob" ["7"] (-3) (-1)) rfl
  exact ⟨fun hkey => absurd (hquoted hkey).2.2 (by decide),
    fun hkey => absurd (hbarred hkey).2.2 (by decide),
    hpaged.2 ⟨rfl, rfl, rfl, rfl, rfl, rfl⟩⟩

end Params

/-! ## The statement of a read -/

namespace Keeper

variable {p q : Params}

/-- Only whether a limit is positive, and then which it is, matters. -/
theorem effectiveLimit_congr (o : Options) {m n : Int} (h : max m 0 = max n 0) :
    o.effectiveLimit m = o.effectiveLimit n := by
  unfold Options.effectiveLimit
  rcases eq_or_ne m n with rfl | hne
  · rfl
  · rw [if_pos (.inl (by omega)), if_pos (.inl (by omega))]

theorem readStatement_congr (k : Keeper) (htable : p.table = q.table) (h : p.SameParts q)
    (hcondition : p.ids ≠ [] ∨
      Condition.Matched Value.Interchangeable p.condition q.condition) :
    k.readStatement p = k.readStatement q := by
  unfold readStatement
  rw [htable, h.order, h.projection, h.ids, h.skip, effectiveLimit_congr _ h.limit]
  rw [h.ids] at hcondition
  rcases hcondition with hids | hcondition
  · simp [hids]
  · have hwhere : Condition.whereClause p.condition = Condition.whereClause q.condition := by
      unfold Condition.whereClause
      rw [Condition.predicate_matched hcondition]
    simp only [hcondition.isEmpty_eq, Select.byCondition, hwhere]

/-- What the key of a read of a table tells of the read.  The values of the conditions
    are the only part of it that is not told in full. -/
theorem readStatement_of_hashKey (k : Keeper) (htable : p.table = q.table)
    (hkey : p.hashKey = q.hashKey) :
    p.order = q.order ∧ p.projection = q.projection ∧ p.ids = q.ids ∧
      max p.skip 0 = max q.skip 0 ∧ max p.limit 0 = max q.limit 0 ∧
      Condition.Matched (fun v w => v.Interchangeable w ∨ v.Confusable w ∨ w.Confusable v)
        p.condition q.condition ∧
      (p.ids ≠ [] ∨ Condition.Matched (fun v w => ¬ v.Confusable w ∧ ¬ w.Confusable v)
        p.condition q.condition → k.readStatement p = k.readStatement q) := by
  have hparts := (Params.hashKey_eq_iff htable).1 hkey
  have hsame := matched_of_same hparts.condition
  refine ⟨hparts.order, hparts.projection, hparts.ids, hparts.skip, hparts.limit,
    hsame.mp (fun _ _ h _ => Value.same_value h) hsame, fun h => ?_⟩
  refine readStatement_congr k htable hparts (h.imp_right fun hdistinct => ?_)
  refine hsame.mp (fun v w hvw hne => ?_) hdistinct
  rcases Value.same_value hvw with h | h | h
  · exact h
  · exact absurd h hne.1
  · exact absurd h hne.2

def createdItem (v : Value) : QueryItem :=
  ⟨.ofList [("created", .ofList [("eq", v)])], 0, ""⟩

/-- The notes that were created at a value, from `skip` on. -/
def createdParams (user : String) (v : Value) (skip : Int) : Params :=
  { Params.ofIds "notes" user [] with condition := [⟨"", [createdItem v], 0, ""⟩], skip }

/-- The first instant of 2024. -/
def newYear : Instant :=
  ⟨19723, 0, 0, by decide⟩

/-- Another user's read, from before the first row. -/
theorem readStatement_of_hashKey_users :
    (createdParams "ann" (.timestamp newYear) 0).hashKey =
        (createdParams "bob" (.timestamp newYear) (-3)).hashKey ∧
      (standard false).readStatement (createdParams "ann" (.timestamp newYear) 0) =
        (standard false).readStatement (createdParams "bob" (.timestamp newYear) (-3)) := by
  have hkey : (createdParams "ann" (.timestamp newYear) 0).hashKey =
      (createdParams "bob" (.timestamp newYear) (-3)).hashKey :=
    (Params.hashKey_eq_iff rfl).2 ⟨rfl, rfl, rfl, rfl, rfl, rfl⟩
  obtain ⟨-, -, -, -, -, -, hstatement⟩ := readStatement_of_hashKey (standard false) rfl hkey
  have hdistinct : ¬ Value.Confusable (.timestamp newYear) (.timestamp newYear) := nofun
  exact ⟨hkey, hstatement (.inr (.cons ⟨rfl, .cons ⟨.cons ⟨rfl, .cons
    ⟨rfl, hdistinct, hdistinct⟩ .nil⟩ .nil, rfl, rfl⟩ .nil, rfl, rfl⟩ .nil))⟩

/-- The columns, table and page of such a read. -/
def createdSelect : Select :=
  ⟨"notes", [], [], 10000, 0⟩

theorem created_statement {v : Value} {text : String}
    (h : Condition.item (createdItem v) = .ok (some text)) :
    (standard false).readStatement (createdParams "ann" v 0) =
      .ok (createdSelect.render (some ("WHERE " ++ ("(" ++ text ++ ")")))) := by
  have hwhere : Condition.whereClause (createdParams "ann" v 0).condition =
      .ok ("WHERE " ++ ("(" ++ text ++ ")")) := by
    simp only [createdParams, Condition.whereClause, Condition.predicate,
      Condition.orderedGroups, Condition.group, Condition.orderedItems, List.mergeSort_singleton,
      Condition.survivors, h]
    rfl
  have htable : Select.ofTable "notes" = .ok ⟨"notes", [], [], 0, 0⟩ := by rfl
  have hselect : (standard false).readStatement (createdParams "ann" v 0) =
      createdSelect.byCondition (createdParams "ann" v 0).condition := by
    rw [readStatement, show (createdParams "ann" v 0).table = "notes" from rfl, htable]
    rfl
  rw [hselect, Select.byCondition, hwhere]
  rfl

/-- An instant and its text have one key, and two statements. -/
theorem instant_and_text :
    (createdParams "ann" (.timestamp newYear) 0).hashKey =
        (createdParams "ann" (.string "2024-01-01T00:00:00Z") 0).hashKey ∧
      (standard false).readStatement (createdParams "ann" (.timestamp newYear) 0) = .ok
        "SELECT * FROM notes WHERE (created='2024-01-01 00:00:00.000000') LIMIT 10000" ∧
      (standard false).readStatement (createdParams "ann" (.string "2024-01-01T00:00:00Z") 0) = .ok
        "SELECT * FROM notes WHERE (created='2024-01-01T00:00:00Z') LIMIT 10000" := by
  have htext : newYear.text = "2024-01-01T00:00:00Z" := by decide
  have hinstant : Condition.item (createdItem (.timestamp newYear)) =
      .ok (some "created='2024-01-01 00:00:00.000000'") := by rfl
  have hstring : Condition.item (createdItem (.string "2024-01-01T00:00:00Z")) =
      .ok (some "created='2024-01-01T00:00:00Z'") := by rfl
  refine ⟨?_, (created_statement hinstant).trans (by rfl),
    (created_statement hstring).trans (by rfl)⟩
  rw [← htext]
  exact (Params.hashKey_eq_iff rfl).2 ⟨rfl, rfl, rfl, rfl, rfl, rfl⟩

end Keeper

end Rowgate
