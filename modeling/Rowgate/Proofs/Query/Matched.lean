/-
  Conditions that agree place by place.

  * `Condition.Matched`: the same groups, items, fields and operators, and related values at
    the same places;
  * `predicate_matched`: conditions with interchangeable values compile to the same;
  * `matched_of_same`: conditions with one JSON text agree, and their values have one text.
-/
import Rowgate.Proofs.Ascending
import Rowgate.Proofs.Query.Item
import Rowgate.Proofs.Query.Survivors
import Rowgate.Proofs.Value.Json

namespace Rowgate

variable {α β : Type}

/-! ## Related values at the same places -/

/-- The same names, and related values under each. -/
def Keyed.Matched (R : α → β → Prop) (m : Keyed α) (n : Keyed β) : Prop :=
  List.Forall₂ (fun e e' => e.1 = e'.1 ∧ R e.2 e'.2) m.entries n.entries

theorem Keyed.Matched.mp {R S T : α → β → Prop} (hT : ∀ a b, R a b → S a b → T a b) {m : Keyed α}
    {n : Keyed β} (h : m.Matched R n) (h' : m.Matched S n) : m.Matched T n :=
  List.Forall₂.mp (fun _ _ hr hs => ⟨hr.1, hT _ _ hr.2 hs.2⟩) h h'

theorem Keyed.Matched.nil {R : α → β → Prop} {m : Keyed α} {n : Keyed β} (h : m.Matched R n)
    (hm : m.entries = []) : n.entries = [] := by
  rwa [Keyed.Matched, hm, List.forall₂_nil_left_iff] at h

theorem Keyed.Matched.single {R : α → β → Prop} {m : Keyed α} {n : Keyed β} {k : String} {a : α}
    (h : m.Matched R n) (hm : m.entries = [(k, a)]) : ∃ b, n.entries = [(k, b)] ∧ R a b := by
  rw [Keyed.Matched, hm, List.forall₂_cons_left_iff] at h
  obtain ⟨⟨k', b⟩, r, ⟨rfl, hab⟩, hr, hn⟩ := h
  rw [List.forall₂_nil_left_iff.1 hr] at hn
  exact ⟨b, hn, hab⟩

/-- Equal values under equal names. -/
theorem Keyed.Matched.eq {R : α → α → Prop} (hR : ∀ a b, R a b → a = b) {m n : Keyed α}
    (h : m.Matched R n) : m = n := by
  refine Keyed.ext ?_
  rw [← List.forall₂_eq_eq_eq]
  exact h.imp fun e e' he => Prod.ext he.1 (hR _ _ he.2)

structure QueryItem.Matched (R : Value → Value → Prop) (i i' : QueryItem) : Prop where
  condition : i.condition.Matched (Keyed.Matched R) i'.condition
  order : i.order = i'.order
  link : i.link = i'.link

structure QueryGroup.Matched (R : Value → Value → Prop) (g g' : QueryGroup) : Prop where
  name : g.name = g'.name
  items : List.Forall₂ (QueryItem.Matched R) g.items g'.items
  order : g.order = g'.order
  link : g.link = g'.link

def Condition.Matched (R : Value → Value → Prop) (groups groups' : List QueryGroup) : Prop :=
  List.Forall₂ (QueryGroup.Matched R) groups groups'

theorem QueryItem.Matched.mp {R S T : Value → Value → Prop} (hT : ∀ v w, R v w → S v w → T v w)
    {i i' : QueryItem} (h : i.Matched R i') (h' : i.Matched S i') : i.Matched T i' :=
  ⟨h.condition.mp (fun _ _ => Keyed.Matched.mp hT) h'.condition, h.order, h.link⟩

theorem QueryGroup.Matched.mp {R S T : Value → Value → Prop} (hT : ∀ v w, R v w → S v w → T v w)
    {g g' : QueryGroup} (h : g.Matched R g') (h' : g.Matched S g') : g.Matched T g' :=
  ⟨h.name, .mp (fun _ _ => QueryItem.Matched.mp hT) h.items h'.items, h.order, h.link⟩

theorem Condition.Matched.mp {R S T : Value → Value → Prop} (hT : ∀ v w, R v w → S v w → T v w)
    {groups groups' : List QueryGroup} (h : Condition.Matched R groups groups')
    (h' : Condition.Matched S groups groups') : Condition.Matched T groups groups' :=
  List.Forall₂.mp (fun _ _ => QueryGroup.Matched.mp hT) h h'

theorem Condition.Matched.isEmpty_eq {R : Value → Value → Prop} {groups groups' : List QueryGroup}
    (h : Condition.Matched R groups groups') : groups.isEmpty = groups'.isEmpty := by
  cases h <;> rfl

/-! ## Interchangeable values -/

theorem Sql.number_alike {x y : Double} (h : x.Alike y) (field op : String) :
    number field op x = number field op y := by
  rcases h with ⟨hx, hy, he⟩ | ⟨hx, hy⟩
  · have htext : x.text = y.text := by
      unfold Double.text DecimalLayout.text
      rw [he]
    unfold number
    rw [if_pos hx, if_pos hy, htext]
  · unfold number
    rw [if_neg hx, if_neg hy]

theorem Sql.mapM_number_alike {xs ys : List Double} (h : List.Forall₂ Double.Alike xs ys)
    (field op : String) : xs.mapM (number field op) = ys.mapM (number field op) := by
  induction h with
  | nil => rfl
  | cons hxy _ ih => rw [List.mapM_cons, List.mapM_cons, number_alike hxy, ih]

namespace Condition

variable {v w : Value}

/-- A comparison with one of two interchangeable values. -/
theorem comparison_interchangeable (h : v.Interchangeable w) (column field : String)
    (op : Operator) : comparison column field op v = comparison column field op w := by
  cases h with
  | refl => rfl
  | @float x y h =>
    have hs : Sql.scalar field op.name (.float x) = Sql.scalar field op.name (.float y) :=
      Sql.number_alike h field op.name
    cases op <;> simp only [comparison, Operator.accepts, Operator.symbol?, hs] <;> rfl
  | @timestamp t t' h =>
    have hs : Sql.scalar field op.name (.timestamp t) =
        Sql.scalar field op.name (.timestamp t') := by
      simp only [Sql.scalar, Sql.timestamp, Instant.sqlText_eq h]
    cases op <;> simp only [comparison, Operator.accepts, Operator.symbol?, hs] <;> rfl
  | @numericArray xs ys h =>
    have hl : Sql.list field op.name (.numericArray xs) =
        Sql.list field op.name (.numericArray ys) := by
      simp only [Sql.list, Sql.mapM_number_alike h]
    cases op <;> simp only [comparison, Operator.accepts, Operator.symbol?, hl] <;> rfl

theorem clause_interchangeable (h : v.Interchangeable w) (field name : String) :
    clause field name v = clause field name w := by
  unfold clause
  simp only [comparison_interchangeable h]

theorem blank_interchangeable (h : v.Interchangeable w) (field name : String) :
    QueryItem.Blank field name v ↔ QueryItem.Blank field name w := by
  cases h with
  | refl => rfl
  | _ => simp [QueryItem.Blank]

/-! ## Items, groups and conditions -/

theorem item_matched {i i' : QueryItem} (h : i.Matched Value.Interchangeable i') :
    item i = item i' := by
  have hfields := h.condition
  have hlength := hfields.length_eq
  cases i.shape with
  | noField hi => simp [item, hi, hfields.nil hi]
  | manyFields hi =>
    rw [item_fields (by simp [hi]), item_fields (by rw [← hlength]; simp [hi]), hlength]
  | noOperator hi ho =>
    obtain ⟨operators', hi', hoperators⟩ := hfields.single hi
    simp [item, hi, ho, hi', hoperators.nil ho]
  | single hi ho =>
    obtain ⟨operators', hi', hoperators⟩ := hfields.single hi
    obtain ⟨w, ho', hv⟩ := hoperators.single ho
    rw [item_single hi ho, item_single hi' ho', clause_interchangeable hv]
    simp only [blank_interchangeable hv]
  | manyOperators hi ho =>
    obtain ⟨operators', hi', hoperators⟩ := hfields.single hi
    have hcount := hoperators.length_eq
    rw [item_operators hi (by simp [ho]), item_operators hi' (by rw [← hcount]; simp [ho]), hcount]

theorem group_matched {g g' : QueryGroup} (h : g.Matched Value.Interchangeable g') :
    group g = group g' := by
  have hitems := forall₂_mergeSort QueryItem.order (fun _ _ h => h.order) h.items
  have hsurvivors : survivors item QueryItem.link (orderedItems g) =
      survivors item QueryItem.link (orderedItems g') :=
    survivors_congr (hitems.imp fun _ _ hi => ⟨item_matched hi, hi.link⟩)
  unfold group
  rw [hsurvivors]

/-- Conditions with interchangeable values at the same places compile to the same. -/
theorem predicate_matched {groups groups' : List QueryGroup}
    (h : Condition.Matched Value.Interchangeable groups groups') :
    predicate groups = predicate groups' := by
  have hgroups := forall₂_mergeSort QueryGroup.order (fun _ _ h => h.order) h
  have hsurvivors : survivors group QueryGroup.link (orderedGroups groups) =
      survivors group QueryGroup.link (orderedGroups groups') :=
    survivors_congr (hgroups.imp fun _ _ hg => ⟨group_matched hg, hg.link⟩)
  unfold predicate
  rw [hsurvivors, h.isEmpty_eq]

end Condition

/-! ## The JSON text of a condition -/

open Json (Same)

theorem keyed_of_same {write : α → Json} {m n : Keyed α}
    (h : Same (Json.ofKeyed write m) (Json.ofKeyed write n)) :
    m.Matched (fun a b => Same (write a) (write b)) n := by
  have hmembers := Json.object_inj h
  rwa [Keyed.map, Keyed.map, List.forall₂_map_left_iff, List.forall₂_map_right_iff] at hmembers

theorem int_of_same {m n : Int} (h : Same (.number (.whole m)) (.number (.whole n))) : m = n :=
  intText_inj (String.toList_inj.1 h)

/-- Two values with one JSON text. -/
def SameValue (v w : Value) : Prop :=
  Same v.toJson w.toJson

theorem item_of_same {i i' : QueryItem} (h : Same i.toJson i'.toJson) : i.Matched SameValue i' := by
  have hmembers := Json.object_inj h
  simp only [List.forall₂_cons] at hmembers
  obtain ⟨⟨-, hcondition⟩, ⟨-, horder⟩, ⟨-, hlink⟩, -⟩ := hmembers
  refine ⟨?_, int_of_same horder, Json.string_inj hlink⟩
  exact (keyed_of_same hcondition).imp fun _ _ he => ⟨he.1, keyed_of_same he.2⟩

theorem group_of_same {g g' : QueryGroup} (h : Same g.toJson g'.toJson) :
    g.Matched SameValue g' := by
  have hmembers := Json.object_inj h
  simp only [List.forall₂_cons] at hmembers
  obtain ⟨⟨-, hname⟩, ⟨-, hitems⟩, ⟨-, horder⟩, ⟨-, hlink⟩, -⟩ := hmembers
  have hitems := Json.array_inj hitems
  rw [List.forall₂_map_left_iff, List.forall₂_map_right_iff] at hitems
  exact ⟨Json.string_inj hname, hitems.imp fun _ _ => item_of_same, int_of_same horder,
    Json.string_inj hlink⟩

/-- Conditions with one JSON text have values with one text at the same places. -/
theorem matched_of_same {groups groups' : List QueryGroup}
    (h : Same (QueryGroup.listJson groups) (QueryGroup.listJson groups')) :
    Condition.Matched SameValue groups groups' := by
  have hgroups := Json.array_inj h
  rw [List.forall₂_map_left_iff, List.forall₂_map_right_iff] at hgroups
  exact hgroups.imp fun _ _ => group_of_same

end Rowgate
