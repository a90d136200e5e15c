/-
  The names of a map, and sets of names as ascending lists.

  * `mem_entries_iff`, `mem_keys_iff`: the entries of a map are what is found under their names,
    and the keys are the names under which there is a value;
  * `ext_get?`: a map is told by what is found in it;
  * `mem_nameSet`, `nodup_nameSet`: a set of names has the names of the list that it is made
    from, each once; `length_nameSet` counts them;
  * `mem_ofList`, `get?_ofList_last`, `ofList_entries`: a map made from pairs has no other ones,
    of each name the last one, and the entries of a map make that map again.
-/
import Mathlib.Data.Finset.Dedup
import Mathlib.Data.Finset.Card
import Rowgate.Keyed

namespace Rowgate.Keyed

variable {α : Type} {m : Keyed α} {names : List String} {x : String}

theorem mem_entries_iff {v : α} : (x, v) ∈ m.entries ↔ m.get? x = some v := by
  obtain ⟨l, hl⟩ := m
  unfold get?
  induction l with
  | nil => simp
  | cons e l ih =>
    obtain ⟨hlt, hl⟩ := List.pairwise_cons.1 hl
    by_cases he : e.1 = x
    · -- no later entry has the name
      subst he
      have hlater : (e.1, v) ∉ l := fun h => String.lt_irrefl e.1 (hlt (e.1, v) h)
      simp [hlater, Prod.ext_iff, eq_comm]
    · have hne : (x, v) ≠ e := fun h => he (congrArg Prod.fst h).symm
      rw [List.mem_cons, List.find?_cons_of_neg (by simpa using he), or_iff_right hne]
      exact ih hl

/-- Maps with the same value under every name are one. -/
theorem ext_get? {n : Keyed α} (h : ∀ x, m.get? x = n.get? x) : m = n := by
  have hnodup (m : Keyed α) : m.entries.Nodup :=
    m.sorted.imp fun hlt he => String.ne_of_lt hlt (congrArg Prod.fst he)
  have hperm : m.entries.Perm n.entries :=
    (List.perm_ext_iff_of_nodup (hnodup m) (hnodup n)).2 fun (x, v) => by
      rw [mem_entries_iff, mem_entries_iff, h]
  exact ext (hperm.eq_of_pairwise (fun _ _ _ _ hlt hgt => absurd hgt (String.lt_asymm hlt))
    m.sorted n.sorted)

theorem mem_keys_iff : x ∈ m.keys ↔ (m.get? x).isSome := by
  simp only [keys, get?, List.mem_map, Option.isSome_map, List.find?_isSome, decide_eq_true_eq]

theorem mem_keys_insert {k : String} {v : α} : x ∈ (m.insert k v).keys ↔ x = k ∨ x ∈ m.keys := by
  rw [mem_keys_iff, mem_keys_iff]
  by_cases hx : x = k
  · subst hx
    simp
  · simp [get?_insert_of_ne m v hx, hx]

theorem mem_ofList {l : List (String × α)} {e : String × α} (h : e ∈ (ofList l).entries) :
    e ∈ l := by
  suffices hfold : ∀ (l : List (String × α)) (m : Keyed α),
      e ∈ (l.foldl (fun m e => m.insert e.1 e.2) m).entries → e ∈ m.entries ∨ e ∈ l by
    exact (hfold l .empty h).resolve_left (List.not_mem_nil)
  intro l
  induction l with
  | nil => exact fun m h => .inl h
  | cons d l ih =>
    intro m h
    rcases ih _ h with h | h
    · rcases mem_place h with rfl | h
      · exact .inr List.mem_cons_self
      · exact .inl h
    · exact .inr (List.mem_cons_of_mem _ h)

theorem get?_foldl_of_not_mem {l : List (String × α)} (hx : x ∉ l.map Prod.fst) :
    (l.foldl (fun m e => m.insert e.1 e.2) m).get? x = m.get? x := by
  induction l generalizing m with
  | nil => rfl
  | cons e l ih =>
    rw [List.map_cons, List.mem_cons, not_or] at hx
    rw [List.foldl_cons, ih hx.2, get?_insert_of_ne m e.2 hx.1]

theorem get?_ofList_last {v : α} {l l' : List (String × α)} (hx : x ∉ l'.map Prod.fst) :
    (ofList (l ++ (x, v) :: l')).get? x = some v := by
  rw [ofList, List.foldl_append, List.foldl_cons, get?_foldl_of_not_mem hx, get?_insert_self]

theorem mem_keys_foldl {l : List (String × α)} :
    x ∈ (l.foldl (fun m e => m.insert e.1 e.2) m).keys ↔ x ∈ m.keys ∨ x ∈ l.map Prod.fst := by
  induction l generalizing m with
  | nil => simp
  | cons e l ih =>
    rw [List.foldl_cons, ih, mem_keys_insert, List.map_cons, List.mem_cons]
    tauto

theorem nodup_of_ascending {xs : List String} (h : xs.Pairwise (· < ·)) : xs.Nodup :=
  h.imp fun hlt => String.ne_of_lt hlt

/-- An ascending list is told by its members. -/
theorem eq_of_ascending {xs ys : List String} (hx : xs.Pairwise (· < ·)) (hy : ys.Pairwise (· < ·))
    (h : ∀ x, x ∈ xs ↔ x ∈ ys) : xs = ys := by
  have hperm := (List.perm_ext_iff_of_nodup (nodup_of_ascending hx) (nodup_of_ascending hy)).2 h
  exact hperm.eq_of_pairwise (fun _ _ _ _ h h' => absurd h' (String.lt_asymm h)) hx hy

theorem keys_ascending (m : Keyed α) : m.keys.Pairwise (· < ·) :=
  List.pairwise_map.2 m.sorted

theorem nodup_keys (m : Keyed α) : m.keys.Nodup :=
  nodup_of_ascending m.keys_ascending

theorem mem_nameSet : x ∈ nameSet names ↔ x ∈ names := by
  unfold nameSet ofList
  rw [mem_keys_foldl, List.map_map]
  simp [keys, empty]

theorem nodup_nameSet (names : List String) : (nameSet names).Nodup :=
  nodup_keys _

/-- There are as many as there are different names. -/
theorem length_nameSet (names : List String) : (nameSet names).length = names.toFinset.card := by
  rw [← List.toFinset_card_of_nodup (nodup_nameSet names)]
  congr 1
  ext x
  rw [List.mem_toFinset, List.mem_toFinset, mem_nameSet]

theorem nameSet_eq_nil : nameSet names = [] ↔ names = [] := by
  simp only [List.eq_nil_iff_forall_not_mem, mem_nameSet]

theorem place_append (k : String) (v : α) : ∀ {l : List (String × α)},
    (∀ e ∈ l, e.1 < k) → place k v l = l ++ [(k, v)]
  | [], _ => rfl
  | e :: l, h => by
    have he := h e List.mem_cons_self
    rw [place, if_neg (String.lt_asymm he), if_neg (String.ne_of_lt he).symm,
      place_append k v fun d hd => h d (List.mem_cons_of_mem _ hd)]
    rfl

/-- The entries of a map, put into a map one after the other, are the map. -/
theorem ofList_entries (m : Keyed α) : ofList m.entries = m := by
  suffices hfold : ∀ (l : List (String × α)) (m : Keyed α),
      (m.entries ++ l).Pairwise (fun p q => p.1 < q.1) →
      (l.foldl (fun m e => m.insert e.1 e.2) m).entries = m.entries ++ l by
    exact ext (hfold m.entries .empty m.sorted)
  intro l
  induction l with
  | nil => exact fun m _ => (List.append_nil _).symm
  | cons e l ih =>
    intro m h
    have hlt : ∀ d ∈ m.entries, d.1 < e.1 := fun d hd =>
      (List.pairwise_append.1 h).2.2 d hd e List.mem_cons_self
    have hinsert : (m.insert e.1 e.2).entries = m.entries ++ [e] := place_append e.1 e.2 hlt
    rw [List.foldl_cons, ih _ (by rwa [hinsert, List.append_assoc]), hinsert, List.append_assoc]
    rfl

end Rowgate.Keyed
