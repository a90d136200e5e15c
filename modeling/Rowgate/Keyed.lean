/-
  Finite maps from names.  The entries are kept in ascending order of the name,
  each name once, so equal maps are equal as data and every listing of a map is
  in name order.

  * `get?_insert_self`, `get?_insert_of_ne` and `get?_erase` say what a lookup
    answers after a change;
  * `ofList` reads a list of pairs in which a later pair replaces an earlier
    one of the same name.
-/
namespace Rowgate

/-- Puts an entry in its place in an ascending list, replacing one of its name. -/
def Keyed.place {α : Type} (k : String) (v : α) : List (String × α) → List (String × α)
  | [] => [(k, v)]
  | e :: r =>
    if k < e.1 then (k, v) :: e :: r
    else if k = e.1 then (k, v) :: r
    else e :: place k v r

theorem Keyed.mem_place {α : Type} {k : String} {v : α} {e : String × α} :
    ∀ {l : List (String × α)}, e ∈ place k v l → e = (k, v) ∨ e ∈ l
  | [], h => by simp_all [place]
  | d :: r, h => by
    unfold place at h
    split at h
    · simpa using h
    · split at h
      · rcases List.mem_cons.1 h with h | h
        · exact .inl h
        · exact .inr (List.mem_cons_of_mem _ h)
      · rcases List.mem_cons.1 h with h | h
        · exact .inr (h ▸ List.mem_cons_self)
        · exact (mem_place h).imp id (List.mem_cons_of_mem _)

theorem Keyed.place_sorted {α : Type} (k : String) (v : α) :
    ∀ {l : List (String × α)}, l.Pairwise (fun p q => p.1 < q.1) →
      (place k v l).Pairwise (fun p q => p.1 < q.1)
  | [], _ => by simp [place]
  | e :: r, h => by
    rw [List.pairwise_cons] at h
    unfold place
    split
    case isTrue hlt =>
      refine List.pairwise_cons.2 ⟨fun d hd => ?_, List.pairwise_cons.2 h⟩
      rcases List.mem_cons.1 hd with rfl | hd
      · exact hlt
      · exact String.lt_trans hlt (h.1 d hd)
    case isFalse hlt =>
      split
      case isTrue heq =>
        exact List.pairwise_cons.2 ⟨fun d hd => by simpa [heq] using h.1 d hd, h.2⟩
      case isFalse hne =>
        refine List.pairwise_cons.2 ⟨fun d hd => ?_, place_sorted k v h.2⟩
        rcases mem_place hd with rfl | hd
        · exact Std.lt_of_le_of_ne (String.not_lt.1 hlt) (Ne.symm hne)
        · exact h.1 d hd

/-- A finite map from names to values. -/
structure Keyed (α : Type) where
  entries : List (String × α)
  sorted : entries.Pairwise (fun p q => p.1 < q.1)

namespace Keyed

variable {α β : Type}

@[ext]
theorem ext {m n : Keyed α} (h : m.entries = n.entries) : m = n := by
  cases m; cases n; cases h; rfl

instance [DecidableEq α] : DecidableEq (Keyed α) := fun m n =>
  if h : m.entries = n.entries then .isTrue (ext h) else .isFalse fun e => h (e ▸ rfl)

def empty : Keyed α := ⟨[], .nil⟩

instance : Inhabited (Keyed α) := ⟨empty⟩

instance : EmptyCollection (Keyed α) := ⟨empty⟩

def get? (m : Keyed α) (k : String) : Option α :=
  (m.entries.find? (·.1 = k)).map (·.2)

def contains (m : Keyed α) (k : String) : Bool :=
  (m.get? k).isSome

def insert (m : Keyed α) (k : String) (v : α) : Keyed α :=
  ⟨place k v m.entries, place_sorted k v m.sorted⟩

def erase (m : Keyed α) (k : String) : Keyed α :=
  ⟨m.entries.filter (·.1 ≠ k), m.sorted.sublist List.filter_sublist⟩

def keys (m : Keyed α) : List String :=
  m.entries.map (·.1)

def size (m : Keyed α) : Nat :=
  m.entries.length

def isEmpty (m : Keyed α) : Bool :=
  m.entries.isEmpty

def ofList (l : List (String × α)) : Keyed α :=
  l.foldl (fun m e => m.insert e.1 e.2) empty

/-- Names in ascending order, each once. -/
def nameSet (names : List String) : List String :=
  (ofList (names.map (·, ()))).keys

def map (f : α → β) (m : Keyed α) : Keyed β :=
  ⟨m.entries.map fun e => (e.1, f e.2), by
    rw [List.pairwise_map]; exact m.sorted⟩

theorem find?_place_self (k : String) (v : α) :
    ∀ l : List (String × α), (place k v l).find? (·.1 = k) = some (k, v)
  | [] => by simp [place]
  | e :: r => by
    unfold place
    split
    · simp
    · split
      · simp
      · rename_i hne
        rw [List.find?_cons_of_neg (by simpa using fun h => hne h.symm)]
        exact find?_place_self k v r

theorem find?_place_of_ne {k j : String} (v : α) (h : j ≠ k) :
    ∀ l : List (String × α), (place k v l).find? (·.1 = j) = l.find? (·.1 = j)
  | [] => by simp [place, h.symm]
  | e :: r => by
    unfold place
    split
    · rw [List.find?_cons_of_neg (by simpa using h.symm)]
    · split
      · rename_i heq
        rw [List.find?_cons_of_neg (by simpa using h.symm),
          List.find?_cons_of_neg (by simpa [← heq] using h.symm)]
      · simp only [List.find?_cons, find?_place_of_ne v h r]

@[simp]
theorem get?_insert_self (m : Keyed α) (k : String) (v : α) : (m.insert k v).get? k = some v := by
  simp [get?, insert, find?_place_self]

theorem get?_insert_of_ne (m : Keyed α) {k j : String} (v : α) (h : j ≠ k) :
    (m.insert k v).get? j = m.get? j := by
  simp [get?, insert, find?_place_of_ne v h]

theorem get?_erase (m : Keyed α) (k j : String) :
    (m.erase k).get? j = if j = k then none else m.get? j := by
  unfold get? erase
  rw [List.find?_filter]
  split
  · subst j
    rw [List.find?_eq_none.2] <;> simp
  · congr 2
    funext e
    by_cases he : e.1 = j <;> simp_all

end Keyed

end Rowgate
