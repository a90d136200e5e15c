/-
  What the steps of a cache do to its entries.

  * `find?_dropEntry`, `find?_dropEntries`: dropping entries takes them and no other;
  * `set_of_none`, `set_of_some`: a `set` takes the old entry and then comes to `openBucket` or
    to `push`; `entry?_openBucket`, `entry?_push`: the first changes no entry, the second one;
  * `entry?_delete`, `entry?_deleteTable`, `entry?_of_evict`, `entry?_of_set`: what is left of
    the entries, and what is new;
  * `entry?_set_of_room`: what is put into a cache that has room is there;
  * `get_hit`: rows that are answered are those of an entry that is not over;
  * `entry?_of_get`, `entry?_get`: looking takes at most an entry that is over.
-/
import Mathlib.Tactic.Common
import Rowgate.Cache

namespace Rowgate

theorem Keyed.get?_of_isEmpty {α : Type} {m : Keyed α} (h : m.isEmpty) (k : String) :
    m.get? k = none := by
  rw [Keyed.get?, List.isEmpty_iff.1 h]
  rfl

namespace Cache

variable {c : Cache} {now : Moment} {table key table' key' : String} {e : Entry}

/-- The entry under a key of a table in the buckets. -/
def find? (buckets : Keyed (Keyed Entry)) (table key : String) : Option Entry :=
  (buckets.get? table).bind (·.get? key)

theorem entry?_eq (c : Cache) (table key : String) :
    c.entry? table key = find? c.buckets table key :=
  rfl

/-! ## Dropping entries -/

theorem find?_erase (buckets : Keyed (Keyed Entry)) (table table' key' : String) :
    find? (buckets.erase table) table' key' =
      if table' = table then none else find? buckets table' key' := by
  unfold find?
  rw [Keyed.get?_erase]
  split_ifs <;> rfl

theorem find?_dropEntry (buckets : Keyed (Keyed Entry)) (table key table' key' : String) :
    find? (dropEntry buckets table key) table' key' =
      if (table', key') = (table, key) then none else find? buckets table' key' := by
  unfold dropEntry
  cases hb : buckets.get? table with
  | none =>
    split_ifs with h
    · cases h
      rw [find?, hb]
      rfl
    · rfl
  | some bucket =>
    have hbucket : find? buckets table key' = bucket.get? key' := by
      rw [find?, hb]
      rfl
    have herase := Keyed.get?_erase bucket key key'
    dsimp only
    by_cases ht : table' = table
    · subst ht
      have hdropped : find? (if (bucket.erase key).isEmpty then buckets.erase table'
          else buckets.insert table' (bucket.erase key)) table' key' =
            (bucket.erase key).get? key' := by
        split_ifs with hempty
        · -- a bucket that has become empty goes, and there was nothing left to find in it
          rw [find?_erase, if_pos rfl, Keyed.get?_of_isEmpty hempty]
        · rw [find?, Keyed.get?_insert_self]
          rfl
      rw [hdropped, herase, hbucket]
      simp only [Prod.mk.injEq, true_and]
    · rw [if_neg fun h => ht (congrArg Prod.fst h)]
      split_ifs
      · rw [find?_erase, if_neg ht]
      · rw [find?, Keyed.get?_insert_of_ne _ _ ht]
        rfl

theorem find?_dropEntries (dropped : List (String × String)) (buckets : Keyed (Keyed Entry))
    (table key : String) :
    find? (dropped.foldl (fun b d => dropEntry b d.1 d.2) buckets) table key =
      if (table, key) ∈ dropped then none else find? buckets table key := by
  induction dropped generalizing buckets with
  | nil => rfl
  | cons d dropped ih =>
    rw [List.foldl_cons, ih, find?_dropEntry]
    by_cases hd : (table, key) = d
    · subst hd
      simp
    · simp [hd]

/-! ## Putting entries in -/

/-- The bucket of a table is there, if only as a new one without entries. -/
def openBucket (c : Cache) (table : String) : Cache :=
  { c with buckets := c.buckets.insert table ((c.buckets.get? table).getD .empty) }

/-- An entry of a new pair, before the oldest are dropped. -/
def push (c : Cache) (table key : String) (e : Entry) : Cache :=
  { c with
    buckets := c.buckets.insert table (((c.buckets.get? table).getD .empty).insert key e)
    queue := c.queue ++ [(table, key)] }

variable {rows : List Record} {ttl : Span} {expires : Moment}

theorem set_of_none (h : now.after? ttl = none) :
    c.set now table key rows ttl = (c.delete table key).openBucket table := by
  unfold set
  dsimp only
  rw [h]
  rfl

theorem set_of_some (h : now.after? ttl = some expires) :
    c.set now table key rows ttl =
      ((c.delete table key).push table key ⟨rows, expires⟩).evict := by
  unfold set
  dsimp only
  rw [h]
  rfl

theorem entry?_openBucket (c : Cache) (table table' key' : String) :
    entry? (c.openBucket table) table' key' = c.entry? table' key' := by
  unfold entry? openBucket
  by_cases ht : table' = table
  · subst ht
    rw [Keyed.get?_insert_self]
    cases c.buckets.get? table' <;> rfl
  · rw [Keyed.get?_insert_of_ne _ _ ht]

theorem entry?_push (c : Cache) (table key : String) (e : Entry) (table' key' : String) :
    entry? (c.push table key e) table' key' =
      if (table', key') = (table, key) then some e else c.entry? table' key' := by
  unfold entry? push
  by_cases ht : table' = table
  · subst ht
    rw [Keyed.get?_insert_self, Option.bind_some]
    by_cases hk : key' = key
    · subst hk
      rw [Keyed.get?_insert_self, if_pos rfl]
    · rw [Keyed.get?_insert_of_ne _ _ hk, if_neg fun h => hk (congrArg Prod.snd h)]
      cases c.buckets.get? table' <;> rfl
  · rw [Keyed.get?_insert_of_ne _ _ ht, if_neg fun h => ht (congrArg Prod.fst h)]

/-! ## The steps -/

theorem entry?_delete (c : Cache) (table key table' key' : String) :
    entry? (c.delete table key) table' key' =
      if (table', key') = (table, key) then none else c.entry? table' key' :=
  find?_dropEntry c.buckets table key table' key'

theorem entry?_deleteTable (c : Cache) (table table' key' : String) :
    entry? (c.deleteTable table) table' key' =
      if table' = table then none else c.entry? table' key' :=
  find?_erase c.buckets table table' key'

/-- No entry is new. -/
theorem entry?_of_evict (h : c.evict.entry? table key = some e) : c.entry? table key = some e := by
  unfold evict at h
  split_ifs at h
  · cases h
  · have hfind := find?_dropEntries (c.queue.take (c.queue.length - c.capacity)) c.buckets table key
    rw [entry?_eq, hfind] at h
    split_ifs at h
    exact h

/-- Only the entry that is put there is new. -/
theorem entry?_of_set (h : entry? (c.set now table key rows ttl) table' key' = some e) :
    (table', key') = (table, key) ∧ e.rows = rows ∧ now.after? ttl = some e.expires ∨
      (table', key') ≠ (table, key) ∧ c.entry? table' key' = some e := by
  have hdelete := c.entry?_delete table key table' key'
  cases hend : now.after? ttl with
  | none =>
    rw [set_of_none hend, entry?_openBucket, hdelete] at h
    split_ifs at h with hkey
    exact .inr ⟨hkey, h⟩
  | some expires =>
    rw [set_of_some hend] at h
    have hpushed := entry?_of_evict h
    rw [entry?_push, hdelete] at hpushed
    split_ifs at hpushed with hkey
    · cases hpushed
      exact .inl ⟨hkey, rfl, rfl⟩
    · exact .inr ⟨hkey, hpushed⟩

/-- No entry is dropped while there is room. -/
theorem evict_of_room (hpos : c.capacity ≠ 0) (hroom : c.queue.length ≤ c.capacity) :
    c.evict = c := by
  have hexcess : c.queue.length - c.capacity = 0 := Nat.sub_eq_zero_of_le hroom
  unfold evict
  rw [if_neg hpos, hexcess]
  rfl

/-- Rows that are put into a cache with room are there. -/
theorem entry?_set_of_room (hroom : c.queue.length < c.capacity)
    (hend : now.after? ttl = some expires) (table key : String) (rows : List Record) :
    entry? (c.set now table key rows ttl) table key = some ⟨rows, expires⟩ := by
  have hqueue : ((c.delete table key).queue ++ [(table, key)]).length ≤ c.capacity := by
    rw [List.length_append, List.length_singleton]
    exact Nat.le_trans (Nat.add_le_add_right List.erase_sublist.length_le 1) hroom
  rw [set_of_some hend, evict_of_room, entry?_push, if_pos rfl]
  · exact Nat.ne_zero_of_lt hroom
  · exact hqueue

/-! ## Looking -/

/-- Rows that are answered are those of an entry that is not over, and nothing changes. -/
theorem get_hit {rows : List Record} (h : (c.get now table key).1 = some rows) :
    ∃ e, c.entry? table key = some e ∧ e.rows = rows ∧ now < e.expires ∧
      (c.get now table key).2 = c := by
  unfold get at h ⊢
  cases he : c.entry? table key with
  | none =>
    rw [he] at h
    cases h
  | some e =>
    rw [he] at h
    dsimp only at h ⊢
    split_ifs at h ⊢ with hlive
    exact ⟨e, rfl, Option.some.inj h, hlive, rfl⟩

/-- The rows of an entry that is not over are answered. -/
theorem get_of_live (he : c.entry? table key = some e) (hlive : now < e.expires) :
    c.get now table key = (some e.rows, c) := by
  unfold get
  rw [he]
  exact if_pos hlive

theorem entry?_of_get (h : entry? (c.get now table key).2 table' key' = some e) :
    c.entry? table' key' = some e := by
  unfold get at h
  split at h
  · exact h
  · split_ifs at h
    · exact h
    · rw [entry?_delete] at h
      split_ifs at h
      exact h

/-- Looking takes no entry that is not over. -/
theorem entry?_get (h : c.entry? table' key' = some e) (hlive : now < e.expires) :
    entry? (c.get now table key).2 table' key' = some e := by
  unfold get
  split
  · exact h
  · rename_i e' he'
    split_ifs with hlive'
    · exact h
    · rw [entry?_delete, if_neg, h]
      rintro ⟨⟩
      rw [he'] at h
      cases h
      exact hlive' hlive

end Cache

end Rowgate
