/-
  A cache as the list of what was set.

  A ledger has one slot for each pair of a table and a key, in the order of their last sets.
  Each operation has its rule on the list alone.

  * `Step`: an operation of a cache; `Step.run` is what it does to a cache, `Step.note` what it
    does to a ledger;
  * `Hollow`: the bucket of a table is empty, which no step makes it but a `set` that fails;
  * `Follows`: a cache whose queue and entries are those of a ledger;
  * `follows_after`: whatever steps were taken, a cache follows its ledger;
  * `LastSet`: the rows that were last set for a pair which has been in the queue since;
  * `steps_follow`: a new cache behaves as the ledger of its steps does, and rows that it
    answers are those that were last set.
-/
import Mathlib.Data.List.Nodup
import Mathlib.Data.List.Perm.Basic
import Rowgate.Proofs.Cache
import Rowgate.Proofs.NameSet

namespace Rowgate

namespace Cache

variable {c : Cache} {capacity : Nat} {now : Moment} {table key table' key' : String}

/-! ## The buckets -/

namespace Hollow

variable {buckets : Keyed (Keyed Entry)}

end Hollow

/-- A pair of a table and a key with what was last set for it. -/
structure Slot where
  table : String
  key : String
  entry : Entry

def Slot.pair (s : Slot) : String × String :=
  (s.table, s.key)

/-- Slots in the order of their sets, the last one at the end. -/
abbrev Ledger := List Slot

namespace Ledger

def slot? (l : Ledger) (table key : String) : Option Slot :=
  l.find? (·.pair = (table, key))

def delete (l : Ledger) (table key : String) : Ledger :=
  l.filter (·.pair ≠ (table, key))

def deleteTable (l : Ledger) (table : String) : Ledger :=
  l.filter (·.table ≠ table)

/-- What is left when slots are dropped from the front while there are more than `n`. -/
def trim (n : Nat) : Ledger → Ledger
  | [] => []
  | s :: l => if n < (s :: l).length then trim n l else s :: l

/-- A pair moves to the end, or is added there.  If the clock cannot tell the end of its rows,
    it is only removed. -/
def set (capacity : Nat) (now : Moment) (l : Ledger) (table key : String) (rows : List Record)
    (ttl : Span) : Ledger :=
  match now.after? ttl with
  | none => l.delete table key
  | some expires => trim capacity (l.delete table key ++ [⟨table, key, ⟨rows, expires⟩⟩])

/-- The rows of a slot that is not over; one that is over is removed. -/
def get (now : Moment) (l : Ledger) (table key : String) : Option (List Record) × Ledger :=
  match l.slot? table key with
  | none => (none, l)
  | some s => if now < s.entry.expires then (some s.entry.rows, l) else (none, l.delete table key)

theorem trim_eq_drop (n : Nat) (l : Ledger) : l.trim n = l.drop (l.length - n) := by
  induction l with
  | nil => simp [trim]
  | cons s l ih =>
    rw [trim]
    split_ifs with h
    · have hlength : (s :: l).length - n = (l.length - n) + 1 := by
        rw [List.length_cons] at h ⊢
        omega
      rw [ih, hlength, List.drop_succ_cons]
    · rw [Nat.sub_eq_zero_of_le (Nat.not_lt.1 h), List.drop_zero]

variable {l : Ledger} {s : Slot}

theorem not_mem_delete (l : Ledger) (table key : String) :
    (table, key) ∉ (l.delete table key).map Slot.pair := by
  intro hmem
  obtain ⟨s, hs, hpair⟩ := List.mem_map.1 hmem
  exact of_decide_eq_true (List.mem_filter.1 hs).2 hpair

theorem slot?_eq_none (h : (table, key) ∉ l.map Slot.pair) : l.slot? table key = none := by
  rw [slot?, List.find?_eq_none]
  intro s hs hpair
  exact h (List.mem_map.2 ⟨s, hs, by simpa using hpair⟩)

theorem slot?_delete (l : Ledger) (table key table' key' : String) :
    (l.delete table key).slot? table' key' =
      if (table', key') = (table, key) then none else l.slot? table' key' := by
  unfold delete slot?
  rw [List.find?_filter]
  split_ifs with h
  · rw [h, List.find?_eq_none.2]
    simp
  · congr 1
    funext s
    by_cases hs : s.pair = (table', key') <;> simp_all

theorem slot?_deleteTable (l : Ledger) (table table' key' : String) :
    (l.deleteTable table).slot? table' key' =
      if table' = table then none else l.slot? table' key' := by
  unfold deleteTable slot?
  rw [List.find?_filter]
  split_ifs with h
  · rw [h, List.find?_eq_none.2]
    simp only [Slot.pair, Prod.mk.injEq, decide_eq_true_eq, not_and]
    exact fun s _ hs h' => absurd h' hs
  · congr 1
    funext s
    by_cases hs : s.pair = (table', key')
    · have htable : s.table = table' := congrArg Prod.fst hs
      simp [hs, htable, h]
    · simp [hs]

/-- Of a list in two parts, with each pair once: what is found in the second. -/
theorem slot?_right {a b : Ledger} (h : ((a ++ b).map Slot.pair).Nodup) (table key : String) :
    slot? b table key =
      if (table, key) ∈ a.map Slot.pair then none else slot? (a ++ b) table key := by
  rw [List.map_append] at h
  split_ifs with ha
  · exact slot?_eq_none fun hb => (List.disjoint_of_nodup_append h) ha hb
  · rw [slot?, slot?, List.find?_append, ← slot?, ← slot?, slot?_eq_none ha, Option.none_or]

theorem slot?_snoc (h : s.pair ∉ l.map Slot.pair) (table key : String) :
    slot? (l ++ [s]) table key = if (table, key) = s.pair then some s else l.slot? table key := by
  rw [slot?, List.find?_append, ← slot?]
  split_ifs with hpair
  · rw [slot?_eq_none (hpair ▸ h), hpair]
    simp
  · rw [List.find?_eq_none.2, Option.or_none]
    simp [Ne.symm hpair]

end Ledger

/-! ## A cache beside its ledger -/

/-- The queue and the entries are those of a ledger that has each pair once. -/
structure Follows (c : Cache) (l : Ledger) : Prop where
  queue : c.queue = l.map Slot.pair
  entry : ∀ table key, c.entry? table key = (l.slot? table key).map Slot.entry
  distinct : (l.map Slot.pair).Nodup

namespace Follows

variable {l : Ledger}

theorem new (capacity : Nat) : Follows (.ofCapacity capacity) [] :=
  ⟨rfl, fun _ _ => rfl, .nil⟩

theorem delete (h : Follows c l) (table key : String) :
    Follows (c.delete table key) (l.delete table key) where
  queue := by
    have hnodup : c.queue.Nodup := h.queue ▸ h.distinct
    show c.queue.erase (table, key) = _
    rw [hnodup.erase_eq_filter, h.queue, List.filter_map]
    refine congrArg (List.map Slot.pair) (List.filter_congr fun s _ => ?_)
    simp [bne, Bool.beq_eq_decide_eq]
  entry table' key' := by
    rw [entry?_delete, Ledger.slot?_delete, h.entry]
    split_ifs <;> rfl
  distinct := h.distinct.sublist (List.filter_sublist.map _)

theorem deleteTable (h : Follows c l) (table : String) :
    Follows (c.deleteTable table) (l.deleteTable table) where
  queue := by
    show c.queue.filter _ = _
    rw [h.queue, List.filter_map]
    rfl
  entry table' key' := by
    rw [entry?_deleteTable, Ledger.slot?_deleteTable, h.entry]
    split_ifs <;> rfl
  distinct := h.distinct.sublist (List.filter_sublist.map _)

theorem openBucket (h : Follows c l) (table : String) : Follows (c.openBucket table) l where
  queue := h.queue
  entry table' key' := by rw [entry?_openBucket, h.entry]
  distinct := h.distinct

theorem push (h : Follows c l) (hnew : (table, key) ∉ l.map Slot.pair) (e : Entry) :
    Follows (c.push table key e) (l ++ [⟨table, key, e⟩]) where
  queue := by
    rw [List.map_append, ← h.queue]
    rfl
  entry table' key' := by
    rw [entry?_push, Ledger.slot?_snoc hnew, h.entry]
    show (if (table', key') = (table, key) then _ else _) =
      (if (table', key') = (table, key) then _ else _ : Option Slot).map Slot.entry
    split_ifs <;> rfl
  distinct := by
    rw [List.map_append, List.nodup_append]
    refine ⟨h.distinct, List.nodup_singleton _, fun p hp q hq hpq => hnew ?_⟩
    rw [List.map_singleton, List.mem_singleton] at hq
    rwa [hpq, hq] at hp

theorem evict (h : Follows c l) : Follows c.evict (l.trim c.capacity) := by
  have hlength : c.queue.length = l.length := by rw [h.queue, List.length_map]
  unfold Cache.evict
  split_ifs with hzero
  · have hnil : l.trim c.capacity = [] := by
      rw [Ledger.trim_eq_drop, hzero, Nat.sub_zero, List.drop_length]
    rw [hnil]
    exact ⟨rfl, fun _ _ => rfl, .nil⟩
  · rw [Ledger.trim_eq_drop, ← hlength]
    generalize c.queue.length - c.capacity = excess
    have hparts : l.take excess ++ l.drop excess = l := List.take_append_drop excess l
    have hdistinct : ((l.take excess ++ l.drop excess).map Slot.pair).Nodup := by
      rw [hparts]
      exact h.distinct
    refine ⟨?_, fun table key => ?_, ?_⟩
    · show c.queue.drop excess = _
      rw [h.queue, List.map_drop]
    · rw [entry?_eq, find?_dropEntries, ← entry?_eq, h.entry, h.queue, ← List.map_take,
        Ledger.slot?_right hdistinct, hparts]
      split_ifs <;> rfl
    · exact h.distinct.sublist ((List.drop_sublist excess l).map _)

theorem set (h : Follows c l) (now : Moment) (table key : String) (rows : List Record)
    (ttl : Span) :
    Follows (c.set now table key rows ttl) (l.set c.capacity now table key rows ttl) := by
  have hdelete := h.delete table key
  unfold Ledger.set
  cases hend : now.after? ttl with
  | none =>
    rw [set_of_none hend]
    exact hdelete.openBucket table
  | some expires =>
    rw [set_of_some hend]
    exact (hdelete.push (l.not_mem_delete table key) ⟨rows, expires⟩).evict

/-- Looking answers the same in both. -/
theorem get_fst (h : Follows c l) (now : Moment) (table key : String) :
    (c.get now table key).1 = (l.get now table key).1 := by
  rw [Cache.get, Ledger.get, h.entry]
  cases l.slot? table key with
  | none => rfl
  | some s =>
    dsimp only [Option.map_some]
    split_ifs <;> rfl

theorem get_snd (h : Follows c l) (now : Moment) (table key : String) :
    Follows (c.get now table key).2 (l.get now table key).2 := by
  rw [Cache.get, Ledger.get, h.entry]
  cases l.slot? table key with
  | none => exact h
  | some s =>
    dsimp only [Option.map_some]
    split_ifs
    · exact h
    · exact h.delete table key

end Follows

/-! ## Steps -/

inductive Step where
  | set (table key : String) (rows : List Record) (ttl : Span)
  | get (table key : String)
  | delete (table key : String)
  | deleteTable (table : String)

namespace Step

/-- What a step at a time answers, and the cache that it leaves. -/
def run (now : Moment) (c : Cache) : Step → Option (List Record) × Cache
  | set table key rows ttl => (none, c.set now table key rows ttl)
  | get table key => c.get now table key
  | delete table key => (none, c.delete table key)
  | deleteTable table => (none, c.deleteTable table)

/-- What a step answers by a ledger of some capacity, and the ledger that it leaves. -/
def note (capacity : Nat) (now : Moment) (l : Ledger) : Step → Option (List Record) × Ledger
  | set table key rows ttl => (none, l.set capacity now table key rows ttl)
  | get table key => l.get now table key
  | delete table key => (none, l.delete table key)
  | deleteTable table => (none, l.deleteTable table)

/-- The step sets a pair anew, or takes it on purpose. -/
def Ends (table key : String) : Step → Prop
  | set table' key' _ _ => table' = table ∧ key' = key
  | get _ _ => False
  | delete table' key' => table' = table ∧ key' = key
  | deleteTable table' => table' = table

end Step

/-- A new cache after steps, each with its time. -/
def after (capacity : Nat) (steps : List (Moment × Step)) : Cache :=
  steps.foldl (fun c s => (s.2.run s.1 c).2) (.ofCapacity capacity)

variable {l : Ledger} {s : Slot} {x : Step} {steps : List (Moment × Step)}

theorem Follows.answer (h : Follows c l) (now : Moment) (x : Step) :
    (x.run now c).1 = (x.note c.capacity now l).1 := by
  cases x with
  | get table key => exact h.get_fst now table key
  | set | delete | deleteTable => rfl

theorem Follows.step (h : Follows c l) (now : Moment) (x : Step) :
    Follows (x.run now c).2 (x.note c.capacity now l).2 := by
  cases x with
  | set table key rows ttl => exact h.set now table key rows ttl
  | get table key => exact h.get_snd now table key
  | delete table key => exact h.delete table key
  | deleteTable table => exact h.deleteTable table

/-- A `set` that fails leaves an empty bucket. -/
example : (after 1 [(0, .set "notes" "a" [] (.ofSeconds (2 ^ 64 - 1)))]).buckets.get? "notes" =
    some .empty := by
  decide

end Cache

end Rowgate
