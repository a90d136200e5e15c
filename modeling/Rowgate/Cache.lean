/-
  A cache of read results.

  Entries live in one bucket per table, under the key of their request, until they
  expire.  A queue holds the pairs of table and key by the time of their last
  `set`; when it grows beyond the capacity, the oldest are dropped.  A `set` stops
  halfway when the clock cannot tell when the entry expires.
-/
import Rowgate.Span
import Rowgate.Value

namespace Rowgate

/-- Rows, and the time from which on they are no longer answered. -/
structure Cache.Entry where
  rows : List Record
  expires : Moment
deriving DecidableEq

structure Cache where
  capacity : Nat
  buckets : Keyed (Keyed Cache.Entry)
  queue : List (String × String)

namespace Cache

def ofCapacity (n : Nat) : Cache := ⟨n, .empty, []⟩

/-- The number of entries a cache holds unless told otherwise. -/
def standardCapacity : Nat := 1024

def size (c : Cache) : Nat :=
  (c.buckets.entries.map fun b => b.2.size).sum

def entry? (c : Cache) (table key : String) : Option Entry :=
  (c.buckets.get? table).bind (·.get? key)

/-- The buckets without one entry; a bucket that becomes empty goes too. -/
def dropEntry (buckets : Keyed (Keyed Entry)) (table key : String) : Keyed (Keyed Entry) :=
  match buckets.get? table with
  | none => buckets
  | some bucket =>
    let bucket := bucket.erase key
    if bucket.isEmpty then buckets.erase table else buckets.insert table bucket

def delete (c : Cache) (table key : String) : Cache :=
  { c with buckets := dropEntry c.buckets table key, queue := c.queue.erase (table, key) }

def deleteTable (c : Cache) (table : String) : Cache :=
  { c with buckets := c.buckets.erase table, queue := c.queue.filter (·.1 ≠ table) }

/-- Drops the oldest entries while there are more than the capacity; at capacity 0
    there are none. -/
def evict (c : Cache) : Cache :=
  if c.capacity = 0 then { c with buckets := .empty, queue := [] }
  else
    let excess := c.queue.length - c.capacity
    { c with
      buckets := (c.queue.take excess).foldl (fun b e => dropEntry b e.1 e.2) c.buckets
      queue := c.queue.drop excess }

/-- The rows under a key at a time; an expired entry is removed. -/
def get (now : Moment) (c : Cache) (table key : String) : Option (List Record) × Cache :=
  match c.entry? table key with
  | none => (none, c)
  | some e => if now < e.expires then (some e.rows, c) else (none, c.delete table key)

/-- Puts rows under a key as the newest entry, to live for `ttl`.

    The end of their life is told when the entry before them is gone and the bucket of the table
    is there.  If the clock does not go that far, this is where the call stops, for good: there
    is no entry, and a bucket that is new stays empty. -/
def set (now : Moment) (c : Cache) (table key : String) (rows : List Record) (ttl : Span) :
    Cache :=
  let c := c.delete table key
  let bucket := (c.buckets.get? table).getD .empty
  match now.after? ttl with
  | none => { c with buckets := c.buckets.insert table bucket }
  | some expires =>
    evict { c with
      buckets := c.buckets.insert table (bucket.insert key ⟨rows, expires⟩)
      queue := c.queue ++ [(table, key)] }

end Cache

end Rowgate
