/-
  Values bound to a column of a matching type are read back.

  * `Value.Matching`: a value and a type that matches it;
  * `Value.Sendable`: a list whose items, and the bytes of each, can be counted in four bytes;
  * `Value.ReadBack`: what is read, the value itself or the canonical forms of identifiers;
  * `matching_spec`: what matches and can be sent is bound and read back, and a longer list is
    refused, as is an integer outside of a narrow type.
-/
import Mathlib.Data.List.Forall2
import Rowgate.Proofs.Column.Bytes
import Rowgate.Proofs.Uuid

namespace Rowgate.Value

/-! ## Reading -/

variable {t : BaseType} {n : Int}

section

variable {c : ColumnType} {read : List UInt8 → Option Value} {bytes : List UInt8}

/-- What the reader of a type makes of some bytes is what they are decoded to. -/
theorem decode_of_reader {v : Value} (hreader : reader? c = some read)
    (hread : read bytes = some v) : decode c (some bytes) = .ok v := by
  unfold decode
  rw [hreader]
  dsimp only
  rw [hread]

theorem decode_malformed (hreader : reader? c = some read) (hread : read bytes = none) :
    decode c (some bytes) = .error .malformed := by
  unfold decode
  rw [hreader]
  dsimp only
  rw [hread]

end

theorem decode_bool (b : Bool) : decode (.base .bool) (some [if b then 1 else 0]) = .ok (bool b) :=
  decode_of_reader rfl (congrArg _ (Bytes.bool?_byte b))

theorem decode_int2 (lo : -(2 ^ 15) ≤ n) (hi : n < 2 ^ 15) :
    decode (.base .int2) (some (Bytes.ofInt 2 n)) = .ok (integer (.ofInt n)) :=
  decode_of_reader rfl (congrArg _ (Bytes.signed?_ofInt 2 n (by omega) (by omega)))

theorem decode_int4 (lo : -(2 ^ 31) ≤ n) (hi : n < 2 ^ 31) :
    decode (.base .int4) (some (Bytes.ofInt 4 n)) = .ok (integer (.ofInt n)) :=
  decode_of_reader rfl (congrArg _ (Bytes.signed?_ofInt 4 n (by omega) (by omega)))

theorem decode_int8 (lo : -(2 ^ 63) ≤ n) (hi : n < 2 ^ 63) :
    decode (.base .int8) (some (Bytes.ofInt 8 n)) = .ok (integer (.ofInt n)) :=
  decode_of_reader rfl (congrArg _ (Bytes.signed?_ofInt 8 n (by omega) (by omega)))

theorem decode_float8 (x : Double) : decode (.base .float8) (some x.toBytes) = .ok (float x) :=
  decode_of_reader rfl (congrArg _ (Bytes.double?_toBytes x))

theorem decode_float4 (bits : UInt32) :
    decode (.base .float4) (some (Bytes.ofNat 4 bits.toNat)) = .ok (float (.ofSingle bits)) :=
  decode_of_reader rfl (congrArg _ (Bytes.single?_ofNat bits))

theorem reader_text (h : t.isText) :
    reader? (.base t) = some fun b => (Text.ofUtf8? b).map string := by
  cases t <;> first | exact absurd h (by decide) | rfl

theorem decode_text (h : t.isText) (s : String) :
    decode (.base t) (some (Text.utf8 s)) = .ok (string s) :=
  decode_of_reader (reader_text h) (congrArg _ (Text.ofUtf8?_utf8 s))

theorem decode_uuid (u : Uuid) : decode (.base .uuid) (some u.bytes) = .ok (string u.text) :=
  decode_of_reader rfl (congrArg _ (Uuid.ofBytes?_bytes u))

/-- The two types of instants. -/
def IsInstant (t : BaseType) : Prop :=
  t = .timestamptz ∨ t = .timestamp

theorem reader_instant (h : IsInstant t) :
    reader? (.base t) = some fun b => (Bytes.instant? b).map timestamp := by
  rcases h with rfl | rfl <;> rfl

theorem decode_instant (h : IsInstant t) {i i' : Instant}
    (hread : Instant.ofMicrosFromEpoch2000? i.microsFromEpoch2000 = some i') :
    decode (.base t) (some i.toBytes) = .ok (timestamp i') := by
  have hbytes : Bytes.instant? i.toBytes = some i' := (Bytes.instant?_toBytes i).trans hread
  exact decode_of_reader (reader_instant h) (congrArg _ hbytes)

/-- The two array types that are read as lists of texts. -/
def IsTexts (t : BaseType) : Prop :=
  t = .text ∨ t = .varchar

theorem reader_texts (h : IsTexts t) :
    reader? (.array t) = some fun b => (Bytes.array? Text.ofUtf8? b).map stringArray := by
  rcases h with rfl | rfl <;> rfl

theorem decode_texts (h : IsTexts t) {items : List String}
    (hcount : Bytes.Countable (items.map Text.utf8)) :
    decode (.array t) (some (Bytes.ofItems t (items.map Text.utf8))) = .ok (stringArray items) :=
  decode_of_reader (reader_texts h)
    (congrArg _ (Bytes.array?_ofItems_self t hcount Text.ofUtf8?_utf8))

theorem decode_uuids {ids : List Uuid} (hcount : Bytes.Countable (ids.map Uuid.bytes)) :
    decode (.array .uuid) (some (Bytes.ofItems .uuid (ids.map Uuid.bytes))) =
      .ok (stringArray (ids.map Uuid.text)) :=
  decode_of_reader rfl (congrArg _ (Bytes.array?_ofItems_self .uuid hcount Uuid.ofBytes?_bytes))

theorem decode_doubles {items : List Double} (hcount : Bytes.Countable (items.map Double.toBytes)) :
    decode (.array .float8) (some (Bytes.ofItems .float8 (items.map Double.toBytes))) =
      .ok (numericArray items) :=
  decode_of_reader rfl (congrArg _ (Bytes.array?_ofItems_self .float8 hcount Bytes.double?_toBytes))

/-! ## Lists that are sent -/

/-- A list of fewer than `2^31` items, and each text of fewer than `2^31` bytes; what is no list
    is always sent. -/
def Sendable : ColumnType → Value → Prop
  | .array .uuid, stringArray items => items.length < 2 ^ 31
  | _, stringArray items => items.length < 2 ^ 31 ∧ ∀ s ∈ items, (Text.utf8 s).length < 2 ^ 31
  | _, numericArray items => items.length < 2 ^ 31
  | _, _ => True

theorem countable_texts {items : List String} : Bytes.Countable (items.map Text.utf8) ↔
    items.length < 2 ^ 31 ∧ ∀ s ∈ items, (Text.utf8 s).length < 2 ^ 31 := by
  simp [Bytes.Countable]

theorem countable_uuids {ids : List Uuid} :
    Bytes.Countable (ids.map Uuid.bytes) ↔ ids.length < 2 ^ 31 := by
  simp [Bytes.Countable, Uuid.size]

/-- Numbers have eight bytes or four. -/
theorem length_encodeItem (x : Double) (t : ColumnType) : (encodeItem x t).length < 2 ^ 31 := by
  unfold encodeItem
  split <;> simp [Double.toBytes, Double.toSingleBytes]

theorem countable_numbers {items : List Double} {t : ColumnType} :
    Bytes.Countable (items.map fun x => encodeItem x t) ↔ items.length < 2 ^ 31 := by
  have hitem := length_encodeItem (t := t)
  simp only [Bytes.Countable, List.length_map, List.forall_mem_map, hitem, implies_true, and_true]

/-- Items that can be counted are written as an array, and others are refused. -/
theorem array_countable (t : BaseType) {items : List (List UInt8)} (h : Bytes.Countable items) :
    Bytes.array items (.array t) = .ok (Bytes.ofItems t items) :=
  if_pos h

theorem array_uncountable (t : BaseType) {items : List (List UInt8)} (h : ¬ Bytes.Countable items) :
    Bytes.array items (.array t) = .error .unfit :=
  if_neg h

/-! ## Matching types -/

variable {c : ColumnType} {v w : Value}

/-- A value and a column type that matches it. -/
inductive Matching : ColumnType → Value → Prop
  | bool (b : Bool) : Matching (.base .bool) (bool b)
  | int2 (n : Int64) (lo : -(2 ^ 15) ≤ n.toInt) (hi : n.toInt < 2 ^ 15) :
      Matching (.base .int2) (integer n)
  | int4 (n : Int64) (lo : -(2 ^ 31) ≤ n.toInt) (hi : n.toInt < 2 ^ 31) :
      Matching (.base .int4) (integer n)
  | int8 (n : Int64) : Matching (.base .int8) (integer n)
  | float (x : Double) : Matching (.base .float8) (float x)
  | instant {t : BaseType} (ht : IsInstant t) (i : Instant) (hi : i.WholeMicros) :
      Matching (.base t) (timestamp i)
  | text {t : BaseType} (ht : t.isText) (s : String) : Matching (.base t) (string s)
  | uuid (s : String) (hs : (Uuid.read? s).isSome) : Matching (.base .uuid) (string s)
  | texts {t : BaseType} (ht : IsTexts t) (items : List String) :
      Matching (.array t) (stringArray items)
  | uuids (items : List String) (h : ∀ s ∈ items, (Uuid.read? s).isSome) :
      Matching (.array .uuid) (stringArray items)
  | doubles (items : List Double) : Matching (.array .float8) (numericArray items)

/-- What a matching value is read back as: the value itself, an identifier in canonical form. -/
inductive ReadBack : ColumnType → Value → Value → Prop
  | self {c : ColumnType} (h : c ≠ .base .uuid) (h' : c ≠ .array .uuid) (v : Value) : ReadBack c v v
  | uuid {s s' : String} (h : Uuid.CanonicalOf s s') : ReadBack (.base .uuid) (string s) (string s')
  | uuids {items items' : List String} (h : List.Forall₂ Uuid.CanonicalOf items items') :
      ReadBack (.array .uuid) (stringArray items) (stringArray items')

/-- An integer outside of a narrow type. -/
inductive Outside : ColumnType → Value → Prop
  | int2 (n : Int64) (h : n.toInt < -(2 ^ 15) ∨ 2 ^ 15 ≤ n.toInt) : Outside (.base .int2) (integer n)
  | int4 (n : Int64) (h : n.toInt < -(2 ^ 31) ∨ 2 ^ 31 ≤ n.toInt) : Outside (.base .int4) (integer n)

/-- A value is bound to a column, and what is bound is read as such a value. -/
def Bound (c : ColumnType) (v : Value) (P : Value → Prop) : Prop :=
  ∃ bytes w, encode c v = .ok (some bytes) ∧ decode c (some bytes) = .ok w ∧ P w

theorem forall₂_canonicalOf {items : List String} (h : ∀ s ∈ items, (Uuid.read? s).isSome) :
    ∃ ids, items.mapM Uuid.read? = some ids ∧ ids.length = items.length ∧
      List.Forall₂ Uuid.CanonicalOf items (ids.map Uuid.text) := by
  induction items with
  | nil => exact ⟨[], rfl, rfl, .nil⟩
  | cons s items ih =>
    obtain ⟨hs, hitems⟩ := List.forall_mem_cons.1 h
    obtain ⟨u, hu⟩ := Option.isSome_iff_exists.1 hs
    obtain ⟨ids, hids, hlength, hcanonical⟩ := ih hitems
    refine ⟨u :: ids, ?_, congrArg (· + 1) hlength, .cons (Uuid.canonicalOf_text hu) hcanonical⟩
    rw [List.mapM_cons, hu, hids]
    rfl

/-- A value that matches and can be sent is bound and read back. -/
theorem bound_of_matching (h : Matching c v) (hsend : v.Sendable c) : Bound c v (ReadBack c v) := by
  cases h with
  | bool b => exact ⟨_, _, rfl, decode_bool b, .self (by decide) (by decide) _⟩
  | int2 n lo hi =>
    refine ⟨_, _, congrArg fitting (if_pos ⟨lo, hi⟩), decode_int2 lo hi, ?_⟩
    rw [Int64.ofInt_toInt]
    exact .self (by decide) (by decide) _
  | int4 n lo hi =>
    refine ⟨_, _, congrArg fitting (if_pos ⟨lo, hi⟩), decode_int4 lo hi, ?_⟩
    rw [Int64.ofInt_toInt]
    exact .self (by decide) (by decide) _
  | int8 n =>
    refine ⟨_, _, rfl, decode_int8 n.le_toInt n.toInt_lt, ?_⟩
    rw [Int64.ofInt_toInt]
    exact .self (by decide) (by decide) _
  | float x => exact ⟨_, _, rfl, decode_float8 x, .self (by decide) (by decide) _⟩
  | @instant t ht i hi =>
    have hencode : encodeTimestamp i (.base t) = i.toBytes := by
      rcases ht with rfl | rfl <;> rfl
    refine ⟨_, _, rfl, ?_, .self (fun hc => ?_) (fun hc => ?_) _⟩
    · rw [hencode]
      exact decode_instant ht (Instant.ofMicros_self hi)
    · cases hc
      rcases ht with ht | ht <;> cases ht
    · cases hc
  | @text t ht s =>
    have hencode : encodeString? s (.base t) = some (Text.utf8 s) := by
      cases t <;> first | exact absurd ht (by decide) | rfl
    refine ⟨_, _, congrArg fitting hencode, decode_text ht s, .self (fun hc => ?_) (fun hc => ?_) _⟩
    · cases hc
      cases ht
    · cases hc
  | uuid s hs =>
    obtain ⟨u, hu⟩ := Option.isSome_iff_exists.1 hs
    have hencode : encodeString? s (.base .uuid) = some u.bytes := by
      rw [encodeString?, hu, Option.map_some]
    exact ⟨_, _, congrArg fitting hencode, decode_uuid u, .uuid (Uuid.canonicalOf_text hu)⟩
  | @texts t ht items =>
    have hcount : Bytes.Countable (items.map Text.utf8) := by
      rcases ht with rfl | rfl <;> exact countable_texts.2 hsend
    have hencode : encodeStrings items (.array t) = .ok (Bytes.ofItems t (items.map Text.utf8)) := by
      rcases ht with rfl | rfl <;> exact array_countable _ hcount
    refine ⟨_, _, congrArg (Except.map some) hencode, decode_texts ht hcount,
      .self (fun hc => ?_) (fun hc => ?_) _⟩
    · cases hc
    · cases hc
      rcases ht with ht | ht <;> cases ht
  | uuids items hitems =>
    obtain ⟨ids, hids, hlength, hcanonical⟩ := forall₂_canonicalOf hitems
    have hcount : Bytes.Countable (ids.map Uuid.bytes) :=
      countable_uuids.2 (by rw [hlength]; exact hsend)
    have hencode : encodeStrings items (.array .uuid) =
        .ok (Bytes.ofItems .uuid (ids.map Uuid.bytes)) := by
      rw [encodeStrings, hids]
      exact array_countable _ hcount
    exact ⟨_, _, congrArg (Except.map some) hencode, decode_uuids hcount, .uuids hcanonical⟩
  | doubles items =>
    have hcount : Bytes.Countable (items.map Double.toBytes) :=
      countable_numbers (t := .array .float8).2 hsend
    have hencode : encodeNumbers items (.array .float8) =
        .ok (Bytes.ofItems .float8 (items.map Double.toBytes)) := array_countable _ hcount
    exact ⟨_, _, congrArg (Except.map some) hencode, decode_doubles hcount,
      .self (by decide) (by decide) _⟩

/-- A list that cannot be sent is refused. -/
theorem encode_not_sendable (h : Matching c v) (hsend : ¬ v.Sendable c) :
    encode c v = .error .unfit := by
  cases h with
  | bool | int2 | int4 | int8 | float | instant | text | uuid => exact absurd trivial hsend
  | @texts t ht items =>
    have hcount : ¬ Bytes.Countable (items.map Text.utf8) := fun hcount =>
      hsend (by rcases ht with rfl | rfl <;> exact countable_texts.1 hcount)
    have hencode : encodeStrings items (.array t) = .error .unfit := by
      rcases ht with rfl | rfl <;> exact array_uncountable _ hcount
    exact congrArg (Except.map some) hencode
  | uuids items hitems =>
    obtain ⟨ids, hids, hlength, -⟩ := forall₂_canonicalOf hitems
    have hcount : ¬ Bytes.Countable (ids.map Uuid.bytes) := fun hcount => hsend (by
      have hlt := countable_uuids.1 hcount
      rw [hlength] at hlt
      exact hlt)
    have hencode : encodeStrings items (.array .uuid) = .error .unfit := by
      rw [encodeStrings, hids]
      exact array_uncountable _ hcount
    exact congrArg (Except.map some) hencode
  | doubles items =>
    have hcount : ¬ Bytes.Countable (items.map Double.toBytes) := fun hcount =>
      hsend (countable_numbers (t := .array .float8).1 hcount)
    have hencode : encodeNumbers items (.array .float8) = .error .unfit :=
      array_uncountable _ hcount
    exact congrArg (Except.map some) hencode

theorem encode_outside (h : Outside c v) : encode c v = .error .unfit := by
  cases h with
  | int2 n hn => exact congrArg fitting (if_neg (by omega))
  | int4 n hn => exact congrArg fitting (if_neg (by omega))

/-- **A value that matches the type of a column is bound and read back.**  A list that is too
    long to be counted is refused, as is an integer outside of a narrow type. -/
theorem matching_spec (c : ColumnType) (v : Value) :
    (Matching c v → v.Sendable c → Bound c v (ReadBack c v)) ∧
      (Matching c v → ¬ v.Sendable c → encode c v = .error .unfit) ∧
      (Outside c v → encode c v = .error .unfit) :=
  ⟨bound_of_matching, encode_not_sendable, encode_outside⟩

/-- An empty list of texts, one with an empty text, and an integer beyond two bytes. -/
theorem matching_spec_empty :
    Bound (.array .text) (stringArray []) (ReadBack (.array .text) (stringArray [])) ∧
      Bound (.array .varchar) (stringArray [""]) (ReadBack (.array .varchar) (stringArray [""])) ∧
      encode (.base .int2) (integer 32768) = .error .unfit :=
  ⟨(matching_spec _ _).1 (.texts (.inl rfl) []) ⟨by decide, by simp⟩,
    (matching_spec _ _).1 (.texts (.inr rfl) [""]) ⟨by decide, by simp; decide⟩,
    (matching_spec _ _).2.2 (.int2 32768 (by decide))⟩

end Rowgate.Value
