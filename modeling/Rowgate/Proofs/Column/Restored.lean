/-
  What is read from a column and bound to it again.

  * `ofInt_of_signed?`, `utf8_of_ofUtf8?`, `bytes_of_ofBytes?`, `toBytes_of_instant?`: what was
    read is written as the bytes that it was read from;
  * `arrayItems?_countable`, `array?_eq_some`: so are the items of an array;
  * `toWord_ofInt_iff`: the integers that a double keeps;
  * `column_restored`: every column that is read comes back item by item, but for lists of
    integers of eight bytes, whose items pass through doubles.
-/
import Rowgate.Proofs.Column.Denotes

namespace Rowgate

/-! ## Bytes -/

namespace Bytes

variable {width : Nat} {n : Int} {bytes : List UInt8}

theorem toNat_lt (bytes : List UInt8) : toNat bytes < 256 ^ bytes.length := by
  induction bytes using List.reverseRecOn with
  | nil => decide
  | append_singleton bytes b ih =>
    have hb := b.toNat_lt
    rw [toNat_append_singleton, List.length_append, List.length_singleton, Nat.pow_succ]
    omega

theorem ofNat_toNat (bytes : List UInt8) : ofNat bytes.length (toNat bytes) = bytes := by
  induction bytes using List.reverseRecOn with
  | nil => rfl
  | append_singleton bytes b ih =>
    have hb := b.toNat_lt
    have hhead : (256 * toNat bytes + b.toNat) / 256 = toNat bytes := by omega
    have hlast : UInt8.ofNat (256 * toNat bytes + b.toNat) = b := by
      refine UInt8.toNat_inj.1 ?_
      rw [UInt8.toNat_ofNat']
      omega
    rw [toNat_append_singleton, List.length_append, List.length_singleton, ofNat, hhead, hlast, ih]

theorem toInt_bounds (bytes : List UInt8) :
    -(256 ^ bytes.length) ≤ 2 * toInt bytes ∧ 2 * toInt bytes < 256 ^ bytes.length := by
  have hlt := toNat_lt bytes
  have hcast : ((256 ^ bytes.length : Nat) : Int) = 256 ^ bytes.length := by simp
  unfold toInt
  dsimp only
  split_ifs <;> omega

theorem ofInt_toInt (bytes : List UInt8) : ofInt bytes.length (toInt bytes) = bytes := by
  have hlt := toNat_lt bytes
  have hcast : ((256 ^ bytes.length : Nat) : Int) = 256 ^ bytes.length := by simp
  have hmod : toInt bytes % 256 ^ bytes.length = toNat bytes := by
    unfold toInt
    dsimp only
    split_ifs
    · exact Int.emod_eq_of_lt (by omega) (by omega)
    · rw [Int.sub_emod_right]
      exact Int.emod_eq_of_lt (by omega) (by omega)
  rw [ofInt, hmod, Int.toNat_natCast, ofNat_toNat]

/-- A number is written as the bytes that it was read from. -/
theorem ofInt_of_signed? (h : signed? width bytes = some n) :
    ofInt width n = bytes ∧ -(256 ^ width) ≤ 2 * n ∧ 2 * n < 256 ^ width := by
  unfold signed? exactly? at h
  split_ifs at h with hlength
  · cases h
    subst hlength
    exact ⟨ofInt_toInt bytes, toInt_bounds bytes⟩
  · cases h

theorem toBytes_of_instant? {t : Instant} (h : instant? bytes = some t) : t.toBytes = bytes := by
  obtain ⟨n, hn, ht⟩ := Option.bind_eq_some_iff.1 h
  rw [Instant.toBytes, Instant.micros_of_ofMicros ht]
  exact (ofInt_of_signed? hn).1

/-! ## Arrays -/

variable {count : Nat} {rest : List UInt8} {items : List (List UInt8)}

theorem int32?_lt (h : int32? bytes = some (n, rest)) : n < 2 ^ 31 := by
  obtain ⟨⟨number, rest'⟩, htake, heq⟩ := Option.map_eq_some_iff.1 h
  unfold take? at htake
  split_ifs at htake with hlength
  cases htake
  cases heq
  have hbounds := (toInt_bounds (bytes.take 4)).2
  rw [List.length_take_of_le hlength] at hbounds
  omega

theorem length_of_take? {part : List UInt8} (h : take? count bytes = some (part, rest)) :
    part.length = count := by
  unfold take? at h
  split_ifs at h with hlength
  cases h
  exact List.length_take_of_le hlength

theorem items?_countable (h : items? count bytes = some items) :
    items.length = count ∧ ∀ item ∈ items, item.length < 2 ^ 31 := by
  induction count generalizing bytes items with
  | zero =>
    unfold items? at h
    split_ifs at h
    cases h
    exact ⟨rfl, List.forall_mem_nil _⟩
  | succ count ih =>
    obtain ⟨⟨size, rest⟩, hsize, h⟩ := Option.bind_eq_some_iff.1 h
    dsimp only at h
    split_ifs at h with hneg
    obtain ⟨⟨item, rest'⟩, hitem, h⟩ := Option.bind_eq_some_iff.1 h
    obtain ⟨items', hitems, h⟩ := Option.bind_eq_some_iff.1 h
    cases h
    obtain ⟨hlength, hall⟩ := ih hitems
    have hlt : size < 2 ^ 31 := int32?_lt hsize
    have hfirst : item.length = size.toNat := length_of_take? hitem
    have hbound : item.length < 2 ^ 31 := by omega
    exact ⟨congrArg (· + 1) hlength, List.forall_mem_cons.2 ⟨hbound, hall⟩⟩

/-- The items of an array that is read can be counted. -/
theorem arrayItems?_countable (h : arrayItems? bytes = some items) : Countable items := by
  obtain ⟨⟨dimensions, rest⟩, -, h⟩ := Option.bind_eq_some_iff.1 h
  obtain ⟨⟨header, rest'⟩, -, h⟩ := Option.bind_eq_some_iff.1 h
  dsimp only at h
  split_ifs at h with hnone hone
  · obtain ⟨hlength, hall⟩ := items?_countable h
    exact ⟨by omega, hall⟩
  · obtain ⟨⟨count, rest''⟩, hcount, h⟩ := Option.bind_eq_some_iff.1 h
    obtain ⟨⟨bound, rest'''⟩, -, h⟩ := Option.bind_eq_some_iff.1 h
    dsimp only at h
    split_ifs at h with hneg
    obtain ⟨hlength, hall⟩ := items?_countable h
    have hlt := int32?_lt hcount
    exact ⟨by omega, hall⟩

/-- An array has the items that its values are written as. -/
theorem array?_eq_some {α : Type} {read : List UInt8 → Option α} {write : α → List UInt8}
    {xs : List α} (hwrite : ∀ item x, read item = some x → write x = item)
    (h : array? read bytes = some xs) :
    arrayItems? bytes = some (xs.map write) ∧ Countable (xs.map write) ∧
      ∀ x ∈ xs, read (write x) = some x := by
  obtain ⟨items, hitems, hread⟩ := Option.bind_eq_some_iff.1 h
  have hall := mapM_some_forall₂ hread
  have heq : xs.map write = items := by
    clear hread hitems h
    induction hall with
    | nil => rfl
    | cons hx _ ih => rw [List.map_cons, hwrite _ _ hx, ih]
  rw [heq]
  refine ⟨hitems, arrayItems?_countable hitems, fun x hx => ?_⟩
  obtain ⟨item, -, hitem⟩ := forall₂_exists_right hall.flip hx
  rw [hwrite _ _ hitem, hitem]

end Bytes

/-! ## Texts and identifiers -/

theorem Text.utf8_of_ofUtf8? {bytes : List UInt8} {s : String} (h : ofUtf8? bytes = some s) :
    utf8 s = bytes := by
  unfold ofUtf8? String.fromUTF8? at h
  split_ifs at h
  cases h
  rfl

theorem Uuid.bytes_of_ofBytes? {bytes : List UInt8} {u : Uuid} (h : ofBytes? bytes = some u) :
    u.bytes = bytes := by
  unfold ofBytes? at h
  split_ifs at h
  cases h
  rfl

/-! ## Integers as doubles -/

namespace Double

open BinaryFormat

variable {x : Double} {bits : Nat} {n k : Int}

/-- The double of an integer in the range of a word has that integer as its whole part. -/
theorem Word.eq_of_value (h : x.Word bits k) (hx : x.value? = some (n : ℚ))
    (hlo : -(2 ^ (bits - 1)) ≤ n) (hhi : n < 2 ^ (bits - 1)) : k = n := by
  cases h with
  | whole hq hle hlt =>
    cases hx.symm.trans hq
    have hint : |n - k| < 1 := by exact_mod_cast hlt
    have := abs_lt.1 hint
    omega
  | above hq hge =>
    cases hx.symm.trans hq
    have hint : 2 ^ (bits - 1) ≤ n := by exact_mod_cast hge
    omega
  | below hq hlt =>
    cases hx.symm.trans hq
    have hint : n < -(2 ^ (bits - 1)) := by exact_mod_cast hlt
    omega
  | infinite hd =>
    rw [value?, hd] at hx
    cases hx
  | nan hd =>
    rw [value?, hd] at hx
    cases hx

theorem toWord_ofInt (h : binary64.Has n) (hlo : -(2 ^ (bits - 1)) ≤ n)
    (hhi : n < 2 ^ (bits - 1)) : (ofInt n).toWord bits = n :=
  (toWord_spec bits (ofInt n)).eq_of_value ((ofInt_rounds n).eq_of_has h) hlo hhi

/-- Doubles from `2^53` on are whole numbers. -/
theorem exists_int_of_has {y : ℚ} (h : binary64.Has y) (hy : 2 ^ 53 < |y|) : ∃ k : Int, y = k := by
  obtain ⟨negative, m, e, hm, rfl⟩ := h
  have hwidth : (m : ℚ) < 2 ^ 53 := by exact_mod_cast hm.width
  have hpos := Decimal.two_zpow_pos e
  have habs : |scaled negative m e| = m * 2 ^ e := by
    have hvalue : (0 : ℚ) ≤ m * 2 ^ e := mul_nonneg (Nat.cast_nonneg _) hpos.le
    cases negative <;> simp [scaled, abs_of_nonneg hvalue]
  have he : 0 ≤ e := by
    by_contra hneg
    have hle : (2 : ℚ) ^ e ≤ 1 := zpow_le_one_of_nonpos₀ (by norm_num) (by omega)
    have hsmall : (m : ℚ) * 2 ^ e ≤ m * 1 := mul_le_mul_of_nonneg_left hle (Nat.cast_nonneg _)
    linarith
  obtain ⟨j, rfl⟩ := Int.eq_ofNat_of_zero_le he
  refine ⟨if negative then -(m * 2 ^ j) else m * 2 ^ j, ?_⟩
  cases negative <;> simp [scaled]

/-- The least integer of 64 bits is a double. -/
theorem has_least : binary64.Has ((-(2 ^ 63) : Int) : ℚ) := by
  have hhas := has_scaled (f := binary64) (m := 2 ^ 52) (e := 11) true (by decide) (by decide)
    (by decide)
  convert hhas using 1
  norm_num [scaled]

theorem has_of_value? {q : ℚ} (h : (ofInt n).value? = some q) : binary64.Has q := by
  cases ofInt_rounds n with
  | finite hx hy =>
    cases h.symm.trans hx
    exact hy.has
  | infinite hx =>
    rw [value?, hx] at h
    cases h

/-- An integer of 64 bits comes back from its double if it is one of the doubles, and the
    greatest does, as the range ends there. -/
theorem toWord_ofInt_iff (hlo : -(2 ^ 63) ≤ n) (hhi : n < 2 ^ 63) :
    (ofInt n).toWord 64 = n ↔ binary64.Has n ∨ n = 2 ^ 63 - 1 := by
  constructor
  · intro hsame
    by_cases hsmall : n.natAbs ≤ 2 ^ 53
    · exact .inl (has_int hsmall)
    have hbig : (2 : ℚ) ^ 53 < |(n : ℚ)| := by
      have hint : (2 : ℤ) ^ 53 < |n| := by
        rw [Int.abs_eq_natAbs]
        omega
      exact_mod_cast hint
    have hword := toWord_spec 64 (ofInt n)
    rw [hsame] at hword
    cases hword with
    | @whole q hx hle hlt =>
      obtain ⟨k, rfl⟩ := exists_int_of_has (has_of_value? hx) (hbig.trans_le hle)
      have hint : |k - n| < 1 := by exact_mod_cast hlt
      have hbounds := abs_lt.1 hint
      obtain rfl : k = n := by omega
      exact .inl (has_of_value? hx)
    | above hx hq hn => exact .inr hn
    | below hx hq hn =>
      rw [hn]
      exact .inl has_least
    | @infinite negative hx hn =>
      cases negative with
      | true =>
        rw [hn]
        exact .inl has_least
      | false => exact .inr hn
    | nan hx hn =>
      subst hn
      exact absurd (by decide) hsmall
  · rintro (h | rfl)
    · exact toWord_ofInt h hlo hhi
    · decide +kernel

end Double

/-! ## Columns -/

namespace Value

open BinaryFormat

/-- The types that are read, but for those of floats and documents. -/
def restorable : List ColumnType :=
  [.base .bool, .base .int2, .base .int4, .base .int8, .base .text, .base .varchar, .base .bpchar,
    .base .name, .base .uuid, .base .timestamptz, .base .timestamp, .array .text, .array .varchar,
    .array .uuid, .array .int4, .array .int8]

/-- The form that the server writes: a truth value is one of two bytes. -/
def Canonical (c : ColumnType) (bytes : List UInt8) : Prop :=
  c = .base .bool → bytes = [0] ∨ bytes = [1]

/-- The bytes of the values in a column: those of the items of an array, else its own. -/
def contents? : ColumnType → List UInt8 → Option (List (List UInt8))
  | .base _, bytes => some [bytes]
  | .array _, bytes => Bytes.arrayItems? bytes

/-- A value in a column, and what is written for it again. -/
inductive Kept : ColumnType → List UInt8 → List UInt8 → Prop
  | self {c : ColumnType} (hc : c ≠ .array .int8) (item : List UInt8) : Kept c item item
  /-- A nearest double, its whole part held within eight bytes. -/
  | double {item item' : List UInt8} {n n' : Int} {x : Double}
      (hn : Bytes.signed? 8 item = some n) (hn' : Bytes.signed? 8 item' = some n')
      (hx : x.Rounds binary64 n) (hword : x.Word 64 n')
      (hsame : n' = n ↔ binary64.Has n ∨ n = 2 ^ 63 - 1) : Kept (.array .int8) item item'

/-- The value that is read from a column can be bound to it, and then the column has the same
    values, or those that are kept of them. -/
def Restored (c : ColumnType) (bytes : List UInt8) (v : Value) : Prop :=
  ∃ out items items', encode c v = .ok (some out) ∧ contents? c bytes = some items ∧
    contents? c out = some items' ∧ List.Forall₂ (Kept c) items items'

variable {c : ColumnType} {t : BaseType} {v : Value} {bytes : List UInt8} {w : Nat}

theorem read_of_decode {read : List UInt8 → Option Value} (hreader : reader? c = some read)
    (h : decode c (some bytes) = .ok v) : read bytes = some v := by
  unfold decode at h
  rw [hreader] at h
  dsimp only at h
  split at h
  · cases h
    assumption
  · cases h

theorem restored_base (h : encode (.base t) v = .ok (some bytes)) : Restored (.base t) bytes v :=
  have hc : ColumnType.base t ≠ .array .int8 := nofun
  ⟨bytes, [bytes], [bytes], h, rfl, rfl, .cons (.self hc bytes) .nil⟩

/-- An array that is written item by item, as it was read. -/
theorem restored_array {α : Type} {xs : List α} {write write' : α → List UInt8}
    (hitems : Bytes.arrayItems? bytes = some (xs.map write))
    (hcount : Bytes.Countable (xs.map write'))
    (hencode : encode (.array t) v = .ok (some (Bytes.ofItems t (xs.map write'))))
    (hkept : ∀ x ∈ xs, Kept (.array t) (write x) (write' x)) : Restored (.array t) bytes v := by
  refine ⟨_, _, _, hencode, hitems, Bytes.arrayItems?_ofItems t hcount, ?_⟩
  rw [List.forall₂_map_left_iff, List.forall₂_map_right_iff]
  exact List.forall₂_same.2 hkept

theorem restored_bool (hcanonical : Canonical (.base .bool) bytes)
    (h : decode (.base .bool) (some bytes) = .ok v) : Restored (.base .bool) bytes v := by
  obtain ⟨b, hb, rfl⟩ := Option.map_eq_some_iff.1 (read_of_decode rfl h)
  rcases hcanonical rfl with rfl | rfl <;>
    cases hb <;> exact restored_base rfl

theorem restored_word (ht : width? t = some w) (h : decode (.base t) (some bytes) = .ok v) :
    Restored (.base t) bytes v := by
  have hreader : reader? (.base t) =
      some fun b => (Bytes.signed? w b).map fun n => integer (.ofInt n) := by
    rcases width?_cases ht with ⟨rfl, rfl⟩ | ⟨rfl, rfl⟩ | ⟨rfl, rfl⟩ <;> rfl
  obtain ⟨n, hn, rfl⟩ := Option.map_eq_some_iff.1 (read_of_decode hreader h)
  obtain ⟨hbytes, hlo, hhi⟩ := Bytes.ofInt_of_signed? hn
  have hword : InWord w n := by
    rcases width?_cases ht with ⟨rfl, rfl⟩ | ⟨rfl, rfl⟩ | ⟨rfl, rfl⟩ <;>
      exact ⟨by omega, by omega⟩
  have hencode : encodeInteger? (.ofInt n) (.base t) = some bytes := by
    rw [encodeInteger?_word ht, toInt_ofInt_word ht hword, map_filter_inWord, if_pos hword, hbytes]
  exact restored_base (congrArg fitting hencode)

theorem restored_text (ht : t.isText) (h : decode (.base t) (some bytes) = .ok v) :
    Restored (.base t) bytes v := by
  obtain ⟨s, hs, rfl⟩ := Option.map_eq_some_iff.1 (read_of_decode (reader_text ht) h)
  have hencode : encodeString? s (.base t) = some bytes := by
    rw [← Text.utf8_of_ofUtf8? hs]
    rcases isText_cases ht with rfl | rfl | rfl | rfl <;> rfl
  exact restored_base (congrArg fitting hencode)

theorem restored_uuid (h : decode (.base .uuid) (some bytes) = .ok v) :
    Restored (.base .uuid) bytes v := by
  obtain ⟨u, hu, rfl⟩ := Option.map_eq_some_iff.1 (read_of_decode rfl h)
  have hencode : encodeString? u.text (.base .uuid) = some bytes := by
    rw [encodeString?, Uuid.read?_text, Option.map_some, Uuid.bytes_of_ofBytes? hu]
  exact restored_base (congrArg fitting hencode)

theorem restored_instant (ht : IsInstant t) (h : decode (.base t) (some bytes) = .ok v) :
    Restored (.base t) bytes v := by
  obtain ⟨i, hi, rfl⟩ := Option.map_eq_some_iff.1 (read_of_decode (reader_instant ht) h)
  have hencode : encodeTimestamp i (.base t) = bytes := by
    rw [← Bytes.toBytes_of_instant? hi]
    rcases ht with rfl | rfl <;> rfl
  exact restored_base (congrArg (fun b => Except.ok (some b)) hencode)

theorem restored_texts (ht : IsTexts t) (h : decode (.array t) (some bytes) = .ok v) :
    Restored (.array t) bytes v := by
  obtain ⟨items, hitems, rfl⟩ := Option.map_eq_some_iff.1 (read_of_decode (reader_texts ht) h)
  obtain ⟨hread, hcount, -⟩ := Bytes.array?_eq_some (fun _ _ => Text.utf8_of_ofUtf8?) hitems
  have hencode : encodeStrings items (.array t) = .ok (Bytes.ofItems t (items.map Text.utf8)) := by
    rcases ht with rfl | rfl <;> exact array_countable _ hcount
  refine restored_array hread hcount (congrArg (Except.map some) hencode) fun s _ => .self ?_ _
  rcases ht with rfl | rfl <;> decide

theorem restored_uuids (h : decode (.array .uuid) (some bytes) = .ok v) :
    Restored (.array .uuid) bytes v := by
  obtain ⟨ids, hids, rfl⟩ := Option.map_eq_some_iff.1 (read_of_decode rfl h)
  obtain ⟨hread, hcount, -⟩ := Bytes.array?_eq_some (fun _ _ => Uuid.bytes_of_ofBytes?) hids
  have hspelled : (ids.map Uuid.text).mapM Uuid.read? = some (ids.map id) :=
    mapM_map_eq_some fun u _ => Uuid.read?_text u
  rw [List.map_id] at hspelled
  have hencode : encodeStrings (ids.map Uuid.text) (.array .uuid) =
      .ok (Bytes.ofItems .uuid (ids.map Uuid.bytes)) := by
    rw [encodeStrings, hspelled]
    exact array_countable _ hcount
  exact restored_array hread hcount (congrArg (Except.map some) hencode) fun u _ =>
    .self (by decide) _

theorem countable_words {ns : List Int} (f : Int → Int)
    (h : Bytes.Countable (ns.map (Bytes.ofInt w))) :
    Bytes.Countable (ns.map fun n => Bytes.ofInt w (f n)) := by
  simpa [Bytes.Countable] using h

/-- Lists of integers are written item by item, each from its double. -/
theorem restored_words {bits : Nat}
    (hreader : reader? (.array t) = some fun b => (Bytes.array? (Bytes.signed? w) b).map fun ns =>
      numericArray (ns.map Double.ofInt))
    (hwrite : ∀ x, encodeItem x (.array t) = Bytes.ofInt w (x.toWord bits))
    (hkept : ∀ n, Bytes.signed? w (Bytes.ofInt w n) = some n →
      Kept (.array t) (Bytes.ofInt w n) (Bytes.ofInt w ((Double.ofInt n).toWord bits)))
    (h : decode (.array t) (some bytes) = .ok v) : Restored (.array t) bytes v := by
  obtain ⟨ns, hns, rfl⟩ := Option.map_eq_some_iff.1 (read_of_decode hreader h)
  obtain ⟨hread, hcount, hitem⟩ :=
    Bytes.array?_eq_some (fun _ _ hn => (Bytes.ofInt_of_signed? hn).1) hns
  have hcount' := countable_words (fun n => (Double.ofInt n).toWord bits) hcount
  have hitems : (ns.map Double.ofInt).map (fun x => encodeItem x (.array t)) =
      ns.map fun n => Bytes.ofInt w ((Double.ofInt n).toWord bits) := by
    rw [List.map_map]
    exact List.map_congr_left fun n _ => hwrite (Double.ofInt n)
  refine restored_array hread hcount' ?_ fun n hn => hkept n (hitem n hn)
  rw [encode, encodeNumbers, hitems]
  exact congrArg (Except.map some) (array_countable t hcount')

/-- All integers of four bytes are doubles. -/
theorem restored_int4s (h : decode (.array .int4) (some bytes) = .ok v) :
    Restored (.array .int4) bytes v := by
  refine restored_words rfl (fun _ => rfl) (fun n hn => ?_) h
  obtain ⟨-, hlo, hhi⟩ := Bytes.ofInt_of_signed? hn
  have hsame : (Double.ofInt n).toWord 32 = n :=
    Double.toWord_ofInt (Double.has_int (by omega)) (by omega) (by omega)
  rw [hsame]
  exact .self (by decide) _

theorem restored_int8s (h : decode (.array .int8) (some bytes) = .ok v) :
    Restored (.array .int8) bytes v := by
  refine restored_words rfl (fun _ => rfl) (fun n hn => ?_) h
  obtain ⟨-, hlo, hhi⟩ := Bytes.ofInt_of_signed? hn
  have hword := (Double.ofInt n).toWord_spec 64
  obtain ⟨hlo', hhi'⟩ := hword.bounds
  exact .double hn (Bytes.signed?_ofInt 8 _ (by omega) (by omega)) (Double.ofInt_rounds n) hword
    (Double.toWord_ofInt_iff (by omega) (by omega))

/-- **A column that is read can be bound again and has the same values**, but that integers of
    eight bytes in lists pass through doubles. -/
theorem column_restored (hc : c ∈ restorable) (hcanonical : Canonical c bytes)
    (h : decode c (some bytes) = .ok v) : Restored c bytes v := by
  simp only [restorable, List.mem_cons, List.not_mem_nil, or_false] at hc
  rcases hc with rfl | rfl | rfl | rfl | rfl | rfl | rfl | rfl | rfl | rfl | rfl | rfl | rfl | rfl |
    rfl | rfl
  · exact restored_bool hcanonical h
  · exact restored_word (w := 2) rfl h
  · exact restored_word (w := 4) rfl h
  · exact restored_word (w := 8) rfl h
  · exact restored_text rfl h
  · exact restored_text rfl h
  · exact restored_text rfl h
  · exact restored_text rfl h
  · exact restored_uuid h
  · exact restored_instant (.inl rfl) h
  · exact restored_instant (.inr rfl) h
  · exact restored_texts (.inl rfl) h
  · exact restored_texts (.inr rfl) h
  · exact restored_uuids h
  · exact restored_int4s h
  · exact restored_int8s h

/-- Lists of texts and of integers next to the end of what doubles keep. -/
theorem column_restored_lists :
    Restored (.array .text) (Bytes.ofItems .text [[], [0x61]]) (stringArray ["", "a"]) ∧
    Restored (.array .int8)
      (Bytes.ofItems .int8 [Bytes.ofInt 8 9007199254740992, Bytes.ofInt 8 (-1)])
      (numericArray [.ofInt 9007199254740992, .ofInt (-1)]) :=
  ⟨column_restored (by decide) nofun (decode_of_reader rfl (by decide +kernel)),
    column_restored (by decide) nofun (decode_of_reader rfl (by decide +kernel))⟩

/-- The least integer above zero that is no double is written as the one before it. -/
theorem column_not_restored :
    decode (.array .int8) (some (Bytes.ofItems .int8 [Bytes.ofInt 8 9007199254740993])) =
        .ok (numericArray [.ofInt 9007199254740992]) ∧
      encode (.array .int8) (numericArray [.ofInt 9007199254740992]) =
        .ok (some (Bytes.ofItems .int8 [Bytes.ofInt 8 9007199254740992])) ∧
      contents? (.array .int8) (Bytes.ofItems .int8 [Bytes.ofInt 8 9007199254740992]) ≠
        contents? (.array .int8) (Bytes.ofItems .int8 [Bytes.ofInt 8 9007199254740993]) :=
  ⟨decode_of_reader rfl (by decide +kernel), by decide +kernel, by decide +kernel⟩

end Value

end Rowgate
