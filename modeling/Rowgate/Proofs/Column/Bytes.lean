/-
  Bytes of columns, written and read.

  * `signed?_ofInt`, `double?_toBytes`, `single?_ofNat`, `instant?_toBytes`: numbers and instants
    are read as what they were written from;
  * `arrayItems?_ofItems`: an array is read as its items;
  * `array?_ofItems`: item by item, when each is read by itself.
-/
import Rowgate.Column.Decode
import Rowgate.Column.Encode
import Rowgate.Proofs.Calendar.Micros
import Rowgate.Proofs.Result

namespace Rowgate.Bytes

/-! ## Numbers -/

theorem bool?_byte (b : Bool) : bool? [if b then 1 else 0] = some b := by
  cases b <;> rfl

theorem signed?_ofInt (width : Nat) (n : Int) (lo : -(256 ^ width) ≤ 2 * n)
    (hi : 2 * n < 256 ^ width) : signed? width (ofInt width n) = some n := by
  rw [signed?, exactly?, if_pos (length_ofInt width n), Option.map_some, toInt_ofInt width n lo hi]

theorem double?_toBytes (x : Double) : double? x.toBytes = some x := by
  have hlt : x.bits.toNat < 256 ^ 8 := x.bits.toNat_lt
  rw [double?, exactly?, Double.toBytes, if_pos (length_ofNat 8 _), Option.map_some, toNat_ofNat,
    Nat.mod_eq_of_lt hlt, UInt64.ofNat_toNat]

theorem single?_ofNat (bits : UInt32) : single? (ofNat 4 bits.toNat) = some (.ofSingle bits) := by
  have hlt : bits.toNat < 256 ^ 4 := bits.toNat_lt
  rw [single?, exactly?, if_pos (length_ofNat 4 _), Option.map_some, toNat_ofNat,
    Nat.mod_eq_of_lt hlt, UInt32.ofNat_toNat]

theorem instant?_toBytes (t : Instant) :
    instant? t.toBytes = Instant.ofMicrosFromEpoch2000? t.microsFromEpoch2000 := by
  obtain ⟨lo, hi⟩ := t.micros_bounds
  rw [instant?, Instant.toBytes, signed?_ofInt 8 _ (by omega) (by omega), Option.bind_some]

/-! ## Arrays -/

variable {n : Nat} {bytes rest : List UInt8} {items : List (List UInt8)}

/-- A number below half the range is not taken for a negative one. -/
theorem toInt_ofNat (width : Nat) (h : 2 * n < 256 ^ width) : toInt (ofNat width n) = n := by
  have hmod : n % 256 ^ width = n := Nat.mod_eq_of_lt (by omega)
  rw [toInt, toNat_ofNat, hmod, length_ofNat]
  exact if_pos h

theorem take?_append (h : bytes.length = n) (rest : List UInt8) :
    take? n (bytes ++ rest) = some (bytes, rest) := by
  subst h
  rw [take?, if_pos (by simp), List.take_left, List.drop_left]

theorem int32?_ofNat (h : n < 2 ^ 31) (rest : List UInt8) :
    int32? (ofNat 4 n ++ rest) = some ((n : Int), rest) := by
  have hvalue : toInt (ofNat 4 n) = n := toInt_ofNat 4 (by omega)
  simp [int32?, take?_append (length_ofNat 4 n), hvalue]

theorem items?_counted (h : ∀ item ∈ items, item.length < 2 ^ 31) :
    items? items.length (items.flatMap counted) = some items := by
  induction items with
  | nil => rfl
  | cons item items ih =>
    obtain ⟨hitem, hitems⟩ := List.forall_mem_cons.1 h
    have hsize := int32?_ofNat hitem (item ++ items.flatMap counted)
    rw [List.length_cons, List.flatMap_cons, counted, List.append_assoc, items?, hsize]
    have hpos : ¬ (item.length : Int) < 0 := by omega
    simp [hpos, take?_append, ih hitems]

/-- An array is read as its items. -/
theorem arrayItems?_ofItems (item : BaseType) (h : Countable items) :
    arrayItems? (ofItems item items) = some items := by
  have hone := int32?_ofNat (n := 1) (by decide)
  have hlength : (ofNat 4 0 ++ ofNat 4 item.number).length = 8 := by simp
  have hhead := take?_append hlength
  have hcount := int32?_ofNat h.1
  have hbound := take?_append (length_ofNat 4 1)
  simp only [List.append_assoc] at hhead
  have hpos : ¬ (items.length : Int) < 0 := by omega
  simp [arrayItems?, ofItems, hone, hhead, hcount, hbound, hpos, items?_counted h.2]

/-- An array is read item by item. -/
theorem array?_ofItems {α γ : Type} {write : α → List UInt8} {read : List UInt8 → Option γ}
    {value : α → γ} {xs : List α} (item : BaseType) (h : Countable (xs.map write))
    (hread : ∀ x ∈ xs, read (write x) = some (value x)) :
    array? read (ofItems item (xs.map write)) = some (xs.map value) := by
  rw [array?, arrayItems?_ofItems item h, Option.bind_some]
  exact mapM_map_eq_some hread

theorem array?_ofItems_self {α : Type} {write : α → List UInt8} {read : List UInt8 → Option α}
    {xs : List α} (item : BaseType) (h : Countable (xs.map write))
    (hread : ∀ x, read (write x) = some x) :
    array? read (ofItems item (xs.map write)) = some xs := by
  rw [array?_ofItems item h fun x _ => hread x, List.map_id']

end Rowgate.Bytes
