/-
  Powers and sums of whole numbers, and counts of 64 bits.

  A power or a sum is the core library's wherever it is read, also behind an import of algebra:
  the instances come before all others, for an exponent that is a numeral too.
-/
namespace Rowgate

@[default_instance 20000]
instance (priority := high) natPower : Pow Nat Nat := instPowNat

@[default_instance 20000]
instance (priority := high) intPower : Pow Int Nat := instPowNat

instance (priority := high) natZero : Zero Nat := Zero.ofOfNat0

instance (priority := high) countZero : Zero UInt64 := Zero.ofOfNat0

instance countToNat : Coe UInt64 Nat := ⟨UInt64.toNat⟩

end Rowgate
