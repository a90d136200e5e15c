/-
  The numbers that doubles stand for, and what whole numbers and other doubles are rounded to.

  * `Double.value?`: the number of a finite double;
  * `Double.Rounds`: a nearest number of a format, or an infinity for what is beyond it;
  * `ofRatio_found`, `ofScaled_found`: the doubles that are computed for exact numbers;
  * `ofInt_rounds`, `ofInt_exact`: a whole number goes to a nearest double, and one of at most
    `2^53` to itself;
  * `single_rounds`, `singleOfInt_rounds`: the same for the format of 32 bits and back;
  * `toWord_spec`: the whole part of a number, held within the range of a word.
-/
import Rowgate.Proofs.Decimal.Layout
import Rowgate.Proofs.Decimal.Nearest

namespace Rowgate

namespace BinaryFormat

open Decimal (two_zpow_pos)

variable {f : BinaryFormat} {m : Nat} {e : Int} {v y : ℚ}

theorem holds_binary64 : binary64.Holds m e ↔ Decimal.Normal m e := by
  have hmax : binary64.maxExponent = 971 := by decide
  have hmin : binary64.minExponent = -1074 := by decide
  constructor
  · intro ⟨hwidth, hleast, hgreatest, hfull⟩
    rw [hmax] at hgreatest
    rw [hmin] at hleast hfull
    exact ⟨hwidth, hleast, hgreatest, hfull⟩
  · intro ⟨hwidth, hleast, hgreatest, hfull⟩
    refine ⟨hwidth, ?_, ?_, ?_⟩
    · rwa [hmin]
    · rwa [hmax]
    · rwa [hmin]

/-- A significand need not have full width. -/
theorem has_scaled (negative : Bool) (hm : m < 2 ^ (f.fractionBits + 1))
    (hleast : f.minExponent ≤ e) (hgreatest : e ≤ f.maxExponent) :
    f.Has (scaled negative m e) := by
  by_cases hzero : m = 0
  · subst hzero
    have hf : f.minExponent ≤ f.maxExponent := hleast.trans hgreatest
    exact ⟨negative, 0, f.minExponent, ⟨hm, le_rfl, hf, .inr rfl⟩, by simp [scaled]⟩
  · have hlog : m.log2 ≤ f.fractionBits := Nat.lt_succ_iff.1 ((Nat.log2_lt hzero).2 hm)
    have hlo := Nat.log2_self_le hzero
    have hhi := Nat.lt_log2_self (n := m)
    -- as many factors of two as there is room for
    obtain ⟨k, hk⟩ : ∃ k, k = min (f.fractionBits - m.log2) (e - f.minExponent).toNat := ⟨_, rfl⟩
    refine ⟨negative, m * 2 ^ k, e - k, ⟨?_, by omega, by omega, ?_⟩, ?_⟩
    · calc m * 2 ^ k < 2 ^ (m.log2 + 1) * 2 ^ k := Nat.mul_lt_mul_of_pos_right hhi (by positivity)
        _ = 2 ^ (m.log2 + 1 + k) := (pow_add _ _ _).symm
        _ ≤ 2 ^ (f.fractionBits + 1) := Nat.pow_le_pow_right (by decide) (by omega)
    · rcases le_total (f.fractionBits - m.log2) (e - f.minExponent).toNat with h | h
      · refine .inl ?_
        calc 2 ^ f.fractionBits = 2 ^ m.log2 * 2 ^ k := by rw [← pow_add]; congr 1; omega
          _ ≤ m * 2 ^ k := Nat.mul_le_mul_right _ hlo
      · exact .inr (by omega)
    · have hpow : (2 : ℚ) ^ e = 2 ^ k * 2 ^ (e - k) := by
        rw [two_pow_mul_zpow]
        congr 1
        omega
      have hmul : (m : ℚ) * 2 ^ e = (m * 2 ^ k : ℕ) * 2 ^ (e - k) := by
        rw [hpow]
        push_cast
        ring
      rw [scaled, scaled, hmul]

theorem pack_lt_signBit (h : f.Holds m e) : f.pack m e < f.signBit := by
  have hcast : ((2 ^ f.exponentBits : Nat) : Int) = 2 ^ f.exponentBits := by push_cast; rfl
  have hgreatest := h.greatest
  have hleast := h.least
  have hwidth := h.width
  unfold maxExponent at hgreatest
  rw [pow_succ] at hwidth
  have hk : (e - f.minExponent).toNat + 2 ≤ 2 ^ f.exponentBits := by omega
  have hmul := Nat.mul_le_mul_right (2 ^ f.fractionBits) hk
  rw [Nat.add_mul] at hmul
  rw [pack, signBit, Nat.pow_add, Nat.mul_comm (2 ^ f.fractionBits)]
  omega

theorem infinityBits_lt_signBit (f : BinaryFormat) : f.infinityBits < f.signBit := by
  have hpos := Nat.two_pow_pos f.exponentBits
  rw [infinityBits, signBit, Nat.pow_add, Nat.mul_comm (2 ^ f.fractionBits)]
  exact Nat.mul_lt_mul_of_pos_right (by omega) (Nat.two_pow_pos _)

theorem decode_infinityBits (f : BinaryFormat) (negative : Bool) :
    f.decode ((if negative then f.signBit else 0) + f.infinityBits) = .infinite negative := by
  have hpos := Nat.two_pow_pos f.exponentBits
  have h := decode_fields f negative (k := 2 ^ f.exponentBits - 1) (Nat.two_pow_pos f.fractionBits)
    (by omega)
  rwa [if_pos rfl, if_pos rfl, Nat.add_zero] at h

/-- The numbers of a format are below its limit. -/
theorem Has.abs_lt_limit (h : f.Has y) : |y| < f.limit := by
  obtain ⟨negative, m, e, hm, rfl⟩ := h
  have habs : |scaled negative m e| = m * 2 ^ e := by
    have hvalue : (0 : ℚ) ≤ m * 2 ^ e := mul_nonneg (Nat.cast_nonneg _) (two_zpow_pos _).le
    cases negative <;> simp [scaled, abs_of_nonneg hvalue]
  have hwidth := hm.width
  have hsignificand : m * 2 < 2 ^ (f.fractionBits + 2) - 1 := by
    rw [pow_succ] at hwidth ⊢
    rw [pow_succ]
    omega
  have hexponent : (2 : ℚ) ^ e ≤ 2 * 2 ^ (f.maxExponent - 1) := by
    rw [← zpow_one_add₀ (by norm_num)]
    exact zpow_le_zpow_right₀ (by norm_num) (by have := hm.greatest; omega)
  rw [habs, limit]
  calc (m : ℚ) * 2 ^ e ≤ m * (2 * 2 ^ (f.maxExponent - 1)) :=
        mul_le_mul_of_nonneg_left hexponent (Nat.cast_nonneg _)
    _ = (m * 2 : ℕ) * 2 ^ (f.maxExponent - 1) := by push_cast; ring
    _ < (2 ^ (f.fractionBits + 2) - 1 : ℕ) * 2 ^ (f.maxExponent - 1) :=
        mul_lt_mul_of_pos_right (by exact_mod_cast hsignificand) (two_zpow_pos _)

/-- What the pattern for a ratio, behind a sign, stands for. -/
inductive Found (f : BinaryFormat) (negative : Bool) (v : ℚ) (pattern : Nat) : Prop
  | finite {m : Nat} {e : Int} (hdecode : f.decode pattern = .finite negative m e)
      (hrounded : f.Rounded v m e)
  | infinite (hdecode : f.decode pattern = .infinite negative) (hlimit : f.limit ≤ v)

variable {num den : Nat}

theorem found_nearest (num : Nat) (hf : f.minExponent ≤ f.maxExponent) (hden : den ≠ 0)
    (negative : Bool) :
    f.Found negative (num / den) ((if negative then f.signBit else 0) + f.nearest num den) := by
  rcases nearest_spec num hf hden with ⟨m, e, hpack, h⟩ | ⟨hinf, hlimit⟩
  · rw [hpack]
    exact .finite (decode_pack negative h.holds) h
  · rw [hinf]
    exact .infinite (decode_infinityBits f negative) hlimit

theorem nearest_lt_signBit (num : Nat) (hf : f.minExponent ≤ f.maxExponent) (hden : den ≠ 0) :
    f.nearest num den < f.signBit := by
  rcases nearest_spec num hf hden with ⟨m, e, hpack, h⟩ | ⟨hinf, -⟩
  · rw [hpack]
    exact pack_lt_signBit h.holds
  · rw [hinf]
    exact infinityBits_lt_signBit f

theorem found_ofScaled (hf : f.minExponent ≤ f.maxExponent) (negative : Bool) (m : Nat) (e : Int) :
    f.Found negative (m * 2 ^ e) (f.ofScaled negative m e) := by
  unfold ofScaled
  by_cases he : e < 0
  · obtain ⟨k, rfl⟩ : ∃ k : Nat, e = -k := ⟨(-e).toNat, by omega⟩
    rw [if_pos he, neg_neg, Int.toNat_natCast, zpow_neg, zpow_natCast, ← div_eq_mul_inv]
    have h := found_nearest (f := f) m hf (Nat.two_pow_pos k).ne' negative
    push_cast at h
    exact h
  · obtain ⟨k, rfl⟩ : ∃ k : Nat, e = k := ⟨e.toNat, by omega⟩
    rw [if_neg he, Int.toNat_natCast, zpow_natCast]
    have h := found_nearest (f := f) (m * 2 ^ k) hf one_ne_zero negative
    push_cast at h
    rwa [div_one] at h

theorem ofScaled_lt (hf : f.minExponent ≤ f.maxExponent) (negative : Bool) (m : Nat) (e : Int) :
    f.ofScaled negative m e < 2 * f.signBit := by
  unfold ofScaled
  have h (num den : Nat) (hden : den ≠ 0) := nearest_lt_signBit num hf hden
  have hneg := h m (2 ^ (-e).toNat) (Nat.two_pow_pos _).ne'
  have hpos := h (m * 2 ^ e.toNat) 1 one_ne_zero
  split_ifs <;> omega

end BinaryFormat

namespace BinaryFormat

variable {f g : BinaryFormat} {negative : Bool} {m payload bits : Nat} {e : Int}

/-- The payload of what is no number fits in the fraction. -/
theorem payload_lt (h : f.decode bits = .nan negative payload) :
    payload < 2 ^ f.fractionBits := by
  unfold decode at h
  dsimp only at h
  split_ifs at h
  cases h
  exact Nat.mod_lt _ (Nat.two_pow_pos _)

/-- What is no number is written as no number. -/
theorem convert_nan (hg : 1 ≤ g.fractionBits) (h : f.decode bits = .nan negative payload) :
    ∃ payload', g.decode (f.convert g bits) = .nan negative payload' ∧
      f.convert g bits < 2 * g.signBit := by
  have hlt := payload_lt h
  unfold convert
  rw [h]
  dsimp only
  generalize hkept : (if f.fractionBits ≤ g.fractionBits then
      payload * 2 ^ (g.fractionBits - f.fractionBits)
    else payload / 2 ^ (f.fractionBits - g.fractionBits)) = kept
  have hkept : kept < 2 ^ g.fractionBits := by
    rw [← hkept]
    split_ifs with hfg
    · calc payload * 2 ^ (g.fractionBits - f.fractionBits)
          < 2 ^ f.fractionBits * 2 ^ (g.fractionBits - f.fractionBits) :=
            Nat.mul_lt_mul_of_pos_right hlt (Nat.two_pow_pos _)
        _ = 2 ^ g.fractionBits := by rw [← pow_add]; congr 1; omega
    · refine Nat.div_lt_of_lt_mul (hlt.trans_eq ?_)
      rw [← pow_add]
      congr 1
      omega
  have hquiet : 2 ^ (g.fractionBits - 1) < (2 ^ g.fractionBits : ℕ) :=
    Nat.pow_lt_pow_right (by decide) (by omega)
  have hfraction := Nat.or_lt_two_pow hkept hquiet
  have hne : kept ||| 2 ^ (g.fractionBits - 1) ≠ 0 :=
    ((Nat.two_pow_pos _).trans_le Nat.right_le_or).ne'
  have hpos := Nat.two_pow_pos g.exponentBits
  have hdecode := decode_fields g negative (k := 2 ^ g.exponentBits - 1) hfraction (by omega)
  rw [if_pos rfl, if_neg hne] at hdecode
  refine ⟨_, by rw [Nat.add_assoc]; exact hdecode, ?_⟩
  have hlow : g.infinityBits + (kept ||| 2 ^ (g.fractionBits - 1)) < g.signBit := by
    have hproduct : g.signBit = 2 ^ g.exponentBits * 2 ^ g.fractionBits := by
      rw [signBit, Nat.pow_add, Nat.mul_comm]
    rw [hproduct, infinityBits, Nat.sub_mul, Nat.one_mul]
    have := Nat.le_mul_of_pos_left (2 ^ g.fractionBits) hpos
    omega
  split_ifs <;> omega

theorem convert_infinite (h : f.decode bits = .infinite negative) :
    g.decode (f.convert g bits) = .infinite negative ∧ f.convert g bits < 2 * g.signBit := by
  have hlt := infinityBits_lt_signBit g
  unfold convert
  rw [h]
  refine ⟨decode_infinityBits g negative, ?_⟩
  dsimp only
  split_ifs <;> omega

theorem convert_finite (hg : g.minExponent ≤ g.maxExponent)
    (h : f.decode bits = .finite negative m e) :
    g.Found negative (m * 2 ^ e) (f.convert g bits) ∧ f.convert g bits < 2 * g.signBit := by
  unfold convert
  rw [h]
  exact ⟨found_ofScaled hg negative m e, ofScaled_lt hg negative m e⟩

end BinaryFormat

/-! ## Values -/

open BinaryFormat

/-- The number that a datum stands for. -/
def Datum.value? : Datum → Option ℚ
  | .finite negative m e => some (scaled negative m e)
  | _ => none

namespace Double

/-- The number of a finite double. -/
def value? (x : Double) : Option ℚ :=
  x.datum.value?

/-- What a number is rounded to: a nearest number of the format, or an infinity of its sign from
    the limit on. -/
inductive Rounds (f : BinaryFormat) (q : ℚ) (x : Double) : Prop
  | finite {y : ℚ} (hx : x.value? = some y) (hy : f.Nearest q y)
  | infinite {negative : Bool} (hx : x.datum = .infinite negative)
      (hq : f.limit ≤ if negative then -q else q)

theorem minExponent_le64 : binary64.minExponent ≤ binary64.maxExponent := by
  decide

theorem minExponent_le32 : binary32.minExponent ≤ binary32.maxExponent := by
  decide

variable {x y : Double} {negative : Bool} {m : Nat} {e : Int} {q : ℚ}

theorem value?_of_datum (h : x.datum = .finite negative m e) :
    x.value? = some (scaled negative m e) := by
  rw [value?, h]
  rfl

theorem toNat_ofNat64 {n : Nat} (h : n < 2 * binary64.signBit) : (UInt64.ofNat n).toNat = n := by
  rw [UInt64.toNat_ofNat']
  exact Nat.mod_eq_of_lt h

theorem toNat_ofNat32 {n : Nat} (h : n < 2 * binary32.signBit) : (UInt32.ofNat n).toNat = n := by
  rw [UInt32.toNat_ofNat']
  exact Nat.mod_eq_of_lt h

/-- A double for `± v` that has been found by rounding. -/
inductive Found (negative : Bool) (v : ℚ) (x : Double) : Prop
  | finite {m : Nat} {e : Int} (hx : x.datum = .finite negative m e)
      (hrounded : binary64.Rounded v m e)
  | infinite (hx : x.datum = .infinite negative) (hlimit : binary64.limit ≤ v)

theorem found_ofNat {v : ℚ} {n : Nat} (hn : n < 2 * binary64.signBit)
    (h : binary64.Found negative v n) : Found negative v ⟨UInt64.ofNat n⟩ := by
  have hdatum : datum ⟨UInt64.ofNat n⟩ = binary64.decode n := by rw [datum, toNat_ofNat64 hn]
  cases h with
  | finite hdecode hrounded => exact .finite (hdatum.trans hdecode) hrounded
  | infinite hdecode hlimit => exact .infinite (hdatum.trans hdecode) hlimit

theorem ofRatio_found (negative : Bool) (num : Nat) {den : Nat} (hden : den ≠ 0) :
    Found negative (num / den) (ofRatio negative num den) := by
  have hlt := nearest_lt_signBit num minExponent_le64 hden
  refine found_ofNat ?_ (found_nearest num minExponent_le64 hden negative)
  split_ifs <;> omega

theorem ofScaled_found (negative : Bool) (m : Nat) (e : Int) :
    Found negative (m * 2 ^ e) (ofScaled negative m e) :=
  found_ofNat (ofScaled_lt minExponent_le64 negative m e)
    (found_ofScaled minExponent_le64 negative m e)

theorem Found.rounds {v : ℚ} (h : Found negative v x) :
    x.Rounds binary64 (if negative then -v else v) := by
  cases h with
  | finite hx hrounded =>
    refine .finite (value?_of_datum hx) ?_
    cases negative with
    | true =>
      have hneg := hrounded.nearest.neg
      rwa [← scaled_false, ← scaled_neg] at hneg
    | false =>
      have hpos := hrounded.nearest
      rwa [← scaled_false] at hpos
  | infinite hx hlimit => exact .infinite hx (by cases negative <;> simpa using hlimit)

/-- A number of the format is not changed by rounding. -/
theorem Rounds.eq_of_has (h : x.Rounds binary64 q) (hq : binary64.Has q) : x.value? = some q := by
  cases h with
  | finite hx hy => rw [hx, hy.eq hq]
  | @infinite negative hx hlimit =>
    have hlt := hq.abs_lt_limit
    have hle : (if negative then -q else q) ≤ |q| := by
      split_ifs
      · exact neg_le_abs q
      · exact le_abs_self q
    exact absurd (hlimit.trans hle) (not_le.2 hlt)

/-! ## Whole numbers -/

/-- A whole number by its sign and size. -/
theorem scaled_natAbs (n : Int) : scaled (n < 0) n.natAbs 0 = n := by
  have habs : ((n.natAbs : ℤ) : ℚ) = |(n : ℚ)| := by
    rw [Int.natCast_natAbs, Int.cast_abs]
  rw [Int.cast_natCast] at habs
  rw [scaled, habs, zpow_zero, mul_one]
  rcases lt_or_ge n 0 with h | h
  · have hneg : (n : ℚ) < 0 := by exact_mod_cast h
    simp [h, abs_of_neg hneg]
  · have hpos : (0 : ℚ) ≤ n := by exact_mod_cast h
    simp [not_lt.2 h, abs_of_nonneg hpos]

theorem ofInt_rounds (n : Int) : (ofInt n).Rounds binary64 n := by
  have h := (ofRatio_found (n < 0) n.natAbs one_ne_zero).rounds
  have hvalue := scaled_natAbs n
  rw [scaled, zpow_zero, mul_one] at hvalue
  rwa [Nat.cast_one, div_one, hvalue] at h

/-- The whole numbers of at most 53 bits. -/
theorem has_int {n : Int} (h : n.natAbs ≤ 2 ^ 53) : binary64.Has n := by
  rw [← scaled_natAbs n]
  rcases h.lt_or_eq with hlt | heq
  · exact has_scaled _ hlt (by decide) (by decide)
  · have hhas := has_scaled (f := binary64) (m := 2 ^ 52) (e := 1) (n < 0) (by decide) (by decide)
      (by decide)
    rw [heq]
    convert hhas using 1
    unfold scaled
    norm_num

theorem ofInt_exact {n : Int} (h : n.natAbs ≤ 2 ^ 53) : (ofInt n).value? = some (n : ℚ) :=
  (ofInt_rounds n).eq_of_has (has_int h)

/-! ## Numbers of 32 bits -/

/-- Every number of the narrow format is one of the wide format. -/
theorem has_wide {v : ℚ} (h : binary32.Has v) : binary64.Has v := by
  obtain ⟨negative, m, e, ⟨hwidth, hleast, hgreatest, -⟩, rfl⟩ := h
  have hmax : binary32.maxExponent = 104 := by decide
  have hmin : binary32.minExponent = -149 := by decide
  have hmax64 : binary64.maxExponent = 971 := by decide
  have hmin64 : binary64.minExponent = -1074 := by decide
  refine has_scaled negative ?_ (by omega) (by omega)
  exact hwidth.trans (by decide)

theorem ofSingle_finite {bits : UInt32} (hm : binary32.Holds m e)
    (h : binary32.decode bits.toNat = .finite negative m e) :
    (ofSingle bits).value? = some (scaled negative m e) := by
  obtain ⟨hfound, hlt⟩ := convert_finite minExponent_le64 h
  exact (found_ofNat hlt hfound).rounds.eq_of_has (has_wide ⟨negative, m, e, hm, rfl⟩)

theorem ofSingle_infinite {bits : UInt32} (h : binary32.decode bits.toNat = .infinite negative) :
    (ofSingle bits).datum = .infinite negative := by
  obtain ⟨hdecode, hlt⟩ := convert_infinite (g := binary64) h
  rw [ofSingle, datum, toNat_ofNat64 hlt, hdecode]

theorem ofSingle_nan {bits : UInt32} {payload : Nat}
    (h : binary32.decode bits.toNat = .nan negative payload) :
    ∃ payload', (ofSingle bits).datum = .nan negative payload' := by
  obtain ⟨payload', hdecode, hlt⟩ := convert_nan (g := binary64) (by decide) h
  exact ⟨payload', by rw [ofSingle, datum, toNat_ofNat64 hlt, hdecode]⟩

/-- A pattern of the narrow format, read as a double. -/
theorem ofSingle_found {v : ℚ} {n : Nat} (hn : n < 2 * binary32.signBit)
    (h : binary32.Found negative v n) :
    (ofSingle (UInt32.ofNat n)).Rounds binary32 (if negative then -v else v) := by
  cases h with
  | finite hdecode hrounded =>
    rw [← toNat_ofNat32 hn] at hdecode
    refine .finite (ofSingle_finite hrounded.holds hdecode) ?_
    cases negative with
    | true =>
      have hneg := hrounded.nearest.neg
      rwa [← scaled_false, ← scaled_neg] at hneg
    | false =>
      have hpos := hrounded.nearest
      rwa [← scaled_false] at hpos
  | infinite hdecode hlimit =>
    rw [← toNat_ofNat32 hn] at hdecode
    exact .infinite (ofSingle_infinite hdecode) (by cases negative <;> simpa using hlimit)

theorem singleOfInt_rounds (n : Int) : (ofSingle (singleOfInt n)).Rounds binary32 n := by
  rw [← scaled_natAbs n]
  exact ofSingle_found (ofScaled_lt minExponent_le32 (n < 0) n.natAbs 0)
    (found_ofScaled minExponent_le32 (n < 0) n.natAbs 0)

/-- What a double is in the narrow format and back. -/
inductive SingleOf (x y : Double) : Prop
  | finite {q : ℚ} (hx : x.value? = some q) (hy : y.Rounds binary32 q)
  | infinite {negative : Bool} (hx : x.datum = .infinite negative)
      (hy : y.datum = .infinite negative)
  | nan {negative : Bool} {payload payload' : Nat} (hx : x.datum = .nan negative payload)
      (hy : y.datum = .nan negative payload')

theorem single_rounds (x : Double) : SingleOf x (ofSingle x.toSingle) := by
  cases hx : x.datum with
  | finite negative m e =>
    obtain ⟨hfound, hlt⟩ := convert_finite minExponent_le32 hx
    exact .finite (value?_of_datum hx) (ofSingle_found hlt hfound)
  | infinite negative =>
    obtain ⟨hdecode, hlt⟩ := convert_infinite (g := binary32) hx
    refine .infinite hx (ofSingle_infinite ?_)
    rw [toSingle, toNat_ofNat32 hlt, hdecode]
  | nan negative payload =>
    obtain ⟨payload', hdecode, hlt⟩ := convert_nan (g := binary32) (by decide) hx
    rw [← toNat_ofNat32 hlt] at hdecode
    obtain ⟨payload'', hy⟩ := ofSingle_nan hdecode
    exact .nan hx hy

/-! ## Whole parts -/

/-- The whole part of a number, held within the range of a signed word. -/
inductive Word (bits : Nat) (x : Double) (n : Int) : Prop
  | whole {q : ℚ} (hx : x.value? = some q) (hle : |(n : ℚ)| ≤ |q|) (hlt : |q - n| < 1)
      (hlo : -(2 ^ (bits - 1)) ≤ n) (hhi : n < 2 ^ (bits - 1))
  | above {q : ℚ} (hx : x.value? = some q) (hq : 2 ^ (bits - 1) ≤ q) (hn : n = 2 ^ (bits - 1) - 1)
  | below {q : ℚ} (hx : x.value? = some q) (hq : q < -(2 ^ (bits - 1))) (hn : n = -(2 ^ (bits - 1)))
  | infinite {negative : Bool} (hx : x.datum = .infinite negative)
      (hn : n = if negative then -(2 ^ (bits - 1)) else 2 ^ (bits - 1) - 1)
  | nan {negative : Bool} {payload : Nat} (hx : x.datum = .nan negative payload) (hn : n = 0)

/-- The whole part of a significand at its exponent. -/
def wholePart (m : Nat) (e : Int) : Nat :=
  if e < 0 then m / 2 ^ (-e).toNat else m * 2 ^ e.toNat

theorem wholePart_bounds (m : Nat) (e : Int) :
    (wholePart m e : ℚ) ≤ m * 2 ^ e ∧ (m : ℚ) * 2 ^ e < wholePart m e + 1 := by
  unfold wholePart
  split_ifs with he
  · obtain ⟨k, rfl⟩ : ∃ k : Nat, e = -k := ⟨(-e).toNat, by omega⟩
    have hpos : 0 < (2 ^ k : ℕ) := Nat.two_pow_pos k
    have hposq : (0 : ℚ) < 2 ^ k := by positivity
    have hlo : ((m / 2 ^ k * 2 ^ k : ℕ) : ℚ) ≤ m := by exact_mod_cast Nat.div_mul_le_self m _
    have hhi : (m : ℚ) < ((m / 2 ^ k + 1) * 2 ^ k : ℕ) := by
      exact_mod_cast Nat.lt_mul_of_div_lt (Nat.lt_succ_self (m / 2 ^ k)) hpos
    push_cast at hlo hhi
    rw [neg_neg, Int.toNat_natCast, zpow_neg, zpow_natCast, ← div_eq_mul_inv]
    exact ⟨(le_div_iff₀ hposq).2 hlo, (div_lt_iff₀ hposq).2 hhi⟩
  · obtain ⟨k, rfl⟩ : ∃ k : Nat, e = k := ⟨e.toNat, by omega⟩
    rw [Int.toNat_natCast, zpow_natCast]
    push_cast
    exact ⟨le_rfl, lt_add_one _⟩

theorem toWord_finite {negative : Bool} {m : Nat} {e : Int} (hx : x.datum = .finite negative m e)
    (bits : Nat) : x.toWord bits = max (-(2 ^ (bits - 1))) (min (2 ^ (bits - 1) - 1)
      (if negative then -(wholePart m e : Int) else wholePart m e)) := by
  rw [toWord, hx]
  rfl

/-- What is cut off is less than one, and nothing is added. -/
theorem wholePart_near (m : Nat) (e : Int) :
    |(m : ℚ) * 2 ^ e - wholePart m e| < 1 ∧ |(wholePart m e : ℚ)| ≤ |(m : ℚ) * 2 ^ e| := by
  obtain ⟨hle, hlt⟩ := wholePart_bounds m e
  have hv : (0 : ℚ) ≤ m * 2 ^ e := mul_nonneg (Nat.cast_nonneg _) (Decimal.two_zpow_pos _).le
  refine ⟨abs_lt.2 ⟨by linarith, by linarith⟩, ?_⟩
  rwa [Nat.abs_cast, abs_of_nonneg hv]

theorem toWord_spec (bits : Nat) (x : Double) : x.Word bits (x.toWord bits) := by
  cases hx : x.datum with
  | nan negative payload => exact .nan hx (by rw [toWord, hx])
  | infinite negative => exact .infinite hx (by rw [toWord, hx])
  | finite negative m e =>
    have hvalue := value?_of_datum hx
    have hword := toWord_finite hx bits
    have hle := (wholePart_bounds m e).1
    obtain ⟨hnear, hkabs⟩ := wholePart_near m e
    have hpow : (1 : ℤ) ≤ 2 ^ (bits - 1) := one_le_pow₀ (by norm_num)
    have hpowq : (((2 : ℤ) ^ (bits - 1) : ℤ) : ℚ) = 2 ^ (bits - 1) := by push_cast; rfl
    generalize wholePart m e = k at *
    have hk : ((k : ℤ) : ℚ) = k := Int.cast_natCast k
    cases negative with
    | false =>
      rw [scaled_false] at hvalue
      rw [if_neg Bool.false_ne_true] at hword
      by_cases hlow : (k : ℤ) < 2 ^ (bits - 1)
      · have hn : x.toWord bits = k := by omega
        rw [hn]
        refine .whole hvalue ?_ ?_ (by omega) hlow
        · rwa [hk]
        · rwa [hk]
      · have hge : ((2 ^ (bits - 1) : ℤ) : ℚ) ≤ (k : ℤ) := Int.cast_le.2 (not_lt.1 hlow)
        rw [hpowq, hk] at hge
        exact .above hvalue (hge.trans hle) (by omega)
    | true =>
      rw [scaled_true] at hvalue
      rw [if_pos rfl] at hword
      by_cases hlow : (k : ℤ) ≤ 2 ^ (bits - 1)
      · have hn : x.toWord bits = -k := by omega
        rw [hn]
        refine .whole hvalue ?_ ?_ (by omega) (by omega)
        · rwa [Int.cast_neg, hk, abs_neg, abs_neg]
        · rwa [Int.cast_neg, hk, ← neg_sub', abs_neg]
      · have hgt : ((2 ^ (bits - 1) : ℤ) : ℚ) < (k : ℤ) := Int.cast_lt.2 (not_le.1 hlow)
        rw [hpowq, hk] at hgt
        exact .below hvalue (neg_lt_neg (hgt.trans_le hle)) (by omega)

theorem Word.bounds {bits : Nat} {n : Int} (h : x.Word bits n) :
    -(2 ^ (bits - 1)) ≤ n ∧ n < 2 ^ (bits - 1) := by
  have hpow : (1 : ℤ) ≤ 2 ^ (bits - 1) := one_le_pow₀ (by norm_num)
  cases h with
  | whole hx hle hlt hlo hhi => exact ⟨hlo, hhi⟩
  | above hx hq hn => omega
  | below hx hq hn => omega
  | infinite hx hn => split_ifs at hn <;> omega
  | nan hx hn => omega

end Double

end Rowgate
