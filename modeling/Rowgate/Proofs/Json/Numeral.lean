/-
  The numerals that are written are read as they were written.

  * `Numeral.chars`: the characters of a numeral after its sign;
  * `scanNumeral_chars`: a plain numeral is found at the head of a text;
  * `numeralOf`, `decimalText_eq`: a decimal is written as a plain numeral;
  * `ofNumeral_whole`, `ofNumeral_decimal`: its digits and its exponent are those of the number.
-/
import Rowgate.Proofs.Json.Text

namespace Rowgate

/-! ## Digits -/

theorem toDigits_head {n : Nat} (hn : n ≠ 0) : (Nat.toDigits 10 n).head? ≠ some '0' := by
  induction n using Nat.strongRecOn with
  | _ n ih =>
    by_cases hlt : n < 10
    · rw [Nat.toDigits_of_lt_base hlt]
      clear ih
      revert hn
      revert hlt
      revert n
      decide
    · rw [Nat.toDigits_of_base_le (by decide) (by omega), List.head?_append_of_ne_nil _
        Nat.toDigits_ne_nil]
      exact ih (n / 10) (by omega) (by omega)

namespace JsonNumber

/-! ## Characters -/

def fractionChars : Option (List Char) → List Char
  | some digits => '.' :: digits
  | none => []

def exponentChars : Option (Bool × List Char) → List Char
  | some (down, digits) => 'e' :: (if down then '-' else '+') :: digits
  | none => []

namespace Numeral

/-- The characters of a numeral after its sign. -/
def chars (t : Numeral) : List Char :=
  t.whole ++ (fractionChars t.fraction ++ exponentChars t.exponent)

/-- A numeral of the grammar. -/
structure Plain (t : Numeral) : Prop where
  whole : t.whole = ['0'] ∨ t.whole ≠ [] ∧ t.whole.head? ≠ some '0'
  digits : ∀ c ∈ t.whole, c.isDigit
  fraction : ∀ s ∈ t.fraction, s ≠ [] ∧ ∀ c ∈ s, c.isDigit
  exponent : ∀ p ∈ t.exponent, p.2 ≠ [] ∧ ∀ c ∈ p.2, c.isDigit

end Numeral

end JsonNumber

namespace Json

open JsonNumber

/-- No digit at the head. -/
def NoDigit (s : List Char) : Prop :=
  ∀ c ∈ s.head?, c.isDigit = false

variable {w r : List Char}

theorem Ends.noDigit (h : Ends r) : NoDigit r := by
  intro c hc
  by_contra hd
  rw [Bool.not_eq_false] at hd
  have hatom := isAtomChar_of_isDigit hd
  rw [h c hc] at hatom
  cases hatom

theorem takeDigits_append (hw : ∀ c ∈ w, c.isDigit) (hr : NoDigit r) :
    takeDigits (w ++ r) = (w, r) := by
  rw [takeDigits, Sql.takeWhile_append_eq hw hr, Sql.dropWhile_append_eq hw hr]

theorem scanExponent_chars (e : Option (Bool × List Char))
    (he : ∀ p ∈ e, p.2 ≠ [] ∧ ∀ c ∈ p.2, c.isDigit) (hr : Ends r) :
    scanExponent (exponentChars e ++ r) = some (e, r) := by
  cases e with
  | none =>
    cases r with
    | nil => rfl
    | cons c r =>
      have hc := hr c rfl
      have hmark : ¬ (c = 'e' ∨ c = 'E') := by
        rintro (rfl | rfl) <;> revert hc <;> decide
      show scanExponent (c :: r) = some (none, c :: r)
      simp [scanExponent, hmark]
  | some p =>
    obtain ⟨down, digits⟩ := p
    obtain ⟨hne, hdigits⟩ := he _ rfl
    obtain ⟨c, digits, rfl⟩ := List.exists_cons_of_ne_nil hne
    have htake : takeDigits (c :: (digits ++ r)) = (c :: digits, r) :=
      takeDigits_append hdigits hr.noDigit
    cases down <;> simp [exponentChars, scanExponent, htake]

theorem scanFraction_chars (f : Option (List Char)) (hf : ∀ s ∈ f, s ≠ [] ∧ ∀ c ∈ s, c.isDigit)
    (hr : NoDigit r) (hpoint : r.head? ≠ some '.') :
    scanFraction (fractionChars f ++ r) = some (f, r) := by
  cases f with
  | none =>
    show scanFraction r = some (none, r)
    unfold scanFraction
    split
    · exact absurd rfl hpoint
    · rfl
  | some digits =>
    obtain ⟨hne, hdigits⟩ := hf _ rfl
    obtain ⟨c, digits, rfl⟩ := List.exists_cons_of_ne_nil hne
    have htake : takeDigits (c :: (digits ++ r)) = (c :: digits, r) := takeDigits_append hdigits hr
    simp [fractionChars, scanFraction, htake]

/-- What stands before a fraction or an exponent, or ends a numeral. -/
theorem exponentChars_head (e : Option (Bool × List Char)) (hr : Ends r) :
    NoDigit (exponentChars e ++ r) ∧ (exponentChars e ++ r).head? ≠ some '.' := by
  cases e with
  | none =>
    refine ⟨hr.noDigit, fun hpoint => ?_⟩
    have hatom := hr '.' hpoint
    revert hatom
    decide
  | some p => exact ⟨fun c hc => by cases hc; rfl, by simp [exponentChars]⟩

theorem fractionChars_head (f : Option (List Char)) (hr : NoDigit r) :
    NoDigit (fractionChars f ++ r) := by
  cases f with
  | none => exact hr
  | some digits => exact fun c hc => by cases hc; rfl

/-- A plain numeral is found, and what follows it. -/
theorem scanNumeral_chars (t : Numeral) (ht : t.Plain) (hr : Ends r) :
    scanNumeral t.negative (t.chars ++ r) = some (t, r) := by
  obtain ⟨negative, whole, fraction, exponent⟩ := t
  obtain ⟨hwhole, hdigits, hfraction, hexponent⟩ := ht
  obtain ⟨hnodigit, hpoint⟩ := exponentChars_head exponent hr
  have htake := takeDigits_append hdigits (fractionChars_head fraction hnodigit)
  have hscan := scanFraction_chars fraction hfraction hnodigit hpoint
  have hscan' := scanExponent_chars exponent hexponent hr
  dsimp only [Numeral.chars] at *
  rw [List.append_assoc, List.append_assoc]
  rcases hwhole with rfl | ⟨hne, hzero⟩
  · show scanNumeral negative ('0' :: (fractionChars fraction ++ (exponentChars exponent ++ r))) = _
    simp [scanNumeral, hscan, hscan']
  · obtain ⟨c, whole, rfl⟩ := List.exists_cons_of_ne_nil hne
    have hc : c ≠ '0' := fun hc => hzero (by rw [hc]; rfl)
    unfold scanNumeral
    split
    · rename_i h
      exact absurd (List.cons.inj h).1 hc
    · rw [htake]
      simp [hscan, hscan']

end Json

/-! ## What a numeral denotes -/

namespace JsonNumber

variable {n : Nat} {e : Int} {digits : List Char}

theorem le_ofDigitChars (digits : List Char) (n : Nat) : n ≤ Nat.ofDigitChars 10 digits n := by
  induction digits generalizing n with
  | nil => exact le_rfl
  | cons c digits ih =>
    rw [Nat.ofDigitChars_cons]
    exact le_trans (by omega) (ih _)

/-- Digits before the point, while they fit. -/
theorem foldl_addWhole (h : Nat.ofDigitChars 10 digits n < 2 ^ 64) :
    digits.foldl Significand.addWhole ⟨n, e, false⟩ =
      ⟨Nat.ofDigitChars 10 digits n, e, false⟩ := by
  induction digits generalizing n with
  | nil => rfl
  | cons c digits ih =>
    rw [Nat.ofDigitChars_cons] at h ⊢
    have hfits := (le_ofDigitChars digits _).trans_lt h
    have hstep : Significand.addWhole ⟨n, e, false⟩ c =
        ⟨10 * n + (c.toNat - '0'.toNat), e, false⟩ := by
      simpa [Significand.addWhole] using hfits
    rw [List.foldl_cons, hstep, ih h]

/-- Digits after the point, while they fit. -/
theorem foldl_addFraction (h : Nat.ofDigitChars 10 digits n < 2 ^ 64) :
    digits.foldl Significand.addFraction ⟨n, e, false⟩ =
      ⟨Nat.ofDigitChars 10 digits n, e - digits.length, false⟩ := by
  induction digits generalizing n e with
  | nil => simp
  | cons c digits ih =>
    rw [Nat.ofDigitChars_cons] at h ⊢
    have hfits := (le_ofDigitChars digits _).trans_lt h
    have hstep : Significand.addFraction ⟨n, e, false⟩ c =
        ⟨10 * n + (c.toNat - '0'.toNat), e - 1, false⟩ := by
      simpa [Significand.addFraction] using hfits
    rw [List.foldl_cons, hstep, ih h, List.length_cons]
    congr 1
    push_cast
    ring

theorem digits?_eq (hne : digits ≠ []) (hd : ∀ c ∈ digits, c.isDigit) :
    Text.digits? digits = some (Nat.ofDigitChars 10 digits 0) := by
  have hfold (n : Nat) : digits.foldl (fun acc c => acc.bind fun n =>
      if c.isDigit then some (10 * n + (c.toNat - '0'.toNat)) else none) (some n) =
      some (Nat.ofDigitChars 10 digits n) := by
    clear hne
    induction digits generalizing n with
    | nil => rfl
    | cons c digits ih =>
      rw [List.foldl_cons, Option.bind_some, if_pos (hd c List.mem_cons_self),
        Nat.ofDigitChars_cons]
      exact ih (fun c hc => hd c (List.mem_cons_of_mem _ hc)) _
  unfold Text.digits?
  rw [if_neg (by simpa using hne), hfold]

/-! ## Whole numbers -/

/-- The numeral of a whole number. -/
def numeralOfInt (n : Int) : Numeral :=
  ⟨n < 0, Nat.toDigits 10 n.natAbs, none, none⟩

theorem isDigit_toDigits (n : Nat) : ∀ c ∈ Nat.toDigits 10 n, c.isDigit := fun _ hc =>
  Nat.isDigit_of_mem_toDigits (by decide) (by decide) hc

theorem toDigits_whole (n : Nat) : Nat.toDigits 10 n = ['0'] ∨
    Nat.toDigits 10 n ≠ [] ∧ (Nat.toDigits 10 n).head? ≠ some '0' := by
  by_cases hn : n = 0
  · exact .inl (hn ▸ rfl)
  · exact .inr ⟨Nat.toDigits_ne_nil, toDigits_head hn⟩

theorem numeralOfInt_plain (n : Int) : (numeralOfInt n).Plain :=
  ⟨toDigits_whole _, isDigit_toDigits _, nofun, nofun⟩

theorem whole_chars (n : Int) :
    (whole n).chars = (if n < 0 then ['-'] else []) ++ (numeralOfInt n).chars := by
  cases n with
  | ofNat k =>
    show (toString k).toList = _
    simp [numeralOfInt, Numeral.chars, fractionChars, exponentChars]
  | negSucc k =>
    show ("-" ++ toString (k + 1)).toList = _
    simp [numeralOfInt, Numeral.chars, fractionChars, exponentChars]

theorem ofNumeral_whole {n : Int} (hlo : -(2 ^ 63) ≤ n) (hhi : n < 2 ^ 64) :
    ofNumeral (numeralOfInt n) = some (.whole n) := by
  have hfits : Nat.ofDigitChars 10 (Nat.toDigits 10 n.natAbs) 0 < 2 ^ 64 := by
    rw [Nat.ofDigitChars_ten_toDigits]
    omega
  unfold ofNumeral numeralOfInt
  dsimp only
  rw [foldl_addWhole hfits, Nat.ofDigitChars_ten_toDigits]
  dsimp only
  by_cases hn : n < 0
  · have hsize : 0 < n.natAbs ∧ n.natAbs ≤ 2 ^ 63 := by omega
    simp only [hn, decide_true, Bool.not_true, Bool.false_eq_true, if_false]
    rw [if_pos hsize, show -((n.natAbs : ℕ) : Int) = n by omega]
  · have hsize : ((n.natAbs : ℕ) : Int) = n := by omega
    simp [hn, hsize]

/-! ## Doubles -/

/-- The numeral of digits with the point after the first `n`. -/
def positionalNumeral (negative : Bool) (digits : List Char) (n : Int) : Numeral :=
  if n ≤ 0 then ⟨negative, ['0'], some (List.replicate (-n).toNat '0' ++ digits), none⟩
  else if digits.length ≤ n.toNat then
    ⟨negative, digits ++ List.replicate (n.toNat - digits.length) '0', some ['0'], none⟩
  else ⟨negative, digits.take n.toNat, some (digits.drop n.toNat), none⟩

/-- The numeral with one digit before the point. -/
def scientificNumeral (negative : Bool) (digits : List Char) (n : Int) : Numeral :=
  ⟨negative, digits.take 1, if digits.length ≤ 1 then none else some (digits.drop 1),
    some (n < 0, Nat.toDigits 10 n.natAbs)⟩

/-- The numeral of a decimal. -/
def numeralOf (negative : Bool) (d : Decimal) : Numeral :=
  let digits := Nat.toDigits 10 d.digits
  let n : Int := d.exponent + digits.length
  if DecimalLayout.json.positional (n - 1) then positionalNumeral negative digits n
  else scientificNumeral negative digits (n - 1)

theorem numeralOf_negative (negative : Bool) (d : Decimal) :
    (numeralOf negative d).negative = negative := by
  unfold numeralOf positionalNumeral scientificNumeral
  dsimp only
  split_ifs <;> rfl

theorem positionalNumeral_chars (negative : Bool) (n : Int) :
    (positionalNumeral negative digits n).chars = DecimalLayout.positionalText true digits n := by
  unfold positionalNumeral DecimalLayout.positionalText
  simp only [if_true]
  split_ifs <;> simp [Numeral.chars, fractionChars, exponentChars]

theorem scientificNumeral_chars (negative : Bool) (n : Int) :
    (scientificNumeral negative digits n).chars = DecimalLayout.scientificText digits n := by
  unfold scientificNumeral DecimalLayout.scientificText
  match digits with
  | [] => simp [Numeral.chars, fractionChars, exponentChars]
  | [c] => simp [Numeral.chars, fractionChars, exponentChars]
  | c :: d :: r => simp [Numeral.chars, fractionChars, exponentChars]

theorem decimalText_eq (negative : Bool) (d : Decimal) :
    DecimalLayout.json.decimalText d = (numeralOf negative d).chars := by
  unfold DecimalLayout.decimalText numeralOf
  dsimp only
  split_ifs
  · rw [positionalNumeral_chars]
    rfl
  · rw [scientificNumeral_chars]

theorem numeralOf_zero (negative : Bool) :
    numeralOf negative ⟨0, 0⟩ = ⟨negative, ['0'], some ['0'], none⟩ :=
  rfl

section

variable (hdigits : ∀ c ∈ digits, c.isDigit) (hne : digits ≠ []) (hhead : digits.head? ≠ some '0')

include hdigits hne hhead

theorem positionalNumeral_plain (negative : Bool) (n : Int) :
    (positionalNumeral negative digits n).Plain := by
  obtain ⟨c, r, rfl⟩ := List.exists_cons_of_ne_nil hne
  have hzeros (k : Nat) := DecimalLayout.isDigit_replicate k
  unfold positionalNumeral
  split_ifs with hn hlen
  · refine ⟨.inl rfl, by simp, ?_, nofun⟩
    rintro _ ⟨⟩
    exact ⟨by simp, DecimalLayout.isDigit_append (hzeros _) hdigits⟩
  · refine ⟨.inr ⟨by simp, hhead⟩, DecimalLayout.isDigit_append hdigits (hzeros _), ?_, nofun⟩
    rintro _ ⟨⟩
    exact ⟨by simp, by simp⟩
  · obtain ⟨k, hk⟩ : ∃ k, n.toNat = k + 1 := ⟨n.toNat - 1, by omega⟩
    rw [hk] at hlen ⊢
    refine ⟨.inr ⟨by simp, hhead⟩, fun a ha => hdigits a (List.mem_of_mem_take ha), ?_, nofun⟩
    rintro _ ⟨⟩
    exact ⟨by simpa [List.drop_eq_nil_iff] using hlen, fun a ha =>
      hdigits a (List.mem_of_mem_drop ha)⟩

theorem scientificNumeral_plain (negative : Bool) (n : Int) :
    (scientificNumeral negative digits n).Plain := by
  obtain ⟨c, r, rfl⟩ := List.exists_cons_of_ne_nil hne
  refine ⟨.inr ⟨by simp [scientificNumeral], hhead⟩, fun a ha =>
    hdigits a (List.mem_of_mem_take ha), ?_, ?_⟩
  · unfold scientificNumeral
    dsimp only
    split_ifs with hlen
    · nofun
    · rintro _ ⟨⟩
      exact ⟨by simpa [List.drop_eq_nil_iff] using hlen, fun a ha =>
        hdigits a (List.mem_of_mem_drop ha)⟩
  · rintro _ ⟨⟩
    exact ⟨Nat.toDigits_ne_nil, isDigit_toDigits _⟩

end

/-- Digits that begin with no zero, or a zero in the place before the point. -/
theorem numeralOf_plain (negative : Bool) {d : Decimal} (hd : d.digits ≠ 0 ∨ d = ⟨0, 0⟩) :
    (numeralOf negative d).Plain := by
  rcases hd with hd | rfl
  · have hdigits := isDigit_toDigits d.digits
    have hne : Nat.toDigits 10 d.digits ≠ [] := Nat.toDigits_ne_nil
    unfold numeralOf
    dsimp only
    split_ifs
    · exact positionalNumeral_plain hdigits hne (toDigits_head hd) negative _
    · exact scientificNumeral_plain hdigits hne (toDigits_head hd) negative _
  · rw [numeralOf_zero]
    refine ⟨.inl rfl, by simp, ?_, nofun⟩
    rintro _ ⟨⟩
    exact ⟨by simp, by simp⟩

/-- The significand and the exponent that are read for a decimal: its own, or with the zeros
    behind it up to the first one after the point. -/
inductive Spelled (d : Decimal) : Nat → Int → Prop
  | exact : Spelled d d.digits d.exponent
  | padded (h : 0 ≤ d.exponent) : Spelled d (d.digits * 10 ^ (d.exponent + 1).toNat) (-1)

theorem length_toDigits_le {n k : Nat} (hk : 0 < k) :
    (Nat.toDigits 10 n).length ≤ k ↔ n < 10 ^ k := by
  have hlist : (Nat.toDigits 10 n).length = n.repr.length := by
    rw [← Nat.toList_repr, String.length_toList]
  rw [hlist]
  exact Nat.length_repr_le_iff hk

/-- A numeral with a fraction and no exponent. -/
theorem ofNumeral_fraction (negative : Bool) {w f : List Char}
    (h : Nat.ofDigitChars 10 (w ++ f) 0 < 2 ^ 64) :
    ofNumeral ⟨negative, w, some f, none⟩ =
      ofSignificand negative (Nat.ofDigitChars 10 (w ++ f) 0) (-(f.length : Int)) := by
  rw [Nat.ofDigitChars_append] at h ⊢
  have hwhole := (le_ofDigitChars f _).trans_lt h
  unfold ofNumeral
  dsimp only
  rw [foldl_addWhole hwhole]
  dsimp only [Option.getD_some]
  rw [foldl_addFraction h, zero_sub]

/-- A numeral with an exponent. -/
theorem ofNumeral_exponent (negative : Bool) {w : List Char} (f : Option (List Char)) {n : Int}
    (h : Nat.ofDigitChars 10 (w ++ f.getD []) 0 < 2 ^ 64) (hn : n.natAbs < 2 ^ 31) :
    ofNumeral ⟨negative, w, f, some (n < 0, Nat.toDigits 10 n.natAbs)⟩ =
      ofSignificand negative (Nat.ofDigitChars 10 (w ++ f.getD []) 0)
        (n - ((f.getD []).length : Int)) := by
  rw [Nat.ofDigitChars_append] at h ⊢
  have hwhole := (le_ofDigitChars _ _).trans_lt h
  have hsize : exponentSize? (Nat.toDigits 10 n.natAbs) = some n.natAbs := by
    rw [exponentSize?, digits?_eq Nat.toDigits_ne_nil (isDigit_toDigits _),
      Nat.ofDigitChars_ten_toDigits]
    simpa [Option.filter] using hn
  have hfold := foldl_addFraction (e := 0) h
  have hexponent : (if decide (n < 0) = true then 0 - ((f.getD []).length : Int) - n.natAbs
      else 0 - ((f.getD []).length : Int) + n.natAbs) = n - ((f.getD []).length : Int) := by
    simp only [decide_eq_true_eq]
    split_ifs <;> omega
  rw [← hexponent]
  unfold ofNumeral
  dsimp only
  rw [foldl_addWhole hwhole]
  cases f <;> dsimp only [Option.getD_none, Option.getD_some] at hfold ⊢ <;> rw [hsize] <;>
    dsimp only <;> rw [hfold]

section

variable {d : Decimal} (hvalue : Nat.ofDigitChars 10 digits 0 = d.digits) (hfits : d.digits < 2 ^ 64)

include hvalue hfits

theorem ofNumeral_positional (negative : Bool) (hpow : d.digits < 10 ^ digits.length)
    (hhi : d.exponent + digits.length ≤ 16) :
    ∃ m e, Spelled d m e ∧ m < 2 ^ 64 ∧
      ofNumeral (positionalNumeral negative digits (d.exponent + digits.length)) =
        ofSignificand negative m e := by
  unfold positionalNumeral
  split_ifs with hn hlen
  · have hall : Nat.ofDigitChars 10 (['0'] ++ (List.replicate
        (-(d.exponent + digits.length)).toNat '0' ++ digits)) 0 = d.digits := by
      simp [Nat.ofDigitChars_append, Nat.ofDigitChars_replicate_zero, Nat.ofDigitChars_cons,
        hvalue]
    refine ⟨_, _, .exact, hfits, ?_⟩
    rw [ofNumeral_fraction negative (hall ▸ hfits), hall]
    congr 1
    simp only [List.length_append, List.length_replicate]
    omega
  · -- zeros up to the point, and one behind it
    have hall : Nat.ofDigitChars 10 (digits ++ List.replicate
        ((d.exponent + digits.length).toNat - digits.length) '0' ++ ['0']) 0 =
          d.digits * 10 ^ (d.exponent + 1).toNat := by
      rw [show (d.exponent + 1).toNat =
        (d.exponent + digits.length).toNat - digits.length + 1 by omega]
      simp only [Nat.ofDigitChars_append, Nat.ofDigitChars_replicate_zero,
        Nat.ofDigitChars_cons, Nat.ofDigitChars_nil, hvalue]
      ring_nf
      simp
    have hsmall : d.digits * 10 ^ (d.exponent + 1).toNat < 2 ^ 64 := by
      calc d.digits * 10 ^ (d.exponent + 1).toNat
          < 10 ^ digits.length * 10 ^ (d.exponent + 1).toNat :=
            Nat.mul_lt_mul_of_pos_right hpow (by positivity)
        _ = 10 ^ (digits.length + (d.exponent + 1).toNat) := (pow_add _ _ _).symm
        _ ≤ 10 ^ 17 := Nat.pow_le_pow_right (by decide) (by omega)
        _ < 2 ^ 64 := by decide
    refine ⟨_, _, .padded (by omega), hsmall, ?_⟩
    rw [ofNumeral_fraction negative (hall ▸ hsmall), hall]
    rfl
  · have hall : Nat.ofDigitChars 10 (digits.take (d.exponent + digits.length).toNat ++
        digits.drop (d.exponent + digits.length).toNat) 0 = d.digits := by
      rw [List.take_append_drop, hvalue]
    refine ⟨_, _, .exact, hfits, ?_⟩
    rw [ofNumeral_fraction negative (hall ▸ hfits), hall]
    congr 1
    rw [List.length_drop]
    omega

theorem ofNumeral_scientific (negative : Bool) (hne : digits ≠ [])
    (hrange : (d.exponent + digits.length - 1).natAbs < 2 ^ 31) :
    ofNumeral (scientificNumeral negative digits (d.exponent + digits.length - 1)) =
      ofSignificand negative d.digits d.exponent := by
  obtain ⟨c, r, rfl⟩ := List.exists_cons_of_ne_nil hne
  have hfraction : (if (c :: r).length ≤ 1 then none else some ((c :: r).drop 1)).getD [] = r := by
    split_ifs with hlen
    · cases r with
      | nil => rfl
      | cons => simp at hlen
    · rfl
  have hall : Nat.ofDigitChars 10 ((c :: r).take 1 ++
      (if (c :: r).length ≤ 1 then none else some ((c :: r).drop 1)).getD []) 0 = d.digits := by
    rw [hfraction]
    exact hvalue
  unfold scientificNumeral
  rw [ofNumeral_exponent negative _ (hall ▸ hfits) hrange, hall, hfraction]
  congr 1
  rw [List.length_cons]
  push_cast
  ring

end

/-- The numeral of a decimal is read as its significand and exponent, in one of two spellings. -/
theorem ofNumeral_decimal (negative : Bool) {d : Decimal} (hdigits : d.digits < 2 ^ 64)
    (hlo : -400 ≤ d.exponent) (hhi : d.exponent ≤ 400) :
    ∃ digits e, Spelled d digits e ∧ digits < 2 ^ 64 ∧
      ofNumeral (numeralOf negative d) = ofSignificand negative digits e := by
  have hvalue : Nat.ofDigitChars 10 (Nat.toDigits 10 d.digits) 0 = d.digits :=
    Nat.ofDigitChars_ten_toDigits
  have hne : Nat.toDigits 10 d.digits ≠ [] := Nat.toDigits_ne_nil
  have hpow := (length_toDigits_le (n := d.digits) (List.length_pos_iff.2 hne)).1 le_rfl
  unfold numeralOf
  dsimp only
  split_ifs with hpositional
  · have hrange : -5 ≤ d.exponent + (Nat.toDigits 10 d.digits).length - 1 ∧
        d.exponent + (Nat.toDigits 10 d.digits).length - 1 ≤ 15 := by
      simpa [DecimalLayout.json] using hpositional
    exact ofNumeral_positional hvalue hdigits negative hpow (by omega)
  · have hlength : (Nat.toDigits 10 d.digits).length ≤ 20 :=
      (length_toDigits_le (by decide)).2 (hdigits.trans (by decide))
    exact ⟨_, _, .exact, hdigits,
      ofNumeral_scientific hvalue hdigits negative hne (by omega)⟩

end JsonNumber

end Rowgate
