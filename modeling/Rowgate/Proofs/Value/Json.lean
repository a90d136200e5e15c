/-
  What the JSON text of a value tells of the value.

  * `Value.Interchangeable`: the same value, as far as statements can tell;
  * `Value.Confusable`: different values with one text;
  * `same_value`: two values with one text are one or the other.
-/
import Rowgate.Proofs.Calendar.Instant
import Rowgate.Proofs.Json.Text
import Rowgate.Proofs.Savepoint
import Rowgate.Value.Json

namespace Rowgate

/-! ## Numbers -/

theorem negText_ne_natText (m n : Nat) : toString (Int.negSucc m) ≠ toString (Int.ofNat n) := by
  intro h
  have hsign : '-' ∈ (toString (Int.negSucc m)).toList := by
    rw [show toString (Int.negSucc m) = "-" ++ toString (m + 1) from rfl]
    simp
  rw [h] at hsign
  cases Sql.natText_isDigit n '-' hsign

theorem intText_inj {m n : Int} (h : toString m = toString n) : m = n := by
  cases m with
  | ofNat m =>
    cases n with
    | ofNat n => rw [natText_injective h]
    | negSucc n => exact absurd h.symm (negText_ne_natText n m)
  | negSucc m =>
    cases n with
    | ofNat n => exact absurd h (negText_ne_natText m n)
    | negSucc n =>
      have hnat : toString (m + 1) = toString (n + 1) := (String.append_right_inj "-").1 h
      rw [Nat.succ.inj (natText_injective hnat)]

/-- The same number, or two that are none. -/
def Double.Alike (x y : Double) : Prop :=
  x.isFinite ∧ y.isFinite ∧ x.datum = y.datum ∨ ¬ x.isFinite ∧ ¬ y.isFinite

theorem Double.Alike.symm {x y : Double} (h : x.Alike y) : y.Alike x :=
  h.imp (fun ⟨hx, hy, he⟩ => ⟨hy, hx, he.symm⟩) fun ⟨hx, hy⟩ => ⟨hy, hx⟩

namespace JsonNumber

/-- A point or an exponent, which only doubles have. -/
def HasMark (s : List Char) : Prop :=
  ∃ c ∈ s, c = '.' ∨ c = 'e'

theorem hasMark_decimal {x : Double} (h : x.isFinite) : HasMark (decimal x).chars := by
  obtain ⟨s, m, e, hx⟩ := DecimalLayout.isFinite_iff.1 h
  obtain ⟨c, hc, hmark⟩ := DecimalLayout.exists_mark (l := .json) rfl (.shortest .toEven m e)
  have hchars : (decimal x).chars = DecimalLayout.finiteText .json s m e :=
    DecimalLayout.text_finite _ hx
  rw [hchars]
  exact ⟨c, List.mem_append_right _ hc, hmark⟩

theorem not_hasMark_whole (n : Int) : ¬ HasMark (whole n).chars := by
  rintro ⟨c, hc, hmark⟩
  rcases (Json.intText_chars n).2 c hc with hd | rfl
  · rcases hmark with rfl | rfl <;> cases hd
  · rcases hmark with h | h <;> cases h

theorem not_hasMark_null : ¬ HasMark Json.nullChars := by
  rintro ⟨c, hc, rfl | rfl⟩ <;> exact absurd hc (by decide)

theorem chars_of_not_finite {x : Double} (h : ¬ x.isFinite) :
    (decimal x).chars = Json.nullChars :=
  Json.json_text_of_not_finite h

theorem decimal_inj {x y : Double} (h : (decimal x).chars = (decimal y).chars) : x.Alike y := by
  by_cases hx : x.isFinite <;> by_cases hy : y.isFinite
  · exact .inl ⟨hx, hy, DecimalLayout.text_datum_inj .json hx hy (String.toList_inj.1 h)⟩
  · have hmark := hasMark_decimal hx
    rw [h, chars_of_not_finite hy] at hmark
    exact absurd hmark not_hasMark_null
  · have hmark := hasMark_decimal hy
    rw [← h, chars_of_not_finite hx] at hmark
    exact absurd hmark not_hasMark_null
  · exact .inr ⟨hx, hy⟩

theorem whole_ne_decimal {n : Int} {x : Double} : (whole n).chars ≠ (decimal x).chars := by
  intro h
  by_cases hx : x.isFinite
  · have hmark := hasMark_decimal hx
    rw [← h] at hmark
    exact not_hasMark_whole n hmark
  · rw [chars_of_not_finite hx] at h
    have hu : 'u' ∈ (whole n).chars := h ▸ (by decide : 'u' ∈ Json.nullChars)
    rcases (Json.intText_chars n).2 'u' hu with hd | hc
    · cases hd
    · cases hc

end JsonNumber

/-! ## Values -/

namespace Value

/-- The same value, but that an instant is known by its text, and floats that are not finite
    are all one. -/
inductive Interchangeable : Value → Value → Prop
  | refl (v : Value) : Interchangeable v v
  | float {x y : Double} (h : x.Alike y) : Interchangeable (.float x) (.float y)
  | timestamp {t t' : Instant} (h : t.text = t'.text) :
      Interchangeable (.timestamp t) (.timestamp t')
  | numericArray {xs ys : List Double} (h : List.Forall₂ Double.Alike xs ys) :
      Interchangeable (.numericArray xs) (.numericArray ys)

/-- Different values with one JSON text: an instant and its text, no value and a float that is
    not finite, and the two empty lists. -/
inductive Confusable : Value → Value → Prop
  | timestamp (t : Instant) : Confusable (.timestamp t) (.string t.text)
  | notFinite {x : Double} (h : ¬ x.isFinite) : Confusable .null (.float x)
  | empty : Confusable (.stringArray []) (.numericArray [])

/-- What the first character of a JSON text says of the value. -/
inductive Head where
  | null
  | bool
  | number
  | string
  | array

def Head.ofChar (c : Char) : Head :=
  if c = 'n' then .null
  else if c = 't' ∨ c = 'f' then .bool
  else if c = '"' then .string
  else if c = '[' then .array
  else .number

/-- What the text of a value starts as. -/
def head : Value → Head
  | null => .null
  | bool _ => .bool
  | integer _ => .number
  | float x => if x.isFinite then .number else .null
  | timestamp _ | string _ => .string
  | stringArray _ | numericArray _ => .array

theorem head_of_finite {x : Double} (h : x.isFinite) : (float x).head = .number :=
  if_pos h

theorem head_of_not_finite {x : Double} (h : ¬ x.isFinite) : (float x).head = .null :=
  if_neg h

theorem head_float (x : Double) : (float x).head = .number ∨ (float x).head = .null := by
  by_cases hx : x.isFinite
  · exact .inl (head_of_finite hx)
  · exact .inr (head_of_not_finite hx)

theorem ofChar_number {c : Char} (h : c.isDigit ∨ c = '-' ∨ c = '.') : Head.ofChar c = .number := by
  have hne : ∀ d ∈ ['n', 't', 'f', '"', '['], c ≠ d := by
    rintro d hd rfl
    simp only [List.mem_cons, List.not_mem_nil, or_false] at hd
    rcases hd with rfl | rfl | rfl | rfl | rfl <;> revert h <;> decide
  simp_all [Head.ofChar]

/-- The first character of a finite double. -/
theorem decimal_head {x : Double} (h : x.isFinite) :
    ∃ c s, (JsonNumber.decimal x).chars = c :: s ∧ (c.isDigit ∨ c = '-' ∨ c = '.') := by
  obtain ⟨negative, m, e, hx⟩ := DecimalLayout.isFinite_iff.1 h
  have hchars : (JsonNumber.decimal x).chars = DecimalLayout.finiteText .json negative m e :=
    DecimalLayout.text_finite _ hx
  rw [hchars]
  cases negative with
  | true => exact ⟨'-', _, rfl, .inr (.inl rfl)⟩
  | false =>
    obtain ⟨w, r, htext, hne, hw, -⟩ :=
      DecimalLayout.decimalText_parts .json (.shortest .toEven m e)
    obtain ⟨c, t, rfl⟩ := List.exists_cons_of_ne_nil hne
    have hc := hw c List.mem_cons_self
    exact ⟨c, t ++ r, htext, hc.imp_right .inr⟩

theorem head_chars (v : Value) :
    ∃ c s, v.toJson.chars Json.escapedChar = c :: s ∧ Head.ofChar c = v.head := by
  cases v with
  | null => exact ⟨_, _, rfl, rfl⟩
  | bool b => cases b <;> exact ⟨_, _, rfl, rfl⟩
  | integer n =>
    obtain ⟨hne, hall⟩ := Json.intText_chars n.toInt
    obtain ⟨c, s, hs⟩ := List.exists_cons_of_ne_nil hne
    have hc := hall c (hs ▸ List.mem_cons_self)
    exact ⟨c, s, hs, ofChar_number (hc.imp_right .inl)⟩
  | float x =>
    by_cases hx : x.isFinite
    · obtain ⟨c, s, hs, hc⟩ := decimal_head hx
      exact ⟨c, s, hs, (ofChar_number hc).trans (head_of_finite hx).symm⟩
    · exact ⟨_, _, JsonNumber.chars_of_not_finite hx, (head_of_not_finite hx).symm⟩
  | timestamp t => exact ⟨_, _, rfl, rfl⟩
  | string s => exact ⟨_, _, rfl, rfl⟩
  | stringArray items => exact ⟨_, _, rfl, rfl⟩
  | numericArray items => exact ⟨_, _, rfl, rfl⟩

variable {v w : Value}

/-- Values with one text start alike. -/
theorem head_eq (h : Json.Same v.toJson w.toJson) : v.head = w.head := by
  obtain ⟨c, s, hv, hc⟩ := head_chars v
  obtain ⟨d, t, hw, hd⟩ := head_chars w
  rw [Json.Same, hv, hw] at h
  rw [← hc, ← hd, (List.cons.inj h).1]

theorem numericArray_inj {items items' : List Double}
    (h : Json.Same (numericArray items).toJson (numericArray items').toJson) :
    List.Forall₂ Double.Alike items items' := by
  have hitems := Json.array_inj h
  rw [List.forall₂_map_left_iff, List.forall₂_map_right_iff] at hitems
  exact hitems.imp fun _ _ => JsonNumber.decimal_inj

/-- A list of texts and one of numbers have one text when both are empty. -/
theorem arrays_empty {items : List String} {items' : List Double}
    (h : Json.Same (stringArray items).toJson (numericArray items').toJson) :
    items = [] ∧ items' = [] := by
  have hitems := Json.array_inj h
  rw [List.forall₂_map_left_iff, List.forall₂_map_right_iff] at hitems
  cases hitems with
  | nil => exact ⟨rfl, rfl⟩
  | @cons s x _ _ hx _ =>
    have hhead : (string s).head = (float x).head := head_eq hx
    rcases head_float x with hf | hf <;> rw [hf] at hhead <;> cases hhead

/-- A text that is the text of a float. -/
theorem same_float {x : Double} (h : Json.Same v.toJson (float x).toJson) :
    (∃ y, v = float y ∧ y.Alike x) ∨ v = null ∧ ¬ x.isFinite := by
  have hhead := head_eq h
  cases v with
  | float y => exact .inl ⟨y, rfl, JsonNumber.decimal_inj h⟩
  | null =>
    refine .inr ⟨rfl, fun hx => ?_⟩
    rw [head_of_finite hx] at hhead
    cases hhead
  | integer n => exact absurd h JsonNumber.whole_ne_decimal
  | _ => rcases head_float x with hf | hf <;> rw [hf] at hhead <;> cases hhead

/-- What a JSON text tells of the value. -/
theorem same_value (h : Json.Same v.toJson w.toJson) :
    v.Interchangeable w ∨ v.Confusable w ∨ w.Confusable v := by
  -- floats first: how one is written depends on whether it is finite
  by_cases hv : ∃ y, v = float y
  · obtain ⟨y, rfl⟩ := hv
    rcases same_float h.symm with ⟨x, rfl, hx⟩ | ⟨rfl, hy⟩
    · exact .inl (.float hx.symm)
    · exact .inr (.inr (.notFinite hy))
  rw [not_exists] at hv
  have hhead := head_eq h
  cases w with
  | float x =>
    rcases same_float h with ⟨y, rfl, -⟩ | ⟨rfl, hx⟩
    · exact absurd rfl (hv y)
    · exact .inr (.inl (.notFinite hx))
  | null =>
    cases v with
    | null => exact .inl (.refl _)
    | float y => exact absurd rfl (hv y)
    | _ => cases hhead
  | bool b =>
    cases v with
    | bool a =>
      obtain rfl := Json.bool_inj h
      exact .inl (.refl _)
    | float y => exact absurd rfl (hv y)
    | _ => cases hhead
  | integer n =>
    cases v with
    | integer m =>
      have hmn : m.toInt = n.toInt := intText_inj (String.toList_inj.1 h)
      rw [Int64.toInt_inj.1 hmn]
      exact .inl (.refl _)
    | float y => exact absurd rfl (hv y)
    | _ => cases hhead
  | timestamp t' =>
    cases v with
    | timestamp t => exact .inl (.timestamp (Json.string_inj h))
    | string s =>
      obtain rfl : s = t'.text := Json.string_inj h
      exact .inr (.inr (.timestamp t'))
    | float y => exact absurd rfl (hv y)
    | _ => cases hhead
  | string s' =>
    cases v with
    | timestamp t =>
      obtain rfl : t.text = s' := Json.string_inj h
      exact .inr (.inl (.timestamp t))
    | string s =>
      obtain rfl : s = s' := Json.string_inj h
      exact .inl (.refl _)
    | float y => exact absurd rfl (hv y)
    | _ => cases hhead
  | stringArray items' =>
    cases v with
    | stringArray items =>
      rw [Json.strings_inj h]
      exact .inl (.refl _)
    | numericArray items =>
      obtain ⟨rfl, rfl⟩ := arrays_empty h.symm
      exact .inr (.inr .empty)
    | float y => exact absurd rfl (hv y)
    | _ => cases hhead
  | numericArray items' =>
    cases v with
    | stringArray items =>
      obtain ⟨rfl, rfl⟩ := arrays_empty h
      exact .inr (.inl .empty)
    | numericArray items => exact .inl (.numericArray (numericArray_inj h))
    | float y => exact absurd rfl (hv y)
    | _ => cases hhead

end Value

end Rowgate
