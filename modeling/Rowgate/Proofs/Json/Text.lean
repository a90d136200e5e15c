/-
  The compact text of a JSON value at the head of a text is found in one way only.

  * `Ends`: what may follow a value, nothing that could still belong to a numeral or a word;
  * `chars_append_inj`: equal texts start with equal values, and go on with equal rests;
  * `array_inj`, `object_inj`: equal texts of arrays and objects have equal parts.
-/
import Mathlib.Data.List.Forall2
import Rowgate.Json.Decode
import Rowgate.Proofs.Decimal.Layout
import Rowgate.Proofs.Json.String
import Rowgate.Proofs.Sql.Lexeme
import Rowgate.Proofs.Sql.Numeral

namespace Rowgate.Json

/-! ## Words and numerals -/

/-- The characters of words and numerals. -/
def isAtomChar (c : Char) : Bool :=
  c.isAlphanum || c = '-' || c = '+' || c = '.'

/-- A value that is written as a word or a numeral. -/
def Atomic : Json → Prop
  | string _ | array _ | object _ => False
  | _ => True

/-- What may follow a value: nothing, or no character of a word or a numeral. -/
def Ends (rest : List Char) : Prop :=
  ∀ c ∈ rest.head?, isAtomChar c = false

theorem ends_cons {c : Char} (hc : isAtomChar c = false) (r : List Char) : Ends (c :: r) :=
  fun d hd => by
    cases hd
    exact hc

theorem isAtomChar_of_isDigit {c : Char} (h : c.isDigit) : isAtomChar c := by
  simp [isAtomChar, Char.isAlphanum, h]

theorem isAtomChar_decimalText (d : Decimal) :
    ∀ c ∈ DecimalLayout.json.decimalText d, isAtomChar c := by
  obtain ⟨w, r, htext, -, hw, hr⟩ := DecimalLayout.decimalText_parts .json d
  intro c hc
  rw [htext] at hc
  rcases List.mem_append.1 hc with hc | hc
  · rcases hw c hc with hd | rfl
    · exact isAtomChar_of_isDigit hd
    · decide
  · rcases hr with rfl | ⟨sign, digits, rfl, hsign, hd⟩
    · cases hc
    · rcases List.mem_cons.1 hc with rfl | hc
      · decide
      · rcases List.mem_cons.1 hc with rfl | hc
        · rcases hsign with rfl | rfl <;> decide
        · exact isAtomChar_of_isDigit (hd c hc)

theorem intText_chars : ∀ n : Int,
    (toString n).toList ≠ [] ∧ ∀ c ∈ (toString n).toList, c.isDigit ∨ c = '-'
  | .ofNat n => ⟨Sql.natText_ne_nil n, fun c hc => .inl (Sql.natText_isDigit n c hc)⟩
  | .negSucc n => by
    have htext : (toString (Int.negSucc n)).toList = '-' :: (toString (n + 1)).toList := by
      rw [show toString (Int.negSucc n) = "-" ++ toString (n + 1) from rfl]
      simp
    rw [htext]
    refine ⟨List.cons_ne_nil _ _, fun c hc => ?_⟩
    rcases List.mem_cons.1 hc with rfl | hc
    · exact .inr rfl
    · exact .inl (Sql.natText_isDigit _ c hc)

/-- The text of a double that is not finite. -/
theorem json_text_of_not_finite {x : Double} (h : ¬ x.isFinite) :
    (DecimalLayout.json.text x).toList = nullChars := by
  unfold Double.isFinite at h
  unfold DecimalLayout.text
  cases hx : x.datum with
  | finite s m e => simp [hx] at h
  | infinite s => cases s <;> decide
  | nan s payload => exact (by decide : "null".toList = nullChars)

theorem isAtomChar_nullChars : ∀ c ∈ nullChars, isAtomChar c :=
  List.all_eq_true.1 (by decide)

theorem isAtomChar_boolChars (b : Bool) : ∀ c ∈ boolChars b, isAtomChar c :=
  List.all_eq_true.1 (by cases b <;> decide)

theorem number_chars (n : JsonNumber) : n.chars ≠ [] ∧ ∀ c ∈ n.chars, isAtomChar c := by
  cases n with
  | whole n =>
    obtain ⟨hne, hall⟩ := intText_chars n
    refine ⟨hne, fun c hc => ?_⟩
    rcases hall c hc with hd | rfl
    · exact isAtomChar_of_isDigit hd
    · decide
  | decimal x =>
    have hchars : (JsonNumber.decimal x).chars = (DecimalLayout.json.text x).toList := rfl
    by_cases hx : x.isFinite
    · obtain ⟨s, m, e, hx⟩ := DecimalLayout.isFinite_iff.1 hx
      have hdecimal := isAtomChar_decimalText (.shortest .toEven m e)
      obtain ⟨c, hc, -⟩ := DecimalLayout.exists_mark (l := .json) rfl (.shortest .toEven m e)
      rw [hchars, DecimalLayout.text_finite _ hx]
      refine ⟨List.append_ne_nil_of_right_ne_nil _ (List.ne_nil_of_mem hc), fun c hc => ?_⟩
      rcases List.mem_append.1 hc with hc | hc
      · have hsign : c = '-' := by
          cases s
          · cases hc
          · exact List.mem_singleton.1 hc
        rw [hsign]
        decide
      · exact hdecimal c hc
    · rw [hchars, json_text_of_not_finite hx]
      exact ⟨by decide, isAtomChar_nullChars⟩

theorem atom_chars {j : Json} (h : Atomic j) :
    j.chars escapedChar ≠ [] ∧ ∀ c ∈ j.chars escapedChar, isAtomChar c := by
  cases j with
  | null => exact ⟨by decide, isAtomChar_nullChars⟩
  | bool b => exact ⟨by cases b <;> decide, isAtomChar_boolChars b⟩
  | number n => exact number_chars n
  | unreadable => exact ⟨by decide, isAtomChar_nullChars⟩
  | _ => cases h

/-! ## Values -/

/-- Two values with one text. -/
def Same (j j' : Json) : Prop :=
  j.chars escapedChar = j'.chars escapedChar

/-- A value is a word or numeral, or its first character tells what it is. -/
theorem kind (j : Json) :
    Atomic j ∨ (∃ s, j = .string s) ∨ (∃ items, j = .array items) ∨
      ∃ members, j = .object members := by
  cases j with
  | string s => exact .inr (.inl ⟨s, rfl⟩)
  | array items => exact .inr (.inr (.inl ⟨items, rfl⟩))
  | object members => exact .inr (.inr (.inr ⟨members, rfl⟩))
  | _ => exact .inl trivial

theorem chars_head {j : Json} {c : Char} {s r : List Char} (h : j.chars escapedChar ++ r = c :: s) :
    isAtomChar c ∧ Atomic j ∨ c = '"' ∧ (∃ s, j = .string s) ∨
      c = '[' ∧ (∃ items, j = .array items) ∨ c = '\x7b' ∧ ∃ members, j = .object members := by
  rcases kind j with hj | ⟨s, rfl⟩ | ⟨items, rfl⟩ | ⟨members, rfl⟩
  · obtain ⟨hne, hall⟩ := atom_chars hj
    obtain ⟨d, t, ht⟩ := List.exists_cons_of_ne_nil hne
    rw [ht] at h
    obtain ⟨rfl, -⟩ := List.cons.inj h
    exact .inl ⟨hall _ (ht ▸ List.mem_cons_self), hj⟩
  · rw [chars, stringChars] at h
    exact .inr (.inl ⟨(List.cons.inj h).1.symm, s, rfl⟩)
  · rw [chars] at h
    exact .inr (.inr (.inl ⟨(List.cons.inj h).1.symm, items, rfl⟩))
  · rw [chars] at h
    exact .inr (.inr (.inr ⟨(List.cons.inj h).1.symm, members, rfl⟩))

theorem atom_append_inj {j j' : Json} {r r' : List Char} (hj : Atomic j) (hr : Ends r)
    (hr' : Ends r') (h : j.chars escapedChar ++ r = j'.chars escapedChar ++ r') :
    Same j j' ∧ r = r' := by
  obtain ⟨hne, hall⟩ := atom_chars hj
  obtain ⟨c, t, ht⟩ := List.exists_cons_of_ne_nil hne
  have hc : isAtomChar c := hall c (ht ▸ List.mem_cons_self)
  have h' := h.symm
  rw [ht, List.cons_append] at h'
  rcases chars_head h' with ⟨-, hj'⟩ | ⟨rfl, -⟩ | ⟨rfl, -⟩ | ⟨rfl, -⟩
  · have hall' := (atom_chars hj').2
    have htake := Sql.takeWhile_append_eq hall hr
    have hdrop := Sql.dropWhile_append_eq hall hr
    rw [h, Sql.takeWhile_append_eq hall' hr'] at htake
    rw [h, Sql.dropWhile_append_eq hall' hr'] at hdrop
    exact ⟨htake.symm, hdrop.symm⟩
  all_goals exact absurd hc (by decide)

theorem string_append_inj {s : String} {j' : Json} {r r' : List Char}
    (h : (string s).chars escapedChar ++ r = j'.chars escapedChar ++ r') :
    Same (.string s) j' ∧ r = r' := by
  have h' := h.symm
  rw [chars, stringChars, List.cons_append, List.cons_append] at h'
  rcases chars_head h' with ⟨hc, -⟩ | ⟨-, s', rfl⟩ | ⟨hc, -⟩ | ⟨hc, -⟩
  · exact absurd hc (by decide)
  · rw [chars, chars] at h
    obtain ⟨rfl, rfl⟩ := stringChars_append_inj h
    exact ⟨rfl, rfl⟩
  · exact absurd hc (by decide)
  · exact absurd hc (by decide)

/-- What follows the first item of an array: its bracket, or a comma and the other items. -/
def itemsTail (xs : List Json) (r : List Char) : List Char :=
  if xs = [] then ']' :: r else ',' :: (itemsChars escapedChar xs ++ ']' :: r)

theorem itemsChars_cons (x : Json) (xs : List Json) (r : List Char) :
    itemsChars escapedChar (x :: xs) ++ ']' :: r = x.chars escapedChar ++ itemsTail xs r := by
  cases xs with
  | nil => simp [itemsChars, itemsTail]
  | cons y ys => simp [itemsChars, itemsTail]

/-- What follows the first member of an object: its brace, or a comma and the other members. -/
def membersTail (ms : List (String × Json)) (r : List Char) : List Char :=
  if ms = [] then '\x7d' :: r else ',' :: (membersChars escapedChar ms ++ '\x7d' :: r)

theorem membersChars_cons (k : String) (x : Json) (ms : List (String × Json)) (r : List Char) :
    membersChars escapedChar ((k, x) :: ms) ++ '\x7d' :: r =
      stringChars escapedChar k ++ (':' :: (x.chars escapedChar ++ membersTail ms r)) := by
  cases ms with
  | nil => simp [membersChars, membersTail]
  | cons m ms => simp [membersChars, membersTail]

theorem ends_itemsTail (xs : List Json) (r : List Char) : Ends (itemsTail xs r) := by
  unfold itemsTail
  split_ifs <;> exact ends_cons (by decide) _

theorem ends_membersTail (ms : List (String × Json)) (r : List Char) : Ends (membersTail ms r) := by
  unfold membersTail
  split_ifs <;> exact ends_cons (by decide) _

/-- Two members with one name and one text. -/
def SameMember (m m' : String × Json) : Prop :=
  m.1 = m'.1 ∧ Same m.2 m'.2

theorem itemsChars_congr {xs ys : List Json} (h : List.Forall₂ Same xs ys) :
    itemsChars escapedChar xs = itemsChars escapedChar ys := by
  induction h with
  | nil => rfl
  | @cons x y xs ys hx hxs ih =>
    cases hxs with
    | nil => exact hx
    | cons => rw [itemsChars, itemsChars, hx, ih]

theorem membersChars_congr {ms ns : List (String × Json)} (h : List.Forall₂ SameMember ms ns) :
    membersChars escapedChar ms = membersChars escapedChar ns := by
  induction h with
  | nil => rfl
  | @cons m n ms ns hm hms ih =>
    obtain ⟨k, x⟩ := m
    obtain ⟨k', y⟩ := n
    obtain ⟨rfl, hx⟩ := hm
    cases hms with
    | nil => exact congrArg (stringChars escapedChar k ++ ':' :: ·) hx
    | cons => rw [membersChars, membersChars, hx, ih]

mutual

/-- Equal texts that start with a value start with one text of a value. -/
theorem chars_append_inj : ∀ (j j' : Json) {r r' : List Char}, Ends r → Ends r' →
    j.chars escapedChar ++ r = j'.chars escapedChar ++ r' → Same j j' ∧ r = r'
  | .null, _, _, _, hr, hr', h => atom_append_inj trivial hr hr' h
  | .bool _, _, _, _, hr, hr', h => atom_append_inj trivial hr hr' h
  | .number _, _, _, _, hr, hr', h => atom_append_inj trivial hr hr' h
  | .unreadable, _, _, _, hr, hr', h => atom_append_inj trivial hr hr' h
  | .string _, _, _, _, _, _, h => string_append_inj h
  | .array items, j', r, r', _, _, h => by
    have h' := h.symm
    rw [chars, List.cons_append, List.cons_append] at h'
    rcases chars_head h' with ⟨hc, -⟩ | ⟨hc, -⟩ | ⟨-, items', rfl⟩ | ⟨hc, -⟩
    · exact absurd hc (by decide)
    · exact absurd hc (by decide)
    · rw [chars, chars] at h
      simp only [List.cons_append, List.append_assoc, List.nil_append, List.cons.injEq,
        true_and] at h
      obtain ⟨hitems, rfl⟩ := itemsChars_append_inj items items' h
      exact ⟨by rw [Same, chars, chars, itemsChars_congr hitems], rfl⟩
    · exact absurd hc (by decide)
  | .object members, j', r, r', _, _, h => by
    have h' := h.symm
    rw [chars, List.cons_append, List.cons_append] at h'
    rcases chars_head h' with ⟨hc, -⟩ | ⟨hc, -⟩ | ⟨hc, -⟩ | ⟨-, members', rfl⟩
    · exact absurd hc (by decide)
    · exact absurd hc (by decide)
    · exact absurd hc (by decide)
    · rw [chars, chars] at h
      simp only [List.cons_append, List.append_assoc, List.nil_append, List.cons.injEq,
        true_and] at h
      obtain ⟨hmembers, rfl⟩ := membersChars_append_inj members members' h
      exact ⟨by rw [Same, chars, chars, membersChars_congr hmembers], rfl⟩

theorem itemsChars_append_inj : ∀ (xs ys : List Json) {r r' : List Char},
    itemsChars escapedChar xs ++ ']' :: r = itemsChars escapedChar ys ++ ']' :: r' →
      List.Forall₂ Same xs ys ∧ r = r'
  | [], [], r, r', h => ⟨.nil, (List.cons.inj h).2⟩
  | [], y :: ys, r, r', h => by
    rw [itemsChars_cons] at h
    rcases chars_head h.symm with ⟨hc, -⟩ | ⟨hc, -⟩ | ⟨hc, -⟩ | ⟨hc, -⟩ <;>
      exact absurd hc (by decide)
  | x :: xs, [], r, r', h => by
    rw [itemsChars_cons] at h
    rcases chars_head h with ⟨hc, -⟩ | ⟨hc, -⟩ | ⟨hc, -⟩ | ⟨hc, -⟩ <;>
      exact absurd hc (by decide)
  | x :: xs, y :: ys, r, r', h => by
    rw [itemsChars_cons, itemsChars_cons] at h
    obtain ⟨hx, htail⟩ := chars_append_inj x y (ends_itemsTail _ _) (ends_itemsTail _ _) h
    unfold itemsTail at htail
    split_ifs at htail with hxs hys hys
    · subst hxs hys
      exact ⟨.cons hx .nil, (List.cons.inj htail).2⟩
    · cases (List.cons.inj htail).1
    · cases (List.cons.inj htail).1
    · obtain ⟨hrest, rfl⟩ := itemsChars_append_inj xs ys (List.cons.inj htail).2
      exact ⟨.cons hx hrest, rfl⟩

theorem membersChars_append_inj : ∀ (ms ns : List (String × Json)) {r r' : List Char},
    membersChars escapedChar ms ++ '\x7d' :: r = membersChars escapedChar ns ++ '\x7d' :: r' →
      List.Forall₂ SameMember ms ns ∧ r = r'
  | [], [], r, r', h => ⟨.nil, (List.cons.inj h).2⟩
  | [], (k, y) :: ns, r, r', h => by
    rw [membersChars_cons] at h
    cases (List.cons.inj h).1
  | (k, x) :: ms, [], r, r', h => by
    rw [membersChars_cons] at h
    cases (List.cons.inj h).1
  | (k, x) :: ms, (k', y) :: ns, r, r', h => by
    rw [membersChars_cons, membersChars_cons] at h
    obtain ⟨hk, hvalue⟩ := stringChars_append_inj h
    obtain ⟨hx, htail⟩ := chars_append_inj x y (ends_membersTail _ _) (ends_membersTail _ _)
      (List.cons.inj hvalue).2
    unfold membersTail at htail
    split_ifs at htail with hms hns hns
    · subst hms hns
      exact ⟨.cons ⟨hk, hx⟩ .nil, (List.cons.inj htail).2⟩
    · cases (List.cons.inj htail).1
    · cases (List.cons.inj htail).1
    · obtain ⟨hrest, rfl⟩ := membersChars_append_inj ms ns (List.cons.inj htail).2
      exact ⟨.cons ⟨hk, hx⟩ hrest, rfl⟩

end

/-! ## Parts -/

theorem array_inj {items items' : List Json} (h : Same (.array items) (.array items')) :
    List.Forall₂ Same items items' := by
  rw [Same, chars, chars] at h
  exact (itemsChars_append_inj items items' (List.cons.inj h).2).1

theorem object_inj {members members' : List (String × Json)}
    (h : Same (.object members) (.object members')) : List.Forall₂ SameMember members members' := by
  rw [Same, chars, chars] at h
  exact (membersChars_append_inj members members' (List.cons.inj h).2).1

theorem string_inj {s s' : String} (h : Same (.string s) (.string s')) : s = s' := by
  rw [Same, chars, chars] at h
  exact (stringChars_append_inj (congrArg (· ++ []) h)).1

theorem strings_inj {items items' : List String} (h : Same (ofStrings items) (ofStrings items')) :
    items = items' := by
  have hitems := array_inj h
  rw [List.forall₂_map_left_iff, List.forall₂_map_right_iff] at hitems
  rw [← List.forall₂_eq_eq_eq]
  exact hitems.imp fun _ _ => string_inj

theorem bool_inj {b b' : Bool} (h : Same (.bool b) (.bool b')) : b = b' := by
  cases b <;> cases b' <;> first | rfl | simp [Same, chars, boolChars] at h

end Rowgate.Json
