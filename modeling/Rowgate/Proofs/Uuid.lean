/-
  Identifiers are read back from their canonical texts.

  * `hexBytes?_hexByte`: bytes are read back from their digits;
  * `read?_text`: the canonical text of an identifier is read as that identifier;
  * `Canonical`: lower-case digits in groups of 8, 4, 4, 4 and 12;
  * `canonicalOf_text`: a text that is read as an identifier has the identifier's text as its
    canonical form;
  * `Spelling`: the texts of identifiers by their forms; `read?_spelling`: no other text is read;
  * `Spelling.mem_alphabet`: the characters of identifiers.
-/
import Rowgate.Proofs.Text
import Rowgate.Uuid

namespace Rowgate

namespace Text

theorem hexValue?_hexDigit {n : Nat} (h : n < 16) : hexValue? (hexDigit n) = some n := by
  revert n
  decide

theorem hexDigit_lower {n : Nat} (h : n < 16) :
    (hexDigit n).isDigit ∨ 'a' ≤ hexDigit n ∧ hexDigit n ≤ 'f' := by
  revert n
  decide

theorem hexByte_lower (bytes : List UInt8) :
    ∀ c ∈ bytes.flatMap hexByte, c.isDigit ∨ 'a' ≤ c ∧ c ≤ 'f' := by
  intro c hc
  obtain ⟨b, -, hc⟩ := List.mem_flatMap.1 hc
  have hb := b.toNat_lt
  simp only [hexByte, List.mem_cons, List.not_mem_nil, or_false] at hc
  rcases hc with rfl | rfl
  · exact hexDigit_lower (by omega)
  · exact hexDigit_lower (by omega)

/-- Bytes are read back from their digits. -/
theorem hexBytes?_hexByte (bytes : List UInt8) : hexBytes? (bytes.flatMap hexByte) = some bytes := by
  induction bytes with
  | nil => rfl
  | cons b bytes ih =>
    have hb := b.toNat_lt
    have hhi := hexValue?_hexDigit (n := b.toNat / 16) (by omega)
    have hlo := hexValue?_hexDigit (n := b.toNat % 16) (by omega)
    have hbyte : UInt8.ofNat (16 * (b.toNat / 16) + b.toNat % 16) = b := by
      rw [Nat.div_add_mod]
      exact UInt8.ofNat_toNat
    show (hexValue? _).bind (fun hi => (hexValue? _).bind fun lo =>
      (hexBytes? (bytes.flatMap hexByte)).bind fun rest =>
        some (UInt8.ofNat (16 * hi + lo) :: rest)) = _
    rw [hhi, hlo, ih]
    exact congrArg (fun b => some (b :: bytes)) hbyte

/-- Bytes are read from digits only. -/
theorem hexBytes?_digits : ∀ {s : List Char} {bytes : List UInt8}, hexBytes? s = some bytes →
    ∀ c ∈ s, (hexValue? c).isSome
  | [], _, _ => nofun
  | [_], _, h => nomatch h
  | a :: b :: r, _, h => by
    simp only [hexBytes?, Option.bind_eq_bind, Option.bind_eq_some_iff] at h
    obtain ⟨hi, ha, lo, hb, rest, hr, -⟩ := h
    simp only [List.mem_cons, forall_eq_or_imp, ha, hb, Option.isSome_some, true_and]
    exact hexBytes?_digits hr

end Text

namespace Uuid

theorem ofBytes?_bytes (u : Uuid) : ofBytes? u.bytes = some u :=
  dif_pos u.size

theorem unhyphen?_groups {a b c d e : List Char} (ha : a.length = 8) (hb : b.length = 4)
    (hc : c.length = 4) (hd : d.length = 4) (he : e.length = 12) :
    unhyphen? (a ++ '-' :: b ++ '-' :: c ++ '-' :: d ++ '-' :: e) = some (a ++ b ++ c ++ d ++ e) := by
  simp (disch := omega) [unhyphen?, ha, hb, hc, hd, he, List.getElem?_append_right,
    List.getElem?_cons_zero, List.drop_append, List.drop_of_length_le]

theorem length_flatMap_hexByte (bytes : List UInt8) :
    (bytes.flatMap Text.hexByte).length = 2 * bytes.length := by
  induction bytes with
  | nil => rfl
  | cons b bytes ih =>
    rw [List.flatMap_cons, List.length_append, ih, List.length_cons, Text.hexByte]
    simp only [List.length_cons, List.length_nil]
    omega

/-- Lower-case digits in groups of 8, 4, 4, 4 and 12, with hyphens between. -/
def Canonical (s : String) : Prop :=
  ∃ a b c d e : List Char, s.toList = a ++ '-' :: b ++ '-' :: c ++ '-' :: d ++ '-' :: e ∧
    a.length = 8 ∧ b.length = 4 ∧ c.length = 4 ∧ d.length = 4 ∧ e.length = 12 ∧
    ∀ x ∈ a ++ b ++ c ++ d ++ e, x.isDigit ∨ 'a' ≤ x ∧ x ≤ 'f'

/-- The canonical form of the identifier that a text spells. -/
structure CanonicalOf (s c : String) : Prop where
  canonical : Canonical c
  spelled : (read? s).isSome
  same : read? c = read? s

/-- A text in groups. -/
theorem text_groups (u : Uuid) : ∃ a b c d e : List Char,
    u.text.toList = a ++ '-' :: b ++ '-' :: c ++ '-' :: d ++ '-' :: e ∧
      a.length = 8 ∧ b.length = 4 ∧ c.length = 4 ∧ d.length = 4 ∧ e.length = 12 ∧
      a ++ b ++ c ++ d ++ e = u.bytes.flatMap Text.hexByte := by
  have hgroup (first count : Nat) (h : first + count ≤ 16) :
      (((u.bytes.drop first).take count).flatMap Text.hexByte).length = 2 * count := by
    rw [length_flatMap_hexByte, List.length_take, List.length_drop, u.size]
    omega
  have hjoin (first count : Nat) :
      (u.bytes.drop first).take count ++ u.bytes.drop (first + count) = u.bytes.drop first := by
    rw [← List.drop_drop, List.take_append_drop]
  have hlast : (u.bytes.drop 10).take 6 = u.bytes.drop 10 :=
    List.take_of_length_le (by simp [u.size])
  refine ⟨_, _, _, _, _, String.toList_ofList, hgroup 0 4 (by decide), hgroup 4 2 (by decide),
    hgroup 6 2 (by decide), hgroup 8 2 (by decide), hgroup 10 6 (by decide), ?_⟩
  rw [← List.flatMap_append, ← List.flatMap_append, ← List.flatMap_append, ← List.flatMap_append,
    hlast]
  simp only [List.append_assoc]
  rw [hjoin 8 2, hjoin 6 2, hjoin 4 2, hjoin 0 4, List.drop_zero]

/-- The canonical text has the digits of the bytes in order. -/
theorem digits?_text (u : Uuid) : digits? u.text.toList = some (u.bytes.flatMap Text.hexByte) := by
  obtain ⟨a, b, c, d, e, htext, ha, hb, hc, hd, he, hdigits⟩ := text_groups u
  have hlength : u.text.toList.length = 36 := by
    rw [htext]
    simp only [List.length_append, List.length_cons]
    omega
  rw [digits?, if_neg (by omega), if_pos hlength, htext, unhyphen?_groups ha hb hc hd he, hdigits]

theorem text_canonical (u : Uuid) : Canonical u.text := by
  obtain ⟨a, b, c, d, e, htext, ha, hb, hc, hd, he, hdigits⟩ := text_groups u
  refine ⟨a, b, c, d, e, htext, ha, hb, hc, hd, he, ?_⟩
  rw [hdigits]
  exact Text.hexByte_lower u.bytes

/-- The canonical text is read as the identifier. -/
theorem read?_text (u : Uuid) : read? u.text = some u := by
  rw [read?, digits?_text, Option.bind_eq_bind, Option.bind_some, Text.hexBytes?_hexByte]
  exact ofBytes?_bytes u

theorem canonicalOf_text {s : String} {u : Uuid} (h : read? s = some u) : CanonicalOf s u.text where
  canonical := text_canonical u
  spelled := by rw [h]; rfl
  same := by rw [read?_text, h]

/-! ## Accepted forms -/

/-- The hyphenated form: a digit, and then digits and hyphens. -/
def Hyphened (s : List Char) : Prop :=
  ∃ c r, s = c :: r ∧ (Text.hexValue? c).isSome ∧
    ∀ d ∈ r, (Text.hexValue? d).isSome ∨ d = '-'

/-- The forms of an identifier. -/
inductive Spelling : List Char → Prop
  | plain {s : List Char} (h : ∀ c ∈ s, (Text.hexValue? c).isSome) : Spelling s
  | hyphened {s : List Char} (h : Hyphened s) : Spelling s
  | braced {s : List Char} (h : Hyphened s) : Spelling ('\x7b' :: (s ++ ['\x7d']))
  | named {u s : List Char} (hu : Text.sameWord u "urn:uuid:".toList) (h : Hyphened s) :
      Spelling (u ++ s)

theorem drop_of_getElem? {s : List Char} {n : Nat} {c : Char} (h : s[n]? = some c) :
    s.drop n = c :: s.drop (n + 1) := by
  obtain ⟨hn, rfl⟩ := List.getElem?_eq_some_iff.1 h
  exact List.drop_eq_getElem_cons hn

/-- The digits and the hyphens are all that the hyphenated form has. -/
theorem unhyphen?_eq_some {s digits : List Char} (h : unhyphen? s = some digits) :
    ∃ a b c d e : List Char, s = a ++ '-' :: (b ++ '-' :: (c ++ '-' :: (d ++ '-' :: e))) ∧
      a.length = 8 ∧ digits = a ++ b ++ c ++ d ++ e := by
  unfold unhyphen? at h
  split_ifs at h with hs
  obtain ⟨hlength, h8, h13, h18, h23⟩ := hs
  cases h
  have hgroup (n k : Nat) : s.drop n = (s.drop n).take k ++ s.drop (n + k) := by
    rw [← List.drop_drop, List.take_append_drop]
  refine ⟨_, _, _, _, _, ?_, List.length_take_of_le (by omega), rfl⟩
  rw [← drop_of_getElem? h23, ← hgroup 19 4, ← drop_of_getElem? h18, ← hgroup 14 4,
    ← drop_of_getElem? h13, ← hgroup 9 4, ← drop_of_getElem? h8, List.take_append_drop]

theorem unhyphen?_hyphened {s digits : List Char} (h : unhyphen? s = some digits)
    (hd : ∀ c ∈ digits, (Text.hexValue? c).isSome) : Hyphened s := by
  obtain ⟨a, b, c, d, e, rfl, ha, rfl⟩ := unhyphen?_eq_some h
  cases a with
  | nil => cases ha
  | cons x a =>
    simp only [List.forall_mem_append, List.mem_cons, forall_eq_or_imp] at hd
    obtain ⟨⟨⟨⟨⟨hx, ha⟩, hb⟩, hc⟩, hd⟩, he⟩ := hd
    refine ⟨x, _, List.cons_append, hx, fun y hy => ?_⟩
    grind

/-- No text of another form is read. -/
theorem read?_spelling {s : String} (h : (read? s).isSome) : Spelling s.toList := by
  obtain ⟨u, h⟩ := Option.isSome_iff_exists.1 h
  simp only [read?, Option.bind_eq_bind, Option.bind_eq_some_iff] at h
  obtain ⟨digits, hdigits, bytes, hbytes, -⟩ := h
  have hd := Text.hexBytes?_digits hbytes
  generalize s.toList = s at hdigits ⊢
  unfold digits? at hdigits
  split_ifs at hdigits with h32 h36 h38 hbraces h45 hname
  · cases hdigits
    exact .plain hd
  · exact .hyphened (unhyphen?_hyphened hdigits hd)
  · obtain ⟨hhead, hlast⟩ := hbraces
    obtain ⟨t, rfl⟩ := List.getLast?_eq_some_iff.1 hlast
    cases t with
    | nil => cases h38
    | cons c t =>
      cases hhead
      have ht : t.length = 36 := by
        simpa using h38
      rw [List.cons_append, List.drop_one, List.tail_cons, ← ht, List.take_left] at hdigits
      exact .braced (unhyphen?_hyphened hdigits hd)
  · rw [← List.take_append_drop 9 s]
    exact .named hname (unhyphen?_hyphened hdigits hd)

/-! ## Characters -/

variable {l r : List Char} {c : Char}

/-- The characters of identifiers. -/
def alphabet : List Char :=
  "0123456789abcdefABCDEF-\x7b\x7durnid:URNID".toList

theorem mem_alphabet_of_digit (h : (Text.hexValue? c).isSome) : c ∈ alphabet :=
  Text.of_all (P := (· ∈ alphabet)) (by decide) c (Text.mem_of_hexValue? h)

theorem Hyphened.mem (h : Hyphened l) (hc : c ∈ l) : (Text.hexValue? c).isSome ∨ c = '-' := by
  obtain ⟨d, r, rfl, hd, hr⟩ := h
  rcases List.mem_cons.1 hc with rfl | hc
  · exact .inl hd
  · exact hr c hc

theorem Hyphened.mem_alphabet (h : Hyphened l) (hc : c ∈ l) : c ∈ alphabet := by
  rcases h.mem hc with hc | rfl
  · exact mem_alphabet_of_digit hc
  · decide

namespace Spelling

theorem mem_alphabet (h : Spelling l) : ∀ c ∈ l, c ∈ alphabet := by
  intro c hc
  cases h with
  | plain hs => exact mem_alphabet_of_digit (hs c hc)
  | hyphened hs => exact hs.mem_alphabet hc
  | braced hs =>
    simp only [List.mem_cons, List.mem_append, List.not_mem_nil, or_false] at hc
    rcases hc with rfl | hc | rfl
    · decide
    · exact hs.mem_alphabet hc
    · decide
  | named hu hs =>
    rcases List.mem_append.1 hc with hc | hc
    · obtain ⟨d, hd, hcd⟩ := Text.of_mem_sameWord hu hc
      have hcases : ∀ d ∈ Text.lower "urn:uuid:".toList, d ∈ alphabet ∧ d.toUpper ∈ alphabet :=
        Text.of_all (by decide)
      rcases hcd with rfl | rfl
      · exact (hcases _ hd).1
      · exact (hcases _ hd).2
    · exact hs.mem_alphabet hc

/-- There is no colon but in the form with the name. -/
theorem mem_of_colon (h : Spelling l) (hc : ':' ∈ l) : 'u' ∈ l ∨ 'U' ∈ l := by
  have hno {l : List Char} (hl : Hyphened l) : ':' ∉ l := fun hc => by
    rcases hl.mem hc with h | h <;> revert h <;> decide
  cases h with
  | plain hs => exact absurd (hs _ hc) (by decide)
  | hyphened hs => exact absurd hc (hno hs)
  | braced hs => exact absurd (by simpa using hc) (hno hs)
  | named hu hs =>
    have hu : 'u' ∈ _ ∨ 'U' ∈ _ := Text.mem_of_sameWord hu (by decide)
    exact hu.imp (List.mem_append_left _) (List.mem_append_left _)

/-- A digit follows an opening brace. -/
theorem digit_of_brace (h : Spelling ('\x7b' :: r)) :
    ∃ d t, r = d :: t ∧ (Text.hexValue? d).isSome := by
  generalize hl : '\x7b' :: r = l at h
  cases h with
  | plain hs =>
    subst hl
    exact absurd (hs _ List.mem_cons_self) (by decide)
  | hyphened hs =>
    obtain ⟨d, t, rfl, hd, -⟩ := hs
    cases hl
    exact absurd hd (by decide)
  | braced hs =>
    obtain ⟨d, t, rfl, hd, -⟩ := hs
    cases hl
    exact ⟨d, _, rfl, hd⟩
  | @named u t hu hs =>
    cases u with
    | nil => exact absurd hu (by decide)
    | cons c u =>
      cases hl
      obtain ⟨d, hd, hcd⟩ := Text.of_mem_sameWord hu List.mem_cons_self
      have hnone : ∀ d ∈ Text.lower "urn:uuid:".toList, ¬ ('\x7b' = d ∨ '\x7b' = d.toUpper) :=
        Text.of_all (by decide)
      exact absurd hcd (hnone d hd)

end Spelling

end Uuid

end Rowgate
