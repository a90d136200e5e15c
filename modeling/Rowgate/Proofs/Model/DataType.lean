/-
  The type of a text, and what a declared type takes.

  * `Json.Opens`, `Json.readValue_opens`: how arrays and objects begin;
  * `not_isUuid_of_isEmail` and the like: so a text that passes one test fails most others;
  * `ofText_eq_iff`: the texts of each type;
  * `type_of_text`: the texts that a field of a type with a test takes.
-/
import Rowgate.Proofs.Address
import Rowgate.Proofs.Calendar.Reader
import Rowgate.Proofs.Model.Check
import Rowgate.Proofs.Uuid

namespace Rowgate

/-! ## Documents -/

namespace Json

variable {depth fuel : Nat} {s r : List Char} {j : Json}

/-- An array or an object. -/
def isNested : Json → Bool
  | .array _ | .object _ => true
  | _ => false

theorem isNested_ofNumeral (t : JsonNumber.Numeral) : isNested (ofNumeral t) = false := by
  unfold ofNumeral
  split <;> rfl

/-- An array begins with a bracket; an object with a brace, and then a name or the end. -/
inductive Opens : List Char → Prop
  | array (t : List Char) : Opens ('[' :: t)
  | object {t : List Char} (h : (skipSpace t).head? = some '"' ∨ (skipSpace t).head? = some '\x7d') :
      Opens ('\x7b' :: t)

theorem Opens.head (h : Opens s) : ∃ c t, s = c :: t ∧ (c = '[' ∨ c = '\x7b') := by
  cases h with
  | array t => exact ⟨_, t, rfl, .inl rfl⟩
  | object ht => exact ⟨_, _, rfl, .inr rfl⟩

theorem readMembers_head {ms : List (Option String × Json)}
    (h : readMembers depth fuel s = some (ms, r)) : s.head? = some '"' := by
  cases fuel with
  | zero => simp [readMembers] at h
  | succ fuel =>
    unfold readMembers at h
    split at h
    · rfl
    · cases h

theorem readValue_opens (h : readValue depth fuel s = some (j, r)) (hj : isNested j) :
    Opens s := by
  cases fuel with
  | zero => simp [readValue] at h
  | succ fuel =>
    unfold readValue at h
    split at h
    · cases h
      cases hj
    · cases h
      cases hj
    · cases h
      cases hj
    · obtain ⟨⟨units, t⟩, -, h⟩ := Option.bind_eq_some_iff.1 h
      cases h
      cases hu : ofUnits units <;> simp [hu, isNested] at hj
    · exact .array _
    · split at h
      · rename_i heq
        exact .object (.inr (by rw [heq]; rfl))
      · obtain ⟨⟨ms, t⟩, hms, -⟩ := Option.bind_eq_some_iff.1 h
        exact .object (.inl (readMembers_head hms))
    · obtain ⟨⟨t, r⟩, -, h⟩ := Option.bind_eq_some_iff.1 h
      cases h
      rw [isNested_ofNumeral] at hj
      cases hj
    · obtain ⟨⟨t, r⟩, -, h⟩ := Option.bind_eq_some_iff.1 h
      cases h
      rw [isNested_ofNumeral] at hj
      cases hj

end Json

/-! ## Tests that exclude each other -/

namespace DataType

variable {s : String}

theorem isDocument_opens (h : isDocument s) : Json.Opens (Json.skipSpace s.toList) := by
  unfold isDocument Json.readAll? at h
  cases hj : Json.read? s with
  | none => simp [hj] at h
  | some j =>
    have hnested : j.isNested := by
      rw [hj] at h
      cases hr : j.readable with
      | false => simp [Option.filter, hr] at h
      | true =>
        simp only [Option.filter, hr, if_true] at h
        cases j <;> simp_all [Json.isNested]
    unfold Json.read? Json.readChars? at hj
    obtain ⟨⟨j', t⟩, hread, hj⟩ := Option.bind_eq_some_iff.1 hj
    dsimp only at hj
    split_ifs at hj
    cases hj
    exact Json.readValue_opens hread hnested

theorem isDateTime_marks (h : isDateTime s) :
    (∀ c ∈ s.toList, Instant.isMark c) ∧ ':' ∈ s.toList := by
  rcases Bool.or_eq_true_iff.1 h with h | h
  · exact Instant.strict?_chars h
  · exact Instant.local?_chars h

theorem not_isUuid_of_mem {c : Char} (hc : c ∈ s.toList) (hn : c ∉ Uuid.alphabet) :
    isUuid s = false :=
  Bool.eq_false_iff.2 fun h => hn ((Uuid.read?_spelling h).mem_alphabet c hc)

theorem not_isUuid_of_isEmail (h : Address.isEmail s) : isUuid s = false :=
  not_isUuid_of_mem (Address.mem_of_isEmail h) (by decide)

theorem not_isUuid_of_isUrl (h : Address.isUrl s) : isUuid s = false := by
  obtain ⟨c, hc, hmark⟩ := Address.isUrl_mark h
  have hmarks : ∀ c ∈ Address.marks, c ∉ Uuid.alphabet := Text.of_all (by decide)
  exact not_isUuid_of_mem hc (hmarks c hmark)

theorem not_isUuid_of_isDocument (h : isDocument s) : isUuid s = false := by
  refine Bool.eq_false_iff.2 fun hu => ?_
  have hspelling := Uuid.read?_spelling hu
  have hopens := isDocument_opens h
  generalize s.toList = l at hspelling hopens
  -- An identifier has no space, so the document begins with its first character.
  have hspace : ∀ c ∈ Uuid.alphabet, Json.isSpace c = false := Text.of_all (by decide)
  have hskip : Json.skipSpace l = l := by
    cases l with
    | nil => rfl
    | cons c t =>
      have hc := hspace c (hspelling.mem_alphabet c List.mem_cons_self)
      exact List.dropWhile_cons_of_neg (by simp [hc])
  rw [hskip] at hopens
  cases hopens with
  | array t => exact absurd (hspelling.mem_alphabet _ List.mem_cons_self) (by decide)
  | object ht =>
    obtain ⟨d, t, rfl, hd⟩ := hspelling.digit_of_brace
    have hd' := hspace d (Uuid.mem_alphabet_of_digit hd)
    rw [Json.skipSpace, List.dropWhile_cons_of_neg (by simp [hd'])] at ht
    rcases ht with ht | ht <;> cases ht <;> exact absurd hd (by decide)

/-- A document begins with its bracket for the reader of addresses as well. -/
theorem not_isUrl_of_isDocument (h : isDocument s) : Address.isUrl s = false := by
  obtain ⟨c, t, hct, hc⟩ := (isDocument_opens h).head
  have hlow : c.toNat ≤ 0x20 → False := by
    rcases hc with rfl | rfl <;> decide
  have hdrop : s.toList.dropWhile (fun c => c.toNat ≤ 0x20) = c :: t := by
    have hspaces : ∀ c ∈ s.toList.takeWhile Json.isSpace, decide (c.toNat ≤ 0x20) := by
      intro c hc
      have hc := List.mem_takeWhile_imp hc
      simp only [Json.isSpace, Bool.or_eq_true, decide_eq_true_eq] at hc
      rcases hc with ((rfl | rfl) | rfl) | rfl <;> decide
    rw [← List.takeWhile_append_dropWhile (l := s.toList) (p := Json.isSpace),
      List.dropWhile_append_of_pos hspaces, ← Json.skipSpace, hct]
    exact List.dropWhile_cons_of_neg (by simpa using hlow)
  obtain ⟨u, hcleaned⟩ := Address.cleaned_cons hdrop
  have hscheme : Address.scheme? (Address.cleaned s.toList) = none := by
    rw [Option.eq_none_iff_forall_ne_some]
    rintro ⟨name, r⟩ hname
    obtain ⟨hl, d, n, rfl, hd⟩ := Address.scheme?_eq_some hname
    rw [hcleaned] at hl
    cases hl
    rcases hc with rfl | rfl <;> exact absurd hd (by decide)
  rw [Address.isUrl, hscheme]

section DateTimes

variable (h : isDateTime s)

include h

theorem not_mem_of_isDateTime {c : Char} (hc : Instant.isMark c = false) : c ∉ s.toList := by
  intro hmem
  rw [(isDateTime_marks h).1 c hmem] at hc
  cases hc

theorem not_isUuid_of_isDateTime : isUuid s = false := by
  refine Bool.eq_false_iff.2 fun hu => ?_
  rcases (Uuid.read?_spelling hu).mem_of_colon (isDateTime_marks h).2 with hu | hu
  · exact not_mem_of_isDateTime h (by decide) hu
  · exact not_mem_of_isDateTime h (by decide) hu

theorem not_isEmail_of_isDateTime : Address.isEmail s = false :=
  Bool.eq_false_iff.2 fun he => not_mem_of_isDateTime h (by decide) (Address.mem_of_isEmail he)

theorem not_isUrl_of_isDateTime : Address.isUrl s = false := by
  refine Bool.eq_false_iff.2 fun hu => ?_
  obtain ⟨c, hc, hmark⟩ := Address.isUrl_mark hu
  have hmarks : ∀ c ∈ Address.marks, Instant.isMark c = false := Text.of_all (by decide)
  exact not_mem_of_isDateTime h (hmarks c hmark) hc

theorem not_isDocument_of_isDateTime : isDocument s = false := by
  refine Bool.eq_false_iff.2 fun hd => ?_
  obtain ⟨c, t, hct, hc⟩ := (isDocument_opens hd).head
  have hmem : c ∈ s.toList := (List.dropWhile_sublist Json.isSpace).mem (by
    rw [← Json.skipSpace, hct]
    exact List.mem_cons_self)
  rcases hc with rfl | rfl <;> exact not_mem_of_isDateTime h (by decide) hmem

end DateTimes

/-! ## The types of texts -/

/-- The test of texts for a type, if there is one. -/
def test? : DataType → Option (String → Bool)
  | uuid => some isUuid
  | email => some Address.isEmail
  | url => some Address.isUrl
  | json => some isDocument
  | dateTime => some isDateTime
  | _ => none

/-- A text is of the type whose test it passes, but that addresses of mail are found before
    other addresses and documents. -/
theorem ofText_eq_iff {t : DataType} {test : String → Bool} (ht : t.test? = some test) :
    ofText s = t ↔ test s ∧ (t = url ∨ t = json → Address.isEmail s = false) := by
  have hmail := @not_isUuid_of_isEmail s
  have hurl := @not_isUuid_of_isUrl s
  have hdocument := @not_isUuid_of_isDocument s
  have hdocument' := @not_isUrl_of_isDocument s
  have htime := @not_isUuid_of_isDateTime s
  have htime₁ := @not_isEmail_of_isDateTime s
  have htime₂ := @not_isUrl_of_isDateTime s
  have htime₃ := @not_isDocument_of_isDateTime s
  -- Each type needs that all tests before its own fail; only the one for mail may not.
  unfold ofText
  cases t <;> cases ht <;> grind

/-- A type with a test takes the texts of that type only. -/
theorem accepts_text_iff {t : DataType} {test : String → Bool} (ht : t.test? = some test) :
    t.accepts (ofText s) (.string s) ↔ ofText s = t := by
  cases t <;> cases ht <;> simp [accepts, eq_comm]

end DataType

/-! ## Declared types -/

namespace Model

variable {m : Model} {isPartial : Bool} {record : Record} {name : String} {rule : FieldRule}
  {v : Value}

/-- A field has a problem of type if its value is of a type that is not taken. -/
theorem type_problem_iff (hm : m.fields.get? name = some rule) (hv : record.get? name = some v)
    (hn : v ≠ .null) :
    (∀ q ∈ m.check isPartial record, q.field = name → q.code ≠ .type) ↔ rule.Takes v := by
  simp only [mem_check_iff]
  constructor
  · intro h
    obtain ⟨actual, hactual⟩ : ∃ actual, DataType.infer v = some actual :=
      Option.ne_none_iff_exists'.1 (mt FieldRule.infer_eq_none_iff.1 hn)
    refine ⟨actual, hactual, ?_⟩
    by_contra hrefused
    exact h _ (.value hm hv hn (.type hactual (Bool.eq_false_iff.2 hrefused))) rfl rfl
  · rintro ⟨actual, hactual, htaken⟩ q hq hfield hcode
    cases hq with
    | unknown | required => cases hcode
    | value hm' hv' hn' hfaulty =>
      cases hfaulty with
      | length | range | custom => cases hcode
      | type hactual' hrefused =>
        cases hfield
        cases hm.symm.trans hm'
        cases hv.symm.trans hv'
        cases hactual.symm.trans hactual'
        rw [htaken] at hrefused
        cases hrefused

/-- **What a declared type takes of texts.**  A field of a type with a test takes the texts that
    pass the test; but an address of mail is neither taken as another address nor as a
    document, though it may be one. -/
theorem type_of_text {s : String} {test : String → Bool} (hm : m.fields.get? name = some rule)
    (hs : record.get? name = some (.string s)) (ht : rule.type.test? = some test) :
    (∀ q ∈ m.check isPartial record, q.field = name → q.code ≠ .type) ↔
      test s ∧ (rule.type = .url ∨ rule.type = .json → Address.isEmail s = false) := by
  rw [type_problem_iff hm hs nofun, ← DataType.ofText_eq_iff ht, ← DataType.accepts_text_iff ht]
  constructor
  · rintro ⟨_, ⟨⟩, htaken⟩
    exact htaken
  · exact fun htaken => ⟨_, rfl, htaken⟩

/-- Drafts are documents. -/
def drafts : Model where
  table := "drafts"
  fields := .ofList [("doc", ⟨.json, true, none, none, none, none, none, none⟩)]

/-- A draft without an address in it is a document, and is taken. -/
theorem type_of_text_draft : DataType.isDocument "\x7b\"a\":[1]\x7d" ∧
    ∀ q ∈ drafts.check false (.ofList [("doc", .string "\x7b\"a\":[1]\x7d")]),
      q.field = "doc" → q.code ≠ .type := by
  have hm : drafts.fields.get? "doc" =
      some ⟨.json, true, none, none, none, none, none, none⟩ := rfl
  have hdocument : DataType.isDocument "\x7b\"a\":[1]\x7d" := by decide +kernel
  exact ⟨hdocument, (type_of_text hm rfl rfl).2 ⟨hdocument, fun _ => by decide +kernel⟩⟩

/-- A draft with an address in it is a document, but is taken for an address. -/
theorem draft_with_address : DataType.isDocument "\x7b\"a\":\"x@y.z\"\x7d" ∧
    ∃ q ∈ drafts.check false (.ofList [("doc", .string "\x7b\"a\":\"x@y.z\"\x7d")]),
      q.field = "doc" ∧ q.code = .type :=
  ⟨by decide +kernel, _, List.mem_singleton.2 rfl, rfl, rfl⟩

end Model

end Rowgate
