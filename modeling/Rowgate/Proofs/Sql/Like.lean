/-
  Patterns of LIKE, and what the operators find that match texts with them.

  * `likeParts?` reads a pattern, `fits` matches a text with it, and `like?` is the answer of
    LIKE or NOT LIKE for a text;
  * `likeParts?_append`, `fits_append`: a pattern behind another one;
  * `around_fits`: an operator finds the texts that fit its value, read as a pattern;
  * `sample`: a text that fits a pattern, no longer than the pattern;
  * `pattern_exact`: an operator finds its value as it is exactly if the value has no percent
    sign, underscore or backslash; `underscore_found` is one that has.
-/
import Mathlib.Data.List.Infix
import Rowgate.Proofs.Query.Item

namespace Rowgate

namespace Sql

/-! ## Patterns -/

/-- A part of a pattern. -/
inductive LikePart where
  | char (c : Char)
  /-- An underscore: any character. -/
  | one
  /-- A percent sign: any text. -/
  | many
deriving DecidableEq

/-- What a character of a pattern stands for that is no backslash. -/
def LikePart.ofChar (c : Char) : LikePart :=
  if c = '%' then many else if c = '_' then one else char c

/-- The parts of a pattern.  A backslash takes the next character as it is; at the end there is
    none, and that is no pattern. -/
def likeParts? : List Char → Option (List LikePart)
  | [] => some []
  | ['\\'] => none
  | '\\' :: c :: r => (likeParts? r).map (.char c :: ·)
  | c :: r => (likeParts? r).map (.ofChar c :: ·)

/-- Whether a whole text fits the parts. -/
def fits : List LikePart → List Char → Bool
  | [], t => t.isEmpty
  | .char c :: parts, d :: t => c = d && fits parts t
  | .one :: parts, _ :: t => fits parts t
  | .many :: parts, t => t.tails.any (fits parts)
  | _ :: _, [] => false

/-- The answer to a test with LIKE or NOT LIKE for a text, if the pattern is one. -/
def like? (t : String) : List Token → Option Bool
  | [.word "LIKE", .string pattern] => (likeParts? pattern.toList).map (fits · t.toList)
  | [.word "NOT", .word "LIKE", .string pattern] =>
    (likeParts? pattern.toList).map (!fits · t.toList)
  | _ => none

example : like? "100% sure" [.word "LIKE", .string "_0%\\%%"] = some true := by decide

variable {c : Char} {r v w t : List Char} {ps qs : List LikePart}

/-- What is neither a backslash at the end nor one in front of a character is none. -/
theorem ne_backslash (hend : c = '\\' → r = [] → False)
    (hback : ∀ d s, c = '\\' → r = d :: s → False) : c ≠ '\\' := by
  rintro rfl
  cases r with
  | nil => exact hend rfl rfl
  | cons d s => exact hback d s rfl rfl

theorem likeParts?_cons (hc : c ≠ '\\') :
    likeParts? (c :: r) = (likeParts? r).map (.ofChar c :: ·) := by
  rw [likeParts?]
  · exact fun h => absurd h hc
  · exact fun _ _ h => absurd h hc

theorem fits_many : fits (.many :: ps) t ↔ ∃ s, fits ps s ∧ s <:+ t := by
  rw [fits.eq_def]
  simp only [List.any_eq_true, List.mem_tails]
  exact exists_congr fun s => and_comm

/-- A text fits parts behind others if it can be split between them. -/
theorem fits_append : fits (ps ++ qs) t ↔ ∃ s u, t = s ++ u ∧ fits ps s ∧ fits qs u := by
  induction ps generalizing t with
  | nil => simp [fits]
  | cons p ps ih =>
    cases p with
    | char c =>
      cases t with
      | nil => simp [fits]
      | cons d t =>
        simp only [List.cons_append, fits, Bool.and_eq_true, decide_eq_true_eq, ih]
        constructor
        · rintro ⟨rfl, s, u, rfl, hs, hu⟩
          exact ⟨c :: s, u, rfl, by simp [fits, hs], hu⟩
        · rintro ⟨_ | ⟨e, s⟩, u, he, hs, hu⟩
          · simp [fits] at hs
          · obtain ⟨rfl, rfl⟩ := List.cons.inj he
            simp only [fits, Bool.and_eq_true, decide_eq_true_eq] at hs
            exact ⟨hs.1, s, u, rfl, hs.2, hu⟩
    | one =>
      cases t with
      | nil => simp [fits]
      | cons d t =>
        simp only [List.cons_append, fits, ih]
        constructor
        · rintro ⟨s, u, rfl, hs, hu⟩
          exact ⟨d :: s, u, rfl, by simp [fits, hs], hu⟩
        · rintro ⟨_ | ⟨e, s⟩, u, he, hs, hu⟩
          · simp [fits] at hs
          · obtain ⟨rfl, rfl⟩ := List.cons.inj he
            exact ⟨s, u, rfl, hs, hu⟩
    | many =>
      rw [List.cons_append, fits_many]
      simp only [ih, fits_many]
      constructor
      · rintro ⟨_, ⟨s, u, rfl, hs, hu⟩, r, rfl⟩
        exact ⟨r ++ s, u, (List.append_assoc ..).symm, ⟨s, hs, List.suffix_append r s⟩, hu⟩
      · rintro ⟨_, u, rfl, ⟨s, hs, r, rfl⟩, hu⟩
        exact ⟨s ++ u, ⟨s, u, rfl, hs, hu⟩, r, (List.append_assoc ..).symm⟩

theorem fits_many_nil (t : List Char) : fits [.many] t :=
  fits_many.2 ⟨[], rfl, List.nil_suffix⟩

/-- A pattern may be read in two parts, unless a backslash stands at the end of the first. -/
theorem likeParts?_append (h : likeParts? v = some ps) :
    likeParts? (v ++ w) = (likeParts? w).map (ps ++ ·) := by
  fun_induction likeParts? v generalizing ps with
  | case1 =>
    cases h
    simp
  | case2 => cases h
  | case3 c r ih =>
    obtain ⟨qs, hqs, rfl⟩ := Option.map_eq_some_iff.1 h
    rw [List.cons_append, List.cons_append, likeParts?, ih hqs, Option.map_map]
    rfl
  | case4 c r hend hback ih =>
    obtain ⟨qs, hqs, rfl⟩ := Option.map_eq_some_iff.1 h
    rw [List.cons_append, likeParts?_cons (ne_backslash hend hback), ih hqs, Option.map_map]
    rfl

theorem likeParts?_many (v : List Char) :
    likeParts? ('%' :: v) = (likeParts? v).map (.many :: ·) :=
  likeParts?_cons (by decide)

/-! ## Plain texts, and others -/

/-- A text without characters that mean something in a pattern. -/
def Plain (v : List Char) : Prop :=
  ∀ c ∈ v, c ≠ '%' ∧ c ≠ '_' ∧ c ≠ '\\'

instance : DecidablePred Plain := fun v =>
  List.decidableBAll (fun c => c ≠ '%' ∧ c ≠ '_' ∧ c ≠ '\\') v

theorem likeParts?_plain (h : Plain v) : likeParts? v = some (v.map .char) := by
  induction v with
  | nil => rfl
  | cons c v ih =>
    obtain ⟨⟨hmany, hone, hback⟩, hv⟩ := List.forall_mem_cons.1 h
    rw [likeParts?_cons hback, ih hv, LikePart.ofChar, if_neg hmany, if_neg hone]
    rfl

theorem fits_chars : fits (v.map .char) t ↔ t = v := by
  induction v generalizing t with
  | nil => simp [fits]
  | cons c v ih =>
    cases t with
    | nil => simp [fits]
    | cons d t =>
      simp only [List.map_cons, fits, Bool.and_eq_true, decide_eq_true_eq, ih, List.cons.injEq]
      exact and_congr_left' eq_comm

/-- The shortest text that fits, with a letter for every character that is free. -/
def sample : List LikePart → List Char
  | [] => []
  | .char c :: parts => c :: sample parts
  | .one :: parts => 'x' :: sample parts
  | .many :: parts => sample parts

theorem sample_many (ps : List LikePart) : sample (ps ++ [.many]) = sample ps := by
  induction ps with
  | nil => rfl
  | cons p ps ih => cases p <;> simp_all [sample]

theorem fits_sample (ps : List LikePart) : fits ps (sample ps) := by
  induction ps with
  | nil => rfl
  | cons p ps ih =>
    cases p with
    | char c => simp [fits, sample, ih]
    | one => simpa [fits, sample] using ih
    | many => exact fits_many.2 ⟨_, ih, List.suffix_rfl⟩

/-- Any text in front of a percent sign is a pattern.  Its sample is as long as the text only if
    no character has a meaning, or an underscore has, or the sign is taken by a backslash; so it
    is the text itself only if that is plain. -/
theorem likeParts?_percent (v : List Char) : ∃ ps, likeParts? (v ++ ['%']) = some ps ∧
    (sample ps).length ≤ v.length ∧ (sample ps = v → Plain v) := by
  induction v using likeParts?.induct with
  | case1 => exact ⟨[.many], rfl, Nat.le_refl 0, fun _ _ h => nomatch h⟩
  | case2 => exact ⟨[.char '%'], rfl, Nat.le_refl 1, fun h => absurd h (by decide)⟩
  | case3 c r ih =>
    obtain ⟨ps, hps, hlength, -⟩ := ih
    have hparts : likeParts? ('\\' :: c :: r ++ ['%']) = some (.char c :: ps) := by
      rw [List.cons_append, List.cons_append, likeParts?, hps]
      rfl
    have hlt : (sample (.char c :: ps)).length < ('\\' :: c :: r).length := by
      simp only [sample, List.length_cons]
      omega
    exact ⟨_, hparts, hlt.le, fun he => absurd (congrArg List.length he) hlt.ne⟩
  | case4 c r hend hback ih =>
    obtain ⟨ps, hps, hlength, hplain⟩ := ih
    have hc := ne_backslash hend hback
    have hparts : likeParts? (c :: r ++ ['%']) = some (.ofChar c :: ps) := by
      rw [List.cons_append, likeParts?_cons hc, hps]
      rfl
    refine ⟨_, hparts, ?_⟩
    unfold LikePart.ofChar
    split_ifs with hmany hone
    · have hlt : (sample (.many :: ps)).length < (c :: r).length := Nat.lt_succ_of_le hlength
      exact ⟨hlt.le, fun he => absurd (congrArg List.length he) hlt.ne⟩
    · subst hone
      refine ⟨Nat.succ_le_succ hlength, fun he => ?_⟩
      cases (List.cons.inj he).1
    · refine ⟨Nat.succ_le_succ hlength, fun he => ?_⟩
      exact List.forall_mem_cons.2 ⟨⟨hmany, hone, hc⟩, hplain (List.cons.inj he).2⟩

end Sql

/-! ## Pattern operators -/

namespace Operator

/-- How `s` is found in a text, by the operator or by the one that it negates. -/
def Finds (op : Operator) (s t : List Char) : Prop :=
  match op with
  | startsWith | notStartsWith => s <+: t
  | endsWith | notEndsWith => s <:+ t
  | contains | notContains => s <:+: t
  | _ => False

def isNegative : Operator → Bool
  | notStartsWith | notEndsWith | notContains => true
  | _ => false

/-- A statement, or its negation for an operator that negates. -/
def Says (op : Operator) (p : Prop) : Prop :=
  if op.isNegative then ¬ p else p

/-- The pattern that an operator makes of a text. -/
def around (op : Operator) (v : List Char) : List Char :=
  match op with
  | startsWith | notStartsWith => v ++ ['%']
  | endsWith | notEndsWith => '%' :: v
  | contains | notContains => '%' :: v ++ ['%']
  | _ => v

variable {op : Operator} {s v t : List Char} {ps : List Sql.LikePart}

open Sql

theorem symbol?_of_isPattern (hp : op.isPattern) : op.symbol? = none := by
  cases op <;> first | rfl | cases hp

theorem finds_self (hp : op.isPattern) : op.Finds s s := by
  cases op with
  | startsWith | notStartsWith => exact List.prefix_rfl
  | endsWith | notEndsWith => exact List.suffix_rfl
  | contains | notContains => exact List.infix_rfl
  | _ => cases hp

/-- In a text that is no longer it finds that text alone. -/
theorem eq_of_finds (h : op.Finds s t) (hlength : t.length ≤ s.length) : s = t := by
  cases op with
  | startsWith | notStartsWith => exact List.IsPrefix.eq_of_length_le h hlength
  | endsWith | notEndsWith => exact List.IsSuffix.eq_of_length_le h hlength
  | contains | notContains => exact List.IsInfix.eq_of_length_le h hlength
  | _ => cases h

/-- A test with LIKE or NOT LIKE, with the pattern of a text. -/
theorem like?_patternTokens (hp : op.isPattern) (v t : String) :
    like? t (patternTokens v op) =
      (likeParts? (op.around v.toList)).map fun ps => fits ps t.toList ^^ op.isNegative := by
  cases op <;> simp_all [isPattern, patternTokens, like?, around, isNegative]

/-- The pattern of a text is fitted where something is found that fits the text, read as a
    pattern. -/
theorem around_fits (hp : op.isPattern) (h : likeParts? v = some ps) :
    ∃ qs, likeParts? (op.around v) = some qs ∧
      ∀ t, fits qs t ↔ ∃ s, fits ps s ∧ op.Finds s t := by
  have hmany : likeParts? ('%' :: v) = some (.many :: ps) := by
    rw [likeParts?_many, h]
    rfl
  have hfront (qs : List LikePart) (t : List Char) :
      fits (qs ++ [.many]) t ↔ ∃ s, fits qs s ∧ s <+: t := by
    rw [fits_append]
    constructor
    · rintro ⟨s, u, rfl, hs, -⟩
      exact ⟨s, hs, List.prefix_append s u⟩
    · rintro ⟨s, hs, u, rfl⟩
      exact ⟨s, u, rfl, hs, fits_many_nil u⟩
  cases op with
  | startsWith | notStartsWith => exact ⟨_, likeParts?_append h, hfront ps⟩
  | endsWith | notEndsWith => exact ⟨_, hmany, fun t => fits_many⟩
  | contains | notContains =>
    refine ⟨_, likeParts?_append hmany, fun t => (hfront _ t).trans ?_⟩
    constructor
    · rintro ⟨_, hs, hu⟩
      obtain ⟨s, hs, hsuffix⟩ := fits_many.1 hs
      exact ⟨s, hs, hsuffix.isInfix.trans hu.isInfix⟩
    · rintro ⟨s, hs, r, u, rfl⟩
      exact ⟨r ++ s, fits_many.2 ⟨s, hs, List.suffix_append r s⟩, List.prefix_append _ u⟩
  | _ => cases hp

/-- If a text is not plain, then its pattern is none, or is fitted by a text that it is not
    found in. -/
theorem around_stray (hp : op.isPattern) (hv : ¬ Plain v) :
    v ≠ [] ∧ likeParts? (op.around v) = none ∨
      ∃ qs t, likeParts? (op.around v) = some qs ∧ fits qs t ∧ ¬ op.Finds v t := by
  obtain ⟨ps, hps, hlength, hplain⟩ := likeParts?_percent v
  have hstray : ¬ op.Finds v (sample ps) := fun h => hv (hplain (eq_of_finds h hlength).symm)
  cases op with
  | startsWith | notStartsWith => exact .inr ⟨ps, sample ps, hps, fits_sample ps, hstray⟩
  | contains | notContains =>
    refine .inr ⟨.many :: ps, sample ps, ?_, fits_sample (.many :: ps), hstray⟩
    rw [around, List.cons_append, likeParts?_many, hps]
    rfl
  | endsWith | notEndsWith =>
    rw [around, likeParts?_many]
    cases hqs : likeParts? v with
    | none =>
      refine .inl ⟨?_, rfl⟩
      rintro rfl
      cases hqs
    | some qs =>
      rw [likeParts?_append hqs] at hps
      obtain rfl : qs ++ [LikePart.many] = ps := Option.some.inj hps
      rw [sample_many] at hstray
      exact .inr ⟨.many :: qs, sample qs, rfl, fits_sample (.many :: qs), hstray⟩
  | _ => cases hp

theorem says_xor {b : Bool} : (b ^^ op.isNegative) = true ↔ op.Says b := by
  unfold Says
  cases op.isNegative <;> simp

theorem says_congr {p q : Prop} (h : p ↔ q) : op.Says p ↔ op.Says q := by
  unfold Says
  rw [h]

end Operator

/-! ## Items with pattern operators -/

namespace Condition

open Sql

variable {i : QueryItem} {field name : String} {op : Operator} {ident : Ident}

theorem item_of_clause {v : Value} (h : clause? i = some (field, name, v)) :
    item i = (clause field name v).map some := by
  unfold clause? at h
  split at h
  · rename_i field' operators he
    split at h
    · rename_i name' v' ho
      split_ifs at h with hblank
      cases h
      have hnull : v.isNull ↔ v = .null := by cases v <;> simp [Value.isNull]
      rw [item_single he ho, if_neg]
      simpa [QueryItem.Blank, hnull, or_assoc] using hblank
    · cases h
  · cases h

theorem item_pattern {v : String} (hc : clause? i = some (field, name, .string v))
    (hop : Operator.parse name = .ok op) (hp : op.isPattern)
    (hfield : Ident.parse field = .ok ident) : ∃ text, item i = .ok (some text) ∧
      tokens? text = some (nameTokens field ++ patternTokens v op) := by
  have hsymbol := Operator.symbol?_of_isPattern hp
  have htakes : op.Takes (.string v) := by
    refine ⟨?_, nofun, by simp [Value.IsEmptyList]⟩
    cases op <;> first | rfl | cases hp
  obtain ⟨text, htext⟩ := clause_succeeds.2 ⟨op, hop, ⟨ident, hfield⟩, htakes⟩
  have hitem : item i = .ok (some text) := by
    rw [item_of_clause hc, htext]
    rfl
  have hpiece := piece_item hitem
  rw [itemTokens?, hc, Option.map_some] at hpiece
  dsimp only at hpiece
  rw [hop] at hpiece
  cases hpiece with
  | some hpiece =>
    refine ⟨text, hitem, hpiece.tokens?_eq.trans ?_⟩
    simp only [comparisonTokens, hsymbol]

/-- **A pattern operator reads its value as a pattern.**  An item with one compiles to one test
    with LIKE or NOT LIKE.  It finds, at the start, at the end or anywhere, what fits the value
    with its percent signs, underscores and backslashes; so it finds the value as it is in all
    texts if, and only if, the value has none of these. -/
theorem pattern_exact {v : String} (hc : clause? i = some (field, name, .string v))
    (hop : Operator.parse name = .ok op) (hp : op.isPattern)
    (hfield : Ident.parse field = .ok ident) :
    ∃ text test, item i = .ok (some text) ∧ tokens? text = some (nameTokens field ++ test) ∧
      (∀ parts, likeParts? v.toList = some parts → ∀ t,
        like? t test = some true ↔ op.Says (∃ s, fits parts s ∧ op.Finds s t.toList)) ∧
      ((∀ t, like? t test = some true ↔ op.Says (op.Finds v.toList t.toList)) ↔
        Plain v.toList) := by
  obtain ⟨text, hitem, htokens⟩ := item_pattern hc hop hp hfield
  have hparts (parts : List LikePart) (h : likeParts? v.toList = some parts) (t : String) :
      like? t (patternTokens v op) = some true ↔
        op.Says (∃ s, fits parts s ∧ op.Finds s t.toList) := by
    obtain ⟨qs, hqs, hfits⟩ := Operator.around_fits hp h
    rw [Operator.like?_patternTokens hp, hqs, Option.map_some, Option.some.injEq,
      Operator.says_xor]
    exact Operator.says_congr (hfits _)
  refine ⟨text, _, hitem, htokens, hparts, fun hexact => ?_, fun hplain t => ?_⟩
  · by_contra hv
    rcases Operator.around_stray hp hv with ⟨hne, hnone⟩ | ⟨qs, t, hqs, hfits, hstray⟩
    · -- the value itself is found, and it is not found in the empty text
      have hnever (t : String) : like? t (patternTokens v op) ≠ some true := by
        rw [Operator.like?_patternTokens hp, hnone]
        exact nofun
      have hself := mt (hexact v).2 (hnever v)
      have hempty := mt (hexact "").2 (hnever "")
      unfold Operator.Says at hself hempty
      split_ifs at hself hempty
      · exact hempty fun h => hne (Operator.eq_of_finds h (Nat.zero_le _))
      · exact hself (Operator.finds_self hp)
    · have h := hexact (String.ofList t)
      rw [Operator.like?_patternTokens hp, hqs, Option.map_some, Option.some.injEq,
        Operator.says_xor, String.toList_ofList] at h
      unfold Operator.Says at h
      split_ifs at h
      · exact h.2 hstray hfits
      · exact hstray (h.1 hfits)
  · rw [hparts _ (likeParts?_plain hplain) t]
    refine Operator.says_congr ⟨?_, fun h => ⟨_, fits_chars.2 rfl, h⟩⟩
    rintro ⟨s, hs, h⟩
    rwa [fits_chars.1 hs] at h

/-- An item for a name and a text. -/
def textItem (operator v : String) : QueryItem :=
  ⟨.ofList [("name", .ofList [(operator, .string v)])], 0, ""⟩

/-- An apostrophe has no meaning in a pattern. -/
theorem pattern_exact_apostrophe : ∃ text test,
    item (textItem "contains" "it's") = .ok (some text) ∧
      tokens? text = some (nameTokens "name" ++ test) ∧
      ∀ t, like? t test = some true ↔ "it's".toList <:+: t.toList := by
  have hop : Operator.parse "contains" = .ok .contains := by decide
  obtain ⟨text, test, hitem, htokens, -, hexact⟩ :=
    pattern_exact (i := textItem "contains" "it's") (by rfl) hop rfl
      (show Ident.parse "name" = .ok ⟨[.unquoted "name"]⟩ by rfl)
  exact ⟨text, test, hitem, htokens, hexact.2 (by decide)⟩

/-- An underscore finds another letter, and a backslash at the end is found nowhere. -/
theorem underscore_found :
    item (textItem "startsWith" "a_b") = .ok (some "name LIKE 'a_b%'") ∧
      tokens? "name LIKE 'a_b%'" = some [.word "name", .word "LIKE", .string "a_b%"] ∧
      like? "axb" [.word "LIKE", .string "a_b%"] = some true ∧
      ¬ "a_b".toList <+: "axb".toList ∧
      item (textItem "endsWith" "\\") = .ok (some "name LIKE '%\\'") ∧
      tokens? "name LIKE '%\\'" = some [.word "name", .word "LIKE", .string "%\\"] ∧
      like? "\\" [.word "LIKE", .string "%\\"] = none := by
  decide +kernel

end Condition

end Rowgate
