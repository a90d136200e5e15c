/-
  Names are pieces: what is written for a name that is accepted is read as its parts.

  * `Ident.parse_valid`: the parts of an accepted name are plain, or quoted and not empty;
  * `piece_name`: its text is read as one token for each part.
-/
import Rowgate.Proofs.Result
import Rowgate.Proofs.Sql.Shape

namespace Rowgate

/-! ## Accepted parts -/

/-- A plain part, or a quoted one that is not empty. -/
def IdentPart.Valid : IdentPart → Prop
  | .unquoted name => isPlain name.toList
  | .quoted name => name ≠ ""

theorem IdentPart.read_valid {s rest : List Char} {p : IdentPart} (h : read s = .ok (p, rest)) :
    p.Valid := by
  unfold read at h
  split at h
  · split at h
    · simp at h
    · simp at h
    · rename_i name rest' hne _
      cases h
      intro he
      exact hne (by rw [← String.toList_inj] at he; simpa using he)
  · dsimp only at h
    split_ifs at h with hp
    cases h
    simpa [Valid] using hp

theorem Ident.readParts_valid {fuel : Nat} {s : List Char} {ps : List IdentPart}
    (h : readParts fuel s = .ok ps) : ∀ p ∈ ps, p.Valid := by
  induction fuel generalizing s ps with
  | zero => cases h; simp
  | succ fuel ih =>
    unfold readParts at h
    obtain ⟨⟨part, rest⟩, hpart, h⟩ := Except.bind_eq_ok.1 h
    have hv := IdentPart.read_valid hpart
    dsimp only at h
    split at h
    · cases h
      simpa using hv
    · cases h
    · obtain ⟨ps', hps', h⟩ := Except.bind_eq_ok.1 h
      cases h
      simpa using ⟨hv, ih hps'⟩
    · cases h

theorem Ident.readParts_ne_nil {fuel : Nat} {s : List Char} {ps : List IdentPart}
    (h : readParts (fuel + 1) s = .ok ps) : ps ≠ [] := by
  unfold readParts at h
  obtain ⟨⟨part, rest⟩, -, h⟩ := Except.bind_eq_ok.1 h
  dsimp only at h
  split at h
  · cases h; simp
  · cases h
  · obtain ⟨ps', -, h⟩ := Except.bind_eq_ok.1 h
    cases h; simp
  · cases h

theorem Ident.parse_valid {name : String} {i : Ident} (h : parse name = .ok i) :
    i.parts ≠ [] ∧ ∀ p ∈ i.parts, p.Valid := by
  unfold parse at h
  split at h
  · rename_i j hr
    cases h
    unfold read at hr
    split_ifs at hr with he
    obtain ⟨ps, hps, rfl⟩ := Except.map_eq_ok.1 hr
    refine ⟨?_, readParts_valid hps⟩
    cases hs : name.toList with
    | nil => simp [hs] at he
    | cons c r => rw [hs] at hps; exact readParts_ne_nil hps
  · cases h

/-! ## Reading them -/

namespace Sql

theorem isWord_of_isPlain {s : List Char} (h : IdentPart.isPlain s) : isWord s := by
  cases s with
  | nil => simp [IdentPart.isPlain] at h
  | cons c r =>
    simp only [IdentPart.isPlain, Bool.and_eq_true, List.all_eq_true] at h
    simp only [isWord, Bool.and_eq_true, List.all_eq_true]
    refine ⟨by simp only [isWordStart, h.1, Bool.true_or], fun d hd => ?_⟩
    have := h.2 d hd
    simp only [Char.isAlphanum, Bool.or_eq_true] at this
    simp only [isWordPart, isWordStart, Bool.or_eq_true]
    tauto

theorem reads_part {p : IdentPart} (h : p.Valid) {rest : List Char} (hr : Breaks rest) :
    Reads (p.sql.toList ++ rest) [p.token] rest := by
  cases p with
  | unquoted name =>
    simpa [IdentPart.sql, IdentPart.token] using reads_word (isWord_of_isPlain h) hr
  | quoted name =>
    have hne : name.toList ≠ [] := by
      intro he
      exact h (String.toList_inj.1 he)
    simpa [IdentPart.sql, IdentPart.token] using reads_name hne hr

/-- A part begins with its quote or with a character that begins words. -/
theorem part_head {p : IdentPart} (h : p.Valid) :
    ∃ c r, p.sql.toList = c :: r ∧ (c = '"' ∨ isWordStart c) := by
  cases p with
  | unquoted name =>
    have hw := isWord_of_isPlain h
    change ∃ c r, name.toList = c :: r ∧ _
    cases hn : name.toList with
    | nil => simp [hn, isWord] at hw
    | cons c r =>
      simp only [hn, isWord, Bool.and_eq_true] at hw
      exact ⟨c, r, rfl, .inr hw.1⟩
  | quoted name =>
    exact ⟨'"', Text.doubled '"' name.toList ++ ['"'], by simp [IdentPart.sql, Text.quoted],
      .inl rfl⟩

theorem reads_point {c : Char} {rest : List Char} (hc : c = '"' ∨ isWordStart c) :
    Reads ('.' :: c :: rest) [.mark '.'] (c :: rest) := by
  have hd : c.isDigit = false := by
    rcases hc with rfl | hc
    · rfl
    · by_contra hd
      rw [isWordStart_of_isDigit (by simpa using hd)] at hc
      cases hc
  refine .single (by decide) ?_
  simp [token?, isWordStart, isOperatorChar, isSpecial, isMark, hd]

theorem parts_head {ps : List IdentPart} (hne : ps ≠ []) (h : ∀ p ∈ ps, p.Valid) :
    ∃ c r, (".".intercalate (ps.map IdentPart.sql)).toList = c :: r ∧
      (c = '"' ∨ isWordStart c) := by
  cases ps with
  | nil => exact absurd rfl hne
  | cons p ps =>
    obtain ⟨c, r, hp, hc⟩ := part_head (h p (by simp))
    cases ps with
    | nil => exact ⟨c, r, by simpa using hp, hc⟩
    | cons q ps =>
      refine ⟨c, r ++ ("." ++ ".".intercalate ((q :: ps).map IdentPart.sql)).toList, ?_, hc⟩
      simp [String.intercalate_cons_cons, hp]

theorem reads_parts {ps : List IdentPart} (hne : ps ≠ []) (h : ∀ p ∈ ps, p.Valid)
    {rest : List Char} (hr : Breaks rest) :
    Reads ((".".intercalate (ps.map IdentPart.sql)).toList ++ rest)
      ([Token.mark '.'].intercalate (ps.map fun p => [p.token])) rest := by
  induction ps with
  | nil => exact absurd rfl hne
  | cons p ps ih =>
    have hp := h p (by simp)
    cases ps with
    | nil => simpa using reads_part hp hr
    | cons q ps =>
      have hq : ∀ p ∈ q :: ps, p.Valid := fun p hp => h p (List.mem_cons_of_mem _ hp)
      obtain ⟨c, r, hs, hc⟩ := parts_head (by simp) hq
      have hrest := ih (by simp) hq
      rw [hs, List.cons_append] at hrest
      have := (reads_part hp (breaks_cons (c := '.') (by decide) _)).append
        ((reads_point hc).append hrest)
      rw [List.map_cons, List.map_cons, String.intercalate_cons_cons, ← List.map_cons,
        String.toList_append, String.toList_append, hs]
      simpa [List.intercalate] using this

theorem piece_name {name s : String} (h : sqlIdent name = .ok s) : Piece s (nameTokens name) := by
  obtain ⟨i, hi, rfl⟩ := Except.map_eq_ok.1 h
  obtain ⟨hne, hv⟩ := Ident.parse_valid hi
  have ht : nameTokens name = i.tokens := by simp [nameTokens, hi]
  rw [ht]
  obtain ⟨c, r, hs, hc⟩ := parts_head hne hv
  refine ⟨⟨c, r, hs, ?_⟩, fun rest hr => reads_parts hne hv hr.breaks⟩
  rcases hc with rfl | hc
  · rfl
  · exact isSpace_of_isWordStart hc

end Sql

end Rowgate
