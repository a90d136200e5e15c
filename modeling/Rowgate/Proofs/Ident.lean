/-
  Reading a name and writing it are inverse.

  * `Ident.Spelled`: the grammar of names, part by part;
  * `IdentPart.read_spelled`, `IdentPart.read_sql`: one part is read as what it is written from,
    up to a dot or the end;
  * `Ident.parse_eq_ok_iff`: an identifier is read from its own text, and from no other one;
  * `Ident.parse_inverse`: so names are kept as they are, and the accepted ones are those of the
    grammar.
-/
import Rowgate.Proofs.Sql.Name

namespace Rowgate

/-! ## The grammar -/

/-- The text of a part: a letter or an underscore, and then letters, digits, underscores and
    dollar signs; or what stands in double quotes, neither empty nor with NUL, every quote in it
    twice. -/
inductive IdentPart.Spelling : List Char → Prop
  | plain {c : Char} {r : List Char} (hc : c.isAlpha ∨ c = '_')
      (hr : ∀ d ∈ r, d.isAlphanum ∨ d = '_' ∨ d = '$') : Spelling (c :: r)
  | quoted {name : List Char} (hne : name ≠ []) (hnul : '\x00' ∉ name) :
      Spelling ('"' :: Text.doubled '"' name ++ ['"'])

/-- A part, or more of them with single dots between them. -/
def Ident.Spelled (name : String) : Prop :=
  ∃ parts : List String, parts ≠ [] ∧ (∀ p ∈ parts, IdentPart.Spelling p.toList) ∧
    name = ".".intercalate parts

namespace IdentPart

variable {p : IdentPart} {s rest : List Char} {c : Char}

/-- A plain part, or a quoted one that is neither empty nor has NUL in it. -/
def Writable : IdentPart → Prop
  | .unquoted name => isPlain name.toList
  | .quoted name => name ≠ "" ∧ '\x00' ∉ name.toList

theorem isPlain_chars (h : isPlain s) (hc : c ∈ s) : c.isAlphanum ∨ c = '_' ∨ c = '$' := by
  cases s with
  | nil => cases hc
  | cons d s =>
    simp only [isPlain, Bool.and_eq_true, Bool.or_eq_true, decide_eq_true_eq, List.all_eq_true] at h
    obtain ⟨hd, hs⟩ := h
    rcases List.mem_cons.1 hc with rfl | hc
    · rcases hd with hd | hd
      · exact .inl (by simp [Char.isAlphanum, hd])
      · exact .inr (.inl hd)
    · simpa [or_assoc] using hs c hc

/-- A plain part has none of the characters that its class leaves out. -/
theorem not_mem_of_isPlain (h : isPlain s) (hc : (c.isAlphanum || c = '_' || c = '$') = false) :
    c ∉ s := by
  intro hmem
  rcases isPlain_chars h hmem with h | h | h <;> simp [h] at hc

theorem writable_iff : p.Writable ↔ p.Valid ∧ '\x00' ∉ p.sql.toList := by
  cases p with
  | unquoted name =>
    exact (and_iff_left_of_imp fun h => not_mem_of_isPlain h (by decide)).symm
  | quoted name => simp [Writable, Valid, sql, Text.quoted, Text.mem_doubled]

theorem spelling_iff : Spelling s ↔ ∃ p : IdentPart, p.Writable ∧ p.sql.toList = s := by
  constructor
  · intro h
    cases h with
    | @plain c r hc hr =>
      refine ⟨.unquoted (String.ofList (c :: r)), ?_, by simp [sql]⟩
      simpa [Writable, isPlain, or_assoc] using ⟨hc, hr⟩
    | @quoted name hne hnul =>
      refine ⟨.quoted (String.ofList name), ⟨?_, by simpa using hnul⟩, by simp [sql, Text.quoted]⟩
      intro he
      exact hne (by simpa using congrArg String.toList he)
  · rintro ⟨p, hp, rfl⟩
    cases p with
    | unquoted name =>
      change Spelling name.toList
      have hplain : isPlain name.toList := hp
      cases hn : name.toList with
      | nil => simp [hn, isPlain] at hplain
      | cons c r =>
        simp only [hn, isPlain, Bool.and_eq_true, Bool.or_eq_true, decide_eq_true_eq,
          List.all_eq_true, or_assoc] at hplain
        exact .plain hplain.1 hplain.2
    | quoted name =>
      obtain ⟨hne, hnul⟩ := hp
      have hquoted : Spelling ('"' :: Text.doubled '"' name.toList ++ ['"']) :=
        .quoted (fun he => hne (String.toList_inj.1 he)) hnul
      simpa [sql, Text.quoted] using hquoted

/-! ## One part -/

theorem read_spelled (h : read s = .ok (p, rest)) : s = p.sql.toList ++ rest := by
  unfold read at h
  split at h
  · split at h
    · cases h
    · cases h
    · rename_i name rest' _ hu
      cases h
      obtain ⟨rfl, -⟩ := Text.eq_of_unquote hu
      simp [sql, Text.quoted]
  · dsimp only at h
    split_ifs at h
    cases h
    simp [sql]

/-- A part is read up to the dot behind it, or up to the end. -/
theorem read_sql (hp : p.Valid) (hrest : ∀ c ∈ rest.head?, c = '.') :
    read (p.sql.toList ++ rest) = .ok (p, rest) := by
  cases p with
  | unquoted name =>
    have hplain : isPlain name.toList := hp
    have hdot : ∀ c ∈ name.toList, decide (c ≠ '.') := by
      intro c hc
      have hne : c ≠ '.' := by
        rintro rfl
        exact not_mem_of_isPlain hplain (by decide) hc
      simpa using hne
    have hend : ∀ c ∈ rest.head?, decide (c ≠ '.') = false := by simpa using hrest
    have htake := Sql.takeWhile_append_eq hdot hend
    have hdrop := Sql.dropWhile_append_eq hdot hend
    change read (name.toList ++ rest) = _
    unfold read
    split
    · rename_i r he
      -- a plain part is not empty, and does not begin with the quote
      cases hn : name.toList with
      | nil => simp [hn, isPlain] at hplain
      | cons c t =>
        rw [hn, List.cons_append] at he
        cases he
        exact absurd (hn ▸ List.mem_cons_self) (not_mem_of_isPlain hplain (by decide))
    · dsimp only
      rw [htake, hdrop, if_pos hplain, String.ofList_toList]
  | quoted name =>
    have hne : name.toList ≠ [] := fun he => hp (String.toList_inj.1 he)
    have hquote : rest.head? ≠ some '"' := by
      intro he
      exact absurd (hrest '"' he) (by decide)
    have htext : (quoted name).sql.toList ++ rest =
        '"' :: (Text.doubled '"' name.toList ++ '"' :: rest) := by
      simp [sql, Text.quoted]
    rw [htext, read, Text.unquote_doubled '"' name.toList rest hquote]
    split
    · rename_i he
      cases he
    · rename_i he
      exact absurd (Prod.mk.inj (Option.some.inj he)).1 hne
    · rename_i he
      cases he
      rw [String.ofList_toList]

end IdentPart

/-! ## Whole names -/

namespace Ident

variable {ps : List IdentPart} {i : Ident} {name : String}

/-- The text of the parts from the first one on. -/
def partsText (ps : List IdentPart) : List Char :=
  (".".intercalate (ps.map IdentPart.sql)).toList

theorem partsText_singleton (p : IdentPart) : partsText [p] = p.sql.toList := by
  simp [partsText]

theorem partsText_cons (p : IdentPart) (hne : ps ≠ []) :
    partsText (p :: ps) = p.sql.toList ++ '.' :: partsText ps := by
  cases ps with
  | nil => exact absurd rfl hne
  | cons q ps => simp [partsText, String.intercalate_cons_cons]

theorem partsText_ne_nil (hne : ps ≠ []) (hv : ∀ p ∈ ps, p.Valid) : partsText ps ≠ [] := by
  obtain ⟨c, r, hc, -⟩ := Sql.parts_head hne hv
  rw [partsText, hc]
  exact List.cons_ne_nil c r

theorem mem_partsText {c : Char} (hc : c ≠ '.') :
    c ∈ partsText ps ↔ ∃ p ∈ ps, c ∈ p.sql.toList := by
  induction ps with
  | nil => simp [partsText]
  | cons p ps ih =>
    by_cases hne : ps = []
    · subst hne
      simp [partsText_singleton]
    · rw [partsText_cons p hne]
      simp [hc, ih]

theorem readParts_spelled {fuel : Nat} {s : List Char} (hs : s ≠ []) (hfuel : s.length ≤ fuel)
    (h : readParts fuel s = .ok ps) : s = partsText ps := by
  induction fuel generalizing s ps with
  | zero => exact absurd (List.length_eq_zero_iff.1 (Nat.le_zero.1 hfuel)) hs
  | succ fuel ih =>
    unfold readParts at h
    obtain ⟨⟨p, rest⟩, hp, h⟩ := Except.bind_eq_ok.1 h
    have hspelled := IdentPart.read_spelled hp
    obtain ⟨c, t, hc, -⟩ := Sql.part_head (IdentPart.read_valid hp)
    dsimp only at h
    split at h
    · cases h
      rw [partsText_singleton, hspelled, List.append_nil]
    · cases h
    · rename_i rest' hne
      obtain ⟨ps', hps', h⟩ := Except.bind_eq_ok.1 h
      cases h
      -- the part and its dot take two characters at least
      have hlength : rest'.length ≤ fuel := by
        rw [hspelled, hc] at hfuel
        simp only [List.length_append, List.length_cons] at hfuel
        omega
      have hrest : rest' ≠ [] := by
        rintro rfl
        exact hne rfl
      have hps : ps' ≠ [] := by
        cases fuel with
        | zero => exact absurd (List.length_eq_zero_iff.1 (Nat.le_zero.1 hlength)) hrest
        | succ fuel => exact readParts_ne_nil hps'
      rw [hspelled, partsText_cons p hps, ih hrest hlength hps']
    · cases h

theorem readParts_last {fuel : Nat} {s : List Char} {p : IdentPart}
    (h : IdentPart.read s = .ok (p, [])) : readParts (fuel + 1) s = .ok [p] := by
  rw [readParts, h]
  rfl

theorem readParts_more {fuel : Nat} {s rest : List Char} {p : IdentPart}
    (h : IdentPart.read s = .ok (p, '.' :: rest)) (hrest : rest ≠ []) :
    readParts (fuel + 1) s = (readParts fuel rest).map (p :: ·) := by
  obtain ⟨c, r, rfl⟩ := List.exists_cons_of_ne_nil hrest
  rw [readParts, h]
  cases hread : readParts fuel (c :: r) <;> simp [bind, Except.bind, hread] <;> rfl

theorem readParts_sql {fuel : Nat} (hne : ps ≠ []) (hv : ∀ p ∈ ps, p.Valid)
    (hfuel : (partsText ps).length ≤ fuel) : readParts fuel (partsText ps) = .ok ps := by
  induction ps generalizing fuel with
  | nil => exact absurd rfl hne
  | cons p ps ih =>
    have hp := hv p List.mem_cons_self
    have hv' : ∀ q ∈ ps, q.Valid := fun q hq => hv q (List.mem_cons_of_mem _ hq)
    cases fuel with
    | zero =>
      rw [Nat.le_zero, List.length_eq_zero_iff] at hfuel
      exact absurd hfuel (partsText_ne_nil hne hv)
    | succ fuel =>
      by_cases hps : ps = []
      · subst hps
        have hread : IdentPart.read (p.sql.toList ++ []) = .ok (p, []) :=
          IdentPart.read_sql hp (by simp)
        rw [List.append_nil] at hread
        rw [partsText_singleton, readParts_last hread]
      · have hread : IdentPart.read (p.sql.toList ++ '.' :: partsText ps) =
            .ok (p, '.' :: partsText ps) := IdentPart.read_sql hp (by simp)
        have hlength : (partsText ps).length ≤ fuel := by
          rw [partsText_cons p hps, List.length_append, List.length_cons] at hfuel
          omega
        rw [partsText_cons p hps, readParts_more hread (partsText_ne_nil hps hv'),
          ih hps hv' hlength]
        rfl

/-- What is written is free of NUL if its parts are. -/
theorem nul_free_iff (hv : ∀ p ∈ ps, p.Valid) :
    (partsText ps).any (·.toNat = 0) = false ↔ ∀ p ∈ ps, p.Writable := by
  have hmem : (partsText ps).any (·.toNat = 0) = false ↔ '\x00' ∉ partsText ps := by
    have hzero (c : Char) : c.toNat = 0 ↔ c = '\x00' :=
      show c.toNat = Char.toNat '\x00' ↔ _ from Char.toNat_inj
    simp only [List.any_eq_false, decide_eq_true_eq, hzero]
    exact ⟨fun h hnul => h _ hnul rfl, fun h c hc he => h (he ▸ hc)⟩
  rw [hmem, mem_partsText (by decide)]
  constructor
  · intro h p hp
    exact IdentPart.writable_iff.2 ⟨hv p hp, fun hnul => h ⟨p, hp, hnul⟩⟩
  · rintro h ⟨p, hp, hnul⟩
    exact (IdentPart.writable_iff.1 (h p hp)).2 hnul

theorem read_eq_ok_iff {s : List Char} : read s = .ok i ↔
    i.parts ≠ [] ∧ (∀ p ∈ i.parts, p.Writable) ∧ s = partsText i.parts := by
  constructor
  · intro h
    unfold read at h
    split_ifs at h with hs hnul
    obtain ⟨ps, hps, rfl⟩ := Except.map_eq_ok.1 h
    have hne : s ≠ [] := by simpa using hs
    have hspelled := readParts_spelled hne le_rfl hps
    obtain ⟨c, r, rfl⟩ := List.exists_cons_of_ne_nil hne
    refine ⟨readParts_ne_nil hps, (nul_free_iff (readParts_valid hps)).1 ?_, hspelled⟩
    rw [← hspelled]
    exact Bool.eq_false_iff.2 hnul
  · rintro ⟨hne, hw, rfl⟩
    have hv : ∀ p ∈ i.parts, p.Valid := fun p hp => (IdentPart.writable_iff.1 (hw p hp)).1
    have hempty : (partsText i.parts).isEmpty = false := by
      simpa using partsText_ne_nil hne hv
    rw [read, hempty, (nul_free_iff hv).2 hw, readParts_sql hne hv le_rfl]
    rfl

/-- **An identifier is read from its own text** and from no other one. -/
theorem parse_eq_ok_iff : parse name = .ok i ↔
    i.parts ≠ [] ∧ (∀ p ∈ i.parts, p.Writable) ∧ i.sql = name := by
  have hread : parse name = .ok i ↔ read name.toList = .ok i := by
    unfold parse
    split <;> simp_all
  have htext : name.toList = partsText i.parts ↔ i.sql = name := by
    rw [partsText, String.toList_inj, eq_comm]
    rfl
  rw [hread, read_eq_ok_iff, htext]

/-- Texts of parts are what parts are written as. -/
theorem spelled_iff : Spelled name ↔ ∃ i : Ident, i.parts ≠ [] ∧ (∀ p ∈ i.parts, p.Writable) ∧
    i.sql = name := by
  constructor
  · rintro ⟨texts, hne, htexts, rfl⟩
    have hparts : ∃ ps : List IdentPart, (∀ p ∈ ps, p.Writable) ∧ ps.map IdentPart.sql = texts := by
      clear hne
      induction texts with
      | nil => exact ⟨[], by simp, rfl⟩
      | cons t texts ih =>
        obtain ⟨p, hp, ht⟩ := IdentPart.spelling_iff.1 (htexts t List.mem_cons_self)
        obtain ⟨ps, hps, rfl⟩ := ih fun u hu => htexts u (List.mem_cons_of_mem _ hu)
        refine ⟨p :: ps, ?_, by rw [List.map_cons, String.toList_inj.1 ht]⟩
        simpa using ⟨hp, hps⟩
    obtain ⟨ps, hps, rfl⟩ := hparts
    exact ⟨⟨ps⟩, by simpa using hne, hps, rfl⟩
  · rintro ⟨i, hne, hw, rfl⟩
    refine ⟨i.parts.map IdentPart.sql, by simpa using hne, ?_, rfl⟩
    intro t ht
    obtain ⟨p, hp, rfl⟩ := List.mem_map.1 ht
    exact IdentPart.spelling_iff.2 ⟨p, hw p hp, rfl⟩

/-- **Reading and writing names are inverse.**  An accepted name is written as it was read, the
    accepted names are those of the grammar, and parts that can be written are read again. -/
theorem parse_inverse :
    (∀ (name : String) (i : Ident), parse name = .ok i → i.sql = name) ∧
    (∀ name : String, (∃ i, parse name = .ok i) ↔ Spelled name) ∧
    ∀ i : Ident, i.parts ≠ [] → (∀ p ∈ i.parts, p.Writable) → parse i.sql = .ok i := by
  refine ⟨fun name i h => (parse_eq_ok_iff.1 h).2.2, fun name => ?_, fun i hne hw => ?_⟩
  · simp only [parse_eq_ok_iff, spelled_iff]
  · exact parse_eq_ok_iff.2 ⟨hne, hw, rfl⟩

/-- A dot and a quote in a quoted part. -/
theorem parse_inverse_quoted :
    parse "public.\"a.\"\"b\"" = .ok ⟨[.unquoted "public", .quoted "a.\"b"]⟩ ∧
      Spelled "public.\"a.\"\"b\"" := by
  obtain ⟨-, hspelled, hread⟩ := parse_inverse
  have h := hread ⟨[.unquoted "public", .quoted "a.\"b"]⟩ (by simp) (by
    simp [IdentPart.Writable, IdentPart.isPlain])
  exact ⟨h, (hspelled _).1 ⟨_, h⟩⟩

end Ident

end Rowgate
