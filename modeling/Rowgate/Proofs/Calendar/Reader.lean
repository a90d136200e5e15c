/-
  The characters of date-times.

  * `isMark`: digits, white space, signs, points, colons and the letters of the formats;
  * `Reads`: from a text to what follows, over such characters only; a lemma for each reader;
  * `strict?_chars`, `local?_chars`: a text that is read has no other characters, and a colon.
-/
import Mathlib.Data.List.Infix
import Mathlib.Data.List.TakeWhile
import Mathlib.Tactic.SplitIfs
import Rowgate.Calendar.Reader

namespace Rowgate.Instant

variable {s t r : List Char} {c : Char}

/-- The characters of date-times. -/
def isMark (c : Char) : Bool :=
  c.isDigit || Text.isBlank c ||
    ['-', '+', ':', '.', 'T', 't', 'Z', 'z', '\u2212'].contains c

/-- The text `s` is characters of date-times, and then `r`. -/
def Reads (s r : List Char) : Prop :=
  ∃ w, s = w ++ r ∧ ∀ c ∈ w, isMark c

namespace Reads

theorem refl (s : List Char) : Reads s s :=
  ⟨[], rfl, nofun⟩

theorem trans (h : Reads s t) (h' : Reads t r) : Reads s r := by
  obtain ⟨w, rfl, hw⟩ := h
  obtain ⟨w', rfl, hw'⟩ := h'
  exact ⟨w ++ w', (List.append_assoc ..).symm, List.forall_mem_append.2 ⟨hw, hw'⟩⟩

theorem cons (hc : isMark c) (s : List Char) : Reads (c :: s) s :=
  ⟨[c], rfl, by simpa using hc⟩

theorem dropWhile {p : Char → Bool} (hp : ∀ c, p c → isMark c) (s : List Char) :
    Reads s (s.dropWhile p) :=
  ⟨s.takeWhile p, List.takeWhile_append_dropWhile.symm, fun c hc =>
    hp c (List.mem_takeWhile_imp hc)⟩

theorem mem (h : Reads s (c :: r)) : c ∈ s := by
  obtain ⟨w, rfl, -⟩ := h
  simp

theorem marks (h : Reads s []) : ∀ c ∈ s, isMark c := by
  obtain ⟨w, rfl, hw⟩ := h
  simpa using hw

end Reads

/-! ## The readers -/

theorem isMark_of_isDigit (h : c.isDigit) : isMark c := by
  simp [isMark, h]

theorem isMark_of_isBlank (h : Text.isBlank c) : isMark c := by
  simp [isMark, h]

theorem skipBlanks_reads (s : List Char) : Reads s (Text.skipBlanks s) :=
  .dropWhile (fun _ => isMark_of_isBlank) s

theorem number?_reads {least most n : Nat} (h : number? least most s = some (n, r)) :
    Reads s r := by
  unfold number? at h
  dsimp only at h
  split_ifs at h
  obtain ⟨m, -, hm⟩ := Option.map_eq_some_iff.1 h
  cases hm
  obtain ⟨t, ht⟩ := (List.takeWhile_prefix Char.isDigit).trans (List.take_prefix most s)
  refine ⟨_, (List.prefix_iff_eq_append.1 ⟨t, ht⟩).symm, fun c hc => ?_⟩
  exact isMark_of_isDigit (List.mem_takeWhile_imp hc)

theorem char?_eq_some (h : char? c s = some r) : s = c :: r := by
  cases s with
  | nil => cases h
  | cons d s =>
    simp only [char?] at h
    split_ifs at h with hd
    cases h
    rw [hd]

theorem char?_reads (hc : isMark c) (h : char? c s = some r) : Reads s r :=
  char?_eq_some h ▸ .cons hc r

theorem fraction?_reads {n : Nat} (h : fraction? s = some (n, r)) : Reads s r := by
  unfold fraction? at h
  split at h
  · obtain ⟨⟨m, t⟩, hm, h⟩ := Option.bind_eq_some_iff.1 h
    cases h
    exact (Reads.cons (by decide) _).trans
      ((number?_reads hm).trans (.dropWhile (fun _ => isMark_of_isDigit) t))
  · cases h
    exact .refl s

theorem between?_reads (h : between? s = some r) : Reads s r := by
  cases s with
  | nil => cases h
  | cons c s =>
    simp only [between?] at h
    split_ifs at h with hc
    cases h
    simp only [Bool.or_eq_true, decide_eq_true_eq] at hc
    rcases hc with (rfl | rfl) | rfl <;> exact .cons (by decide) r

theorem offset?_reads {n : Int} (h : offset? (char? ':') s = some (n, r)) : Reads s r := by
  cases s with
  | nil => cases h
  | cons c s =>
    simp only [offset?, Bool.or_eq_true, decide_eq_true_eq] at h
    split at h
    · rename_i hz
      cases h
      rcases hz with rfl | rfl <;> exact .cons (by decide) r
    · split at h
      · rename_i hsign
        simp only [Option.bind_eq_bind, Option.bind_eq_some_iff, Prod.exists] at h
        obtain ⟨hour, s₁, hh, s₂, hc, minute, s₃, hm, h⟩ := h
        split at h
        · cases h
          have hrest : Reads s r :=
            (number?_reads hh).trans ((char?_reads (by decide) hc).trans (number?_reads hm))
          rcases hsign with (rfl | rfl) | rfl <;> exact (Reads.cons (by decide) s).trans hrest
        · cases h
      · cases h

theorem year?_reads {n : Int} (h : year? s = some (n, r)) : Reads s r := by
  refine (skipBlanks_reads s).trans ?_
  unfold year? at h
  split at h
  all_goals
    obtain ⟨⟨m, t⟩, hm, h⟩ := Option.map_eq_some_iff.1 h
    cases h
  · rename_i hs
    exact hs ▸ (Reads.cons (by decide) _).trans (number?_reads hm)
  · rename_i hs
    exact hs ▸ (Reads.cons (by decide) _).trans (number?_reads hm)
  · exact number?_reads hm

theorem part?_reads {n : Nat} (h : part? s = some (n, r)) : Reads s r :=
  (skipBlanks_reads s).trans (number?_reads h)

/-! ## Whole texts -/

theorem strict?_chars {text : String} (h : (strict? text).isSome) :
    (∀ c ∈ text.toList, isMark c) ∧ ':' ∈ text.toList := by
  obtain ⟨i, h⟩ := Option.isSome_iff_exists.1 h
  simp only [strict?, Option.bind_eq_bind, Option.bind_eq_some_iff, Prod.exists] at h
  obtain ⟨year, s₁, hy, s₂, h₁, month, s₃, hmo, s₄, h₂, day, s₅, hd, s₆, hb, hour, s₇, hh, s₈, h₃,
    minute, s₉, hmi, s₁₀, h₄, second, s₁₁, hs, nano, s₁₂, hf, offset, r, ho, h⟩ := h
  have hcolon : Reads text.toList (':' :: s₈) := by
    rw [← char?_eq_some h₃]
    exact (number?_reads hy).trans <| (char?_reads (by decide) h₁).trans <|
      (number?_reads hmo).trans <| (char?_reads (by decide) h₂).trans <|
      (number?_reads hd).trans <| (between?_reads hb).trans (number?_reads hh)
  have hrest : Reads s₈ r :=
    (number?_reads hmi).trans <| (char?_reads (by decide) h₄).trans <|
      (number?_reads hs).trans <| (fraction?_reads hf).trans (offset?_reads ho)
  split_ifs at h with hr
  rw [List.isEmpty_iff.1 hr] at hrest
  exact ⟨(hcolon.trans ((Reads.cons (by decide) _).trans hrest)).marks, hcolon.mem⟩

theorem local?_chars {text : String} (h : (local? text).isSome) :
    (∀ c ∈ text.toList, isMark c) ∧ ':' ∈ text.toList := by
  obtain ⟨i, h⟩ := Option.isSome_iff_exists.1 h
  simp only [local?, parts?, Option.bind_eq_bind, Option.bind_eq_some_iff, Prod.exists, id] at h
  obtain ⟨reading, r, ⟨year, s₁, hy, s₂, h₁, month, s₃, hmo, s₄, h₂, day, s₅, hd, s₆, hb, hour, s₇,
    hh, s₈, h₃, minute, s₉, hmi, s₁₀, h₄, second, s₁₁, hs, nano, s₁₂, hf, hr⟩, h⟩ := h
  cases hb
  cases hr
  have hcolon : Reads text.toList (':' :: s₈) := by
    rw [← char?_eq_some h₃]
    exact (year?_reads hy).trans <| (char?_reads (by decide) h₁).trans <|
      (part?_reads hmo).trans <| (char?_reads (by decide) h₂).trans <|
      (part?_reads hd).trans <| (skipBlanks_reads s₅).trans (part?_reads hh)
  have hrest : Reads s₈ r :=
    (part?_reads hmi).trans <| (char?_reads (by decide) h₄).trans <|
      (part?_reads hs).trans (fraction?_reads hf)
  split_ifs at h with hr
  rw [List.isEmpty_iff.1 hr] at hrest
  exact ⟨(hcolon.trans ((Reads.cons (by decide) _).trans hrest)).marks, hcolon.mem⟩

end Rowgate.Instant
