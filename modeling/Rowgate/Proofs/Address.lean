/-
  Characters of addresses.

  * `mem_of_isEmail`: an address of mail has its sign;
  * `scheme?_eq_some`, `cleaned_cons`: how an absolute address begins;
  * `isUrl_mark`: an absolute address has a slash or one of a few letters.
-/
import Mathlib.Data.List.Infix
import Mathlib.Data.List.TakeWhile
import Rowgate.Address.Email
import Rowgate.Address.Url
import Rowgate.Proofs.Text

namespace Rowgate.Address

variable {s : String} {l name r : List Char} {c : Char}

theorem mem_of_isEmail (h : isEmail s) : '@' ∈ s.toList := by
  by_contra hat
  have hdomain : s.toList.dropWhile (· ≠ '@') = [] := by
    rw [List.dropWhile_eq_nil_iff]
    intro c hc
    simp only [ne_eq, decide_not, Bool.not_eq_true', decide_eq_false_iff_not]
    rintro rfl
    exact hat hc
  simp only [isEmail, hdomain, Bool.and_eq_true] at h
  exact absurd h.2 (by decide)

theorem scheme?_eq_some (h : scheme? l = some (name, r)) :
    l = name ++ ':' :: r ∧ ∃ c t, name = c :: t ∧ c.isAlpha := by
  unfold scheme? at h
  set p : Char → Bool := fun c => c.isAlphanum || c = '+' || c = '-' || c = '.'
  dsimp only at h
  split at h
  · rename_i t ht
    split_ifs at h with hhead
    cases h
    refine ⟨?_, ?_⟩
    · rw [← ht]
      exact (List.prefix_iff_eq_append.1 (List.takeWhile_prefix p)).symm
    · cases hn : l.takeWhile p with
      | nil => rw [hn] at hhead; cases hhead
      | cons c t =>
        rw [hn] at hhead
        exact ⟨c, t, rfl, hhead⟩
  · cases h

theorem mem_of_mem_cleaned (h : c ∈ cleaned l) : c ∈ l := by
  have h := List.mem_reverse.1 (List.mem_of_mem_filter h)
  have h := List.mem_reverse.1 ((List.dropWhile_sublist _).mem h)
  exact (List.dropWhile_sublist _).mem h

/-- Cleaning leaves the first character that is neither a space nor a control character. -/
theorem cleaned_cons (hl : l.dropWhile (fun c => c.toNat ≤ 0x20) = c :: r) :
    ∃ t, cleaned l = c :: t := by
  have hc : ¬ c.toNat ≤ 0x20 := by
    have hhead := List.head?_dropWhile_not (fun c : Char => c.toNat ≤ 0x20) l
    rw [hl] at hhead
    simpa using hhead
  have hlast : ∃ u, (c :: r).reverse.dropWhile (fun c => c.toNat ≤ 0x20) = u ++ [c] := by
    rw [List.reverse_cons, List.dropWhile_append]
    split_ifs
    · exact ⟨[], by simp [hc]⟩
    · exact ⟨_, rfl⟩
  obtain ⟨u, hu⟩ := hlast
  have hkept : (c ≠ '\t' && c ≠ '\n' && c ≠ '\r') = true := by
    by_contra hn
    simp only [ne_eq, decide_not, Bool.and_eq_true, Bool.not_eq_true', decide_eq_false_iff_not,
      not_and_or, not_not] at hn
    rcases hn with (rfl | rfl) | rfl <;> exact hc (by decide)
  rw [cleaned, hl, hu, List.reverse_append, List.reverse_singleton, List.singleton_append]
  exact ⟨_, List.filter_cons_of_pos hkept⟩

/-- The slash of a host, and letters of the schemes that need none. -/
def marks : List Char :=
  ['/', 'p', 'P', 'w', 'W', 'l', 'L']

theorem mark_of_sameWord {w : List Char} (d : Char) (hw : Text.sameWord name w)
    (hd : d ∈ Text.lower w) (hmark : d ∈ ['p', 'w', 'l']) : ∃ c ∈ name, c ∈ marks := by
  have hcases : ∀ d ∈ ['p', 'w', 'l'], d ∈ marks ∧ d.toUpper ∈ marks := Text.of_all (by decide)
  rcases Text.mem_of_sameWord hw hd with hd | hd
  · exact ⟨d, hd, (hcases d hmark).1⟩
  · exact ⟨_, hd, (hcases d hmark).2⟩

theorem scheme_mark (h : SchemeKind.ofName name ≠ .other) : ∃ c ∈ name, c ∈ marks := by
  unfold SchemeKind.ofName at h
  split_ifs at h with hweb hfile
  · obtain ⟨w, hw, hname⟩ := List.any_eq_true.1 hweb
    simp only [List.mem_cons, List.not_mem_nil, or_false] at hw
    rcases hw with rfl | rfl | rfl | rfl | rfl
    · exact mark_of_sameWord 'p' hname (by decide) (by decide)
    · exact mark_of_sameWord 'p' hname (by decide) (by decide)
    · exact mark_of_sameWord 'w' hname (by decide) (by decide)
    · exact mark_of_sameWord 'w' hname (by decide) (by decide)
    · exact mark_of_sameWord 'p' hname (by decide) (by decide)
  · exact mark_of_sameWord 'l' hfile (by decide) (by decide)
  · exact absurd rfl h

/-- A host stands behind slashes, unless the scheme always has one. -/
theorem isUrl_mark (h : isUrl s) : ∃ c ∈ s.toList, c ∈ marks := by
  unfold isUrl at h
  split at h
  · cases h
  · rename_i name r hscheme
    obtain ⟨hl, -⟩ := scheme?_eq_some hscheme
    have hmem {c : Char} (hc : c ∈ name ++ ':' :: r) : c ∈ s.toList :=
      mem_of_mem_cleaned (hl ▸ hc)
    by_cases hkind : SchemeKind.ofName name = .other
    · rw [hkind] at h
      dsimp only at h
      split at h
      · exact ⟨'/', hmem (by simp), by decide⟩
      · cases h
    · obtain ⟨c, hc, hmark⟩ := scheme_mark hkind
      exact ⟨c, hmem (List.mem_append_left _ hc), hmark⟩

end Rowgate.Address
