/-
  What the server takes a name for: the letters of its plain parts are folded to lower case, and
  its quoted parts are taken as they are.

  * `Ident.resolved`, `resolve?`: the parts that a name comes to;
  * `resolve?_key_iff`: the spellings of the key.
-/
import Rowgate.Proofs.Ident
import Rowgate.Proofs.Text
import Rowgate.Statement.Basic

namespace Rowgate

/-- The name of a part, as the server knows it. -/
def IdentPart.resolved : IdentPart → String
  | .unquoted name => String.ofList (Text.lower name.toList)
  | .quoted name => name

def Ident.resolved (i : Ident) : List String :=
  i.parts.map IdentPart.resolved

/-- What a text is taken for, if it is a name. -/
def resolve? (name : String) : Option (List String) :=
  (Ident.parse name).toOption.map Ident.resolved

/-- The texts that are taken for the key. -/
def keySpellings : List String :=
  ["id", "iD", "Id", "ID", "\"id\""]

variable {name : String} {parts : List String} {p : IdentPart}

theorem resolve?_eq_some :
    resolve? name = some parts ↔ ∃ i, Ident.parse name = .ok i ∧ i.resolved = parts := by
  unfold resolve?
  cases Ident.parse name <;> simp [Except.toOption]

theorem lower_eq_key {s : List Char} (h : Text.lower s = ['i', 'd']) :
    s = ['i', 'd'] ∨ s = ['i', 'D'] ∨ s = ['I', 'd'] ∨ s = ['I', 'D'] := by
  obtain ⟨c, s, rfl, hc, h⟩ := List.map_eq_cons_iff.1 h
  obtain ⟨d, s, rfl, hd, h⟩ := List.map_eq_cons_iff.1 h
  obtain rfl := List.map_eq_nil_iff.1 h
  rcases Text.eq_or_eq_toUpper hc with rfl | rfl <;>
    rcases Text.eq_or_eq_toUpper hd with rfl | rfl <;> decide

theorem sql_of_resolved_key (h : p.resolved = Statement.idField) : p.sql ∈ keySpellings := by
  cases p with
  | unquoted name =>
    have hlower : Text.lower name.toList = ['i', 'd'] := by
      rw [← String.toList_inj, IdentPart.resolved, String.toList_ofList] at h
      exact h
    have hname : name = String.ofList name.toList := String.ofList_toList.symm
    show name ∈ keySpellings
    rcases lower_eq_key hlower with hs | hs | hs | hs <;> rw [hname, hs] <;> decide
  | quoted name =>
    obtain rfl : name = Statement.idField := h
    decide

/-- **The key has five spellings.** -/
theorem resolve?_key_iff : resolve? name = some [Statement.idField] ↔ name ∈ keySpellings := by
  constructor
  · rw [resolve?_eq_some]
    rintro ⟨i, hi, hparts⟩
    obtain ⟨-, -, rfl⟩ := Ident.parse_eq_ok_iff.1 hi
    obtain ⟨p, hp, hkey⟩ := List.map_eq_singleton_iff.1 hparts
    have htext : i.sql = p.sql := by simp [Ident.sql, hp]
    rw [htext]
    exact sql_of_resolved_key hkey
  · intro h
    revert name
    decide

end Rowgate
