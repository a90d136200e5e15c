/-
  Instants inside of SQL literals, and as parameters.

  * `floorMicros`: the instant cut off to a microsecond, towards the past;
  * `local?_sqlText`: the text of a literal is read as that instant;
  * `Sql.instant?`: the instant that a literal stands for;
  * `literal_and_parameter`: a literal is cut off towards the past, a parameter towards 2000; so
    they are one instant from 2000 on, or when nothing is cut off (`literal_before_parameter`).
-/
import Rowgate.Proofs.Calendar.Reread
import Rowgate.Proofs.Column.Bytes
import Rowgate.Proofs.Sql.Condition

namespace Rowgate

/-- The instant of a literal: the date and time in its text, in universal time. -/
def Sql.instant? (literal : String) : Option Instant :=
  match tokens? literal with
  | some [.string s] => Instant.local? s
  | _ => none

namespace Instant

open Json (NoDigit)

variable {n : Nat}

/-! ## Microseconds towards the past -/

/-- The instant cut off to a microsecond. -/
def floorMicros (t : Instant) : Instant where
  day := t.day
  second := t.second
  nano := t.nano / 1000 * 1000
  valid := by
    have hvalid := t.valid
    unfold Valid at hvalid ⊢
    omega

theorem nanos_floorMicros (t : Instant) : t.floorMicros.nanos = t.nanos / 1000 * 1000 := by
  show ((t.day - epoch2000) * 86400 + t.second) * 1000000000 +
      ((t.nano / 1000 * 1000 : Nat) : Int) =
    (((t.day - epoch2000) * 86400 + t.second) * 1000000000 + t.nano) / 1000 * 1000
  omega

/-- The count of an instant is that of the instant cut off, but for what is cut off before 2000. -/
theorem micros_eq (t : Instant) : t.microsFromEpoch2000 =
    t.nanos / 1000 + if t.nanos < 0 ∧ t.nanos % 1000 ≠ 0 then 1 else 0 := by
  have hmicros := micros_cases t
  split_ifs <;> omega

/-! ## The text of a literal -/

theorem fraction?_padded (hn : n < 1000000) :
    fraction? ('.' :: (Text.padded 6 n).toList) = some (n * 1000, []) := by
  have hlen := Text.length_padded (w := 6) (by decide) hn
  have hread : number? 1 9 ((Text.padded 6 n).toList ++ []) = some (n, []) :=
    number?_padded (by omega) (by omega) nofun
  rw [List.append_nil] at hread
  rw [fraction?_point hread, hlen]
  rfl

theorem reading_floorMicros (t : Instant) : reading t.floorMicros =
    { reading t with nano := t.nano % 1000000000 / 1000 * 1000 } := by
  have hleap : t.nano / 1000 * 1000 / 1000000000 = t.nano / 1000000000 := by omega
  have hnano : t.nano / 1000 * 1000 % 1000000000 = t.nano % 1000000000 / 1000 * 1000 := by omega
  unfold reading floorMicros date
  dsimp only
  rw [hleap, hnano]

/-- What is written in a literal is read as the instant, cut off to a microsecond. -/
theorem local?_sqlText (t : Instant) : local? t.sqlText = some t.floorMicros := by
  have htext : t.sqlText.toList = (secondsText " " t).toList ++
      '.' :: (Text.padded 6 (t.nano % 1000000000 / 1000)).toList := by
    simp [sqlText]
  have hspace (k : Nat) (s : List Char) : some (Text.skipBlanks (' ' ::
      ((Text.padded 2 k).toList ++ s))) = some ((Text.padded 2 k).toList ++ s) := by
    rw [Text.skipBlanks, List.dropWhile_cons_of_pos (by decide), ← Text.skipBlanks,
      skipBlanks_padded]
  have hfraction : fraction? ('.' :: (Text.padded 6 (t.nano % 1000000000 / 1000)).toList) =
      some (t.nano % 1000000000 / 1000 * 1000, []) := fraction?_padded (by omega)
  have hparts : parts? id (fun s => some (Text.skipBlanks s)) t.sqlText.toList =
      some (reading t.floorMicros, []) := by
    rw [htext, reading_floorMicros]
    exact parts?_secondsText id (fun s => some (Text.skipBlanks s)) (c := ' ') (by decide)
      (by decide) (fun _ => ⟨rfl, rfl⟩) hspace t (noDigit_cons (by decide) _) hfraction
  rw [local?, hparts]
  exact ofReading?_reading t.floorMicros

theorem instant?_timestamp (t : Instant) :
    Sql.instant? (Sql.timestamp t) = some t.floorMicros := by
  have htokens : Sql.tokens? (Sql.timestamp t) = some [.string t.sqlText] :=
    (Sql.literal_quote t.sqlText).toPiece.tokens?_eq
  rw [Sql.instant?, htokens]
  exact local?_sqlText t

/-! ## Literals and parameters -/

/-- **A literal is cut off towards the past, a parameter towards 2000.**  The literal of an instant
    is the same in every place; it is read as the instant cut off to a microsecond.  As a parameter
    of either type of instants it is a count of microseconds, which is the literal's, but that it is
    one more for an instant before 2000 that is not of whole microseconds. -/
theorem literal_and_parameter (t : Instant) : ∃ literal written bytes count,
    (∀ field operator, Sql.scalar field operator (.timestamp t) = .ok literal) ∧
      Sql.instant? literal = some written ∧ written.nanos = t.nanos / 1000 * 1000 ∧
      Value.encode (.base .timestamp) (.timestamp t) = .ok (some bytes) ∧
      Value.encode (.base .timestamptz) (.timestamp t) = .ok (some bytes) ∧
      Bytes.signed? 8 bytes = some count ∧
      count = t.nanos / 1000 + (if t.nanos < 0 ∧ t.nanos % 1000 ≠ 0 then 1 else 0) := by
  obtain ⟨lo, hi⟩ := t.micros_bounds
  exact ⟨Sql.timestamp t, t.floorMicros, t.toBytes, t.microsFromEpoch2000, fun _ _ => rfl,
    instant?_timestamp t, nanos_floorMicros t, rfl, rfl,
    Bytes.signed?_ofInt 8 _ (by omega) (by omega), micros_eq t⟩

/-- The last nanosecond before 2000. -/
def lastBefore2000 : Instant :=
  ⟨epoch2000 - 1, 86399, 999999999, by decide⟩

/-- Its literal is in the last microsecond of 1999, and its parameter the first instant of 2000. -/
theorem literal_before_parameter :
    (0 ≤ lastBefore2000.date.year ∧ lastBefore2000.date.year ≤ 9999 ∧
      lastBefore2000.nano < 1000000000) ∧
    Sql.scalar "at" "eq" (.timestamp lastBefore2000) = .ok "'1999-12-31 23:59:59.999999'" ∧
    (Sql.instant? "'1999-12-31 23:59:59.999999'").map nanos = some (-1000) ∧
    Value.encode (.base .timestamptz) (.timestamp lastBefore2000) =
      .ok (some [0, 0, 0, 0, 0, 0, 0, 0]) ∧
    Bytes.signed? 8 [0, 0, 0, 0, 0, 0, 0, 0] = some 0 := by
  decide +kernel

end Instant

end Rowgate
