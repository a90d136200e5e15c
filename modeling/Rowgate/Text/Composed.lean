/-
  Normalization form C: canonically equal texts in one form, as short as composition
  makes them.

  * `decomposed` takes a character apart;
  * `settled` orders marks by their classes, equal ones as given;
  * `composed` does both and puts together what composes.
-/
import Rowgate.Text.Decomposition

namespace Rowgate.Text

/-! ## Syllables of Hangul

The syllables are in the order of their leading consonants, of which there are 19, their
21 vowels, and their trailing consonants, 28 with none. -/

/-- The parts of a syllable. -/
def syllableParts? (n : Nat) : Option (List Nat) :=
  if 0xAC00 ≤ n ∧ n < 0xAC00 + 19 * 21 * 28 then
    let i := n - 0xAC00
    let trailing := i % 28
    some ([0x1100 + i / (21 * 28), 0x1161 + i % (21 * 28) / 28] ++
      if trailing = 0 then [] else [0x11A7 + trailing])
  else none

/-- The syllable of a leading consonant and a vowel, or of a syllable without a trailing
    consonant and one. -/
def syllable? (a b : Nat) : Option Nat :=
  if 0x1100 ≤ a ∧ a < 0x1100 + 19 ∧ 0x1161 ≤ b ∧ b < 0x1161 + 21 then
    some (0xAC00 + ((a - 0x1100) * 21 + (b - 0x1161)) * 28)
  else if 0xAC00 ≤ a ∧ a < 0xAC00 + 19 * 21 * 28 ∧ (a - 0xAC00) % 28 = 0 ∧
      0x11A7 < b ∧ b < 0x11A7 + 28 then
    some (a + (b - 0x11A7))
  else none

/-! ## Taking apart -/

/-- What a code point is made of, in up to `fuel` steps. -/
def decomposedIn : Nat → Nat → List Nat
  | 0, n => [n]
  | fuel + 1, n =>
    match decompositions.find? (·.run.contains n) with
    | some row => (row.image n).flatMap (decomposedIn fuel)
    | none => [n]

/-- The characters that a character is made of; no chain of steps is longer than four. -/
def decomposed (c : Char) : List Char :=
  if c.toNat < 0xC0 then [c]
  else ((syllableParts? c.toNat).getD (decomposedIn 4 c.toNat)).map Char.ofNat

/-! ## Order of marks -/

/-- Puts a character in its place before settled ones: behind the marks of lower
    classes at their head, if it is a mark itself. -/
def settle (c : Char) : List Char → List Char
  | [] => [c]
  | d :: r =>
    if 0 < combiningClass d ∧ combiningClass d < combiningClass c then d :: settle c r
    else c :: d :: r

/-- The marks after every other character in the order of their classes. -/
def settled (s : List Char) : List Char :=
  s.foldr settle []

/-! ## Putting together -/

/-- The character made of two. -/
def pair? (a b : Char) : Option Char :=
  if b.toNat < 0x300 then none
  else
    let made := compositions.find? fun m => m.1 = a.toNat && m.2.1 = b.toNat
    ((syllable? a.toNat b.toNat).or (made.map (·.2.2))).map Char.ofNat

/-- Puts characters together with one that begins a unit; `between` are those after it
    that stay.  A character that stays keeps all behind it apart whose class is not
    higher. -/
def composeOnto (first : Char) (between : List Char) : List Char → List Char
  | [] => first :: between
  | c :: r =>
    let isFree := between.getLast?.all (combiningClass · < combiningClass c)
    match if isFree then pair? first c else none with
    | some whole => composeOnto whole between r
    | none =>
      if combiningClass c = 0 then first :: between ++ composeOnto c [] r
      else composeOnto first (between ++ [c]) r

/-- The normal form. -/
def composed (s : List Char) : List Char :=
  let marks := (settled (s.flatMap decomposed)).takeWhile (combiningClass · ≠ 0)
  match (settled (s.flatMap decomposed)).drop marks.length with
  | [] => marks
  | c :: r => marks ++ composeOnto c [] r

end Rowgate.Text
