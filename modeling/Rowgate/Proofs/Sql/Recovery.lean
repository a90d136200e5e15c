/-
  What the literals of texts and of lists of texts give back.

  * `Recovered`, `string_recovered`: a text is found again in its literal, though one that is
    JSON is written as a JSON string;
  * `elements?`: how a server reads the text of an array of one dimension;
  * `array_recovered`: it reads the literal of a list of texts as these texts.
-/
import Mathlib.Data.List.DropRight
import Rowgate.Proofs.Json.Reading
import Rowgate.Proofs.Sql.Condition

namespace Rowgate.Sql

/-! ## Texts -/

/-- The text `s`, found again in what its literal holds: the value of `d` if that is JSON, which
    then is a string, and `d` itself if not. -/
def Recovered (d s : String) : Prop :=
  match Json.readAll? d with
  | some j => j = .string s
  | none => d = s

theorem Recovered.unique {d s s' : String} (h : Recovered d s) (h' : Recovered d s') : s = s' := by
  unfold Recovered at h h'
  cases hd : Json.readAll? d with
  | none =>
    rw [hd] at h h'
    exact h.symm.trans h'
  | some j =>
    rw [hd] at h h'
    cases h.symm.trans h'
    rfl

theorem recovered_storedText (s : String) : Recovered (storedText s) s := by
  unfold Recovered storedText
  split_ifs with hjson
  · rw [Json.readAll?_string]
  · rw [looksLikeJson, Bool.not_eq_true, Option.isSome_eq_false_iff, Option.isNone_iff_eq_none]
      at hjson
    rw [hjson]

/-- **A literal loses nothing of its text.**  It is one string literal, which holds the text or its
    JSON string; which of them, the held text itself tells.  So different texts have different
    literals. -/
theorem string_recovered :
    (∀ s, ∃ d, tokens? (Sql.string s) = some [.string d] ∧ Recovered d s) ∧
      Function.Injective Sql.string := by
  have hheld (s : String) : tokens? (Sql.string s) = some [.string (storedText s)] :=
    (literal_string s).toPiece.tokens?_eq
  refine ⟨fun s => ⟨_, hheld s, recovered_storedText s⟩, fun s s' h => ?_⟩
  have hstored : storedText s = storedText s' := by
    have htokens := hheld s
    rw [h, hheld s'] at htokens
    simpa using htokens.symm
  have hs := recovered_storedText s
  rw [hstored] at hs
  exact hs.unique (recovered_storedText s')

/-- A text that is a JSON string is written as the JSON string of its spelling. -/
example : Sql.string "\"a\"" = "'\"\\\"a\\\"\"'" := by decide +kernel

/-! ## The text of an array

An array of one dimension: elements with commas between them, in braces, and white space around
each of these.  Arrays in arrays and bounds before the braces are not read. -/

/-- The characters of an element in double quotes, behind the first one, and what follows the
    last one.  A backslash takes the next character as it is. -/
def quotedElement? : List Char → Option (List Char × List Char)
  | [] => none
  | '"' :: r => some ([], r)
  | '\\' :: c :: r => (quotedElement? r).map fun (s, rest) => (c :: s, rest)
  | c :: r => (quotedElement? r).map fun (s, rest) => (c :: s, rest)

/-- The characters of an element without quotes, each with whether a backslash took it, and the
    comma or brace behind it with all that follows. -/
def plainElement? : List Char → Option (List (Char × Bool) × List Char)
  | [] => none
  | '\\' :: c :: r => (plainElement? r).map fun (s, rest) => ((c, true) :: s, rest)
  | c :: r =>
    if c = ',' || c = '\x7d' then some ([], c :: r)
    else if c = '"' || c = '\\' || c = '\x7b' then none
    else (plainElement? r).map fun (s, rest) => ((c, false) :: s, rest)

/-- The value of an element without quotes: white space at its end is dropped, and the word NULL
    is no value.  There is no empty element. -/
def plainValue? (s : List (Char × Bool)) : Option (Option String) :=
  match s.rdropWhile fun (c, taken) => isSpace c && !taken with
  | [] => none
  | s =>
    let text := s.map Prod.fst
    if s.all (!·.2) && Text.sameWord text "null".toList then some none
    else some (some (String.ofList text))

/-- The element at the head of a text without leading white space, nothing for NULL, and what
    follows it. -/
def element? : List Char → Option (Option String × List Char)
  | '"' :: r => (quotedElement? r).map fun (s, rest) => (some (String.ofList s), rest)
  | s => do
    let (text, rest) ← plainElement? s
    return (← plainValue? text, rest)

/-- The elements from one of them on.  Every one takes at least a character. -/
def elementsFrom? : Nat → List Char → Option (List (Option String))
  | 0, _ => none
  | fuel + 1, s => do
    let (x, rest) ← element? (s.dropWhile isSpace)
    match rest.dropWhile isSpace with
    | ',' :: r => return x :: (← elementsFrom? fuel r)
    | '\x7d' :: r => if r.all isSpace then some [x] else none
    | _ => none

/-- The elements of an array from its text. -/
def elements? (text : String) : Option (List (Option String)) :=
  match text.toList.dropWhile isSpace with
  | '\x7b' :: r =>
    match r.dropWhile isSpace with
    | '\x7d' :: r => if r.all isSpace then some [] else none
    | r => elementsFrom? r.length r
  | _ => none

/-- Space is skipped, a backslash or quotes keep what would be read otherwise, and only the bare
    word is no value. -/
example : elements? "\x7b a b , null, \"NULL\",N\\ULL,\"\\\"\\\\\" , \" \" \x7d" =
    some [some "a b", none, some "NULL", some "NULL", some "\"\\", some " "] := by
  decide +kernel

example : elements? "\x7ba,\x7d" = none := by decide +kernel

/-! ## Written arrays -/

/-- A character of an element as it is written. -/
def backslashed (c : Char) : List Char :=
  if c = '\\' then ['\\', '\\'] else if c = '"' then ['\\', '"'] else [c]

theorem toList_arrayElement (s : String) (rest : List Char) :
    (arrayElement s).toList ++ rest = '"' :: (s.toList.flatMap backslashed ++ '"' :: rest) := by
  have htext : (arrayElement s).toList = '"' :: s.toList.flatMap backslashed ++ ['"'] :=
    String.toList_ofList
  rw [htext, List.append_assoc]
  rfl

theorem quotedElement?_backslashed (s rest : List Char) :
    quotedElement? (s.flatMap backslashed ++ '"' :: rest) = some (s, rest) := by
  induction s with
  | nil => simp [quotedElement?]
  | cons c s ih =>
    rw [List.flatMap_cons, List.append_assoc]
    by_cases hback : c = '\\'
    · subst hback
      simp [backslashed, quotedElement?, ih]
    by_cases hquote : c = '"'
    · subst hquote
      simp [backslashed, quotedElement?, ih]
    rw [backslashed, if_neg hback, if_neg hquote, List.singleton_append, quotedElement?, ih]
    · rfl
    · exact hquote
    · exact fun _ _ he => absurd he hback

/-- The text of the elements, up to the brace that closes them. -/
def elementsChars (items : List String) : List Char :=
  (",".intercalate (items.map arrayElement)).toList ++ ['\x7d']

theorem elementsChars_singleton (x : String) :
    elementsChars [x] = (arrayElement x).toList ++ ['\x7d'] := by
  simp [elementsChars]

theorem elementsChars_cons (x y : String) (items : List String) :
    elementsChars (x :: y :: items) =
      (arrayElement x).toList ++ ',' :: elementsChars (y :: items) := by
  simp [elementsChars, String.intercalate_cons_cons]

/-- Every element takes a character. -/
theorem length_le_elementsChars (items : List String) :
    items.length ≤ (elementsChars items).length := by
  induction items with
  | nil => exact Nat.zero_le _
  | cons x items ih =>
    cases items with
    | nil => simp [elementsChars]
    | cons y items =>
      rw [elementsChars_cons, List.length_append]
      simp only [List.length_cons] at ih ⊢
      omega

theorem skip_arrayElement (x : String) (r : List Char) :
    ((arrayElement x).toList ++ r).dropWhile isSpace = (arrayElement x).toList ++ r := by
  rw [toList_arrayElement, List.dropWhile_cons_of_neg (by decide)]

theorem element?_arrayElement (x : String) (r : List Char) :
    element? ((arrayElement x).toList ++ r) = some (some x, r) := by
  rw [toList_arrayElement, element?, quotedElement?_backslashed]
  simp

theorem elementsFrom?_last (x : String) (fuel : Nat) :
    elementsFrom? (fuel + 1) ((arrayElement x).toList ++ ['\x7d']) = some [some x] := by
  rw [elementsFrom?, skip_arrayElement, element?_arrayElement]
  rfl

theorem elementsFrom?_more (x : String) (fuel : Nat) (r : List Char) :
    elementsFrom? (fuel + 1) ((arrayElement x).toList ++ ',' :: r) =
      (elementsFrom? fuel r).map (some x :: ·) := by
  rw [elementsFrom?, skip_arrayElement, element?_arrayElement]
  cases h : elementsFrom? fuel r with
  | none => simp [isSpace, h]
  | some xs => simp [isSpace, h]

theorem elementsFrom?_written {items : List String} {fuel : Nat} (hne : items ≠ [])
    (hfuel : items.length ≤ fuel) :
    elementsFrom? fuel (elementsChars items) = some (items.map some) := by
  induction items generalizing fuel with
  | nil => exact absurd rfl hne
  | cons x items ih =>
    cases fuel with
    | zero => cases hfuel
    | succ fuel =>
      cases items with
      | nil =>
        rw [elementsChars_singleton, elementsFrom?_last]
        rfl
      | cons y items =>
        rw [elementsChars_cons, elementsFrom?_more,
          ih (List.cons_ne_nil _ _) (Nat.le_of_succ_le_succ hfuel)]
        rfl

theorem elements?_arrayText (items : List String) :
    elements? (arrayText (items.map arrayElement)) = some (items.map some) := by
  have htext : (arrayText (items.map arrayElement)).toList = '\x7b' :: elementsChars items := by
    simp [arrayText, elementsChars]
  rw [elements?, htext, List.dropWhile_cons_of_neg (by decide)]
  cases items with
  | nil => rfl
  | cons x items =>
    -- the first quote is neither space nor the closing brace
    obtain ⟨r, hr⟩ : ∃ r, elementsChars (x :: items) = '"' :: r := by
      cases items with
      | nil => exact ⟨_, (elementsChars_singleton x).trans (toList_arrayElement x _)⟩
      | cons y items => exact ⟨_, (elementsChars_cons x y items).trans (toList_arrayElement x _)⟩
    have hread : elementsFrom? (elementsChars (x :: items)).length (elementsChars (x :: items)) =
        some ((x :: items).map some) :=
      elementsFrom?_written (List.cons_ne_nil _ _) (length_le_elementsChars _)
    rw [hr] at hread ⊢
    exact hread

/-- **The literal of a list of texts is read as these texts**, none of them as no value. -/
theorem array_recovered (field operator : String) (items : List String) :
    ∃ l d, scalar field operator (.stringArray items) = .ok l ∧ tokens? l = some [.string d] ∧
      elements? d = some (items.map some) :=
  ⟨_, _, rfl, (literal_quote _).toPiece.tokens?_eq, elements?_arrayText items⟩

end Rowgate.Sql
