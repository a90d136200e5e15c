/-
  The compact text of a value is read as a value close to it.

  * `Json.Fits`: the values that the reader finds at a depth of brackets: numbers in their
    ranges, nothing unreadable, and no brackets beyond the limit;
  * `Json.Close`: the same value, but that doubles may be close ones;
  * `readValue_chars`: the text of a value that fits is read as one close to it, with what
    follows it;
  * `readAll?_text`: so is a whole text.
-/
import Rowgate.Json.Reader
import Rowgate.Proofs.Json.Reread

namespace Rowgate

/-! ## Numbers -/

/-- A whole number within 64 bits, with sign or without, or a finite double. -/
def JsonNumber.InRange : JsonNumber → Prop
  | .whole n => -(2 ^ 63) ≤ n ∧ n < 2 ^ 64
  | .decimal x => x.isFinite

/-- The same number, but that doubles may be close ones. -/
inductive JsonNumber.Close : JsonNumber → JsonNumber → Prop
  | whole (n : Int) : Close (.whole n) (.whole n)
  | decimal {x y : Double} (h : x.Close y) : Close (.decimal x) (.decimal y)

namespace Json

mutual

/-- A value that the reader can find with so many brackets open. -/
def Fits (depth : Nat) : Json → Prop
  | .number n => n.InRange
  | .array items => depth < depthLimit ∧ ItemsFit (depth + 1) items
  | .object members => depth < depthLimit ∧ MembersFit (depth + 1) members
  | .unreadable => False
  | _ => True

def ItemsFit (depth : Nat) : List Json → Prop
  | [] => True
  | x :: r => Fits depth x ∧ ItemsFit depth r

def MembersFit (depth : Nat) : List (String × Json) → Prop
  | [] => True
  | (_, x) :: r => Fits depth x ∧ MembersFit depth r

end

mutual

/-- The same value, but that doubles may be close ones. -/
inductive Close : Json → Json → Prop
  | null : Close .null .null
  | bool (b : Bool) : Close (.bool b) (.bool b)
  | number {n n' : JsonNumber} (h : n.Close n') : Close (.number n) (.number n')
  | string (s : String) : Close (.string s) (.string s)
  | array {xs ys : List Json} (h : ItemsClose xs ys) : Close (.array xs) (.array ys)
  | object {ms ns : List (String × Json)} (h : MembersClose ms ns) :
      Close (.object ms) (.object ns)

inductive ItemsClose : List Json → List Json → Prop
  | nil : ItemsClose [] []
  | cons {x y : Json} {xs ys : List Json} (h : Close x y) (hs : ItemsClose xs ys) :
      ItemsClose (x :: xs) (y :: ys)

inductive MembersClose : List (String × Json) → List (String × Json) → Prop
  | nil : MembersClose [] []
  | cons {k : String} {x y : Json} {ms ns : List (String × Json)} (h : Close x y)
      (hs : MembersClose ms ns) : MembersClose ((k, x) :: ms) ((k, y) :: ns)

end

/-! ## Characters -/

variable {depth fuel : Nat} {r s : List Char}

theorem skipSpace_cons {c : Char} (hc : isSpace c = false) (s : List Char) :
    skipSpace (c :: s) = c :: s := by
  rw [skipSpace, List.dropWhile_cons_of_neg (by simp [hc])]

theorem isSpace_of_isAtomChar {c : Char} (h : isAtomChar c) : isSpace c = false := by
  by_contra hspace
  rw [Bool.not_eq_false] at hspace
  simp only [isSpace, Bool.or_eq_true, decide_eq_true_eq] at hspace
  rcases hspace with ((rfl | rfl) | rfl) | rfl <;> revert h <;> decide

/-- The text of a value starts with no space and no closing bracket. -/
theorem chars_start (j : Json) : ∃ c s, j.chars escapedChar = c :: s ∧ isSpace c = false ∧
    c ≠ ']' ∧ c ≠ '\x7d' := by
  obtain ⟨c, s, hs⟩ : ∃ c s, j.chars escapedChar = c :: s := by
    rcases kind j with hj | ⟨t, rfl⟩ | ⟨items, rfl⟩ | ⟨members, rfl⟩
    · exact List.exists_cons_of_ne_nil (atom_chars hj).1
    · exact ⟨_, _, by rw [chars, stringChars]; rfl⟩
    · exact ⟨_, _, by rw [chars]; rfl⟩
    · exact ⟨_, _, by rw [chars]; rfl⟩
  refine ⟨c, s, hs, ?_⟩
  have hhead := chars_head (j := j) (r := []) (by rw [hs, List.append_nil])
  rcases hhead with ⟨hc, -⟩ | ⟨rfl, -⟩ | ⟨rfl, -⟩ | ⟨rfl, -⟩
  · refine ⟨isSpace_of_isAtomChar hc, ?_, ?_⟩ <;> rintro rfl <;> revert hc <;> decide
  all_goals decide

theorem skipSpace_chars (j : Json) (s : List Char) :
    skipSpace (j.chars escapedChar ++ s) = j.chars escapedChar ++ s := by
  obtain ⟨c, t, ht, hc, -⟩ := chars_start j
  rw [ht]
  exact skipSpace_cons hc _

/-! ## Words and numerals -/

theorem readValue_minus (s : List Char) :
    readValue depth (fuel + 1) ('-' :: s) =
      (scanNumeral true s).map fun (t, r) => (ofNumeral t, r) := by
  show (scanNumeral true s).bind _ = _
  cases scanNumeral true s <;> rfl

/-- A value that begins with a digit is a numeral. -/
theorem readValue_digit {c : Char} (hc : c.isDigit) (s : List Char) :
    readValue depth (fuel + 1) (c :: s) =
      (scanNumeral false (c :: s)).map fun (t, r) => (ofNumeral t, r) := by
  have hne : ∀ d : Char, d.isDigit = false → c ≠ d := by
    rintro d hd rfl
    rw [hd] at hc
    cases hc
  unfold readValue
  split
  case h_8 =>
    rename_i h
    cases scanNumeral false (c :: s) <;> rfl
  all_goals
    rename_i h
    exact absurd (List.cons.inj h).1 (hne _ (by decide))

theorem numeral_head {t : JsonNumber.Numeral} (ht : t.Plain) :
    ∃ c s, t.chars = c :: s ∧ c.isDigit := by
  have hne : t.whole ≠ [] := by
    rcases ht.whole with h | h
    · rw [h]
      exact List.cons_ne_nil _ _
    · exact h.1
  obtain ⟨c, s, hs⟩ := List.exists_cons_of_ne_nil hne
  have hc := ht.digits c (by rw [hs]; exact List.mem_cons_self)
  exact ⟨c, _, by rw [JsonNumber.Numeral.chars, hs]; rfl, hc⟩

theorem readValue_numeral {t : JsonNumber.Numeral} (ht : t.Plain) (hr : Ends r) :
    readValue depth (fuel + 1) ((if t.negative then ['-'] else []) ++ t.chars ++ r) =
      some (ofNumeral t, r) := by
  have hscan := scanNumeral_chars t ht hr
  cases hneg : t.negative with
  | true =>
    rw [hneg] at hscan
    show readValue depth (fuel + 1) ('-' :: (t.chars ++ r)) = _
    rw [readValue_minus, hscan]
    rfl
  | false =>
    rw [hneg] at hscan
    obtain ⟨c, s, hs, hc⟩ := numeral_head ht
    show readValue depth (fuel + 1) (t.chars ++ r) = _
    rw [hs, List.cons_append] at hscan ⊢
    rw [readValue_digit hc, hscan]
    rfl

/-- A number is read as a number close to it. -/
theorem readValue_number {n : JsonNumber} (hn : n.InRange) (hr : Ends r) :
    ∃ n', n.Close n' ∧ readValue depth (fuel + 1) (n.chars ++ r) = some (.number n', r) := by
  cases n with
  | whole n =>
    have hread : readValue depth (fuel + 1) _ = _ :=
      readValue_numeral (JsonNumber.numeralOfInt_plain n) hr
    refine ⟨.whole n, .whole n, ?_⟩
    rw [JsonNumber.whole_chars]
    rw [ofNumeral, JsonNumber.ofNumeral_whole hn.1 hn.2] at hread
    simpa [JsonNumber.numeralOfInt] using hread
  | decimal x =>
    obtain ⟨s, m, e, hx⟩ := DecimalLayout.isFinite_iff.1 hn
    obtain ⟨y, hy, hclose⟩ := JsonNumber.ofNumeral_close hx
    have hplain := JsonNumber.numeralOf_plain s (JsonNumber.shortest_plain hx)
    have hread : readValue depth (fuel + 1) _ = _ := readValue_numeral hplain hr
    have htext : (JsonNumber.decimal x).chars = DecimalLayout.finiteText .json s m e :=
      DecimalLayout.text_finite _ hx
    refine ⟨.decimal y, .decimal hclose, ?_⟩
    rw [htext, DecimalLayout.finiteText, JsonNumber.decimalText_eq s]
    rw [ofNumeral, hy, JsonNumber.numeralOf_negative] at hread
    exact hread

theorem readValue_null : readValue depth (fuel + 1) (nullChars ++ r) = some (.null, r) :=
  rfl

theorem readValue_bool (b : Bool) :
    readValue depth (fuel + 1) (boolChars b ++ r) = some (.bool b, r) := by
  cases b <;> rfl

theorem ofUnits_escaped (s : String) : ofUnits (s.toList.map escapedAs) = some s := by
  rw [ofUnits, joinUnits_escaped, Option.map_some, String.ofList_toList]

theorem readValue_string (s : String) :
    readValue depth (fuel + 1) (stringChars escapedChar s ++ r) = some (.string s, r) := by
  have hscan := scanString_escaped s.toList r
  have htext : stringChars escapedChar s ++ r =
      '"' :: (s.toList.flatMap escapedChar ++ '"' :: r) := by
    simp [stringChars]
  rw [htext]
  show (scanString _).bind _ = _
  rw [hscan]
  exact congrArg (fun t : Option String => some (t.elim unreadable string, r)) (ofUnits_escaped s)

/-! ## Brackets -/

variable {t : List Char} {x : Json} {xs : List Json} {ms : List (Option String × Json)}

/-- A bracket and what is in it. -/
theorem readValue_bracket (hspace : skipSpace s = s) (hs : s.head? ≠ some ']') :
    readValue depth (fuel + 1) ('[' :: s) =
      (readItems (depth + 1) fuel s).map fun (items, r) =>
        (atDepth (depth + 1) (.array items), r) := by
  rw [readValue, hspace]
  split
  · exact absurd rfl hs
  · cases readItems (depth + 1) fuel s <;> rfl

theorem readValue_brace (hspace : skipSpace s = s) (hs : s.head? ≠ some '\x7d') :
    readValue depth (fuel + 1) ('\x7b' :: s) =
      (readMembers (depth + 1) fuel s).map fun (members, r) =>
        (atDepth (depth + 1) (ofMembers members), r) := by
  rw [readValue, hspace]
  split
  · exact absurd rfl hs
  · cases readMembers (depth + 1) fuel s <;> rfl

theorem readItems_last (h : readValue depth fuel s = some (x, ']' :: r)) :
    readItems depth (fuel + 1) s = some ([x], r) := by
  simp [readItems, h, skipSpace, isSpace]

theorem readItems_more (h : readValue depth fuel s = some (x, ',' :: t))
    (hspace : skipSpace t = t) (ht : readItems depth fuel t = some (xs, r)) :
    readItems depth (fuel + 1) s = some (x :: xs, r) := by
  have hcomma : skipSpace (',' :: t) = ',' :: t := skipSpace_cons (by decide) t
  simp [readItems, h, hcomma, hspace, ht]

/-- A name, a colon and a value. -/
theorem readMembers_last {k : String} (hspace : skipSpace s = s)
    (h : readValue depth fuel s = some (x, '\x7d' :: r)) :
    readMembers depth (fuel + 1) (stringChars escapedChar k ++ ':' :: s) =
      some ([(some k, x)], r) := by
  have hscan := scanString_escaped k.toList (':' :: s)
  have hcolon : skipSpace (':' :: s) = ':' :: s := skipSpace_cons (by decide) s
  have hbrace : skipSpace ('\x7d' :: r) = '\x7d' :: r := skipSpace_cons (by decide) r
  simp [stringChars, readMembers, hscan, hcolon, hspace, h, hbrace, ofUnits_escaped]

theorem readMembers_more {k : String} (hspace : skipSpace s = s)
    (h : readValue depth fuel s = some (x, ',' :: t)) (hspace' : skipSpace t = t)
    (ht : readMembers depth fuel t = some (ms, r)) :
    readMembers depth (fuel + 1) (stringChars escapedChar k ++ ':' :: s) =
      some ((some k, x) :: ms, r) := by
  have hscan := scanString_escaped k.toList (':' :: s)
  have hcolon : skipSpace (':' :: s) = ':' :: s := skipSpace_cons (by decide) s
  have hcomma : skipSpace (',' :: t) = ',' :: t := skipSpace_cons (by decide) t
  simp [stringChars, readMembers, hscan, hcolon, hspace, h, hcomma, hspace', ht, ofUnits_escaped]

/-- The members of an object with their names. -/
def named (members : List (String × Json)) : List (Option String × Json) :=
  members.map fun m => (some m.1, m.2)

theorem ofMembers_named (members : List (String × Json)) :
    ofMembers (named members) = .object members := by
  have hmap : (named members).mapM (fun m => m.1.map (·, m.2)) = some members := by
    induction members with
    | nil => rfl
    | cons m members ih =>
      rw [named, List.map_cons, List.mapM_cons]
      simp only [named] at ih
      rw [ih]
      rfl
  rw [ofMembers, hmap]

theorem atDepth_of_lt (h : depth < depthLimit) (j : Json) : atDepth (depth + 1) j = j :=
  if_pos h

theorem itemsChars_start (x : Json) (xs : List Json) (r : List Char) :
    skipSpace (itemsChars escapedChar (x :: xs) ++ ']' :: r) =
        itemsChars escapedChar (x :: xs) ++ ']' :: r ∧
      (itemsChars escapedChar (x :: xs) ++ ']' :: r).head? ≠ some ']' := by
  obtain ⟨c, s, hs, hspace, hbracket, -⟩ := chars_start x
  rw [itemsChars_cons]
  refine ⟨skipSpace_chars x _, ?_⟩
  rw [hs]
  simpa using hbracket

theorem membersChars_start (m : String × Json) (ms : List (String × Json)) (r : List Char) :
    skipSpace (membersChars escapedChar (m :: ms) ++ '\x7d' :: r) =
        membersChars escapedChar (m :: ms) ++ '\x7d' :: r ∧
      (membersChars escapedChar (m :: ms) ++ '\x7d' :: r).head? ≠ some '\x7d' := by
  rw [membersChars_cons]
  exact ⟨skipSpace_cons (by decide) _, by simp [stringChars]⟩

mutual

/-- A value that fits is read as one close to it. -/
theorem readValue_chars : ∀ (j : Json) {depth fuel : Nat} {r : List Char}, Fits depth j →
    (j.chars escapedChar).length ≤ fuel → Ends r →
    ∃ j', Close j j' ∧ readValue depth fuel (j.chars escapedChar ++ r) = some (j', r)
  | j, depth, 0, r, _, hfuel, _ => by
    obtain ⟨c, s, hs, -⟩ := chars_start j
    simp [hs] at hfuel
  | .null, _, fuel + 1, _, _, _, _ => ⟨.null, .null, readValue_null⟩
  | .bool b, _, fuel + 1, _, _, _, _ => ⟨.bool b, .bool b, readValue_bool b⟩
  | .number n, _, fuel + 1, _, hfits, _, hr => by
    obtain ⟨n', hn, hread⟩ := readValue_number hfits hr
    exact ⟨.number n', .number hn, hread⟩
  | .string s, _, fuel + 1, _, _, _, _ => ⟨.string s, .string s, readValue_string s⟩
  | .unreadable, _, _ + 1, _, hfits, _, _ => hfits.elim
  | .array [], depth, fuel + 1, r, hfits, _, _ => by
    refine ⟨.array [], .array .nil, ?_⟩
    show some (atDepth (depth + 1) (.array []), r) = _
    rw [atDepth_of_lt hfits.1]
  | .array (x :: xs), depth, fuel + 1, r, hfits, hfuel, _ => by
    have hlength : (itemsChars escapedChar (x :: xs)).length + 1 ≤ fuel := by
      simpa [chars] using hfuel
    obtain ⟨ys, hclose, hread⟩ := readItems_chars (x :: xs) (r := r) (by simp) hfits.2 hlength
    obtain ⟨hspace, hbracket⟩ := itemsChars_start x xs r
    refine ⟨.array ys, .array hclose, ?_⟩
    rw [chars, List.cons_append, List.cons_append, List.append_assoc, List.singleton_append,
      readValue_bracket hspace hbracket, hread]
    exact congrArg (fun j => some (j, r)) (atDepth_of_lt hfits.1 _)
  | .object [], depth, fuel + 1, r, hfits, _, _ => by
    refine ⟨.object [], .object .nil, ?_⟩
    show some (atDepth (depth + 1) (.object []), r) = _
    rw [atDepth_of_lt hfits.1]
  | .object (m :: ms), depth, fuel + 1, r, hfits, hfuel, _ => by
    have hlength : (membersChars escapedChar (m :: ms)).length + 1 ≤ fuel := by
      simpa [chars] using hfuel
    obtain ⟨ns, hclose, hread⟩ := readMembers_chars (m :: ms) (r := r) (by simp) hfits.2 hlength
    obtain ⟨hspace, hbrace⟩ := membersChars_start m ms r
    refine ⟨.object ns, .object hclose, ?_⟩
    rw [chars, List.cons_append, List.cons_append, List.append_assoc, List.singleton_append,
      readValue_brace hspace hbrace, hread]
    refine congrArg (fun j => some (j, r)) ?_
    rw [ofMembers_named, atDepth_of_lt hfits.1]

theorem readItems_chars : ∀ (xs : List Json) {depth fuel : Nat} {r : List Char}, xs ≠ [] →
    ItemsFit depth xs → (itemsChars escapedChar xs).length + 1 ≤ fuel →
    ∃ ys, ItemsClose xs ys ∧ readItems depth fuel (itemsChars escapedChar xs ++ ']' :: r) =
      some (ys, r)
  | [], _, _, _, hne, _, _ => absurd rfl hne
  | _ :: _, _, 0, _, _, _, hfuel => by omega
  | [x], depth, fuel + 1, r, _, hfits, hfuel => by
    obtain ⟨y, hclose, hread⟩ := readValue_chars x hfits.1 (Nat.le_of_succ_le_succ hfuel)
      (ends_cons (by decide : isAtomChar ']' = false) r)
    exact ⟨[y], .cons hclose .nil, readItems_last hread⟩
  | x :: x' :: xs, depth, fuel + 1, r, _, hfits, hfuel => by
    rw [itemsChars] at hfuel
    have hfirst : (x.chars escapedChar).length ≤ fuel := by
      simp only [List.length_append, List.length_cons] at hfuel
      omega
    have hrest : (itemsChars escapedChar (x' :: xs)).length + 1 ≤ fuel := by
      simp only [List.length_append, List.length_cons] at hfuel
      omega
    obtain ⟨y, hclose, hread⟩ := readValue_chars x hfits.1 hfirst
      (ends_cons (by decide : isAtomChar ',' = false)
        (itemsChars escapedChar (x' :: xs) ++ ']' :: r))
    obtain ⟨ys, hcloses, hreads⟩ := readItems_chars (x' :: xs) (r := r) (by simp) hfits.2 hrest
    refine ⟨y :: ys, .cons hclose hcloses, ?_⟩
    rw [itemsChars_cons]
    exact readItems_more hread (itemsChars_start x' xs r).1 hreads

theorem readMembers_chars : ∀ (ms : List (String × Json)) {depth fuel : Nat} {r : List Char},
    ms ≠ [] → MembersFit depth ms → (membersChars escapedChar ms).length + 1 ≤ fuel →
    ∃ ns, MembersClose ms ns ∧ readMembers depth fuel (membersChars escapedChar ms ++ '\x7d' :: r) =
      some (named ns, r)
  | [], _, _, _, hne, _, _ => absurd rfl hne
  | _ :: _, _, 0, _, _, _, hfuel => by omega
  | [(k, x)], depth, fuel + 1, r, _, hfits, hfuel => by
    have hlength : (x.chars escapedChar).length ≤ fuel := by
      simp [membersChars] at hfuel
      omega
    obtain ⟨y, hclose, hread⟩ := readValue_chars x hfits.1 hlength
      (ends_cons (by decide : isAtomChar '\x7d' = false) r)
    refine ⟨[(k, y)], .cons hclose .nil, ?_⟩
    rw [membersChars_cons]
    exact readMembers_last (skipSpace_chars x _) hread
  | (k, x) :: m :: ms, depth, fuel + 1, r, _, hfits, hfuel => by
    rw [membersChars] at hfuel
    have hfirst : (x.chars escapedChar).length ≤ fuel := by
      simp only [List.length_append, List.length_cons] at hfuel
      omega
    have hrest : (membersChars escapedChar (m :: ms)).length + 1 ≤ fuel := by
      simp only [List.length_append, List.length_cons] at hfuel
      omega
    obtain ⟨y, hclose, hread⟩ := readValue_chars x hfits.1 hfirst
      (ends_cons (by decide : isAtomChar ',' = false)
        (membersChars escapedChar (m :: ms) ++ '\x7d' :: r))
    obtain ⟨ns, hcloses, hreads⟩ := readMembers_chars (m :: ms) (r := r) (by simp) hfits.2 hrest
    refine ⟨(k, y) :: ns, .cons hclose hcloses, ?_⟩
    rw [membersChars_cons]
    exact readMembers_more (skipSpace_chars x _) hread (membersChars_start m ms r).1 hreads

end

/-! ## Whole texts -/

mutual

theorem Close.readable : ∀ {j j' : Json}, Close j j' → j'.readable
  | _, _, .null => rfl
  | _, _, .bool _ => rfl
  | _, _, .number _ => rfl
  | _, _, .string _ => rfl
  | _, _, .array h => h.readable
  | _, _, .object h => h.readable

theorem ItemsClose.readable : ∀ {xs ys : List Json}, ItemsClose xs ys → itemsReadable ys
  | _, _, .nil => rfl
  | _, _, .cons h hs => by rw [itemsReadable, h.readable, hs.readable]; rfl

theorem MembersClose.readable : ∀ {ms ns : List (String × Json)}, MembersClose ms ns →
    membersReadable ns
  | _, _, .nil => rfl
  | _, _, .cons h hs => by rw [membersReadable, h.readable, hs.readable]; rfl

end

/-- **A text is read as the value that it was made from**, but that doubles may be close ones. -/
theorem readAll?_text {j : Json} (h : Fits 0 j) : ∃ j', readAll? j.text = some j' ∧ Close j j' := by
  have hends : Ends [] := by
    intro c hc
    cases hc
  obtain ⟨j', hclose, hread⟩ := readValue_chars j h (Nat.le_succ _) hends
  refine ⟨j', ?_, hclose⟩
  have hskip := skipSpace_chars j []
  rw [List.append_nil] at hread hskip
  have hempty : skipSpace [] = [] := rfl
  have hvalue : read? j.text = some j' := by
    rw [read?, readChars?, text, String.toList_ofList, hskip, hread]
    simp [hempty]
  rw [readAll?, hvalue, Option.filter_some, if_pos hclose.readable]

theorem readAll?_string (s : String) : readAll? (Json.string s).text = some (.string s) := by
  have hfits : Fits 0 (.string s) := trivial
  obtain ⟨j, hread, hclose⟩ := readAll?_text hfits
  cases hclose
  exact hread

end Json

end Rowgate
