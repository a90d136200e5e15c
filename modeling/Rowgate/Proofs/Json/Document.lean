/-
  What the reader finds in a text, and what becomes of a document that is sorted, written and
  read.

  * `JsonNumber.ofNumeral_inRange`: a numeral denotes a number in its range, if one at all;
  * `readAll?_fits`: what is read from a text fits, so that its own text can be read;
  * `Fits.sorted`, `Close.sorted`, `sorted_sorted`: sorting keeps what fits and what is close,
    and a sorted value stays as it is;
  * `document?_text`: the text of a sorted value is read as the text of one close to it.
-/
import Rowgate.Column.Decode
import Rowgate.Proofs.Json.Reading
import Rowgate.Proofs.NameSet

namespace Rowgate

/-! ## Numbers in their ranges -/

namespace JsonNumber

variable {x y : Double} {e : Int} {n : Nat} {s : Significand} {c : Char} {negative : Bool}

theorem Significand.addWhole_lt (h : s.digits < 2 ^ 64) : (s.addWhole c).digits < 2 ^ 64 := by
  unfold addWhole
  dsimp only
  split_ifs with hfull
  · exact h
  · rw [Bool.or_eq_true, decide_eq_true_eq, not_or] at hfull
    exact Nat.lt_of_not_le hfull.2

theorem Significand.addFraction_lt (h : s.digits < 2 ^ 64) :
    (s.addFraction c).digits < 2 ^ 64 := by
  unfold addFraction
  dsimp only
  split_ifs with hfull
  · exact h
  · rw [Bool.or_eq_true, decide_eq_true_eq, not_or] at hfull
    exact Nat.lt_of_not_le hfull.2

/-- A finite number that is not negative. -/
def Unsigned (x : Double) : Prop :=
  ∃ m e, x.datum = .finite false m e

theorem unsigned_ofInt (h : n < 2 ^ 64) : Unsigned (.ofInt n) := by
  rcases Nat.eq_zero_or_pos n with rfl | hpos
  · exact ⟨0, -1074, by decide⟩
  · obtain ⟨m, e, hdatum, -⟩ := exists_digits hpos h
    exact ⟨m, e, hdatum⟩

theorem Unsigned.mul_tenTo (h : Unsigned x) (hn : n ≤ 308) (hfinite : (x.mul (tenTo n)).isFinite) :
    Unsigned (x.mul (tenTo n)) := by
  obtain ⟨m, e, hx⟩ := h
  obtain ⟨t, d, hten, -⟩ := exists_tenTo hn
  obtain ⟨s, m', e', hdatum⟩ := DecimalLayout.isFinite_iff.1 hfinite
  cases Double.mul_found hx hten with
  | finite hproduct _ => exact ⟨_, _, hproduct⟩
  | infinite hproduct _ =>
    rw [hdatum] at hproduct
    cases hproduct

theorem Unsigned.div_tenTo (h : Unsigned x) (hn : 1 ≤ n) (hn' : n ≤ 308) :
    Unsigned (x.div (tenTo n)) := by
  obtain ⟨m, e, hx⟩ := h
  have hsame : Within 1 1 0 (m * 2 ^ e) ((m : ℚ) * 2 ^ e) := ⟨by simp, by simp⟩
  obtain ⟨m', e', hdatum, -⟩ := div_tenTo_within hx hsame (by positivity) (by norm_num)
    (by norm_num) le_rfl hn hn'
  exact ⟨m', e', hdatum⟩

theorem scaled?_unsigned : ∀ {fuel : Nat} {x : Double} {e : Int}, Unsigned x →
    scaled? x e fuel = some y → Unsigned y
  | 0, x, e, hx, h => by
    cases h
    exact hx
  | fuel + 1, x, e, hx, h => by
    unfold scaled? at h
    dsimp only at h
    split_ifs at h with hpos hfinite hneg hzero hup
    · cases h
      exact hx.mul_tenTo (by omega) hfinite
    · cases h
      exact hx.div_tenTo (by omega) (by omega)
    · cases h
      exact hx
    · exact scaled?_unsigned (hx.div_tenTo (by decide) le_rfl) h

theorem isFinite_signed (negative : Bool) (h : Unsigned x) : (if negative then x.neg else x).isFinite := by
  obtain ⟨m, e, hx⟩ := h
  cases negative with
  | false => exact DecimalLayout.isFinite_iff.2 ⟨_, _, _, hx⟩
  | true => exact DecimalLayout.isFinite_iff.2 ⟨_, _, _, Double.datum_neg hx⟩

theorem ofSignificand_inRange {k : JsonNumber} (hn : n < 2 ^ 64)
    (h : ofSignificand negative n e = some k) : k.InRange := by
  obtain ⟨x, hx, rfl⟩ := Option.map_eq_some_iff.1 h
  exact isFinite_signed negative (scaled?_unsigned (unsigned_ofInt hn) hx)

/-- A numeral denotes a number in its range, if one at all. -/
theorem ofNumeral_inRange {t : Numeral} {k : JsonNumber} (h : ofNumeral t = some k) :
    k.InRange := by
  have hwhole : (t.whole.foldl Significand.addWhole ⟨0, 0, false⟩).digits < 2 ^ 64 :=
    List.foldlRecOn (motive := fun s : Significand => s.digits < 2 ^ 64) t.whole _ (by decide)
      fun s hs c _ => Significand.addWhole_lt hs
  have hfraction (s : Significand) (hs : s.digits < 2 ^ 64) (digits : List Char) :
      (digits.foldl Significand.addFraction s).digits < 2 ^ 64 :=
    List.foldlRecOn (motive := fun s : Significand => s.digits < 2 ^ 64) digits _ hs
      fun s hs c _ => Significand.addFraction_lt hs
  unfold ofNumeral at h
  dsimp only at h
  generalize t.whole.foldl Significand.addWhole ⟨0, 0, false⟩ = s at h hwhole
  have hall := hfraction ⟨s.digits, s.exponent, false⟩ hwhole (t.fraction.getD [])
  split at h
  · split_ifs at h with hfull hneg hsmall
    · exact ofSignificand_inRange hwhole h
    · cases h
      exact ⟨by omega, by exact_mod_cast hwhole⟩
    · cases h
      exact ⟨by omega, by omega⟩
    · cases h
      exact isFinite_signed true (unsigned_ofInt hwhole)
  · split at h
    · exact ofSignificand_inRange hall h
    · split at h
      · exact ofSignificand_inRange hall h
      · split at h
        · cases h
        · cases h
          exact isFinite_signed t.negative ⟨0, -1074, by decide⟩

end JsonNumber

namespace Json

/-! ## What is read -/

theorem itemsReadable_iff {xs : List Json} : itemsReadable xs ↔ ∀ x ∈ xs, x.readable := by
  induction xs with
  | nil => simp [itemsReadable]
  | cons x xs ih => simp [itemsReadable, ih]

theorem membersReadable_iff {ms : List (String × Json)} :
    membersReadable ms ↔ ∀ m ∈ ms, m.2.readable := by
  induction ms with
  | nil => simp [membersReadable]
  | cons m ms ih => simp [membersReadable, ih]

theorem itemsFit_iff {depth : Nat} {xs : List Json} :
    ItemsFit depth xs ↔ ∀ x ∈ xs, Fits depth x := by
  induction xs with
  | nil => simp [ItemsFit]
  | cons x xs ih => simp [ItemsFit, ih]

theorem membersFit_iff {depth : Nat} {ms : List (String × Json)} :
    MembersFit depth ms ↔ ∀ m ∈ ms, Fits depth m.2 := by
  induction ms with
  | nil => simp [MembersFit]
  | cons m ms ih => simp [MembersFit, ih]

variable {depth fuel : Nat} {s r : List Char} {j : Json}

theorem atDepth_readable (h : (atDepth (depth + 1) j).readable) :
    depth < depthLimit ∧ atDepth (depth + 1) j = j := by
  by_cases hdepth : depth + 1 ≤ depthLimit
  · exact ⟨hdepth, if_pos hdepth⟩
  · rw [atDepth, if_neg hdepth] at h
    cases h

theorem ofMembers_readable {ms : List (Option String × Json)} (h : (ofMembers ms).readable) :
    ∃ ns, ofMembers ms = .object ns ∧ ms = named ns := by
  unfold ofMembers at h ⊢
  split at h
  case h_2 => cases h
  case h_1 ns hns =>
    refine ⟨ns, rfl, ?_⟩
    clear h
    induction ms generalizing ns with
    | nil =>
      cases hns
      rfl
    | cons m ms ih =>
      rw [List.mapM_cons] at hns
      obtain ⟨n, hn, hns⟩ := Option.bind_eq_some_iff.1 hns
      obtain ⟨ns', hns', hcons⟩ := Option.bind_eq_some_iff.1 hns
      cases hcons
      obtain ⟨k, hk, rfl⟩ := Option.map_eq_some_iff.1 hn
      rw [ih ns' hns']
      exact congrArg (· :: named ns') (Prod.ext hk rfl)

/-- Values, items and members that are read with so much fuel fit, if they are readable. -/
structure ReadFits (fuel : Nat) : Prop where
  value {depth : Nat} {s r : List Char} {j : Json} (h : readValue depth fuel s = some (j, r))
    (hreadable : j.readable) : Fits depth j
  items {depth : Nat} {s r : List Char} {xs : List Json}
    (h : readItems depth fuel s = some (xs, r)) : ∀ x ∈ xs, x.readable → Fits depth x
  members {depth : Nat} {s r : List Char} {ms : List (Option String × Json)}
    (h : readMembers depth fuel s = some (ms, r)) : ∀ m ∈ ms, m.2.readable → Fits depth m.2

theorem fits_ofNumeral {t : JsonNumber.Numeral} (h : (ofNumeral t).readable) :
    Fits depth (ofNumeral t) := by
  unfold ofNumeral at h ⊢
  split at h
  case h_1 n hn => exact JsonNumber.ofNumeral_inRange hn
  case h_2 => cases h

theorem fits_array (ih : ReadFits fuel) {xs : List Json}
    (h : readItems (depth + 1) fuel s = some (xs, r))
    (hreadable : (atDepth (depth + 1) (.array xs)).readable) :
    Fits depth (atDepth (depth + 1) (.array xs)) := by
  obtain ⟨hdepth, heq⟩ := atDepth_readable hreadable
  rw [heq] at hreadable ⊢
  exact ⟨hdepth, itemsFit_iff.2 fun x hx =>
    ih.items h x hx (itemsReadable_iff.1 hreadable x hx)⟩

theorem fits_object (ih : ReadFits fuel) {ms : List (Option String × Json)}
    (h : readMembers (depth + 1) fuel s = some (ms, r))
    (hreadable : (atDepth (depth + 1) (ofMembers ms)).readable) :
    Fits depth (atDepth (depth + 1) (ofMembers ms)) := by
  obtain ⟨hdepth, heq⟩ := atDepth_readable hreadable
  rw [heq] at hreadable ⊢
  obtain ⟨ns, hns, rfl⟩ := ofMembers_readable hreadable
  rw [hns] at hreadable ⊢
  refine ⟨hdepth, membersFit_iff.2 fun n hn => ?_⟩
  exact ih.members h (some n.1, n.2) (List.mem_map_of_mem hn)
    (membersReadable_iff.1 hreadable n hn)

theorem readValue_fits (ih : ReadFits fuel) (h : readValue depth (fuel + 1) s = some (j, r))
    (hreadable : j.readable) : Fits depth j := by
  unfold readValue at h
  split at h
  case h_1 | h_2 | h_3 =>
    cases h
    trivial
  case h_4 =>
    obtain ⟨⟨units, r'⟩, -, h⟩ := Option.bind_eq_some_iff.1 h
    cases h
    cases hunits : ofUnits units with
    | none =>
      rw [hunits] at hreadable
      cases hreadable
    | some t => trivial
  case h_5 =>
    split at h
    · cases h
      obtain ⟨hdepth, heq⟩ := atDepth_readable hreadable
      rw [heq]
      exact ⟨hdepth, trivial⟩
    · obtain ⟨⟨xs, r'⟩, hitems, h⟩ := Option.bind_eq_some_iff.1 h
      cases h
      exact fits_array ih hitems hreadable
  case h_6 =>
    split at h
    · cases h
      obtain ⟨hdepth, heq⟩ := atDepth_readable hreadable
      rw [heq]
      exact ⟨hdepth, trivial⟩
    · obtain ⟨⟨ms, r'⟩, hmembers, h⟩ := Option.bind_eq_some_iff.1 h
      cases h
      exact fits_object ih hmembers hreadable
  case h_7 | h_8 =>
    obtain ⟨⟨t, r'⟩, -, h⟩ := Option.bind_eq_some_iff.1 h
    cases h
    exact fits_ofNumeral hreadable

theorem readItems_fits (ih : ReadFits fuel) {xs : List Json}
    (h : readItems depth (fuel + 1) s = some (xs, r)) : ∀ x ∈ xs, x.readable → Fits depth x := by
  unfold readItems at h
  obtain ⟨⟨x, r'⟩, hx, h⟩ := Option.bind_eq_some_iff.1 h
  dsimp only at h
  split at h
  · cases h
    exact List.forall_mem_singleton.2 (ih.value hx)
  · obtain ⟨⟨xs', r''⟩, hxs, h⟩ := Option.bind_eq_some_iff.1 h
    cases h
    exact List.forall_mem_cons.2 ⟨ih.value hx, ih.items hxs⟩
  · cases h

theorem readMembers_fits (ih : ReadFits fuel) {ms : List (Option String × Json)}
    (h : readMembers depth (fuel + 1) s = some (ms, r)) :
    ∀ m ∈ ms, m.2.readable → Fits depth m.2 := by
  unfold readMembers at h
  split at h
  case h_2 => cases h
  case h_1 =>
    obtain ⟨⟨units, r'⟩, -, h⟩ := Option.bind_eq_some_iff.1 h
    dsimp only at h
    split at h
    case h_2 => cases h
    case h_1 =>
      obtain ⟨⟨x, r''⟩, hx, h⟩ := Option.bind_eq_some_iff.1 h
      dsimp only at h
      split at h
      · cases h
        exact List.forall_mem_singleton.2 (ih.value hx)
      · obtain ⟨⟨ms', r'''⟩, hms, h⟩ := Option.bind_eq_some_iff.1 h
        cases h
        exact List.forall_mem_cons.2 ⟨ih.value hx, ih.members hms⟩
      · cases h

theorem readFits : ∀ fuel, ReadFits fuel
  | 0 => ⟨fun h => by simp [readValue] at h, fun h => by simp [readItems] at h,
      fun h => by simp [readMembers] at h⟩
  | fuel + 1 =>
    have ih := readFits fuel
    ⟨readValue_fits ih, readItems_fits ih, readMembers_fits ih⟩

/-- **What is read from a whole text fits.** -/
theorem readAll?_fits {t : String} (h : readAll? t = some j) : Fits 0 j := by
  obtain ⟨hread, hreadable⟩ := Option.filter_eq_some_iff.1 h
  obtain ⟨⟨j', r⟩, hvalue, hend⟩ := Option.bind_eq_some_iff.1 hread
  dsimp only at hend
  split_ifs at hend
  cases hend
  exact (readFits _).value hvalue hreadable

/-! ## Sorting -/

theorem membersSorted_eq : ∀ ms : List (String × Json),
    membersSorted ms = ms.map fun m => (m.1, m.2.sorted)
  | [] => rfl
  | m :: ms => congrArg ((m.1, m.2.sorted) :: ·) (membersSorted_eq ms)

mutual

theorem Fits.sorted : ∀ {j : Json} {depth : Nat}, Fits depth j → Fits depth j.sorted
  | .null, _, h => h
  | .bool _, _, h => h
  | .number _, _, h => h
  | .string _, _, h => h
  | .unreadable, _, h => h
  | .array _, _, h => ⟨h.1, ItemsFit.sorted h.2⟩
  | .object _, _, h =>
    ⟨h.1, membersFit_iff.2 fun m hm => membersFit_iff.1 (MembersFit.sorted h.2) m (Keyed.mem_ofList hm)⟩

theorem ItemsFit.sorted : ∀ {xs : List Json} {depth : Nat}, ItemsFit depth xs →
    ItemsFit depth (itemsSorted xs)
  | [], _, h => h
  | _ :: _, _, h => ⟨h.1.sorted, ItemsFit.sorted h.2⟩

theorem MembersFit.sorted : ∀ {ms : List (String × Json)} {depth : Nat}, MembersFit depth ms →
    MembersFit depth (membersSorted ms)
  | [], _, h => h
  | _ :: _, _, h => ⟨h.1.sorted, MembersFit.sorted h.2⟩

end

variable {x y : Json} {ms ns : List (String × Json)}

theorem MembersClose.place (k : String) (hx : Close x y) (h : MembersClose ms ns) :
    MembersClose (Keyed.place k x ms) (Keyed.place k y ns) := by
  induction ms generalizing ns with
  | nil =>
    cases h
    exact .cons hx .nil
  | cons m ms ih =>
    obtain - | ⟨hm, hms⟩ := h
    unfold Keyed.place
    split_ifs with hlt heq
    · exact .cons hx (.cons hm hms)
    · exact .cons hx hms
    · exact .cons hm (ih hms)

theorem MembersClose.foldl_insert {m n : Keyed Json} (h : MembersClose ms ns)
    (hmn : MembersClose m.entries n.entries) :
    MembersClose (ms.foldl (fun m e => m.insert e.1 e.2) m).entries
      (ns.foldl (fun m e => m.insert e.1 e.2) n).entries := by
  induction ms generalizing ns m n with
  | nil =>
    cases h
    exact hmn
  | cons m ms ih =>
    obtain - | ⟨hx, hms⟩ := h
    rw [List.foldl_cons, List.foldl_cons]
    exact ih hms (hmn.place _ hx)

theorem MembersClose.ofList (h : MembersClose ms ns) :
    MembersClose (Keyed.ofList ms).entries (Keyed.ofList ns).entries :=
  h.foldl_insert .nil

mutual

theorem Close.sorted : ∀ {j j' : Json}, Close j j' → Close j.sorted j'.sorted
  | _, _, .null => .null
  | _, _, .bool b => .bool b
  | _, _, .number h => .number h
  | _, _, .string s => .string s
  | _, _, .array h => .array h.sorted
  | _, _, .object h => .object h.sorted.ofList

theorem ItemsClose.sorted : ∀ {xs ys : List Json}, ItemsClose xs ys →
    ItemsClose (itemsSorted xs) (itemsSorted ys)
  | _, _, .nil => .nil
  | _, _, .cons h hs => .cons h.sorted hs.sorted

theorem MembersClose.sorted : ∀ {ms ns : List (String × Json)}, MembersClose ms ns →
    MembersClose (membersSorted ms) (membersSorted ns)
  | _, _, .nil => .nil
  | _, _, .cons h hs => .cons h.sorted hs.sorted

end

mutual

/-- A sorted value stays as it is. -/
theorem sorted_sorted : ∀ j : Json, j.sorted.sorted = j.sorted
  | .null => rfl
  | .bool _ => rfl
  | .number _ => rfl
  | .string _ => rfl
  | .unreadable => rfl
  | .array xs => congrArg Json.array (itemsSorted_sorted xs)
  | .object ms => by
    have hentries : membersSorted (Keyed.ofList (membersSorted ms)).entries =
        (Keyed.ofList (membersSorted ms)).entries := by
      rw [membersSorted_eq]
      refine (List.map_congr_left fun m hm => ?_).trans (List.map_id _)
      exact Prod.ext rfl (sorted_of_mem (Keyed.mem_ofList hm))
    show Json.object (Keyed.ofList (membersSorted _)).entries = _
    rw [hentries, Keyed.ofList_entries]
    rfl

theorem itemsSorted_sorted : ∀ xs : List Json, itemsSorted (itemsSorted xs) = itemsSorted xs
  | [] => rfl
  | x :: xs => congrArg₂ List.cons (sorted_sorted x) (itemsSorted_sorted xs)

/-- A member of a sorted object is sorted. -/
theorem sorted_of_mem : ∀ {ms : List (String × Json)} {m : String × Json},
    m ∈ membersSorted ms → m.2.sorted = m.2
  | n :: ms, m, h => by
    rcases List.mem_cons.1 h with rfl | h
    · exact sorted_sorted n.2
    · exact sorted_of_mem h

end

/-! ## Documents -/

/-- The text of a sorted value is read as the text of one close to it. -/
theorem document?_text {j : Json} (h : Fits 0 j) :
    ∃ j', Bytes.document? (Text.utf8 j.sorted.text) = some j'.text ∧ Close j.sorted j' := by
  obtain ⟨j', hread, hclose⟩ := readAll?_text h.sorted
  refine ⟨j'.sorted, ?_, ?_⟩
  · simp [Bytes.document?, Text.ofUtf8?_utf8, hread]
  · rw [← sorted_sorted]
    exact hclose.sorted

/-- The text of a JSON string is read as it is. -/
theorem document?_string (s : String) :
    Bytes.document? (Text.utf8 (Json.string s).text) = some (Json.string s).text := by
  have hfits : Fits 0 (.string s) := trivial
  obtain ⟨j', hread, hclose⟩ := document?_text hfits
  cases (hclose : Close (.string s) j')
  exact hread

end Json

end Rowgate
