/-
  What a value that is bound to a column is read as.

  * `Value.Paired`: the pairings of a type and a kind of values that binding is made for;
  * `Value.Fits`: the values of a paired kind that the type has: integers in its range, texts
    that it can read, lists that can be counted;
  * `Value.Denotes`: a value that stands for another one in a column;
  * `binding_of_paired`: what fits is bound and read as a value that denotes it, and what does
    not is refused; only the leap second at the end of the calendar is bound and not read;
  * `bound_otherwise`: values that come back as other ones, and what is not paired.
-/
import Rowgate.Proofs.Column.Matching
import Rowgate.Proofs.Json.Document

namespace Rowgate.Value

/-! ## Pairings -/

/-- The bytes of an integer type. -/
def width? : BaseType → Option Nat
  | .int2 => some 2
  | .int4 => some 4
  | .int8 => some 8
  | _ => none

/-- The format of a type of numbers with a point. -/
def format? : BaseType → Option BinaryFormat
  | .float4 => some .binary32
  | .float8 => some .binary64
  | _ => none

/-- The two types of documents. -/
def IsDocument (t : BaseType) : Prop :=
  t = .json ∨ t = .jsonb

/-- A type and a kind of values that binding is made for. -/
inductive Paired : ColumnType → Value → Prop
  | bool (b : Bool) : Paired (.base .bool) (bool b)
  | integer {t : BaseType} {w : Nat} (ht : width? t = some w) (n : Int64) :
      Paired (.base t) (integer n)
  | rounded {t : BaseType} {f : BinaryFormat} (ht : format? t = some f) (n : Int64) :
      Paired (.base t) (integer n)
  | integerText {t : BaseType} (ht : t.isText) (n : Int64) : Paired (.base t) (integer n)
  | float {t : BaseType} {f : BinaryFormat} (ht : format? t = some f) (x : Double) :
      Paired (.base t) (float x)
  | floatText {t : BaseType} (ht : t.isText) (x : Double) : Paired (.base t) (float x)
  | instant {t : BaseType} (ht : IsInstant t) (i : Instant) : Paired (.base t) (timestamp i)
  | text {t : BaseType} (ht : t.isText) (s : String) : Paired (.base t) (string s)
  | uuidOf (s : String) : Paired (.base .uuid) (string s)
  | document {t : BaseType} (ht : IsDocument t) (s : String) : Paired (.base t) (string s)
  | integerOf {t : BaseType} {w : Nat} (ht : width? t = some w) (s : String) :
      Paired (.base t) (string s)
  | boolOf (s : String) : Paired (.base .bool) (string s)
  | instantOf {t : BaseType} (ht : IsInstant t) (s : String) : Paired (.base t) (string s)
  | texts {t : BaseType} (ht : IsTexts t) (items : List String) :
      Paired (.array t) (stringArray items)
  | uuids (items : List String) : Paired (.array .uuid) (stringArray items)
  | words {t : BaseType} (ht : t = .int4 ∨ t = .int8) (items : List Double) :
      Paired (.array t) (numericArray items)
  | doubles (items : List Double) : Paired (.array .float8) (numericArray items)

/-! ## Values of a type -/

/-- The whole number of an integer or a text. -/
def whole? : Value → Option Int
  | integer n => some n.toInt
  | string s => Text.whole? s.toList
  | _ => none

/-- The truth value of a value or a text. -/
def truth? : Value → Option Bool
  | bool b => some b
  | string s => boolWord? s
  | _ => none

/-- The instant of a timestamp, or of a text as the type demands. -/
def instant? (t : BaseType) : Value → Option Instant
  | timestamp i => some i
  | string s => if t = .timestamptz then Instant.strict? s else Instant.local? s
  | _ => none

/-- The texts of a value. -/
def texts : Value → List String
  | string s => [s]
  | stringArray items => items
  | _ => []

/-- Whether a type of columns has a value of a kind that is paired with it. -/
def Fits (c : ColumnType) (v : Value) : Prop :=
  match c with
  | .base .bool => v.truth?.isSome
  | .base .int2 => ∃ n ∈ v.whole?, -(2 ^ 15) ≤ n ∧ n < 2 ^ 15
  | .base .int4 => ∃ n ∈ v.whole?, -(2 ^ 31) ≤ n ∧ n < 2 ^ 31
  | .base .int8 => ∃ n ∈ v.whole?, -(2 ^ 63) ≤ n ∧ n < 2 ^ 63
  | .base .timestamptz => (v.instant? .timestamptz).isSome
  | .base .timestamp => (v.instant? .timestamp).isSome
  | .base .uuid => ∀ s ∈ v.texts, (Uuid.read? s).isSome
  | .array .uuid => (∀ s ∈ v.texts, (Uuid.read? s).isSome) ∧ v.Sendable c
  | _ => v.Sendable c

/-- The leap second at the end of the calendar, in a column of instants. -/
def Late (c : ColumnType) (v : Value) : Prop :=
  ∃ t, c = .base t ∧ IsInstant t ∧ ∃ i ∈ v.instant? t, i.AtEnd

/-! ## What is read -/

/-- A value that is read from a column, for one that was bound to it. -/
inductive Denotes : ColumnType → Value → Value → Prop
  | bool {v : Value} {b : Bool} (hv : v.truth? = some b) : Denotes (.base .bool) v (bool b)
  | integer {t : BaseType} {w : Nat} (ht : width? t = some w) {v : Value} {n : Int64}
      (hv : v.whole? = some n.toInt) : Denotes (.base t) v (integer n)
  /-- A nearest number of the format: the integer itself where the format has it. -/
  | rounded {t : BaseType} {f : BinaryFormat} (ht : format? t = some f) {n : Int64} {x : Double}
      (hx : x.Rounds f n.toInt) : Denotes (.base t) (integer n) (float x)
  | integerText {t : BaseType} (ht : t.isText) (n : Int64) :
      Denotes (.base t) (integer n) (string (toString n.toInt))
  | float (x : Double) : Denotes (.base .float8) (float x) (float x)
  | single {x y : Double} (h : x.SingleOf y) : Denotes (.base .float4) (float x) (float y)
  | floatText {t : BaseType} (ht : t.isText) {x : Double} {s : String}
      (h : DecimalLayout.SpelledBy x s) : Denotes (.base t) (float x) (string s)
  | instant {t : BaseType} (ht : IsInstant t) {v : Value} {i i' : Instant}
      (hv : v.instant? t = some i) (hi : i.SameMicro i') : Denotes (.base t) v (timestamp i')
  | text {t : BaseType} (ht : t.isText) (s : String) : Denotes (.base t) (string s) (string s)
  | uuid {s s' : String} (h : Uuid.CanonicalOf s s') : Denotes (.base .uuid) (string s) (string s')
  /-- The members of objects are in order, the last of each name. -/
  | document {t : BaseType} (ht : IsDocument t) {s : String} {j j' : Json}
      (hs : Json.readAll? s = some j) (hj : Json.Close j.sorted j') :
      Denotes (.base t) (string s) (string j'.text)
  | noDocument {t : BaseType} (ht : IsDocument t) {s : String} (hs : Json.readAll? s = none) :
      Denotes (.base t) (string s) (string (Json.string s).text)
  | texts {t : BaseType} (ht : IsTexts t) (items : List String) :
      Denotes (.array t) (stringArray items) (stringArray items)
  | uuids {items items' : List String} (h : List.Forall₂ Uuid.CanonicalOf items items') :
      Denotes (.array .uuid) (stringArray items) (stringArray items')
  /-- Whole parts, held within the range of the type. -/
  | words {t : BaseType} {w : Nat} (ht : width? t = some w) {items items' : List Double}
      (h : List.Forall₂ (fun x y => ∃ n : Int, x.Word (8 * w) n ∧ y.Rounds .binary64 n) items
        items') : Denotes (.array t) (numericArray items) (numericArray items')
  | doubles (items : List Double) :
      Denotes (.array .float8) (numericArray items) (numericArray items)

variable {c : ColumnType} {v : Value} {t : BaseType}

/-- What comes of binding a value to a column. -/
structure Binding (c : ColumnType) (v : Value) : Prop where
  fits : v.Fits c → ¬ v.Late c → Bound c v (Denotes c v)
  misfit : ¬ v.Fits c → encode c v = .error .unfit
  late : v.Fits c → v.Late c →
    ∃ bytes, encode c v = .ok (some bytes) ∧ decode c (some bytes) = .error .malformed

theorem not_late_base (h : t ≠ .timestamptz) (h' : t ≠ .timestamp) : ¬ v.Late (.base t) := by
  rintro ⟨t', ht, hinstant, -⟩
  cases ht
  exact hinstant.elim h h'

theorem not_late_array : ¬ v.Late (.array t) := by
  rintro ⟨t', ht, -⟩
  cases ht

theorem Binding.of_bound (hfits : v.Fits c) (hlate : ¬ v.Late c) (h : Bound c v (Denotes c v)) :
    Binding c v :=
  ⟨fun _ _ => h, fun hmisfit => absurd hfits hmisfit, fun _ h => absurd h hlate⟩

theorem Binding.of_error (hmisfit : ¬ v.Fits c) (h : encode c v = .error .unfit) : Binding c v :=
  ⟨fun hfits => absurd hfits hmisfit, fun _ => h, fun hfits => absurd hfits hmisfit⟩

/-! ## Truth values and integers -/

theorem binding_truth (b : Bool) : Binding (.base .bool) (bool b) :=
  .of_bound rfl (not_late_base (by simp) (by simp))
    ⟨_, _, rfl, decode_bool b, .bool rfl⟩

theorem binding_boolOf (s : String) : Binding (.base .bool) (string s) := by
  cases hs : boolWord? s with
  | none =>
    have hencode : encodeString? s (.base .bool) = none := by rw [encodeString?, hs, Option.map_none]
    refine .of_error ?_ (congrArg fitting hencode)
    show ¬ (boolWord? s).isSome
    simp [hs]
  | some b =>
    have hencode : encodeString? s (.base .bool) = some [if b then 1 else 0] := by
      rw [encodeString?, hs, Option.map_some]
    refine .of_bound ?_ (not_late_base (by simp) (by simp))
      ⟨_, _, congrArg fitting hencode, decode_bool b, .bool hs⟩
    show (boolWord? s).isSome
    simp [hs]

variable {w : Nat} {n : Int}

theorem width?_cases (ht : width? t = some w) :
    t = .int2 ∧ w = 2 ∨ t = .int4 ∧ w = 4 ∨ t = .int8 ∧ w = 8 := by
  cases t <;> cases ht <;> decide

/-- An integer in the range of a type of so many bytes. -/
def InWord (w : Nat) (n : Int) : Prop :=
  -(2 ^ (8 * w - 1)) ≤ n ∧ n < 2 ^ (8 * w - 1)

theorem fits_word (ht : width? t = some w) :
    v.Fits (.base t) ↔ ∃ n ∈ v.whole?, InWord w n := by
  rcases width?_cases ht with ⟨rfl, rfl⟩ | ⟨rfl, rfl⟩ | ⟨rfl, rfl⟩ <;> rfl

theorem decode_word (ht : width? t = some w) (hn : InWord w n) :
    decode (.base t) (some (Bytes.ofInt w n)) = .ok (integer (.ofInt n)) := by
  obtain ⟨lo, hi⟩ := hn
  rcases width?_cases ht with ⟨rfl, rfl⟩ | ⟨rfl, rfl⟩ | ⟨rfl, rfl⟩
  · exact decode_int2 lo hi
  · exact decode_int4 lo hi
  · exact decode_int8 lo hi

theorem toInt_ofInt_word (ht : width? t = some w) (hn : InWord w n) : (Int64.ofInt n).toInt = n := by
  obtain ⟨lo, hi⟩ := hn
  refine Int64.toInt_ofInt_of_le ?_ ?_ <;>
    rcases width?_cases ht with ⟨rfl, rfl⟩ | ⟨rfl, rfl⟩ | ⟨rfl, rfl⟩ <;> omega

instance (w : Nat) (n : Int) : Decidable (InWord w n) :=
  inferInstanceAs (Decidable (_ ∧ _))

theorem map_filter_inWord (w : Nat) (n : Int) :
    ((some n).filter (InWord w ·)).map (Bytes.ofInt w) =
      if InWord w n then some (Bytes.ofInt w n) else none := by
  by_cases h : InWord w n <;> simp [h]

theorem encodeInteger?_word (ht : width? t = some w) (n : Int64) :
    encodeInteger? n (.base t) = ((some n.toInt).filter (InWord w ·)).map (Bytes.ofInt w) := by
  have hword : InWord 8 n.toInt := ⟨n.le_toInt, n.toInt_lt⟩
  rw [map_filter_inWord]
  rcases width?_cases ht with ⟨rfl, rfl⟩ | ⟨rfl, rfl⟩ | ⟨rfl, rfl⟩
  · rfl
  · rfl
  · exact (if_pos hword).symm

theorem encodeString?_word (ht : width? t = some w) (s : String) :
    encodeString? s (.base t) = ((Text.whole? s.toList).filter (InWord w ·)).map (Bytes.ofInt w) := by
  rcases width?_cases ht with ⟨rfl, rfl⟩ | ⟨rfl, rfl⟩ | ⟨rfl, rfl⟩ <;> rfl

theorem binding_word (ht : width? t = some w)
    (hv : encode (.base t) v = fitting ((v.whole?.filter (InWord w ·)).map (Bytes.ofInt w))) :
    Binding (.base t) v := by
  have hlate : ¬ v.Late (.base t) := by
    rcases width?_cases ht with ⟨rfl, -⟩ | ⟨rfl, -⟩ | ⟨rfl, -⟩ <;>
      exact not_late_base (by simp) (by simp)
  cases hfilter : v.whole?.filter (InWord w ·) with
  | none =>
    rw [hfilter] at hv
    refine .of_error (fun hfits => ?_) hv
    obtain ⟨n, hn, hword⟩ := (fits_word ht).1 hfits
    rw [Option.mem_def.1 hn, Option.filter_some, if_pos (decide_eq_true hword)] at hfilter
    cases hfilter
  | some n =>
    rw [hfilter] at hv
    obtain ⟨hn, hword⟩ := Option.filter_eq_some_iff.1 hfilter
    have hword := of_decide_eq_true hword
    refine .of_bound ((fits_word ht).2 ⟨n, hn, hword⟩) hlate ⟨_, _, hv, decode_word ht hword, ?_⟩
    exact .integer ht (by rw [toInt_ofInt_word ht hword, hn])

/-! ## Numbers and texts -/

theorem format?_cases {f : BinaryFormat} (ht : format? t = some f) :
    t = .float4 ∧ f = .binary32 ∨ t = .float8 ∧ f = .binary64 := by
  cases t <;> cases ht <;> simp

theorem binding_rounded {f : BinaryFormat} (ht : format? t = some f) (n : Int64) :
    Binding (.base t) (integer n) := by
  rcases format?_cases ht with ⟨rfl, rfl⟩ | ⟨rfl, rfl⟩
  · exact .of_bound trivial (not_late_base (by simp) (by simp))
      ⟨_, _, rfl, decode_float4 _, .rounded rfl (Double.singleOfInt_rounds n.toInt)⟩
  · exact .of_bound trivial (not_late_base (by simp) (by simp))
      ⟨_, _, rfl, decode_float8 _, .rounded rfl (Double.ofInt_rounds n.toInt)⟩

theorem binding_float {f : BinaryFormat} (ht : format? t = some f) (x : Double) :
    Binding (.base t) (float x) := by
  rcases format?_cases ht with ⟨rfl, rfl⟩ | ⟨rfl, rfl⟩
  · exact .of_bound trivial (not_late_base (by simp) (by simp))
      ⟨_, _, rfl, decode_float4 _, .single x.single_rounds⟩
  · exact .of_bound trivial (not_late_base (by simp) (by simp))
      ⟨_, _, rfl, decode_float8 _, .float x⟩

theorem isText_cases (ht : t.isText) : t = .text ∨ t = .varchar ∨ t = .bpchar ∨ t = .name := by
  cases t <;> first | exact absurd ht (by decide) | decide

/-- A text in a column of texts. -/
theorem binding_text (ht : t.isText) {s : String}
    (hv : encode (.base t) v = .ok (some (Text.utf8 s))) (hsend : v.Sendable (.base t))
    (hs : Denotes (.base t) v (string s)) : Binding (.base t) v := by
  refine .of_bound ?_ ?_ ⟨_, _, hv, decode_text ht s, hs⟩
  · rcases isText_cases ht with rfl | rfl | rfl | rfl <;> exact hsend
  · rcases isText_cases ht with rfl | rfl | rfl | rfl <;> exact not_late_base (by simp) (by simp)

/-! ## Identifiers and documents -/

theorem binding_uuidOf (s : String) : Binding (.base .uuid) (string s) := by
  cases hs : Uuid.read? s with
  | none =>
    have hencode : encodeString? s (.base .uuid) = none := by rw [encodeString?, hs, Option.map_none]
    refine .of_error (fun hfits => ?_) (congrArg fitting hencode)
    have hsome := hfits s (List.mem_singleton_self s)
    rw [hs] at hsome
    cases hsome
  | some u =>
    have hencode : encodeString? s (.base .uuid) = some u.bytes := by
      rw [encodeString?, hs, Option.map_some]
    refine .of_bound (fun s' hs' => ?_) (not_late_base (by simp) (by simp))
      ⟨_, _, congrArg fitting hencode, decode_uuid u, .uuid (Uuid.canonicalOf_text hs)⟩
    rw [List.mem_singleton.1 hs', hs]
    rfl

/-- The document of a text is read as one that is close to it. -/
theorem document?_documentText (ht : IsDocument t) (s : String) :
    ∃ s', Bytes.document? (Text.utf8 (documentText s)) = some s' ∧
      Denotes (.base t) (string s) (string s') := by
  unfold documentText
  split
  · rename_i j hs
    obtain ⟨j', hread, hclose⟩ := Json.document?_text (Json.readAll?_fits hs)
    exact ⟨_, hread, .document ht hs hclose⟩
  · rename_i hs
    exact ⟨_, Json.document?_string s, .noDocument ht hs⟩

theorem binding_document (ht : IsDocument t) (s : String) : Binding (.base t) (string s) := by
  obtain ⟨s', hread, hdenotes⟩ := document?_documentText ht s
  rcases ht with rfl | rfl
  · exact .of_bound trivial (not_late_base (by simp) (by simp))
      ⟨_, _, rfl, decode_of_reader rfl (congrArg _ hread), hdenotes⟩
  · have hversioned : Bytes.versioned? (1 :: Text.utf8 (documentText s)) = some s' := hread
    exact .of_bound trivial (not_late_base (by simp) (by simp))
      ⟨_, _, rfl, decode_of_reader rfl (congrArg _ hversioned), hdenotes⟩

/-! ## Instants -/

theorem decode_atEnd (ht : IsInstant t) {i : Instant} (h : i.AtEnd) :
    decode (.base t) (some i.toBytes) = .error .malformed := by
  have hbytes : Bytes.instant? i.toBytes = none :=
    (Bytes.instant?_toBytes i).trans (Instant.ofMicros_atEnd h)
  exact decode_malformed (reader_instant ht) (congrArg _ hbytes)

theorem fits_instant (ht : IsInstant t) : v.Fits (.base t) ↔ (v.instant? t).isSome := by
  rcases ht with rfl | rfl <;> rfl

theorem binding_instant (ht : IsInstant t) {i : Instant} (hi : v.instant? t = some i)
    (hv : encode (.base t) v = .ok (some i.toBytes)) : Binding (.base t) v := by
  have hfits : v.Fits (.base t) := (fits_instant ht).2 (by rw [hi]; rfl)
  refine ⟨fun _ hlate => ?_, fun hmisfit => absurd hfits hmisfit, fun _ hlate => ?_⟩
  · have hend : ¬ i.AtEnd := fun hend => hlate ⟨t, rfl, ht, i, hi, hend⟩
    obtain ⟨i', hread, hsame⟩ := Instant.ofMicros_sameMicro hend
    exact ⟨_, _, hv, decode_instant ht hread, .instant ht hi hsame⟩
  · obtain ⟨t', heq, -, i', hi', hend⟩ := hlate
    cases heq
    rw [Option.mem_def, hi] at hi'
    cases hi'
    exact ⟨_, hv, decode_atEnd ht hend⟩

theorem binding_timestamp (ht : IsInstant t) (i : Instant) : Binding (.base t) (timestamp i) :=
  binding_instant ht rfl (by rcases ht with rfl | rfl <;> rfl)

theorem binding_instantOf (ht : IsInstant t) (s : String) : Binding (.base t) (string s) := by
  have hencode : encodeString? s (.base t) = ((string s).instant? t).map Instant.toBytes := by
    rcases ht with rfl | rfl <;> rfl
  cases hs : (string s).instant? t with
  | none =>
    rw [hs] at hencode
    refine .of_error (fun hfits => ?_) (congrArg fitting hencode)
    have hsome := (fits_instant ht).1 hfits
    rw [hs] at hsome
    cases hsome
  | some i =>
    rw [hs] at hencode
    exact binding_instant ht hs (congrArg fitting hencode)

/-! ## Arrays -/

theorem Bound.imp {P Q : Value → Prop} (h : Bound c v P) (hPQ : ∀ w, P w → Q w) : Bound c v Q := by
  obtain ⟨bytes, w, hencode, hdecode, hw⟩ := h
  exact ⟨bytes, w, hencode, hdecode, hPQ w hw⟩

/-- A list that matches the type of an array. -/
theorem binding_matching (hv : Matching (.array t) v)
    (hfits : v.Fits (.array t) ↔ v.Sendable (.array t))
    (hdenotes : ∀ w, ReadBack (.array t) v w → Denotes (.array t) v w) : Binding (.array t) v := by
  by_cases hsend : v.Sendable (.array t)
  · exact .of_bound (hfits.2 hsend) not_late_array ((bound_of_matching hv hsend).imp hdenotes)
  · exact .of_error (mt hfits.1 hsend) (encode_not_sendable hv hsend)

theorem binding_texts (ht : IsTexts t) (items : List String) :
    Binding (.array t) (stringArray items) := by
  refine binding_matching (.texts ht items) ?_ fun w hw => ?_
  · rcases ht with rfl | rfl <;> rfl
  · cases hw with
    | self => exact .texts ht items
    | uuids => rcases ht with ht | ht <;> cases ht

theorem binding_doubles (items : List Double) : Binding (.array .float8) (numericArray items) := by
  refine binding_matching (.doubles items) Iff.rfl fun w hw => ?_
  cases hw
  exact .doubles items

theorem mapM_read?_eq_none : ∀ {items : List String}, (∃ s ∈ items, Uuid.read? s = none) →
    items.mapM Uuid.read? = none
  | s :: items, h => by
    obtain ⟨s', hmem, hs'⟩ := h
    rw [List.mapM_cons]
    rcases List.mem_cons.1 hmem with rfl | hmem
    · rw [hs']
      rfl
    · rw [mapM_read?_eq_none ⟨s', hmem, hs'⟩]
      cases Uuid.read? s <;> rfl

theorem binding_uuids (items : List String) : Binding (.array .uuid) (stringArray items) := by
  by_cases hitems : ∀ s ∈ items, (Uuid.read? s).isSome
  · refine binding_matching (.uuids items hitems) ⟨And.right, fun hsend => ⟨hitems, hsend⟩⟩
      fun w hw => ?_
    cases hw with
    | self h h' => exact absurd rfl h'
    | uuids h => exact .uuids h
  · have hnone : ∃ s ∈ items, Uuid.read? s = none := by simpa using hitems
    have hencode : encodeStrings items (.array .uuid) = .error .unfit := by
      rw [encodeStrings, mapM_read?_eq_none hnone]
    exact .of_error (fun hfits => hitems hfits.1) (congrArg (Except.map some) hencode)

/-- The two array types whose items are integers. -/
theorem encodeNumbers_words (ht : t = .int4 ∨ t = .int8) : ∃ w, width? t = some w ∧
    (∀ items, encodeNumbers items (.array t) =
      Bytes.array (items.map fun x => Bytes.ofInt w (x.toWord (8 * w))) (.array t)) ∧
    ∀ bytes, decode (.array t) (some bytes) =
      match Bytes.array? (Bytes.signed? w) bytes with
      | some ns => .ok (numericArray (ns.map Double.ofInt))
      | none => .error .malformed := by
  rcases ht with rfl | rfl
  · refine ⟨4, rfl, fun items => rfl, fun bytes => ?_⟩
    cases hread : Bytes.array? (Bytes.signed? 4) bytes with
    | none => exact decode_malformed rfl (congrArg _ hread)
    | some ns => exact decode_of_reader rfl (congrArg _ hread)
  · refine ⟨8, rfl, fun items => rfl, fun bytes => ?_⟩
    cases hread : Bytes.array? (Bytes.signed? 8) bytes with
    | none => exact decode_malformed rfl (congrArg _ hread)
    | some ns => exact decode_of_reader rfl (congrArg _ hread)

theorem binding_words (ht : t = .int4 ∨ t = .int8) (items : List Double) :
    Binding (.array t) (numericArray items) := by
  obtain ⟨w, hw, hencode, hdecode⟩ := encodeNumbers_words ht
  have hfits : (numericArray items).Fits (.array t) ↔ items.length < 2 ^ 31 := by
    rcases ht with rfl | rfl <;> rfl
  have hcount : Bytes.Countable (items.map fun x => Bytes.ofInt w (x.toWord (8 * w))) ↔
      items.length < 2 ^ 31 := by
    have hw' : w < 2 ^ 31 := by rcases width?_cases hw with h | h | h <;> omega
    simp only [Bytes.Countable, List.length_map, List.forall_mem_map, Bytes.length_ofInt, hw',
      implies_true, and_true]
  by_cases hlength : items.length < 2 ^ 31
  · have hitem : ∀ x ∈ items, Bytes.signed? w (Bytes.ofInt w (x.toWord (8 * w))) =
        some (x.toWord (8 * w)) := by
      intro x _
      obtain ⟨lo, hi⟩ := (x.toWord_spec (8 * w)).bounds
      refine Bytes.signed?_ofInt w _ ?_ ?_ <;>
        rcases width?_cases hw with ⟨-, rfl⟩ | ⟨-, rfl⟩ | ⟨-, rfl⟩ <;> omega
    have hread := Bytes.array?_ofItems t (hcount.2 hlength) hitem
    have hbytes := (hencode items).trans (array_countable t (hcount.2 hlength))
    refine .of_bound (hfits.2 hlength) not_late_array
      ⟨_, _, congrArg (Except.map some) hbytes, by rw [hdecode, hread], .words hw ?_⟩
    rw [List.map_map]
    refine List.forall₂_map_right_iff.2 (List.forall₂_same.2 fun x _ => ?_)
    exact ⟨_, x.toWord_spec _, Double.ofInt_rounds _⟩
  · have herror := (hencode items).trans (array_uncountable t (mt hcount.1 hlength))
    exact .of_error (mt hfits.1 hlength) (congrArg (Except.map some) herror)

/-! ## All pairings -/

/-- **What a value bound to a column of a paired type is read as.**  If the type has the value,
    it is bound, and what is read denotes it; else it is refused.  The leap second at the end of
    the calendar alone is bound and not read. -/
theorem binding_of_paired (h : Paired c v) : Binding c v := by
  cases h with
  | bool b => exact binding_truth b
  | integer ht n => exact binding_word ht (congrArg fitting (encodeInteger?_word ht n))
  | rounded ht n => exact binding_rounded ht n
  | @integerText t ht n =>
    refine binding_text ht ?_ trivial (.integerText ht n)
    rcases isText_cases ht with rfl | rfl | rfl | rfl <;> rfl
  | float ht x => exact binding_float ht x
  | floatText ht x =>
    refine binding_text ht ?_ trivial (.floatText ht (DecimalLayout.text_spelled x))
    rcases isText_cases ht with rfl | rfl | rfl | rfl <;> rfl
  | instant ht i => exact binding_timestamp ht i
  | text ht s =>
    refine binding_text ht ?_ trivial (.text ht s)
    rcases isText_cases ht with rfl | rfl | rfl | rfl <;> rfl
  | uuidOf s => exact binding_uuidOf s
  | document ht s => exact binding_document ht s
  | integerOf ht s => exact binding_word ht (congrArg fitting (encodeString?_word ht s))
  | boolOf s => exact binding_boolOf s
  | instantOf ht s => exact binding_instantOf ht s
  | texts ht items => exact binding_texts ht items
  | uuids items => exact binding_uuids items
  | words ht items => exact binding_words ht items
  | doubles items => exact binding_doubles items

/-- An integer beyond two bytes is refused, and a list of empty texts is read back. -/
theorem binding_of_paired_list :
    encode (.base .int2) (integer 40000) = .error .unfit ∧
      Bound (.array .text) (stringArray ["", ""]) (Denotes (.array .text) (stringArray ["", ""])) := by
  refine ⟨(binding_of_paired (.integer rfl 40000)).misfit ?_,
    (binding_of_paired (.texts (.inl rfl) ["", ""])).fits ⟨by decide, by simp; decide⟩ not_late_array⟩
  rw [fits_word rfl]
  rintro ⟨n, hn, -, hlt⟩
  cases hn
  exact absurd hlt (by decide)

/-! ## Other values -/

/-- The document of a text, character by character. -/
def documentChars? (s : List Char) : Option (List Char) :=
  ((Json.readChars? s).filter Json.readable).map fun j => j.sorted.chars Json.escapedChar

theorem documentText_eq {s : String} {cs : List Char} (h : documentChars? s.toList = some cs) :
    documentText s = String.ofList cs := by
  obtain ⟨j, hj, rfl⟩ := Option.map_eq_some_iff.1 h
  have hread : Json.readAll? s = some j := hj
  rw [documentText, hread]
  rfl

theorem document?_utf8 {s : String} {cs : List Char} (h : documentChars? s.toList = some cs) :
    Bytes.document? (Text.utf8 s) = some (String.ofList cs) := by
  obtain ⟨j, hj, rfl⟩ := Option.map_eq_some_iff.1 h
  have hread : Json.readAll? s = some j := hj
  simp only [Bytes.document?, Text.ofUtf8?_utf8, Option.bind_eq_bind, Option.bind_some, hread]
  rfl

/-- The leap second before 2000. -/
def leapSecond : Instant := ⟨10956, 86399, 1000000000, by decide⟩

/-- The leap second at the end of the calendar. -/
def lastSecond : Instant := ⟨Date.lastDay, 86399, 1000000000, by decide⟩

/-- Bound values that come back as other ones, or not at all, and values that are bound, or make
    the writer of arrays give up, without a pairing. -/
theorem bound_otherwise :
    -- an odd integer of 54 bits in a column of doubles
    Bound (.base .float8) (integer 9007199254740993)
        (fun w => ∃ x, w = float x ∧ x.value? = some 9007199254740992) ∧
      -- a half in a column of lists of integers
      Bound (.array .int4) (numericArray [⟨0x3FE0000000000000⟩]) (· = numericArray [.zero]) ∧
      -- a number in a document, which is read again from its own text
      documentText "91048.44894315018" = "91048.44894315019" ∧
      Bound (.base .json) (string "91048.44894315018") (· = string "91048.4489431502") ∧
      -- a leap second becomes the second after it, for which there may be none
      Bound (.base .timestamptz) (timestamp leapSecond) (· = timestamp ⟨10957, 0, 0, by decide⟩) ∧
      (∃ bytes, encode (.base .timestamptz) (timestamp lastSecond) = .ok (some bytes) ∧
        decode (.base .timestamptz) (some bytes) = .error .malformed) ∧
      -- kinds of values that are not paired with the type
      Bound (.base .timestamptz) (integer 0) (· = timestamp ⟨10957, 0, 0, by decide⟩) ∧
      encode (.base .text) (stringArray []) = .error .noArray := by
  have htext : documentText "91048.44894315018" = "91048.44894315019" :=
    documentText_eq (by decide +kernel)
  have hread : Bytes.document? (Text.utf8 "91048.44894315019") = some "91048.4489431502" :=
    document?_utf8 (by decide +kernel)
  refine ⟨⟨_, _, rfl, decode_float8 _, Double.ofInt 9007199254740992, ?_, ?_⟩,
    ⟨Bytes.ofItems .int4 [Bytes.ofInt 4 0], _, by decide +kernel, by rfl, by rfl⟩, htext,
    ⟨Text.utf8 "91048.44894315019", _, ?_, ?_, rfl⟩, ⟨Bytes.ofInt 8 0, _, by rfl, by rfl, rfl⟩,
    ⟨_, rfl, decode_atEnd (.inl rfl) ⟨rfl, rfl, le_rfl⟩⟩,
    ⟨Bytes.ofInt 8 0, _, by rfl, by rfl, rfl⟩, rfl⟩
  · exact congrArg float (by decide +kernel)
  · exact Double.ofInt_exact (by decide)
  · rw [encode, encodeString?, htext]
    rfl
  · exact decode_of_reader rfl (congrArg _ hread)

end Rowgate.Value
