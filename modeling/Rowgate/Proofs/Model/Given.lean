/-
  The values that a request gives for the fields of its records, and which texts among them are
  taken by a field of texts.

  * `Params.Gives`: the value of a field as a request has it;
  * `Params.Gives.field`: it is decoded on its own, and then stands in the record;
  * `Model.text_given`: a field of texts takes every text but those that are decoded as instants.
-/
import Rowgate.Params
import Rowgate.Proofs.Model.DataType
import Rowgate.Proofs.Result

namespace Rowgate

/-! ## Decoding, one by one -/

/-- What decoding makes of an item of a list. -/
theorem mapM_getElem? {α β : Type} {f : α → Option β} {as : List α} {bs : List β} {i : Nat} {a : α}
    (h : as.mapM f = some bs) (ha : as[i]? = some a) : ∃ b, bs[i]? = some b ∧ f a = some b := by
  have hall := mapM_some_forall₂ h
  obtain ⟨hi, rfl⟩ := List.getElem?_eq_some_iff.1 ha
  have hi' : i < bs.length := hall.length_eq ▸ hi
  exact ⟨bs[i], List.getElem?_eq_getElem hi', hall.get hi hi'⟩

namespace Json

variable {α : Type} {read : Json → Option α} {name : String} {x : Json}

theorem keyed?_names {ms : List (String × Json)} {es : List (String × α)}
    (h : ms.mapM (fun m => (read m.2).map (m.1, ·)) = some es) :
    es.map Prod.fst = ms.map Prod.fst := by
  have hall := mapM_some_forall₂ h
  clear h
  induction hall with
  | nil => rfl
  | cons he _ ih =>
    obtain ⟨v, -, rfl⟩ := Option.map_eq_some_iff.1 he
    rw [List.map_cons, List.map_cons, ih]

/-- A map has the last value of each name. -/
theorem keyed?_get? {l r : List (String × Json)} {m : Keyed α}
    (h : keyed? read (.object (l ++ (name, x) :: r)) = some m) (hr : name ∉ r.map Prod.fst) :
    ∃ v, m.get? name = some v ∧ read x = some v := by
  obtain ⟨es, hes, rfl⟩ := Option.map_eq_some_iff.1 h
  rw [List.mapM_append, List.mapM_cons] at hes
  obtain ⟨before, -, hes⟩ := Option.bind_eq_some_iff.1 hes
  obtain ⟨rest, hrest, hes⟩ := Option.bind_eq_some_iff.1 hes
  obtain ⟨e, he, hrest⟩ := Option.bind_eq_some_iff.1 hrest
  obtain ⟨behind, hbehind, hrest⟩ := Option.bind_eq_some_iff.1 hrest
  obtain ⟨v, hv, rfl⟩ := Option.map_eq_some_iff.1 he
  cases hrest
  cases hes
  refine ⟨v, Keyed.get?_ofList_last ?_, hv⟩
  rwa [keyed?_names hbehind]

end Json

/-! ## Requests -/

namespace Params

variable {request : Json} {records : List Json} {value : Json → Option Value} {p : Params}

/-- The records of a request, which has its fields by name or by position. -/
inductive Sends : Json → List Json → Prop
  | named {members : List (String × Json)} {records : List Json}
      (h : ("actionParams", .array records) ∈ members) : Sends (.object members) records
  | placed {items records : List Json} (h : items[3]? = some (.array records)) :
      Sends (.array items) records

/-- A request gives `x` for a field of the record at `i`: it is the last value of that name. -/
inductive Gives (request : Json) (i : Nat) (name : String) (x : Json) : Prop
  | intro {records : List Json} {l r : List (String × Json)} (hs : Sends request records)
      (hi : records[i]? = some (.object (l ++ (name, x) :: r))) (hr : name ∉ r.map Prod.fst)

theorem Sends.field {names : List String} {fields : List (Option Json)} (hs : Sends request records)
    (hnames : names[3]? = some "actionParams") (h : request.fields? names = some fields) :
    fields[3]? = some (some (.array records)) := by
  cases hs with
  | @named members _ hmem =>
    obtain ⟨field, hfield, hread⟩ := mapM_getElem? h hnames
    have hfound : ("actionParams", Json.array records) ∈ members.filter (·.1 = "actionParams") :=
      List.mem_filter.2 ⟨hmem, by simp⟩
    rw [hfield]
    split at hread
    · rename_i hnil
      rw [hnil] at hfound
      cases hfound
    · rename_i hone
      rw [hone, List.mem_singleton] at hfound
      cases hread
      rw [← hfound]
    · cases hread
  | @placed items _ hitem =>
    rw [Json.fields?] at h
    split_ifs at h
    cases h
    have hlt : 3 < items.length := (List.getElem?_eq_some_iff.1 hitem).1
    rw [List.getElem?_append_left (by simpa using hlt), List.getElem?_map, hitem]
    rfl

theorem Sends.decoded (hs : Sends request records) (hp : ofJson? value request = some p) :
    records.mapM (Json.keyed? value) = some p.records := by
  unfold ofJson? at hp
  obtain ⟨fields, hfields, hp⟩ := Option.bind_eq_some_iff.1 hp
  have hfield := hs.field rfl hfields
  split at hp
  · simp only [Option.bind_eq_bind, Option.bind_eq_some_iff] at hp
    obtain ⟨_, -, _, -, _, -, rs, hrs, _, -, _, -, _, -, _, -, _, -, _, -, _, -, hp⟩ := hp
    cases hp
    cases hfield
    exact hrs
  · cases hp

/-- What a request gives for a field is decoded and put in the record. -/
theorem Gives.field {i : Nat} {name : String} {x : Json} (hx : Gives request i name x)
    (hp : ofJson? value request = some p) :
    ∃ record v, p.records[i]? = some record ∧ record.get? name = some v ∧ value x = some v := by
  obtain ⟨hs, hi, hr⟩ := hx
  obtain ⟨record, hrecord, hread⟩ := mapM_getElem? (hs.decoded hp) hi
  obtain ⟨v, hv, hx⟩ := Json.keyed?_get? hread hr
  exact ⟨record, v, hrecord, hv, hx⟩

end Params

/-! ## Fields of texts -/

namespace DataType

/-- A field of any texts takes a text as it stands, and no instant. -/
theorem accepts_of_text {t actual : DataType} (ht : t = .text ∨ t = .string) (v : Value) :
    t.accepts actual v = v.string?.isSome := by
  rcases ht with rfl | rfl <;> rfl

end DataType

namespace Model

variable {request : Json} {p : Params} {i : Nat} {name s : String} {m : Model} {rule : FieldRule}

/-- **Which texts a field of texts takes.**  A text that a request gives for such a field is taken
    unless it is decoded as an instant; then the field is reported to be of the wrong type. -/
theorem text_given (isPartial : Bool) (hp : Params.ofJson? Value.ofJson? request = some p)
    (hs : Params.Gives request i name (.string s)) (hm : m.fields.get? name = some rule)
    (ht : rule.type = .text ∨ rule.type = .string) :
    ∃ record, p.records[i]? = some record ∧
      (Instant.relaxed? s = none →
        ∀ q ∈ m.check isPartial record, q.field = name → q.code ≠ .type) ∧
      (Instant.relaxed? s ≠ none →
        ⟨name, .type, "Invalid type for field " ++ name ++ ": expected " ++ rule.type.label ++
          ", got " ++ DataType.dateTime.label, none⟩ ∈ m.check isPartial record) := by
  obtain ⟨record, v, hrecord, hv, hdecoded⟩ := hs.field hp
  obtain rfl : Value.ofText s = v := Option.some.inj hdecoded
  refine ⟨record, hrecord, fun hnone => ?_, fun hinstant => ?_⟩
  · have htext : Value.ofText s = .string s := by rw [Value.ofText, hnone]
    rw [htext] at hv
    refine (type_problem_iff hm hv nofun).2 ⟨_, rfl, ?_⟩
    rw [DataType.accepts_of_text ht]
    rfl
  · obtain ⟨t, hread⟩ := Option.ne_none_iff_exists'.1 hinstant
    have hdated : Value.ofText s = .timestamp t := by rw [Value.ofText, hread]
    rw [hdated] at hv
    refine mem_check_iff.2 (.value hm hv nofun (.type rfl ?_))
    rw [DataType.accepts_of_text ht]
    rfl

/-- Notes have a text. -/
def noteModel : Model where
  table := "notes"
  fields := .ofList [("body", ⟨.text, true, none, none, none, none, none, none⟩)]

/-- A request to save one note. -/
def noteRequest (body : String) : Json :=
  .object [("tableName", .string "notes"),
    ("actionParams", .array [.object [("body", .string body)]])]

/-- A date and a time without an offset are no instant, and so a text that is taken. -/
theorem text_given_local : Instant.relaxed? "2024-01-01 00:00:00" = none ∧
    ∃ p, Params.ofJson? Value.ofJson? (noteRequest "2024-01-01 00:00:00") = some p ∧
      ∃ record, p.records[0]? = some record ∧
        ∀ q ∈ noteModel.check false record, q.field = "body" → q.code ≠ .type := by
  have hlocal : Instant.relaxed? "2024-01-01 00:00:00" = none := by decide +kernel
  obtain ⟨p, hp⟩ : ∃ p, Params.ofJson? Value.ofJson? (noteRequest "2024-01-01 00:00:00") = some p :=
    Option.isSome_iff_exists.1 (by decide +kernel)
  have hs : Params.Gives (noteRequest "2024-01-01 00:00:00") 0 "body"
      (.string "2024-01-01 00:00:00") :=
    .intro (l := []) (r := []) (.named (List.mem_cons_of_mem _ List.mem_cons_self)) rfl (by simp)
  have hm : noteModel.fields.get? "body" =
      some ⟨.text, true, none, none, none, none, none, none⟩ := rfl
  obtain ⟨record, hrecord, htaken, -⟩ := text_given false hp hs hm (.inl rfl)
  exact ⟨hlocal, p, hp, record, hrecord, htaken hlocal⟩

/-- A text that is an instant is refused where any text should do. -/
theorem dated_note : ((Json.readAll?
      "\x7b\"actionParams\":[\x7b\"body\":\"2024-01-01T00:00:00Z\"\x7d]\x7d").bind
        (Params.ofJson? Value.ofJson?)).map (fun p => p.records.map (noteModel.check false)) =
    some [[⟨"body", .type, "Invalid type for field body: expected text, got datetime", none⟩]] := by
  decide +kernel

end Model

end Rowgate
