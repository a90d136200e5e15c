/-
  Values without floats are read back from their JSON text.

  * `Json.Fixed`: a value that no other is close to, so that its text is read as itself;
  * `Value.Stable`: the values without floats that a JSON text can stand for;
  * `stable_of_ofJson?`: what is read without floats is one of these;
  * `json_text_stable`: their texts stand for them, and so do the texts of their records.
-/
import Rowgate.Proofs.Calendar.Reread
import Rowgate.Proofs.Json.Document
import Rowgate.Proofs.NameSet
import Rowgate.Proofs.Result
import Rowgate.Value.Json

namespace Rowgate

/-! ## Texts that are read as they were written -/

namespace Json

/-- No other value is close. -/
def Fixed (j : Json) : Prop :=
  ∀ j', Close j j' → j' = j

theorem fixed_whole (n : Int) : Fixed (.number (.whole n)) := by
  rintro j' (_ | _ | ⟨⟨⟩⟩)
  rfl

theorem fixed_string (s : String) : Fixed (.string s) := by
  rintro j' ⟨⟩
  rfl

theorem fixed_array {xs : List Json} (h : ∀ x ∈ xs, Fixed x) : Fixed (.array xs) := by
  have hitems (ys : List Json) (hclose : ItemsClose xs ys) : ys = xs := by
    induction xs generalizing ys with
    | nil =>
      cases hclose
      rfl
    | cons x xs ih =>
      obtain ⟨hx, hxs⟩ := List.forall_mem_cons.1 h
      cases hclose with
      | cons hc hcs => rw [hx _ hc, ih hxs _ hcs]
  rintro j' (_ | _ | _ | _ | hclose)
  rw [hitems _ hclose]

theorem fixed_object {ms : List (String × Json)} (h : ∀ m ∈ ms, Fixed m.2) :
    Fixed (.object ms) := by
  have hmembers (ns : List (String × Json)) (hclose : MembersClose ms ns) : ns = ms := by
    induction ms generalizing ns with
    | nil =>
      cases hclose
      rfl
    | cons m ms ih =>
      obtain ⟨hm, hms⟩ := List.forall_mem_cons.1 h
      cases hclose with
      | cons hc hcs => rw [hm _ hc, ih hms _ hcs]
  rintro j' (_ | _ | _ | _ | _ | hclose)
  rw [hmembers _ hclose]

theorem readAll?_fixed {j : Json} (hfits : Fits 0 j) (hfixed : Fixed j) :
    readAll? j.text = some j := by
  obtain ⟨j', hread, hclose⟩ := readAll?_text hfits
  rw [hread, hfixed j' hclose]

end Json

namespace Value

/-- The value that a JSON text stands for. -/
def ofJsonText? (s : String) : Option Value :=
  (Json.readAll? s).bind ofJson?

/-- Neither a float nor a list of numbers. -/
def Floatless : Value → Prop
  | float _ | numericArray _ => False
  | _ => True

/-- The values without floats that a JSON text can stand for: a text that reads as an instant
    is not one of them. -/
inductive Stable : Value → Prop
  | null : Stable null
  | bool (b : Bool) : Stable (bool b)
  | integer (n : Int64) : Stable (integer n)
  | timestamp (t : Instant) : Stable (timestamp t)
  | string {s : String} (h : Instant.relaxed? s = none) : Stable (string s)
  | stringArray (items : List String) : Stable (stringArray items)

variable {v : Value} {depth : Nat}

theorem stable_ofText (s : String) : (ofText s).Stable := by
  unfold ofText
  split
  case h_1 t _ => exact .timestamp t
  case h_2 h => exact .string h

/-- What is read without floats is stable. -/
theorem stable_of_ofJson? {j : Json} (h : ofJson? j = some v) (hv : v.Floatless) : v.Stable := by
  unfold ofJson? at h
  split at h
  case h_1 =>
    cases h
    exact .null
  case h_2 b =>
    cases h
    exact .bool b
  case h_3 n =>
    split at h
    case h_1 i _ =>
      cases h
      exact .integer i
    case h_2 =>
      obtain ⟨x, -, rfl⟩ := Option.map_eq_some_iff.1 h
      cases hv
  case h_4 s =>
    cases h
    exact stable_ofText s
  case h_5 items =>
    split at h
    case h_1 texts _ =>
      cases h
      exact .stringArray texts
    case h_2 =>
      obtain ⟨xs, -, rfl⟩ := Option.map_eq_some_iff.1 h
      cases hv
  case h_6 => cases h

namespace Stable

theorem fits (h : v.Stable) (hdepth : depth < Json.depthLimit) : Json.Fits depth v.toJson := by
  cases h with
  | null | bool | timestamp | string => trivial
  | integer n =>
    have hlo := n.le_toInt
    have hhi := n.toInt_lt
    exact ⟨hlo, by omega⟩
  | stringArray items =>
    refine ⟨hdepth, Json.itemsFit_iff.2 fun x hx => ?_⟩
    obtain ⟨s, -, rfl⟩ := List.mem_map.1 hx
    trivial

theorem fixed (h : v.Stable) : v.toJson.Fixed := by
  cases h with
  | null | bool =>
    rintro j' ⟨⟩
    rfl
  | integer n => exact Json.fixed_whole n.toInt
  | timestamp t => exact Json.fixed_string t.text
  | string => exact Json.fixed_string _
  | stringArray items =>
    refine Json.fixed_array fun x hx => ?_
    obtain ⟨s, -, rfl⟩ := List.mem_map.1 hx
    exact Json.fixed_string s

/-- A stable value is the first kind that its JSON value fits. -/
theorem ofJson?_toJson (h : v.Stable) : ofJson? v.toJson = some v := by
  cases h with
  | null | bool => rfl
  | integer n =>
    have hread : Json.int64? (.number (.whole n.toInt)) = some n := by
      have hrange : -(2 ^ 63) ≤ n.toInt ∧ n.toInt < 2 ^ 63 := ⟨n.le_toInt, n.toInt_lt⟩
      rw [Json.int64?, Json.whole?, if_pos hrange, Option.map_some, Int64.ofInt_toInt]
    rw [toJson, ofJson?, hread]
  | timestamp t => rw [toJson, ofJson?, ofText, Instant.relaxed?_text]
  | string hs => rw [toJson, ofJson?, ofText, hs]
  | stringArray items =>
    have hread : (items.map Json.string).mapM Json.string? = some (items.map id) :=
      mapM_map_eq_some fun _ _ => rfl
    rw [List.map_id] at hread
    rw [toJson, ofJson?, hread]

theorem ofJsonText?_jsonText (h : v.Stable) : ofJsonText? v.jsonText = some v := by
  rw [ofJsonText?, jsonText, Json.readAll?_fixed (h.fits (by decide)) h.fixed, Option.bind_some,
    h.ofJson?_toJson]

end Stable

end Value

/-! ## Records -/

namespace Record

/-- The record that a JSON text stands for. -/
def ofJsonText? (s : String) : Option Record :=
  (Json.readAll? s).bind (Json.keyed? Value.ofJson?)

/-- The records that a JSON text stands for. -/
def listOfJsonText? (s : String) : Option (List Record) :=
  (Json.readAll? s).bind (Json.list? (Json.keyed? Value.ofJson?))

/-- Without floats and lists of numbers. -/
def Floatless (r : Record) : Prop :=
  ∀ e ∈ r.entries, e.2.Floatless

/-- All values are stable. -/
def Stable (r : Record) : Prop :=
  ∀ e ∈ r.entries, e.2.Stable

variable {r : Record} {depth : Nat}

/-- A record that is read without floats is stable. -/
theorem stable_of_keyed? {j : Json} (h : Json.keyed? Value.ofJson? j = some r)
    (hr : r.Floatless) : r.Stable := by
  unfold Json.keyed? at h
  split at h
  case h_2 => cases h
  case h_1 members =>
    obtain ⟨es, hes, rfl⟩ := Option.map_eq_some_iff.1 h
    intro e he
    obtain ⟨m, -, hm⟩ := forall₂_exists_right (mapM_some_forall₂ hes).flip (Keyed.mem_ofList he)
    obtain ⟨v, hv, rfl⟩ := Option.map_eq_some_iff.1 hm
    exact Value.stable_of_ofJson? hv (hr _ he)

namespace Stable

theorem fits (h : r.Stable) (hdepth : depth + 1 < Json.depthLimit) :
    Json.Fits depth (toJson r) := by
  refine ⟨by omega, Json.membersFit_iff.2 fun m hm => ?_⟩
  obtain ⟨e, he, rfl⟩ := List.mem_map.1 hm
  exact (h e he).fits hdepth

theorem fixed (h : r.Stable) : (toJson r).Fixed := by
  refine Json.fixed_object fun m hm => ?_
  obtain ⟨e, he, rfl⟩ := List.mem_map.1 hm
  exact (h e he).fixed

theorem keyed?_toJson (h : r.Stable) : Json.keyed? Value.ofJson? (toJson r) = some r := by
  have hmembers : (r.map Value.toJson).entries.mapM
      (fun m => (Value.ofJson? m.2).map (m.1, ·)) = some r.entries := by
    have hread : (r.map Value.toJson).entries.mapM
        (fun m => (Value.ofJson? m.2).map (m.1, ·)) = some (r.entries.map id) := by
      refine mapM_map_eq_some fun e he => ?_
      rw [(h e he).ofJson?_toJson]
      rfl
    rwa [List.map_id] at hread
  rw [toJson, Json.ofKeyed, Json.keyed?, hmembers, Option.map_some, Keyed.ofList_entries]

theorem ofJsonText?_text (h : r.Stable) : ofJsonText? (toJson r).text = some r := by
  rw [ofJsonText?, Json.readAll?_fixed (h.fits (by decide)) h.fixed, Option.bind_some,
    h.keyed?_toJson]

end Stable

theorem listOfJsonText?_text {rs : List Record} (h : ∀ r ∈ rs, r.Stable) :
    listOfJsonText? (listJson rs).text = some rs := by
  have hfits : Json.Fits 0 (listJson rs) := by
    refine ⟨by decide, Json.itemsFit_iff.2 fun x hx => ?_⟩
    obtain ⟨r, hr, rfl⟩ := List.mem_map.1 hx
    exact (h r hr).fits (by decide)
  have hfixed : (listJson rs).Fixed := by
    refine Json.fixed_array fun x hx => ?_
    obtain ⟨r, hr, rfl⟩ := List.mem_map.1 hx
    exact (h r hr).fixed
  have hread : (rs.map toJson).mapM (Json.keyed? Value.ofJson?) = some (rs.map id) :=
    mapM_map_eq_some fun r hr => (h r hr).keyed?_toJson
  rw [listOfJsonText?, Json.readAll?_fixed hfits hfixed, Option.bind_some, listJson, Json.list?,
    hread, List.map_id]

end Record

/-- **The JSON border is stable.**  Of the values without floats a JSON text can stand for the
    stable ones and no other, and the text of each stands for it; so it is with records, and
    with lists of them. -/
theorem json_text_stable :
    (∀ v : Value, v.Floatless → ((∃ s, Value.ofJsonText? s = some v) ↔ v.Stable)) ∧
    (∀ v : Value, v.Stable → Value.ofJsonText? v.jsonText = some v) ∧
    (∀ r : Record, r.Floatless → ((∃ s, Record.ofJsonText? s = some r) ↔ r.Stable)) ∧
    (∀ r : Record, r.Stable → Record.ofJsonText? r.toJson.text = some r) ∧
    ∀ rs : List Record, (∀ r ∈ rs, r.Stable) →
      Record.listOfJsonText? (Record.listJson rs).text = some rs := by
  refine ⟨fun v hv => ⟨?_, fun h => ⟨_, h.ofJsonText?_jsonText⟩⟩, fun v h => h.ofJsonText?_jsonText,
    fun r hr => ⟨?_, fun h => ⟨_, h.ofJsonText?_text⟩⟩, fun r h => h.ofJsonText?_text,
    fun rs h => Record.listOfJsonText?_text h⟩
  · rintro ⟨s, hs⟩
    obtain ⟨j, -, hj⟩ := Option.bind_eq_some_iff.1 hs
    exact Value.stable_of_ofJson? hj hv
  · rintro ⟨s, hs⟩
    obtain ⟨j, -, hj⟩ := Option.bind_eq_some_iff.1 hs
    exact Record.stable_of_keyed? hj hr

/-- The last instant that there is, in its leap second. -/
def lastInstant : Instant :=
  ⟨Date.lastDay, 86399, 1500000000, by decide⟩

/-- A record of that instant, an empty list and the least integer. -/
def lastRecord : Record :=
  .ofList [("at", .timestamp lastInstant), ("tags", .stringArray []),
    ("size", .integer (-9223372036854775808))]

theorem json_text_stable_last :
    lastInstant.text = "+262142-12-31T23:59:60.500Z" ∧
    Value.ofJsonText? (Value.timestamp lastInstant).jsonText = some (.timestamp lastInstant) ∧
    Record.ofJsonText? lastRecord.toJson.text = some lastRecord := by
  refine ⟨by decide, json_text_stable.2.1 _ (.timestamp _),
    json_text_stable.2.2.2.1 _ fun e he => ?_⟩
  have hmem := Keyed.mem_ofList he
  simp only [List.mem_cons, List.not_mem_nil, or_false] at hmem
  rcases hmem with rfl | rfl | rfl
  · exact .timestamp _
  · exact .stringArray _
  · exact .integer _

end Rowgate
