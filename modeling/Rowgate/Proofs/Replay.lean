/-
  What a run does to the cache that answers it.

  * `Effect c e c'`: an event `e` that the cache `c` answered, at some time, leaves `c'`;
  * `Replays c t c'`: the events of `t`, one after the other;
  * `Replays.iff_unchanged`: a run that does not ask for the cache leaves it.
-/
import Mathlib.Tactic.Common
import Rowgate.Cache
import Rowgate.World

namespace Rowgate

/-- What one event leaves of the cache.  Only the time is free. -/
inductive Effect : Cache → world.Event → Cache → Prop where
  | database (c : Cache) (d : DatabaseCall) (a : d.Answer) : Effect c ⟨.database d, a⟩ c
  | cached (c : Cache) (now : Moment) (table key : String) :
      Effect c ⟨.cached table key, (c.get now table key).1⟩ (c.get now table key).2
  | remember (c : Cache) (now : Moment) (table key : String) (rows : List Record) (ttl : Span) :
      Effect c ⟨.remember table key rows ttl, ()⟩ (c.set now table key rows ttl)
  | forget (c : Cache) (table : String) : Effect c ⟨.forget table, ()⟩ (c.deleteTable table)
  | record (c : Cache) (action : Task) (actor : String) (entry : AuditEntry)
      (a : Except Error Unit) : Effect c ⟨.record action actor entry, a⟩ c
  | now (c : Cache) (n : Int) : Effect c ⟨.now, n⟩ c
  | savepoint (c : Cache) (n : UInt64) : Effect c ⟨.savepoint, n⟩ c

inductive Replays : Cache → List world.Event → Cache → Prop where
  | nil (c : Cache) : Replays c [] c
  | cons {c c' c'' : Cache} {e : world.Event} {t : List world.Event} (h : Effect c e c')
      (h' : Replays c' t c'') : Replays c (e :: t) c''

/-- The calls that ask for the cache or change it. -/
def WorldCall.usesCache : WorldCall → Bool
  | .cached .. | .remember .. | .forget _ => true
  | _ => false

variable {c c' : Cache} {e : world.Event} {t u : List world.Event}

theorem effect_iff (he : WorldCall.usesCache e.1 = false) : Effect c e c' ↔ c' = c := by
  constructor
  · intro h
    cases h with
    | cached | remember | forget => cases he
    | _ => rfl
  · rintro rfl
    obtain ⟨d, a⟩ := e
    cases d with
    | cached | remember | forget => cases he
    | database d => exact .database c' d a
    | record action actor entry => exact .record c' action actor entry a
    | now => exact .now c' a
    | savepoint => exact .savepoint c' a

namespace Replays

theorem append_iff {c'' : Cache} :
    Replays c (t ++ u) c'' ↔ ∃ c', Replays c t c' ∧ Replays c' u c'' := by
  induction t generalizing c with
  | nil =>
    constructor
    · exact fun h => ⟨c, .nil c, h⟩
    · rintro ⟨c', ⟨⟩, h⟩
      exact h
  | cons e t ih =>
    constructor
    · rintro (⟨⟩ | ⟨he, h⟩)
      obtain ⟨c', h₁, h₂⟩ := ih.1 h
      exact ⟨c', .cons he h₁, h₂⟩
    · rintro ⟨c', (⟨⟩ | ⟨he, h₁⟩), h₂⟩
      exact .cons he (ih.2 ⟨c', h₁, h₂⟩)

theorem iff_unchanged (ht : ∀ e ∈ t, WorldCall.usesCache e.1 = false) :
    Replays c t c' ↔ c' = c := by
  induction t generalizing c with
  | nil =>
    constructor
    · rintro ⟨⟩
      rfl
    · rintro rfl
      exact .nil c'
  | cons e t ih =>
    have ih := @ih c fun e he => ht e (List.mem_cons_of_mem _ he)
    constructor
    · rintro (⟨⟩ | ⟨he, h⟩)
      obtain rfl := (effect_iff (ht e List.mem_cons_self)).1 he
      exact ih.1 h
    · intro h
      exact .cons ((effect_iff (ht e List.mem_cons_self)).2 rfl) (ih.2 h)

end Replays

end Rowgate
