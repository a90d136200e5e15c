/-
  What a run does to the cache that answers it, as time goes on.

  * `Passes n c t n' c'`: the events of `t` one after the other, from the time `n` to the time
    `n'`; a cache that answers at some time answers by that time;
  * `Quiet`: a run that does not ask for the cache, and so leaves it;
  * `Passes.inner`: what happens between quiet runs;
  * `trace_passes`: a scene, where time stands still, goes by it.
-/
import Rowgate.Proofs.Scene

namespace Rowgate

/-- What an event leaves of the cache that answers it at a time. -/
inductive EffectAt (now : Moment) : Cache → world.Event → Cache → Prop where
  | quiet (c : Cache) {e : world.Event} (he : WorldCall.usesCache e.1 = false) : EffectAt now c e c
  | cached (c : Cache) (table key : String) :
      EffectAt now c ⟨.cached table key, (c.get now table key).1⟩ (c.get now table key).2
  | remember (c : Cache) (table key : String) (rows : List Record) (ttl : Span) :
      EffectAt now c ⟨.remember table key rows ttl, ()⟩ (c.set now table key rows ttl)
  | forget (c : Cache) (table : String) : EffectAt now c ⟨.forget table, ()⟩ (c.deleteTable table)

/-- No event asks for the cache or changes it. -/
def Quiet (t : List world.Event) : Prop :=
  ∀ e ∈ t, WorldCall.usesCache e.1 = false

namespace Quiet

variable {t u : List world.Event} {e : world.Event}

theorem nil : Quiet [] :=
  nofun

theorem single (he : WorldCall.usesCache e.1 = false) : Quiet [e] :=
  List.forall_mem_singleton.2 he

theorem append (ht : Quiet t) (hu : Quiet u) : Quiet (t ++ u) :=
  List.forall_mem_append.2 ⟨ht, hu⟩

/-- Between quiet runs are all events that use the cache. -/
theorem mem_inner {v : List world.Event} (ht : Quiet t) (hv : Quiet v) (he : e ∈ t ++ (u ++ v))
    (hu : WorldCall.usesCache e.1) : e ∈ u := by
  have hloud {w : List world.Event} (hw : Quiet w) : e ∉ w := by
    intro h
    rw [hw e h] at hu
    cases hu
  rcases List.mem_append.1 he with he | he
  · exact absurd he (hloud ht)
  · exact (List.mem_append.1 he).resolve_right (hloud hv)

end Quiet

inductive Passes : Moment → Cache → List world.Event → Moment → Cache → Prop where
  | nil {n n' : Moment} (hn : n ≤ n') (c : Cache) : Passes n c [] n' c
  | cons {n m n' : Moment} {c c' c'' : Cache} {e : world.Event} {t : List world.Event} (hn : n ≤ m)
      (he : EffectAt m c e c') (h : Passes m c' t n' c'') : Passes n c (e :: t) n' c''

theorem EffectAt.effect {now : Moment} {c c' : Cache} {e : world.Event} (h : EffectAt now c e c') :
    Effect c e c' := by
  cases h with
  | quiet he => exact (effect_iff he).2 rfl
  | cached table key => exact .cached c now table key
  | remember table key rows ttl => exact .remember c now table key rows ttl
  | forget table => exact .forget c table

namespace Passes

variable {n m n' : Moment} {c c' c'' : Cache} {e : world.Event} {t u : List world.Event}

theorem le (h : Passes n c t n' c') : n ≤ n' := by
  induction h with
  | nil hn => exact hn
  | cons hn _ _ ih => exact Fin.le_trans hn ih

theorem replays (h : Passes n c t n' c') : Replays c t c' := by
  induction h with
  | nil _ c => exact .nil c
  | cons _ he _ ih => exact .cons he.effect ih

/-- More time may pass before and after. -/
theorem mono {m' : Moment} (hn : n ≤ m) (hm : m' ≤ n') (h : Passes m c t m' c') :
    Passes n c t n' c' := by
  induction h generalizing n with
  | nil h c => exact .nil (Fin.le_trans hn (Fin.le_trans h hm)) c
  | cons h he _ ih => exact .cons (Fin.le_trans hn h) he (ih (Fin.le_refl _) hm)

theorem nil_iff : Passes n c [] n' c' ↔ n ≤ n' ∧ c' = c := by
  constructor
  · intro h
    cases h with
    | nil hn => exact ⟨hn, rfl⟩
  · rintro ⟨hn, rfl⟩
    exact .nil hn c'

theorem cons_iff : Passes n c (e :: t) n' c'' ↔
    ∃ m c', n ≤ m ∧ EffectAt m c e c' ∧ Passes m c' t n' c'' := by
  constructor
  · intro h
    cases h with
    | cons hn he h => exact ⟨_, _, hn, he, h⟩
  · rintro ⟨m, c', hn, he, h⟩
    exact .cons hn he h

theorem append_iff : Passes n c (t ++ u) n' c'' ↔
    ∃ m c', Passes n c t m c' ∧ Passes m c' u n' c'' := by
  induction t generalizing n c with
  | nil =>
    constructor
    · exact fun h => ⟨n, c, .nil (Fin.le_refl n) c, h⟩
    · rintro ⟨m, c', h, h'⟩
      obtain ⟨hn, rfl⟩ := nil_iff.1 h
      exact h'.mono hn (Fin.le_refl n')
  | cons e t ih =>
    constructor
    · intro h
      obtain ⟨m, c₁, hn, he, h⟩ := cons_iff.1 h
      obtain ⟨m', c', h₁, h₂⟩ := ih.1 h
      exact ⟨m', c', .cons hn he h₁, h₂⟩
    · rintro ⟨m', c', h, h₂⟩
      obtain ⟨m, c₁, hn, he, h₁⟩ := cons_iff.1 h
      exact .cons hn he (ih.2 ⟨m', c', h₁, h₂⟩)

theorem quiet (ht : Quiet t) (h : Passes n c t n' c') : c' = c :=
  (Replays.iff_unchanged ht).1 h.replays

theorem inner {t₁ t₂ t₃ : List world.Event} (h₁ : Quiet t₁) (h₃ : Quiet t₃)
    (h : Passes n c (t₁ ++ (t₂ ++ t₃)) n' c') : Passes n c t₂ n' c' := by
  obtain ⟨m, c₁, hp₁, h⟩ := append_iff.1 h
  obtain ⟨m', c₂, hp₂, hp₃⟩ := append_iff.1 h
  obtain rfl := hp₁.quiet h₁
  obtain rfl := hp₃.quiet h₃
  exact hp₂.mono hp₁.le hp₃.le

end Passes

/-- A run that does not ask for the cache passes by any cache. -/
theorem Quiet.passes {t : List world.Event} (ht : Quiet t) (n : Moment) (c : Cache) :
    Passes n c t n c := by
  induction t with
  | nil => exact .nil (Fin.le_refl n) c
  | cons e t ih =>
    obtain ⟨he, ht⟩ := List.forall_mem_cons.1 ht
    exact .cons (Fin.le_refl n) (.quiet c he) (ih ht)

namespace Script.Scene

open Program

theorem answer_cacheTime (c : world.Call) (s : Scene) : (answer c s).2.cacheTime = s.cacheTime := by
  cases c <;> rfl

theorem answer_effectAt (c : world.Call) (s : Scene) :
    EffectAt s.cacheTime s.cache ⟨c, (answer c s).1⟩ (answer c s).2.cache := by
  cases c with
  | cached table key => exact .cached s.cache table key
  | remember table key rows ttl => exact .remember s.cache table key rows ttl
  | forget table => exact .forget s.cache table
  | _ => exact .quiet s.cache rfl

theorem trace_passes {α : Type} (p : Program world α) (s : Scene) :
    Passes s.cacheTime s.cache (s.trace p) s.cacheTime (s.play p).2.cache := by
  induction p generalizing s with
  | done a => exact .nil (Fin.le_refl _) _
  | ask c next ih =>
    have ih := ih (answer c s).1 (answer c s).2
    rw [answer_cacheTime] at ih
    exact .cons (Fin.le_refl _) (answer_effectAt c s) ih

end Script.Scene

end Rowgate
