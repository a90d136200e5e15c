/-
  Runs of programs, in particular of those that may fail.

  * `Runs a t r`: the program `a` may come to the result or failure `r` with the calls and
    answers of `t`; `runs_bind_iff` and the lemmas behind it split a run into its steps;
  * `Run.unique`: of two runs that begin one trace, both are the same; `Run.reanswer`: there is
    a run for every other answer to a call;
  * `run_via_iff`: a run of a program whose calls are answered by programs is one of the
    program itself, with a run behind each of its calls.
-/
import Rowgate.Proofs.Result
import Rowgate.World

namespace Rowgate.Program

variable {I J : Interface} {ε α β : Type}

/-- The run of a program that may fail. -/
abbrev Runs (a : ExceptT ε (Program I) α) (t : List I.Event) (r : Except ε α) : Prop :=
  Run a.run t r

/-! ## One step -/

theorem run_done_iff {a b : α} {t : List I.Event} : Run (done a) t b ↔ t = [] ∧ b = a := by
  constructor
  · intro h
    cases h
    exact ⟨rfl, rfl⟩
  · rintro ⟨rfl, rfl⟩
    exact .done b

theorem run_call_iff {c : I.Call} {t : List I.Event} {r : I.Answer c} :
    Run (call c) t r ↔ t = [⟨c, r⟩] := by
  constructor
  · intro h
    cases h with
    | ask r h =>
      cases h
      rfl
  · rintro rfl
    exact .ask r (.done r)

theorem runs_pure_iff {a : α} {t : List I.Event} {r : Except ε α} :
    Runs (pure a) t r ↔ t = [] ∧ r = .ok a :=
  run_done_iff

theorem runs_given_iff {x r : Except ε α} {t : List I.Event} :
    Runs (given x) t r ↔ t = [] ∧ r = x :=
  run_done_iff

theorem runs_throw_iff {e : ε} {t : List I.Event} {r : Except ε α} :
    Runs (throw e) t r ↔ t = [] ∧ r = .error e :=
  run_done_iff

/-! ## Sequences -/

theorem runs_bind_iff {a : ExceptT ε (Program I) α} {f : α → ExceptT ε (Program I) β}
    {t : List I.Event} {r : Except ε β} :
    Runs (a >>= f) t r ↔ (∃ e, Runs a t (.error e) ∧ r = .error e) ∨
      ∃ t₁ t₂ x, t = t₁ ++ t₂ ∧ Runs a t₁ (.ok x) ∧ Runs (f x) t₂ r := by
  refine run_bind_iff.trans ⟨?_, ?_⟩
  · rintro ⟨t₁, t₂, x, rfl, h₁, h₂⟩
    cases x with
    | error e =>
      obtain ⟨rfl, rfl⟩ := run_done_iff.1 h₂
      rw [List.append_nil]
      exact .inl ⟨e, h₁, rfl⟩
    | ok x => exact .inr ⟨t₁, t₂, x, rfl, h₁, h₂⟩
  · rintro (⟨e, h, rfl⟩ | ⟨t₁, t₂, x, rfl, h₁, h₂⟩)
    · exact ⟨t, [], .error e, (List.append_nil t).symm, h, .done _⟩
    · exact ⟨t₁, t₂, .ok x, rfl, h₁, h₂⟩

/-- A first step that neither asks nor fails. -/
theorem runs_given_bind_iff {x : Except ε α} {f : α → ExceptT ε (Program I) β}
    {t : List I.Event} {r : Except ε β} :
    Runs (given x >>= f) t r ↔
      (∃ e, x = .error e ∧ t = [] ∧ r = .error e) ∨ ∃ a, x = .ok a ∧ Runs (f a) t r := by
  rw [runs_bind_iff]
  simp only [runs_given_iff]
  constructor
  · rintro (⟨e, ⟨rfl, rfl⟩, rfl⟩ | ⟨_, t₂, a, rfl, ⟨rfl, rfl⟩, h⟩)
    · exact .inl ⟨e, rfl, rfl, rfl⟩
    · exact .inr ⟨a, rfl, h⟩
  · rintro (⟨e, rfl, rfl, rfl⟩ | ⟨a, rfl, h⟩)
    · exact .inl ⟨e, ⟨rfl, rfl⟩, rfl⟩
    · exact .inr ⟨[], t, a, rfl, ⟨rfl, rfl⟩, h⟩

theorem runs_throw_bind_iff {e : ε} {f : α → ExceptT ε (Program I) β} {t : List I.Event}
    {r : Except ε β} : Runs (throw e >>= f) t r ↔ t = [] ∧ r = .error e :=
  run_done_iff

/-- A last step that neither asks nor fails. -/
theorem runs_bind_pure_iff {a : ExceptT ε (Program I) α} {f : α → β} {t : List I.Event}
    {r : Except ε β} :
    Runs (a >>= fun x => pure (f x)) t r ↔ ∃ x, Runs a t x ∧ r = x.map f := by
  rw [runs_bind_iff]
  simp only [runs_pure_iff]
  constructor
  · rintro (⟨e, h, rfl⟩ | ⟨t₁, _, x, rfl, h, rfl, rfl⟩)
    · exact ⟨.error e, h, rfl⟩
    · exact ⟨.ok x, by rwa [List.append_nil], rfl⟩
  · rintro ⟨x, h, rfl⟩
    cases x with
    | error e => exact .inl ⟨e, h, rfl⟩
    | ok x => exact .inr ⟨t, [], x, (List.append_nil t).symm, h, rfl, rfl⟩

theorem runs_lift_iff {p : Program I α} {t : List I.Event} {r : Except ε α} :
    Runs (ExceptT.lift p) t r ↔ ∃ a, Run p t a ∧ r = .ok a := by
  refine run_bind_iff.trans ⟨?_, ?_⟩
  · rintro ⟨t₁, t₂, a, rfl, h₁, h₂⟩
    obtain ⟨rfl, rfl⟩ := run_done_iff.1 h₂
    exact ⟨a, by rwa [List.append_nil], rfl⟩
  · rintro ⟨a, h, rfl⟩
    exact ⟨t, [], a, (List.append_nil t).symm, h, .done _⟩

/-! ## Two runs of one program -/

/-- The answers decide how a program goes on. -/
theorem Run.unique {p : Program I α} {t₁ t₂ u₁ u₂ : List I.Event} {a b : α} (h₁ : Run p t₁ a)
    (h₂ : Run p t₂ b) (he : t₁ ++ u₁ = t₂ ++ u₂) : t₁ = t₂ ∧ u₁ = u₂ ∧ a = b := by
  induction h₁ generalizing t₂ with
  | done a =>
    obtain ⟨rfl, rfl⟩ := run_done_iff.1 h₂
    exact ⟨rfl, he, rfl⟩
  | ask r _ ih =>
    cases h₂ with
    | ask r' h₂ =>
      obtain ⟨hr, ht⟩ := List.cons.inj he
      cases hr
      obtain ⟨rfl, hu, rfl⟩ := ih h₂ ht
      exact ⟨rfl, hu, rfl⟩

/-- A run does not go on behind its end. -/
theorem Run.eq_of_prefix {p : Program I α} {t u : List I.Event} {a b : α} (h₁ : Run p t a)
    (h₂ : Run p (t ++ u) b) : u = [] ∧ a = b := by
  obtain ⟨ht, -, he⟩ := h₁.unique h₂ (List.append_nil _).symm
  exact ⟨List.self_eq_append_right.1 ht, he⟩

/-- Every program has a run, if there is an answer to every call. -/
theorem exists_run (answer : (c : I.Call) → I.Answer c) (p : Program I α) : ∃ t a, Run p t a := by
  induction p with
  | done a => exact ⟨[], a, .done a⟩
  | ask c next ih =>
    obtain ⟨t, a, h⟩ := ih (answer c)
    exact ⟨_, a, .ask _ h⟩

/-- Another answer to one call of a run leads to another run. -/
theorem Run.reanswer (answer : (c : I.Call) → I.Answer c) {p : Program I α} {u v : List I.Event}
    {c : I.Call} {x : I.Answer c} {a : α} (h : Run p (u ++ ⟨c, x⟩ :: v) a) (y : I.Answer c) :
    ∃ w b, Run p (u ++ ⟨c, y⟩ :: w) b := by
  induction u generalizing p with
  | nil =>
    cases h with
    | @ask _ next _ _ _ _ =>
      obtain ⟨w, b, h⟩ := exists_run answer (next y)
      exact ⟨w, b, .ask y h⟩
  | cons e u ih =>
    cases h with
    | ask r h =>
      obtain ⟨w, b, h⟩ := ih h
      exact ⟨w, b, .ask r h⟩

/-! ## Calls answered by programs -/

/-- The runs behind calls, one after the other. -/
inductive Served (answer : (c : I.Call) → Program J (I.Answer c)) :
    List I.Event → List J.Event → Prop where
  | nil : Served answer [] []
  | cons {c : I.Call} {r : I.Answer c} {u : List I.Event} {t₁ t₂ : List J.Event}
      (h : Run (answer c) t₁ r) (h' : Served answer u t₂) : Served answer (⟨c, r⟩ :: u) (t₁ ++ t₂)

theorem run_via_iff {answer : (c : I.Call) → Program J (I.Answer c)} {p : Program I α}
    {t : List J.Event} {a : α} : Run (p.via answer) t a ↔ ∃ u, Run p u a ∧ Served answer u t := by
  induction p generalizing t with
  | done b =>
    refine run_done_iff.trans ⟨?_, ?_⟩
    · rintro ⟨rfl, rfl⟩
      exact ⟨[], .done a, .nil⟩
    · rintro ⟨u, ⟨⟩, ⟨⟩⟩
      exact ⟨rfl, rfl⟩
  | ask c next ih =>
    refine run_bind_iff.trans ⟨?_, ?_⟩
    · rintro ⟨t₁, t₂, r, rfl, h₁, h₂⟩
      obtain ⟨u, hu, hs⟩ := (ih r).1 h₂
      exact ⟨_, .ask r hu, .cons h₁ hs⟩
    · rintro ⟨u, hu, hs⟩
      cases hu with
      | ask r hu =>
        cases hs with
        | cons h hs => exact ⟨_, _, r, rfl, h, (ih r).2 ⟨_, hu, hs⟩⟩

/-- What is asked behind some calls is asked behind one of them. -/
theorem Served.exists_run {answer : (c : I.Call) → Program J (I.Answer c)} {u : List I.Event}
    {t : List J.Event} (h : Served answer u t) {e : J.Event} (he : e ∈ t) :
    ∃ c r t', ⟨c, r⟩ ∈ u ∧ Run (answer c) t' r ∧ e ∈ t' := by
  induction h with
  | nil => cases he
  | @cons c r u t₁ t₂ h _ ih =>
    rcases List.mem_append.1 he with he | he
    · exact ⟨c, r, t₁, List.mem_cons_self, h, he⟩
    · obtain ⟨c', r', t', hm, hr, he⟩ := ih he
      exact ⟨c', r', t', List.mem_cons_of_mem _ hm, hr, he⟩

/-- Each call is answered by a run of its own. -/
theorem Served.run_of_mem {answer : (c : I.Call) → Program J (I.Answer c)} {u : List I.Event}
    {t : List J.Event} (h : Served answer u t) {c : I.Call} {r : I.Answer c} (hc : ⟨c, r⟩ ∈ u) :
    ∃ t', Run (answer c) t' r ∧ ∀ e ∈ t', e ∈ t := by
  induction h with
  | nil => cases hc
  | @cons c' r' u t₁ t₂ h _ ih =>
    rcases List.mem_cons.1 hc with he | hc
    · cases he
      exact ⟨t₁, h, fun e he => List.mem_append_left _ he⟩
    · obtain ⟨t', ht', hsub⟩ := ih hc
      exact ⟨t', ht', fun e he => List.mem_append_right _ (hsub e he)⟩

end Rowgate.Program

/-! ## Actions in the world -/

namespace Rowgate.World

open Program

variable {α : Type}

/-- A call on the database as one of the world, with its answer. -/
def databaseEvent (e : database.Event) : world.Event :=
  ⟨.database e.1, e.2⟩

theorem served_database_iff {u : List database.Event} {t : List world.Event} :
    Served (fun c => call (I := world) (.database c)) u t ↔ t = u.map databaseEvent := by
  constructor
  · intro h
    induction h with
    | nil => rfl
    | cons h _ ih =>
      obtain rfl := run_call_iff.1 h
      rw [ih]
      rfl
  · rintro rfl
    induction u with
    | nil => exact .nil
    | cons e u ih =>
      change Served _ (e :: u) ([databaseEvent e] ++ u.map databaseEvent)
      exact .cons (run_call_iff.2 rfl) ih

theorem run_ofDatabase_iff {p : Program database α} {t : List world.Event} {a : α} :
    Run (ofDatabase p) t a ↔ ∃ u, Run p u a ∧ t = u.map databaseEvent :=
  run_via_iff.trans (exists_congr fun _ => and_congr_right fun _ => served_database_iff)

theorem runs_ask_iff {c : WorldCall} {t : List world.Event} {r : Except Error c.Answer} :
    Runs (ask c) t r ↔ ∃ a, t = [⟨c, a⟩] ∧ r = .ok a := by
  refine runs_lift_iff.trans (exists_congr fun a => and_congr_left fun _ => ?_)
  exact run_call_iff

theorem runs_attempt_iff {a : Action α} {t : List world.Event} {r : Except Error (Except Error α)} :
    Runs (attempt a) t r ↔ ∃ x, Runs a t x ∧ r = .ok x :=
  runs_lift_iff

theorem runs_mapError_iff {f : Error → Error} {a : Action α} {t : List world.Event}
    {r : Except Error α} : Runs (mapError f a) t r ↔ ∃ x, Runs a t x ∧ r = x.mapError f := by
  unfold mapError
  rw [runs_bind_iff]
  simp only [runs_attempt_iff]
  constructor
  · rintro (⟨e, ⟨x, _, hx⟩, _⟩ | ⟨t₁, t₂, x, rfl, ⟨_, h, hx⟩, h₂⟩)
    · cases hx
    · cases hx
      cases x with
      | ok a =>
        obtain ⟨rfl, rfl⟩ := runs_pure_iff.1 h₂
        exact ⟨_, by rwa [List.append_nil], rfl⟩
      | error e =>
        obtain ⟨rfl, rfl⟩ := runs_throw_iff.1 h₂
        exact ⟨_, by rwa [List.append_nil], rfl⟩
  · rintro ⟨x, h, rfl⟩
    refine .inr ⟨t, [], x, (List.append_nil t).symm, ⟨x, h, rfl⟩, ?_⟩
    cases x with
    | ok a => exact runs_pure_iff.2 ⟨rfl, rfl⟩
    | error e => exact runs_throw_iff.2 ⟨rfl, rfl⟩

end Rowgate.World
