/-! When computations that can fail succeed, and what they fail with. -/
namespace Highlighter.Result

variable {ε α β : Type}

theorem bind_eq_ok {read : Except ε α} {next : α → Except ε β} {b : β} :
    (read >>= next) = .ok b ↔ ∃ a, read = .ok a ∧ next a = .ok b := by
  cases read with
  | error e => simp [bind, Except.bind]
  | ok a => simp [bind, Except.bind]

theorem eq_ok_of_isOk {result : Except ε α} (ok : result.isOk = true) : ∃ a, result = .ok a := by
  cases result with
  | error e => cases ok
  | ok a => exact ⟨a, rfl⟩

theorem eq_ok_of_any {result : Except ε α} {p : α → Bool} (passes : result.toOption.any p = true) :
    ∃ a, result = .ok a ∧ p a = true := by
  cases result with
  | error e => cases passes
  | ok a => exact ⟨a, rfl, passes⟩

theorem map_eq_ok {read : Except ε α} {f : α → β} {b : β} :
    f <$> read = .ok b ↔ ∃ a, read = .ok a ∧ f a = b := by
  cases read with
  | error e => simp [Functor.map, Except.map]
  | ok a => simp [Functor.map, Except.map]

theorem map_eq_error {read : Except ε α} {f : α → β} {e : ε} :
    f <$> read = .error e ↔ read = .error e := by
  cases read with
  | error other => simp [Functor.map, Except.map]
  | ok a => simp [Functor.map, Except.map]

section MapError

variable {δ : Type} {f : ε → δ}

@[simp]
theorem mapError_ok (a : α) : (Except.ok a : Except ε α).mapError f = .ok a := rfl

@[simp]
theorem mapError_error (e : ε) : (Except.error e : Except ε α).mapError f = .error (f e) := rfl

theorem mapError_eq_ok {read : Except ε α} {a : α} : read.mapError f = .ok a ↔ read = .ok a := by
  cases read with
  | error e => simp
  | ok b => simp

end MapError

section Error

variable {P : ε → Prop}

/-- A sequence of two computations fails as one of them does. -/
theorem error_of_bind {read : Except ε α} {next : α → Except ε β}
    (first : ∀ e, read = .error e → P e) (second : ∀ a e, next a = .error e → P e) :
    ∀ e, (read >>= next) = .error e → P e := by
  intro e fails
  cases read with
  | error other =>
    cases fails
    exact first _ rfl
  | ok a => exact second a e fails

theorem error_of_mapM {f : α → Except ε β} (each : ∀ a e, f a = .error e → P e) (as : List α) :
    ∀ e, as.mapM f = .error e → P e := by
  induction as with
  | nil => intro e fails; cases fails
  | cons a rest ih =>
    rw [List.mapM_cons]
    refine error_of_bind (each a) fun _ => error_of_bind ih fun _ e fails => ?_
    cases fails

end Error

/-- A list of results succeeds when each of them does. -/
theorem mapM_id_eq_ok {results : List (Except ε α)} {as : List α} :
    results.mapM id = .ok as ↔ results = as.map .ok := by
  induction results generalizing as with
  | nil =>
    cases as with
    | nil => simp [pure, Except.pure]
    | cons a as => simp [pure, Except.pure]
  | cons result rest ih =>
    rw [List.mapM_cons, id, bind_eq_ok]
    constructor
    · rintro ⟨a, rfl, following⟩
      obtain ⟨others, read, whole⟩ := bind_eq_ok.mp following
      cases whole
      rw [List.map_cons, ih.mp read]
    · intro same
      cases as with
      | nil => simp at same
      | cons a as =>
        obtain ⟨rfl, others⟩ := List.cons.inj same
        exact ⟨a, rfl, bind_eq_ok.mpr ⟨as, ih.mpr others, rfl⟩⟩

/-- A list of results fails with the first error in it. -/
theorem mapM_id_error (as : List α) (e : ε) (rest : List (Except ε α)) :
    (as.map Except.ok ++ Except.error e :: rest).mapM id = .error e := by
  induction as with
  | nil =>
    rw [List.map_nil, List.nil_append, List.mapM_cons]
    rfl
  | cons a as ih =>
    rw [List.map_cons, List.cons_append, List.mapM_cons, ih]
    rfl

end Highlighter.Result
