import DocSuite.Backend.Basic
/-!
# Running sessions

A session is read through `Session.runAfter`: the outcome and the log after it. These are the
laws every later proof about requests goes through: `pure` and `throw` leave the log alone,
a bind runs its second part after the first only when the first succeeds, and a request joins
the log whatever the backend answers (`request_runAfter`).
-/

namespace DocSuite

namespace Session

variable {α β : Type}

@[simp] theorem runAfter_pure (log : List CompileRequest) (a : α) :
    runAfter log (pure a : Session α) = (.ok a, log) := rfl

@[simp] theorem runAfter_throw (log : List CompileRequest) (e : Error) :
    runAfter log (throw e : Session α) = (.error e, log) := rfl

theorem run_eq_runAfter (s : Session α) : s.run = runAfter [] s := rfl

theorem runAfter_bind (log : List CompileRequest) (x : Session α) (f : α → Session β) :
    runAfter log (x >>= f) =
      match runAfter log x with
      | (.ok a, log') => runAfter log' (f a)
      | (.error e, log') => (.error e, log') := by
  simp only [runAfter, ExceptT.run, bind, ExceptT.bind, ExceptT.mk, StateT.run, StateT.bind]
  rcases x log with ⟨_ | a, log'⟩ <;> rfl

theorem runAfter_map (log : List CompileRequest) (x : Session α) (f : α → β) :
    runAfter log (f <$> x) =
      match runAfter log x with
      | (.ok a, log') => (.ok (f a), log')
      | (.error e, log') => (.error e, log') := by
  simp only [runAfter, ExceptT.run, Functor.map, ExceptT.map, ExceptT.mk, StateT.run,
    StateT.bind, bind]
  rcases x log with ⟨_ | a, log'⟩ <;> rfl

theorem runAfter_bind_ok {log log' : List CompileRequest} {x : Session α} {a : α}
    (h : runAfter log x = (.ok a, log')) (f : α → Session β) :
    runAfter log (x >>= f) = runAfter log' (f a) := by
  rw [runAfter_bind, h]

theorem runAfter_bind_error {log log' : List CompileRequest} {x : Session α} {e : Error}
    (h : runAfter log x = (.error e, log')) (f : α → Session β) :
    runAfter log (x >>= f) = (.error e, log') := by
  rw [runAfter_bind, h]

theorem runAfter_map_ok {log log' : List CompileRequest} {x : Session α} {a : α}
    (h : runAfter log x = (.ok a, log')) (f : α → β) :
    runAfter log (f <$> x) = (.ok (f a), log') := by
  rw [runAfter_map, h]

theorem runAfter_map_error {log log' : List CompileRequest} {x : Session α} {e : Error}
    (h : runAfter log x = (.error e, log')) (f : α → β) :
    runAfter log (f <$> x) = (.error e, log') := by
  rw [runAfter_map, h]

end Session

/-- A request joins the log, and its outcome is the backend's answer, unchanged. -/
theorem Backend.request_runAfter (b : Backend) (r : CompileRequest) (log : List CompileRequest) :
    Session.runAfter log (b.request r) = (b.compile r, log ++ [r]) := by
  unfold Backend.request
  cases b.compile r <;> rfl

end DocSuite
