import Lexgen.World

namespace Lexgen

namespace Action

variable {α β : Type}

/-- What an action gives, and the world it leaves, when it starts in the world `w`. -/
def exec (action : Action α) (w : World) : Except Error α × World := action.run.run w

@[simp] theorem exec_pure (a : α) (w : World) : (pure a : Action α).exec w = (.ok a, w) := rfl

@[simp] theorem exec_get (w : World) : (get : Action World).exec w = (.ok w, w) := rfl

@[simp] theorem exec_set (w w' : World) : (set w' : Action PUnit).exec w = (.ok ⟨⟩, w') := rfl

theorem exec_tryCatch (action : Action α) (handler : Error → Action α) (w : World) :
    (tryCatch action handler).exec w =
      match action.exec w with
      | (.ok a, w') => (.ok a, w')
      | (.error e, w') => (handler e).exec w' := by
  simp only [exec, ExceptT.run_tryCatch, StateT.run_bind]
  rcases action.run.run w with ⟨_ | a, w'⟩ <;> rfl

@[simp] theorem exec_report (events : List Event) (w : World) :
    (report events).exec w = (.ok (), { w with events := w.events ++ events }) := rfl

theorem exec_bind (action : Action α) (next : α → Action β) (w : World) :
    (action >>= next).exec w =
      match action.exec w with
      | (.ok a, w') => (next a).exec w'
      | (.error e, w') => (.error e, w') := by
  simp only [exec, ExceptT.run_bind, StateT.run_bind]
  rcases action.run.run w with ⟨_ | a, w'⟩ <;> rfl

theorem exec_bind_ok {action : Action α} {w w' : World} {a : α}
    (haction : action.exec w = (.ok a, w')) (next : α → Action β) :
    (action >>= next).exec w = (next a).exec w' := by
  rw [exec_bind, haction]

theorem exec_bind_error {action : Action α} {w w' : World} {e : Error}
    (haction : action.exec w = (.error e, w')) (next : α → Action β) :
    (action >>= next).exec w = (.error e, w') := by
  rw [exec_bind, haction]

theorem exec_bind_eq_ok {action : Action α} {next : α → Action β} {w w'' : World} {b : β}
    (hbind : (action >>= next).exec w = (.ok b, w'')) :
    ∃ a w', action.exec w = (.ok a, w') ∧ (next a).exec w' = (.ok b, w'') := by
  rcases haction : action.exec w with ⟨_ | a, w'⟩
  · rw [exec_bind_error haction] at hbind
    simp at hbind
  · rw [exec_bind_ok haction] at hbind
    exact ⟨a, w', rfl, hbind⟩

theorem exec_query (f : Disk → Except Error α) (w : World) :
    (query f).exec w = (f w.disk, w) := by
  rw [query, exec_bind_ok (exec_get w)]
  cases f w.disk <;> rfl

theorem exec_loadFile (p : Path) (w : World) :
    (loadFile p).exec w =
      match Inputs.loadFile w.disk p with
      | .ok (lexicon, events) => (.ok lexicon, { w with events := w.events ++ events })
      | .error e => (.error e, w) := by
  have hquery := exec_query (Inputs.loadFile · p) w
  cases hload : Inputs.loadFile w.disk p with
  | error e =>
      rw [hload] at hquery
      exact exec_bind_error hquery _
  | ok compiled =>
      rw [hload] at hquery
      exact exec_bind_ok hquery _

end Action

end Lexgen
