import RecordQuery.Proofs.Outcome
import RecordQuery.Proofs.Store.Contents
import RecordQuery.Proofs.Text.Trimming

/-!
# Statements that are read

* `Statement.parse_of_allBlank`: a blank text is no statement.
* `Executor.run_execute`: a text that reads as a statement runs as the statement.
* `Executor.run_execute_congr`: a text that draws no key runs alike whatever the next key is.
-/

namespace RecordQuery

theorem Statement.parse_of_allBlank {text : List Char} (h : Text.allBlank text = true) :
    Statement.parse text = .error .emptyQuery := by
  have htrim : Text.trim text = [] := by
    rw [Text.trim, Text.trimStart_eq_nil (List.all_eq_true.1 h)]
    rfl
  unfold Statement.parse normalize
  rw [htrim]
  simp only [List.getLast?_nil, Command.classify]
  rfl

/-- **A text that reads as a statement runs as the statement** where there is a connection. -/
theorem Executor.run_execute {σ : Type} (executor : Executor σ) {text : List Char}
    {statement : Statement} (hparse : Statement.parse text = .ok statement) {s : σ}
    (hconnected : executor.client.isConnected s = true) (generated : String) :
    (executor.execute generated text).run s = (executor.run generated statement).run s := by
  have hblank : ¬Text.allBlank text = true := by
    intro h
    rw [Statement.parse_of_allBlank h] at hparse
    cases hparse
  unfold execute ensureConnected
  rw [if_neg hblank]
  simp only [StoreM.run_bind, StoreM.run_get, hconnected, hparse, Bool.not_true]
  rfl

namespace Executor

variable {σ : Type} (executor : Executor σ) {text : List Char} {s : σ}

theorem draws_iff :
    executor.draws text s = true ↔
      executor.client.isConnected s = true ∧
        ∃ statement, Statement.parse text = .ok (.insert statement) ∧
          statement.explicitKey? = none := by
  unfold draws
  rw [Bool.and_eq_true]
  refine and_congr_right fun _ => ?_
  split
  next statement hparse => simp [hparse]
  next hother =>
    refine iff_of_false Bool.false_ne_true ?_
    rintro ⟨statement, hparse, -⟩
    exact hother statement hparse

/-- **A text that draws no key runs alike** whatever the next key is. -/
theorem run_execute_congr (h : executor.draws text s = false) (generated generated' : String) :
    (executor.execute generated text).run s = (executor.execute generated' text).run s := by
  by_cases hconnected : executor.client.isConnected s = true
  · cases hparse : Statement.parse text with
    | error e =>
      unfold execute
      rw [hparse]
      rfl
    | ok statement =>
      rw [executor.run_execute hparse hconnected, executor.run_execute hparse hconnected]
      cases statement with
      | insert insertion =>
        cases hkey : insertion.explicitKey? with
        | none =>
          rw [executor.draws_iff.2 ⟨hconnected, insertion, hparse, hkey⟩] at h
          cases h
        | some user =>
          simp only [run, insert, InsertStatement.resolve_of_explicitKey? hkey]
      | select _ | delete _ | update _ => rfl
  · unfold execute ensureConnected
    split
    · rfl
    · simp only [StoreM.run_bind, StoreM.run_get, hconnected]
      rfl

end Executor

end RecordQuery
