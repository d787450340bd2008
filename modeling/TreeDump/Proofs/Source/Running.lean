import TreeDump.Proofs.Dump.Running
import TreeDump.Proofs.Source.Meaning

/-!
# Dumps as runs

A dump is a run of a part of the function: it goes on with its value, or ends the function with its
failure. Sequences of dumps are sequences of runs, and what `?` makes of a dump's outcome is the dump
itself.
-/

namespace TreeDump.Source

namespace Run

variable {α β : Type}

/-- A dump as a part of the function. -/
def ofDump (dump : DumpM α) : Run α := ExceptT.mk fun sink =>
  some ((dump.runOn sink).1.mapError Except.error, (dump.runOn sink).2)

lemma bind_apply (run : Run α) (next : α → Run β) (sink : Sink) :
    (run >>= next) sink =
      match run sink with
      | none => none
      | some (.ok value, after) => next value after
      | some (.error result, after) => some (.error result, after) := by
  simp only [bind, ExceptT.bind, ExceptT.mk, StateT.bind]
  rcases run sink with _ | ⟨outcome, after⟩
  · rfl
  · cases outcome <;> rfl

lemma ofDump_pure (value : α) : ofDump (pure value) = pure value := rfl

lemma ofDump_bind (dump : DumpM α) (next : α → DumpM β) :
    ofDump (dump >>= next) = ofDump dump >>= fun value => ofDump (next value) := by
  funext sink
  rw [bind_apply]
  simp only [ofDump, ExceptT.mk, DumpM.runOn_bind]
  rcases dump.runOn sink with ⟨outcome, after⟩
  cases outcome <;> rfl

lemma ofDump_forM {ι ρ : Type} {round : ι → ρ} {body : ρ → Run Unit} {dump : ι → DumpM Unit}
    (items : List ι) (hbody : ∀ item, body (round item) = ofDump (dump item)) :
    (items.map round).forM body = ofDump (items.forM dump) := by
  induction items with
  | nil => rfl
  | cons item items ih =>
    rw [List.map_cons, List.forM, List.forM, ofDump_bind, hbody, ih]

lemma discard_eq_bind (run : Run α) : discard run = run >>= fun _ => pure () := by
  unfold discard
  rw [map_const, Function.comp_apply, map_eq_pure_bind]

lemma discard_ofDump (dump : DumpM Unit) (value : α) :
    discard (ofDump dump >>= fun _ => pure value) = ofDump dump := by
  simp only [discard_eq_bind, bind_assoc, pure_bind, bind_pure_unit]

/-- What `?` makes of the outcome of a dump. -/
lemma attempt_ofAction (dump : DumpM Unit) :
    (Value.ofResult <$> ofAction (actionOf dump)) >>= Value.attempt =
      ofDump dump >>= fun _ => pure .unit := by
  funext sink
  rw [bind_apply, bind_apply, map_eq_pure_bind, bind_apply]
  have haction : ofAction (actionOf dump) sink =
      some (.ok (dump.runOn sink).1, (dump.runOn sink).2) := rfl
  simp only [haction, ofDump, ExceptT.mk]
  rcases dump.runOn sink with ⟨outcome, after⟩
  cases outcome <;> rfl

/-- What `?` makes of a field that is read. -/
lemma attempt_read (read : Except DumpError α) (value : α → Value) :
    Value.attempt (.result (read.map value)) =
      ofDump (.ofExcept read) >>= fun found => pure (value found) := by
  cases read <;> rfl

lemma finish_apply (run : Run Result) (sink : Sink) :
    finish run sink =
      match run sink with
      | none => none
      | some (.ok result, after) => some (result, after)
      | some (.error result, after) => some (result, after) := by
  unfold finish ExceptT.run
  simp only [bind, StateT.bind]
  rcases run sink with _ | ⟨outcome, after⟩
  · rfl
  · cases outcome <;> rfl

lemma finish_ofDump (dump : DumpM Unit) :
    finish (ofDump dump >>= fun _ => pure (.ok ())) = actionOf dump := by
  funext sink
  rw [finish_apply, bind_apply]
  simp only [ofDump, ExceptT.mk, actionOf]
  rcases dump.runOn sink with ⟨outcome, after⟩
  cases outcome <;> rfl

lemma finish_leave (dump : DumpM Unit) (next : Value → Run Result) :
    finish ((Value.ofResult <$> ofAction (actionOf dump)) >>= Value.leave >>= next) =
      actionOf dump := by
  funext sink
  rw [finish_apply, bind_apply, bind_apply, map_eq_pure_bind, bind_apply]
  have haction : ofAction (actionOf dump) sink =
      some (.ok (dump.runOn sink).1, (dump.runOn sink).2) := rfl
  simp only [haction, actionOf]
  rcases dump.runOn sink with ⟨outcome, after⟩
  cases outcome <;> rfl

end Run

end TreeDump.Source
