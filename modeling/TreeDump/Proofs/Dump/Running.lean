import TreeDump.Dump.Line
import Mathlib.Tactic.Lemma

/-!
# Running dumps

What a dump that is put together from others does with a sink: a dump after another one goes on with
the sink that the first one leaves, unless the first one failed.
-/

namespace TreeDump.DumpM

variable {α β : Type}

lemma runOn_pure (value : α) (sink : Sink) :
    (pure value : DumpM α).runOn sink = (.ok value, sink) := rfl

lemma runOn_bind (dump : DumpM α) (next : α → DumpM β) (sink : Sink) :
    (dump >>= next).runOn sink =
      match dump.runOn sink with
      | (.ok value, after) => (next value).runOn after
      | (.error error, after) => (.error error, after) := by
  unfold runOn ExceptT.run StateT.run
  simp only [bind, ExceptT.bind, ExceptT.mk, StateT.bind]
  rcases dump sink with ⟨outcome, after⟩
  cases outcome <;> rfl

lemma runOn_bind_ok {dump : DumpM α} {next : α → DumpM β} {sink after : Sink} {value : α}
    (h : dump.runOn sink = (.ok value, after)) :
    (dump >>= next).runOn sink = (next value).runOn after := by
  rw [runOn_bind, h]

lemma runOn_ofExcept (read : Except DumpError α) (sink : Sink) :
    (ofExcept read).runOn sink = (read, sink) := rfl

lemma ofExcept_error_bind (error : DumpError) (next : α → DumpM β) :
    (ofExcept (.error error) : DumpM α) >>= next = ofExcept (.error error) := rfl

lemma ofExcept_ok_bind (value : α) (next : α → DumpM β) :
    (ofExcept (.ok value) : DumpM α) >>= next = next value := rfl

lemma runOn_outcome (dump : DumpM α) (sink : Sink) :
    (outcome dump).runOn sink = (.ok (dump.runOn sink).1, (dump.runOn sink).2) := rfl

/-- A section is flushed after its last write, and of two failures the first is reported. -/
lemma runOn_titled (text : String) (body : DumpM Unit) (sink : Sink) :
    (titled text body).runOn sink =
      let written := (do
        title text
        body
        write "\n" : DumpM Unit).runOn sink
      (do
        written.1
        (flush.runOn written.2).1, (flush.runOn written.2).2) := by
  unfold titled
  rw [runOn_bind_ok (runOn_outcome _ _), runOn_bind_ok (runOn_outcome _ _)]
  generalize runOn _ sink = written
  rcases written with ⟨outcome, after⟩
  cases outcome <;> rfl

end TreeDump.DumpM
