import TreeDump.Proofs.Dump.Rendering

/-!
# Flushing of sections

A section is a dump under a title. Nothing but its end asks for a flush: the title, the body and the
line break after it only write. So every section asks for one flush, after all that it offers to the
sink, whether or not it has failed by then. What went wrong first is reported, and the flush only if
nothing did before. A tree that is printed below a depth is no section and asks for none.
-/

namespace TreeDump

namespace Sink

lemma unflushed_write (sink : Sink) (bytes : ByteArray) :
    (sink.write bytes).2.unflushed = (sink.unflushed || bytes.size ≠ 0) := by
  unfold write
  dsimp only
  split
  · rfl
  · split <;> rfl

end Sink

namespace DumpM

variable {α : Type} {dump : DumpM α}

lemma Direct.flushes_runOn (h : Direct dump) (sink : Sink) :
    (dump.runOn sink).2.flushes = sink.flushes := by
  obtain ⟨bytes, result, rfl⟩ := h
  rw [runOn_emit]
  exact sink.flushes_write bytes

lemma Direct.failsFlush_runOn (h : Direct dump) (sink : Sink) :
    (dump.runOn sink).2.failsFlush = sink.failsFlush := by
  obtain ⟨bytes, result, rfl⟩ := h
  rw [runOn_emit]
  exact sink.failsFlush_write bytes

lemma Direct.unflushed_runOn (h : Direct dump) {sink : Sink} (hsink : sink.unflushed = true) :
    (dump.runOn sink).2.unflushed = true := by
  obtain ⟨bytes, result, rfl⟩ := h
  rw [runOn_emit]
  dsimp only
  rw [Sink.unflushed_write, hsink, Bool.true_or]

lemma flush_fst (sink : Sink) :
    (flush.runOn sink).1 = if sink.failsFlush then .error (.io .flushFailed) else .ok () := by
  change sink.flush.1.mapError DumpError.io = _
  unfold Sink.flush
  split <;> rfl

lemma size_titleText_pos (text : String) : (titleText text).toUTF8.size ≠ 0 := by
  have hsize : (titleText text).utf8ByteSize = 3 + text.utf8ByteSize + 3 := by
    simp only [titleText, String.utf8ByteSize_append]
    rfl
  change (titleText text).utf8ByteSize ≠ 0
  omega

/-- What a title, a body and a line break do with a sink. The line break is written if title and
body have succeeded. -/
def enclose (text : String) (body : DumpM Unit) (sink : Sink) : Except DumpError Unit × Sink :=
  let opened := (do
    title text
    body : DumpM Unit).runOn sink
  match opened.1 with
  | .ok () => (write "\n").runOn opened.2
  | .error _ => opened

lemma runOn_enclosed (text : String) (body : DumpM Unit) (sink : Sink) :
    (do
      title text
      body
      write "\n" : DumpM Unit).runOn sink = enclose text body sink := by
  rw [← bind_assoc, runOn_bind]
  unfold enclose
  generalize runOn _ sink = opened
  rcases opened with ⟨_ | _, after⟩ <;> rfl

section Enclosed

variable (text : String) {body : DumpM Unit} (h : Direct body) (sink : Sink)
include h

lemma flushes_enclose : (enclose text body sink).2.flushes = sink.flushes := by
  rw [← runOn_enclosed]
  exact (h.enclosed text).flushes_runOn sink

lemma failsFlush_enclose : (enclose text body sink).2.failsFlush = sink.failsFlush := by
  rw [← runOn_enclosed]
  exact (h.enclosed text).failsFlush_runOn sink

/-- A title is never empty, so something has been offered to the sink by the end. -/
lemma unflushed_enclose : (enclose text body sink).2.unflushed = true := by
  have htitle : ((title text).runOn sink).2.unflushed = true := by
    change (sink.write (titleText text).toUTF8).2.unflushed = true
    rw [Sink.unflushed_write, decide_eq_true (size_titleText_pos text), Bool.or_true]
  have hrest : Direct (body >>= fun _ => write "\n") := h.bind fun _ => .write "\n"
  rw [← runOn_enclosed, runOn_bind]
  rcases hrun : (title text).runOn sink with ⟨_ | _, after⟩ <;> rw [hrun] at htitle
  · exact htitle
  · exact hrest.unflushed_runOn htitle

end Enclosed

end DumpM

open DumpM

namespace Call

/-- Every section asks its sink for one flush, after all that it offers to it. The result is the
first fault of title, body and line break, and else that of the flush, and the line break is written
exactly if title and body succeed. A tree that is printed below a depth asks for no flush. -/
theorem runOn_dump_flushes (call : Call) (schema : Schema) (sink : Sink) :
    let done := (call.dump schema).runOn sink
    match call.titled? schema with
    | some (title, body) =>
      let written := enclose title body sink
      written.2.flushes = sink.flushes ∧ written.2.unflushed = true ∧
        done.2 = { written.2 with flushes := sink.flushes + 1, unflushed := false } ∧
        done.1 = match written.1 with
          | .error error => .error error
          | .ok () => if sink.failsFlush then .error (.io .flushFailed) else .ok ()
    | none => done.2.flushes = sink.flushes := by
  intro done
  cases h : call.titled? schema with
  | none => exact (direct_dump h).flushes_runOn sink
  | some parts =>
    obtain ⟨title, body⟩ := parts
    have hbody : Direct body := direct_of_titled? h
    have hdone : done = (titled title body).runOn sink := by rw [← dump_of_titled? h]
    rw [runOn_titled, runOn_enclosed] at hdone
    refine ⟨flushes_enclose title hbody sink, unflushed_enclose title hbody sink, ?_, ?_⟩
    · rw [hdone, ← flushes_enclose title hbody sink]
      rfl
    · rw [hdone]
      dsimp only
      rw [flush_fst, failsFlush_enclose title hbody sink]
      rcases (enclose title body sink).1 with _ | _ <;> rfl

end Call

end TreeDump
