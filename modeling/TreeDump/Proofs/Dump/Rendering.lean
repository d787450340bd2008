import TreeDump.Dump.Call
import TreeDump.Proofs.Dump.Conforming

/-!
# What calls render

A dump that asks for no flush is one write and then a result, whatever the sink does. A call of the
printer is such a dump, or a section around one. So what a call does with any sink whose flushes
succeed is determined by what it does alone: the bytes that it renders on a new sink without a limit,
and the result that it ends with there.
-/

namespace TreeDump

namespace DumpM

variable {α β : Type}

/-- Writes bytes and ends with a result. -/
def emit (bytes : ByteArray) (result : Except DumpError α) : DumpM α := do
  writeBytes bytes
  ofExcept result

/-- A dump that is one write and then a result. -/
def Direct (dump : DumpM α) : Prop := ∃ bytes result, dump = emit bytes result

lemma emit_ok (bytes : ByteArray) : emit bytes (.ok ()) = writeBytes bytes := bind_pure_unit

lemma emit_ok_bind (bytes : ByteArray) (value : α) (next : α → DumpM β) :
    emit bytes (.ok value) >>= next = writeBytes bytes >>= fun _ => next value := by
  rw [emit, bind_assoc]
  rfl

lemma emit_error_bind (bytes : ByteArray) (error : DumpError) (next : α → DumpM β) :
    emit bytes (.error error) >>= next = emit bytes (.error error) := by
  rw [emit, bind_assoc]
  rfl

lemma writeBytes_bind_emit (front back : ByteArray) (result : Except DumpError α) :
    (writeBytes front >>= fun _ => emit back result) = emit (front ++ back) result := by
  rw [emit, emit, ← bind_assoc, writeBytes_append]

lemma runOn_emit (bytes : ByteArray) (result : Except DumpError α) (sink : Sink) :
    (emit bytes result).runOn sink =
      ((sink.write bytes).1.mapError DumpError.io >>= fun _ => result, (sink.write bytes).2) := by
  have hwrite : (writeBytes bytes).runOn sink =
      ((sink.write bytes).1.mapError DumpError.io, (sink.write bytes).2) := rfl
  rw [emit, runOn_bind, hwrite]
  rcases sink.write bytes with ⟨outcome, after⟩
  cases outcome <;> rfl

namespace Direct

lemma ofExcept (read : Except DumpError α) : Direct (.ofExcept read) := by
  have hempty : writeBytes ByteArray.empty = pure () := write_empty
  refine ⟨ByteArray.empty, read, ?_⟩
  rw [emit, hempty, pure_bind]

lemma pure (value : α) : Direct (Pure.pure value) := ofExcept (.ok value)

lemma writeBytes (bytes : ByteArray) : Direct (.writeBytes bytes) :=
  ⟨bytes, .ok (), (emit_ok bytes).symm⟩

lemma write (text : String) : Direct (.write text) := writeBytes text.toUTF8

lemma bind {dump : DumpM α} {next : α → DumpM β} (hdump : Direct dump)
    (hnext : ∀ value, Direct (next value)) : Direct (dump >>= next) := by
  obtain ⟨bytes, result, rfl⟩ := hdump
  cases result with
  | error error => exact ⟨bytes, .error error, emit_error_bind bytes error next⟩
  | ok value =>
    obtain ⟨more, result, hvalue⟩ := hnext value
    refine ⟨bytes ++ more, result, ?_⟩
    rw [emit_ok_bind, hvalue, writeBytes_bind_emit]

lemma forM {elements : List α} {dump : α → DumpM Unit} (h : ∀ element, Direct (dump element)) :
    Direct (elements.forM dump) := by
  induction elements with
  | nil => exact pure ()
  | cons element elements ih => exact (h element).bind fun _ => ih

lemma line (text : String) (depth : Nat) : Direct (.line text depth) :=
  (write (indentText depth)).bind fun _ => write text

lemma heading (label : String) (depth : Nat) : Direct (.heading label depth) := line _ depth

lemma enclosed (title : String) {body : DumpM Unit} (h : Direct body) :
    Direct (do
      DumpM.title title
      body
      DumpM.write "\n") :=
  (write (titleText title)).bind fun _ => h.bind fun _ => write "\n"

end Direct

/-- On every sink whose flushes succeed, a dump does one write and ends with a result. In the end it
asks for a flush on all of them or on none. -/
def Renders (dump : DumpM Unit) (bytes : ByteArray) (result : Except DumpError Unit) : Prop :=
  ∃ flushing : Bool, ∀ sink : Sink, sink.failsFlush = false →
    let written := (emit bytes result).runOn sink
    dump.runOn sink = (written.1, if flushing then written.2.flush.2 else written.2)

lemma Direct.renders {dump : DumpM Unit} (h : Direct dump) :
    ∃ bytes result, Renders dump bytes result := by
  obtain ⟨bytes, result, rfl⟩ := h
  exact ⟨bytes, result, false, fun _ _ => rfl⟩

lemma runOn_flush {sink : Sink} (h : sink.failsFlush = false) :
    flush.runOn sink = (.ok (), sink.flush.2) := by
  change (sink.flush.1.mapError DumpError.io, sink.flush.2) = _
  rw [Sink.flush, h]
  rfl

lemma renders_titled (title : String) {body : DumpM Unit} (h : Direct body) :
    ∃ bytes result, Renders (titled title body) bytes result := by
  obtain ⟨bytes, result, henclosed⟩ := h.enclosed title
  refine ⟨bytes, result, true, fun sink hsink => ?_⟩
  have hafter : ((emit bytes result).runOn sink).2.failsFlush = false := by
    rw [runOn_emit, Sink.failsFlush_write, hsink]
  rw [runOn_titled, henclosed]
  dsimp only
  rw [runOn_flush hafter]
  cases ((emit bytes result).runOn sink).1 <;> rfl

/-- The line break that ends a section if nothing has failed. -/
def closing : Except DumpError Unit → ByteArray
  | .ok () => "\n".toUTF8
  | .error _ => .empty

/-- What a section comes to: its title between marks, the bytes of its body, and the line break. -/
def sectionBytes (title : String) (body : ByteArray) (result : Except DumpError Unit) : ByteArray :=
  ("@@ " ++ title ++ " @@").toUTF8 ++ body ++ closing result

lemma enclosed_emit (text : String) (bytes : ByteArray) (result : Except DumpError Unit) :
    (do
      title text
      emit bytes result
      write "\n" : DumpM Unit) = emit (sectionBytes text bytes result) result := by
  rw [sectionBytes]
  cases result with
  | error error =>
    rw [emit_error_bind, closing, ByteArray.append_empty]
    exact writeBytes_bind_emit ..
  | ok value =>
    rw [emit_ok_bind, emit_ok, ← writeBytes_append, ← writeBytes_append, bind_assoc]
    rfl

lemma runOn_titled_emit (text : String) (bytes : ByteArray) (result : Except DumpError Unit)
    {sink : Sink} (hroom : sink.room = none) (hflush : sink.failsFlush = false) :
    (titled text (emit bytes result)).runOn sink =
      (result, (sink.write (sectionBytes text bytes result)).2.flush.2) := by
  rw [runOn_titled, enclosed_emit, runOn_emit]
  generalize sectionBytes text bytes result = written
  have hwrite : (sink.write written).1 = .ok () := by rw [Sink.write, hroom]
  have hafter : (sink.write written).2.failsFlush = false := by
    rw [Sink.failsFlush_write, hflush]
  dsimp only
  rw [hwrite, runOn_flush hafter]
  cases result <;> rfl

end DumpM

open DumpM

lemma Schema.direct_printNode (schema : Schema) (node : Option Node) (depth : Nat) :
    Direct (schema.printNode node depth) := by
  rw [printNode_eq_write]
  exact (Direct.write _).bind fun _ => .ofExcept _

lemma Constant.direct_print (constant : Constant) (depth : Nat) :
    Direct (constant.print depth) := by
  cases constant with
  | string bytes =>
    exact (Direct.write _).bind fun _ => (Direct.write _).bind fun _ =>
      (Direct.writeBytes _).bind fun _ => .write _
  | double value => exact .line _ depth

lemma Constant.direct_printEntry (symbols objects : Table Node) (entry : String × String) :
    Direct (Constant.printEntry symbols objects entry) :=
  (Direct.heading _ entryDepth).bind fun _ => (Direct.ofExcept _).bind fun constant =>
    constant.direct_print (entryDepth + 1)

namespace Call

/-- How a call ends alone, on a new sink that takes everything. -/
def result (call : Call) (schema : Schema) : Except DumpError Unit :=
  ((call.dump schema).runOn (.new none false)).1

/-- What a call writes alone, on a new sink that takes everything. -/
def bytes (call : Call) (schema : Schema) : ByteArray :=
  ((call.dump schema).runOn (.new none false)).2.bytes

/-- The title and the body of a call that dumps under a title. -/
def titled? (schema : Schema) : Call → Option (String × DumpM Unit)
  | printTree root title => some (title, schema.printNode root 0)
  | printNode _ _ => none
  | printTokens tokens => some ("Tokens", do
    .heading (listLabel tokens.length) 1
    tokens.forM fun token => .line token.text 2)
  | dumpTable table title => some (title, do
    .heading (tableLabel table.size) 1
    schema.printEntries table)
  | dumpConstantTable constants symbols objects title => some (title, do
    .heading (tableLabel constants.size) 1
    constants.entries.forM (Constant.printEntry symbols objects))
  | dumpSet names title => some (title, do
    .heading (setLabel names.size) 1
    names.keys.forM fun name => .line (": " ++ name) entryDepth)

section Titled

variable {call : Call} {schema : Schema} {title : String} {body : DumpM Unit}

lemma dump_of_titled? (h : call.titled? schema = some (title, body)) :
    call.dump schema = titled title body := by
  cases call <;> cases h <;> rfl

lemma direct_of_titled? (h : call.titled? schema = some (title, body)) : Direct body := by
  cases call with
  | printNode node depth => cases h
  | printTree root title =>
    cases h
    exact schema.direct_printNode root 0
  | printTokens tokens =>
    cases h
    exact (Direct.heading _ 1).bind fun _ => .forM fun token => .line token.text 2
  | dumpTable table title =>
    cases h
    exact (Direct.heading _ 1).bind fun _ => .forM fun entry =>
      (Direct.heading _ entryDepth).bind fun _ => schema.direct_printNode (some entry.2) entryDepth
  | dumpConstantTable constants symbols objects title =>
    cases h
    exact (Direct.heading _ 1).bind fun _ => .forM fun entry =>
      Constant.direct_printEntry symbols objects entry
  | dumpSet names title =>
    cases h
    exact (Direct.heading _ 1).bind fun _ => .forM fun name => .line (": " ++ name) entryDepth

lemma direct_dump (h : call.titled? schema = none) : Direct (call.dump schema) := by
  cases call with
  | printNode node depth => exact schema.direct_printNode node depth
  | _ => cases h

end Titled

lemma exists_renders (call : Call) (schema : Schema) :
    ∃ bytes result, Renders (call.dump schema) bytes result := by
  cases h : call.titled? schema with
  | none => exact (direct_dump h).renders
  | some parts =>
    rw [dump_of_titled? h]
    exact renders_titled parts.1 (direct_of_titled? h)

/-- A call does everywhere what it does alone. -/
theorem renders (call : Call) (schema : Schema) :
    Renders (call.dump schema) (call.bytes schema) (call.result schema) := by
  obtain ⟨bytes, result, h⟩ := call.exists_renders schema
  obtain ⟨flushing, hrun⟩ := h
  have halone := hrun (.new none false) rfl
  have hbytes : call.bytes schema = bytes := by
    rw [Call.bytes, halone, runOn_emit]
    cases flushing <;> exact ByteArray.empty_append
  have hresult : call.result schema = result := by
    rw [Call.result, halone, runOn_emit]
    rfl
  rw [hbytes, hresult]
  exact ⟨flushing, hrun⟩

end Call

end TreeDump
