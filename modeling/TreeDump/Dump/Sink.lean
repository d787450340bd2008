import TreeDump.Error

/-!
# Sinks and dumps

A sink holds the bytes that it has taken and may have room for a limited number more. What does not
fit is taken as far as it fits, and then the write fails. A dump is an action on a sink that ends
early at the first failure. What the sink has taken by then it keeps.
-/

namespace TreeDump

/-- A place that dumps are written to. -/
structure Sink where
  bytes : ByteArray
  /-- How many bytes it still takes, if there is a limit. -/
  room : Option Nat
  /-- Whether a flush fails. -/
  failsFlush : Bool
  /-- How many flushes have been asked for. -/
  flushes : Nat
  /-- Whether it has been offered any bytes since it was last asked to flush. -/
  unflushed : Bool

namespace Sink

/-- The empty sink with a limit, if any, and working or failing flushes. -/
def new (limit : Option Nat) (failsFlush : Bool) : Sink := ⟨.empty, limit, failsFlush, 0, false⟩

/-- The sink after a write, with the fault if not all bytes fit. A write of no bytes offers it
nothing. -/
def write (sink : Sink) (bytes : ByteArray) : Except SinkFault Unit × Sink :=
  let offered := { sink with unflushed := sink.unflushed || bytes.size ≠ 0 }
  match sink.room with
  | none => (.ok (), { offered with bytes := sink.bytes ++ bytes })
  | some room =>
    if bytes.size ≤ room then
      (.ok (), { offered with bytes := sink.bytes ++ bytes, room := some (room - bytes.size) })
    else
      (.error .full, { offered with bytes := sink.bytes ++ bytes.extract 0 room, room := some 0 })

/-- The sink after a flush, with the fault if it fails. -/
def flush (sink : Sink) : Except SinkFault Unit × Sink :=
  (if sink.failsFlush then .error .flushFailed else .ok (),
    { sink with flushes := sink.flushes + 1, unflushed := false })

end Sink

/-- An action on a sink that ends at the first failure. -/
abbrev DumpM := ExceptT DumpError (StateM Sink)

namespace DumpM

/-- The result of a dump and the sink after it. -/
def runOn {α : Type} (dump : DumpM α) (sink : Sink) : Except DumpError α × Sink :=
  dump.run.run sink

def ask (request : Sink → Except SinkFault Unit × Sink) : DumpM Unit :=
  ExceptT.mk fun sink =>
    let (outcome, after) := request sink
    (outcome.mapError DumpError.io, after)

def writeBytes (bytes : ByteArray) : DumpM Unit := ask (·.write bytes)

def write (text : String) : DumpM Unit := writeBytes text.toUTF8

def flush : DumpM Unit := ask Sink.flush

/-- The action that ends early if what was read is a failure. -/
def ofExcept {α : Type} (read : Except DumpError α) : DumpM α := ExceptT.mk (pure read)

/-- The outcome of an action, as an action that does not end early. -/
def outcome {α : Type} (dump : DumpM α) : DumpM (Except DumpError α) := ExceptT.lift dump.run

end DumpM

end TreeDump
