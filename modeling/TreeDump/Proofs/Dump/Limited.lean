import TreeDump.Proofs.Dump.Rendering
import Mathlib.Data.List.Induction

/-!
# Runs on a limited sink

A sink that takes a limited number of bytes in total cuts a run of calls at one place, wherever that
is: it holds the front part of everything that the calls render. A call whose bytes still fit ends as
it does alone. Any other is told that the sink is full, even if it would have failed by itself later
on. Main statement: this holds of every call in every run, whatever became of the calls before it.
-/

namespace TreeDump

namespace Sink

/-- A sink that has been offered some bytes, of which it takes no more than a limit. -/
structure Holds (sink : Sink) (limit : Nat) (offered : ByteArray) : Prop where
  bytes : sink.bytes = offered.extract 0 limit
  room : sink.room = some (limit - offered.size)
  flushes : sink.failsFlush = false

lemma holds_new (limit : Nat) : (new (some limit) false).Holds limit .empty where
  bytes := (ByteArray.extract_eq_empty_iff.2 (by simp)).symm
  room := rfl
  flushes := rfl

lemma extract_min_size (bytes : ByteArray) (room : Nat) :
    bytes.extract 0 (min bytes.size room) = bytes.extract 0 room := by
  rcases Nat.le_total bytes.size room with hall | hcut
  · rw [Nat.min_eq_left hall, ByteArray.extract_zero_size, extract_of_size_le hall]
  · rw [Nat.min_eq_right hcut]

lemma Holds.size_bytes {sink : Sink} {limit : Nat} {offered : ByteArray}
    (h : sink.Holds limit offered) : limit - sink.bytes.size = limit - offered.size := by
  rw [h.bytes, ByteArray.size_extract]
  omega

lemma write_of_holds {sink : Sink} {limit : Nat} {offered : ByteArray}
    (h : sink.Holds limit offered) (bytes : ByteArray) :
    (sink.write bytes).1 = (if bytes.size ≤ limit - offered.size then .ok () else .error .full) ∧
      (sink.write bytes).2.bytes = sink.bytes ++ bytes.extract 0 (limit - offered.size) ∧
      (sink.write bytes).2.Holds limit (offered ++ bytes) := by
  obtain ⟨taken, room, failsFlush, flushes, unflushed⟩ := sink
  obtain ⟨hbytes, hroom, hflush⟩ := h
  dsimp only at hbytes hroom hflush
  subst hbytes hroom hflush
  have hoffered : (offered ++ bytes).extract 0 limit =
      offered.extract 0 limit ++ bytes.extract 0 (limit - offered.size) := by
    rw [ByteArray.extract_append, Nat.zero_sub]
  have hsize : limit - (offered ++ bytes).size = limit - offered.size - bytes.size := by
    rw [ByteArray.size_append, Nat.sub_add_eq]
  by_cases hfits : bytes.size ≤ limit - offered.size
  · have hwhole : bytes.extract 0 (limit - offered.size) = bytes := extract_of_size_le hfits
    simp only [write, if_pos hfits, hwhole, true_and]
    exact ⟨by rw [hoffered, hwhole], by rw [hsize], rfl⟩
  · simp only [write, if_neg hfits, true_and]
    refine ⟨hoffered.symm, ?_, rfl⟩
    rw [hsize, Nat.sub_eq_zero_of_le (Nat.le_of_lt (Nat.lt_of_not_le hfits))]

end Sink

namespace DumpM

/-- The sink after dumps that follow each other. -/
def sinkAfter (dumps : List (DumpM Unit)) (sink : Sink) : Sink :=
  dumps.foldl (fun sink dump => (dump.runOn sink).2) sink

lemma runAll_append (front back : List (DumpM Unit)) (sink : Sink) :
    runAll (front ++ back) sink = runAll front sink ++ runAll back (sinkAfter front sink) := by
  induction front generalizing sink with
  | nil => rfl
  | cons dump front ih =>
    rw [List.cons_append, runAll, runAll, ih]
    rfl

/-- What one dump does to a limited sink: it keeps of its bytes what still fits, and it ends as it
does alone if that is all of them. -/
lemma Renders.runOn_of_holds {dump : DumpM Unit} {bytes : ByteArray}
    {result : Except DumpError Unit} (h : Renders dump bytes result) {sink : Sink} {limit : Nat}
    {offered : ByteArray} (hsink : sink.Holds limit offered) :
    (dump.runOn sink).1 =
        (if bytes.size ≤ limit - offered.size then result else .error (.io .full)) ∧
      (dump.runOn sink).2.bytes = sink.bytes ++ bytes.extract 0 (limit - offered.size) ∧
      (dump.runOn sink).2.Holds limit (offered ++ bytes) := by
  obtain ⟨flushing, hrun⟩ := h
  obtain ⟨houtcome, hbytes, hholds⟩ := Sink.write_of_holds hsink bytes
  rw [hrun sink hsink.flushes, runOn_emit]
  refine ⟨?_, ?_, ?_⟩
  · rw [houtcome]
    split <;> rfl
  · cases flushing <;> exact hbytes
  · cases flushing with
    | false => exact hholds
    | true => exact ⟨hholds.bytes, hholds.room, hholds.flushes⟩

end DumpM

open DumpM

namespace Call

/-- All that calls render, one after the other. -/
def allBytes (schema : Schema) (calls : List Call) : ByteArray :=
  calls.foldl (fun bytes call => bytes ++ call.bytes schema) .empty

lemma allBytes_append_singleton (schema : Schema) (calls : List Call) (call : Call) :
    allBytes schema (calls ++ [call]) = allBytes schema calls ++ call.bytes schema := by
  rw [allBytes, List.foldl_append]
  rfl

lemma holds_sinkAfter (schema : Schema) (limit : Nat) (calls : List Call) :
    (sinkAfter (calls.map (·.dump schema)) (.new (some limit) false)).Holds limit
      (allBytes schema calls) := by
  induction calls using List.reverseRecOn with
  | nil => exact Sink.holds_new limit
  | append_singleton calls call ih =>
    obtain ⟨-, -, hafter⟩ := (call.renders schema).runOn_of_holds ih
    rw [allBytes_append_singleton, List.map_append, sinkAfter, List.foldl_append]
    exact hafter

/-- Every call of a run on a sink with a limit keeps of the bytes that it renders alone those that
still fit, and ends as it does alone if they all fit and else with the complaint that the sink is
full. So after each call the sink holds the front part, up to the limit, of all that the calls up to
that one render. -/
theorem runAll_limited (schema : Schema) (limit : Nat) (earlier : List Call) (call : Call)
    (later : List Call) :
    let sink := Sink.new (some limit) false
    let before := sinkAfter (earlier.map (·.dump schema)) sink
    let remaining := limit - before.bytes.size
    ∃ after,
      runAll ((earlier ++ call :: later).map (·.dump schema)) sink =
          runAll (earlier.map (·.dump schema)) sink ++
            (if (call.bytes schema).size ≤ remaining then call.result schema
              else .error (.io .full), after) ::
            runAll (later.map (·.dump schema)) after ∧
        after.bytes =
          before.bytes ++ (call.bytes schema).extract 0 (min (call.bytes schema).size remaining) ∧
        after.bytes = (allBytes schema (earlier ++ [call])).extract 0 limit := by
  intro sink before remaining
  have hbefore : before.Holds limit (allBytes schema earlier) :=
    holds_sinkAfter schema limit earlier
  have hremaining : remaining = limit - (allBytes schema earlier).size := hbefore.size_bytes
  obtain ⟨hresult, hbytes, hafter⟩ := (call.renders schema).runOn_of_holds hbefore
  refine ⟨((call.dump schema).runOn before).2, ?_, ?_, ?_⟩
  · rw [List.map_append, List.map_cons, runAll_append, runAll, hremaining, ← hresult]
  · rw [Sink.extract_min_size, hremaining, hbytes]
  · rw [allBytes_append_singleton, hafter.bytes]

/-- A call that writes nothing before it fails keeps its own complaint on a full sink. -/
example :
    (runAll ([printNode none 0, printNode (some (.mk ⟨"Leaf", .empty, .empty⟩)) 0].map
      (·.dump .empty)) (.new (some 3) false)).map Prod.fst =
        [.error (.io .full), .error (.dispatchMismatch "Leaf")] := by
  decide

end Call

end TreeDump
