import TreeDump.Proofs.Dump.Listing

/-!
# What dumps write

Two writes are one write of both texts, whether or not the sink has room for them. So carrying out a
listing is one write of the lines before its first defect, and then that defect, if there is one.
-/

namespace TreeDump

namespace Sink

/-- The sink has room for a text. -/
def Fits (sink : Sink) (text : String) : Prop := ∀ room ∈ sink.room, text.utf8ByteSize ≤ room

/-- The sink after it has taken a text that fits. -/
def take (sink : Sink) (text : String) : Sink :=
  { sink with
    bytes := sink.bytes ++ text.toUTF8
    room := sink.room.map (· - text.utf8ByteSize)
    unflushed := sink.unflushed || text.utf8ByteSize ≠ 0 }

lemma fits_of_room_eq_none {sink : Sink} (h : sink.room = none) (text : String) :
    sink.Fits text := by
  intro room hroom
  rw [h] at hroom
  cases hroom

lemma take_bytes_injective {sink : Sink} {text text' : String}
    (h : (sink.take text).bytes = (sink.take text').bytes) : text = text' := by
  have hbytes := (ByteArray.append_right_inj sink.bytes).1 h
  exact String.toByteArray_inj.1 hbytes

lemma write_of_fits {sink : Sink} {text : String} (h : sink.Fits text) :
    sink.write text.toUTF8 = (.ok (), sink.take text) := by
  obtain ⟨bytes, room, failsFlush, flushes, unflushed⟩ := sink
  cases room with
  | none => rfl
  | some room => exact if_pos (h room rfl)

lemma write_empty (sink : Sink) : sink.write "".toUTF8 = (.ok (), sink) := by
  obtain ⟨bytes, room, failsFlush, flushes, unflushed⟩ := sink
  cases room <;> simp [write]

lemma extract_of_size_le {bytes : ByteArray} {room : Nat} (h : bytes.size ≤ room) :
    bytes.extract 0 room = bytes := by
  rw [← Nat.max_eq_left h, ByteArray.extract_zero_max_size]

lemma extract_append_of_size_le {front : ByteArray} {room : Nat} (h : front.size ≤ room)
    (back : ByteArray) :
    (front ++ back).extract 0 room = front ++ back.extract 0 (room - front.size) := by
  rw [ByteArray.extract_append, extract_of_size_le h, Nat.zero_sub]

lemma extract_append_of_le_size {front : ByteArray} {room : Nat} (h : room ≤ front.size)
    (back : ByteArray) : (front ++ back).extract 0 room = front.extract 0 room := by
  have hback : back.extract 0 0 = ByteArray.empty := ByteArray.extract_eq_empty_iff.2 (by simp)
  rw [ByteArray.extract_append, Nat.sub_eq_zero_of_le h, Nat.zero_sub, hback, ByteArray.append_empty]

/-- Bytes are taken in two parts, of which the second is left if the first does not fit. -/
lemma write_append (sink : Sink) (front back : ByteArray) :
    sink.write (front ++ back) =
      match sink.write front with
      | (.ok (), after) => after.write back
      | (.error fault, after) => (.error fault, after) := by
  obtain ⟨bytes, room, failsFlush, flushes, unflushed⟩ := sink
  have hoffered : (unflushed || decide (front.size + back.size ≠ 0)) =
      (unflushed || decide (front.size ≠ 0) || decide (back.size ≠ 0)) := by
    rw [Bool.or_assoc, ← Bool.decide_or]
    congr 2
    exact propext (by omega)
  cases room with
  | none => simp only [write, ByteArray.size_append, hoffered, ByteArray.append_assoc]
  | some room =>
    simp only [write, ByteArray.size_append, hoffered]
    by_cases hfront : front.size ≤ room
    · rw [if_pos hfront]
      dsimp only
      by_cases hback : back.size ≤ room - front.size
      · have hboth : front.size + back.size ≤ room := by omega
        rw [if_pos hback, if_pos hboth, ByteArray.append_assoc, Nat.sub_add_eq]
      · have hboth : ¬ front.size + back.size ≤ room := by omega
        rw [if_neg hback, if_neg hboth, extract_append_of_size_le hfront, ByteArray.append_assoc]
    · have hboth : ¬ front.size + back.size ≤ room := by omega
      have hsome : decide (front.size ≠ 0) = true := decide_eq_true (by omega)
      rw [if_neg hfront, if_neg hboth, extract_append_of_le_size (by omega), hsome, Bool.or_true]
      rfl

lemma flushes_write (sink : Sink) (bytes : ByteArray) :
    (sink.write bytes).2.flushes = sink.flushes := by
  unfold write
  split
  · rfl
  · split <;> rfl

lemma failsFlush_write (sink : Sink) (bytes : ByteArray) :
    (sink.write bytes).2.failsFlush = sink.failsFlush := by
  unfold write
  split
  · rfl
  · split <;> rfl

end Sink

namespace DumpM

lemma ext_runOn {α : Type} {dump other : DumpM α} (h : ∀ sink, dump.runOn sink = other.runOn sink) :
    dump = other := funext h

lemma runOn_write (text : String) (sink : Sink) :
    (write text).runOn sink =
      ((sink.write text.toUTF8).1.mapError DumpError.io, (sink.write text.toUTF8).2) := rfl

lemma runOn_write_of_fits {text : String} {sink : Sink} (h : sink.Fits text) :
    (write text).runOn sink = (.ok (), sink.take text) := by
  rw [runOn_write, Sink.write_of_fits h]
  rfl

lemma write_empty : write "" = pure () := by
  apply ext_runOn
  intro sink
  rw [runOn_write, Sink.write_empty]
  rfl

lemma writeBytes_append (front back : ByteArray) :
    (writeBytes front >>= fun _ => writeBytes back) = writeBytes (front ++ back) := by
  have hrun : ∀ (bytes : ByteArray) (sink : Sink), (writeBytes bytes).runOn sink =
      ((sink.write bytes).1.mapError DumpError.io, (sink.write bytes).2) := fun _ _ => rfl
  apply ext_runOn
  intro sink
  rw [runOn_bind, hrun, hrun, Sink.write_append]
  rcases sink.write front with ⟨outcome, after⟩
  cases outcome <;> rfl

lemma write_append (front back : String) :
    (write front >>= fun _ => write back) = write (front ++ back) := by
  have htexts : (front ++ back).toUTF8 = front.toUTF8 ++ back.toUTF8 := String.toByteArray_append
  rw [write, write, write, htexts, writeBytes_append]

end DumpM

namespace Item

/-- The lines before the first defect. -/
def leading : List Item → List Line
  | [] => []
  | line first :: rest => first :: leading rest
  | defect _ :: _ => []

/-- The first defect. -/
def outcome : List Item → Except DumpError Unit
  | [] => .ok ()
  | line _ :: rest => outcome rest
  | defect error :: _ => .error error

lemma outcome_append (front back : List Item) :
    outcome (front ++ back) = outcome front >>= fun _ => outcome back := by
  induction front with
  | nil => rfl
  | cons item front ih =>
    cases item with
    | line line => exact ih
    | defect error => rfl

/-- What follows a defect is not among the lines before it. -/
lemma leading_append (front back : List Item) :
    leading (front ++ back) =
      leading front ++ if outcome front = .ok () then leading back else [] := by
  induction front with
  | nil => rfl
  | cons item front ih =>
    cases item with
    | line line => rw [List.cons_append, leading, leading, outcome, ih, List.cons_append]
    | defect error => rfl

end Item

lemma Line.renderAll_append (front back : List Line) :
    renderAll (front ++ back) = renderAll front ++ renderAll back := by
  induction front with
  | nil => rw [List.nil_append, renderAll, String.empty_append]
  | cons line front ih => rw [List.cons_append, renderAll, renderAll, ih, String.append_assoc]

namespace Line

lemma render_key (name : String) : (key name 2).render = "\n  [" ++ name ++ "]:" := by
  rw [← String.toList_inj]
  simp [render, key]

lemma render_table (count : Nat) :
    (table count 1).render = "\nDict(" ++ Decimal.ofNat count ++ "):" := by
  rw [← String.toList_inj]
  simp [render, table]

lemma render_dict (count : Nat) :
    (dict count 1).render = "\nDict[" ++ Decimal.ofNat count ++ "]:" := by
  rw [← String.toList_inj]
  simp [render, dict]

end Line

namespace DumpM

lemma line_eq_write (line : Line) : DumpM.line line.text line.depth = write line.render := by
  have hindent : indentText line.depth =
      "\n" ++ String.ofList (List.replicate (2 * (line.depth - 1)) ' ') := by
    simp [indentText]
  rw [Line.render, ← hindent]
  exact write_append _ _

/-- Carrying out a listing is to write the lines before its first defect and to fail with it. -/
theorem perform_eq_write (items : List Item) :
    perform items =
      write (Line.renderAll (Item.leading items)) >>= fun _ => ofExcept (Item.outcome items) := by
  induction items with
  | nil =>
    rw [Item.leading, Line.renderAll, write_empty, pure_bind]
    rfl
  | cons item items ih =>
    cases item with
    | line line =>
      rw [perform, performItem, line_eq_write, ih, Item.leading, Line.renderAll, Item.outcome,
        ← write_append, bind_assoc]
    | defect error =>
      rw [perform, performItem, ofExcept_error_bind, Item.leading, Line.renderAll, write_empty,
        Item.outcome, pure_bind]

lemma runOn_perform {items : List Item} {sink : Sink}
    (h : sink.Fits (Line.renderAll (Item.leading items))) :
    (perform items).runOn sink =
      (Item.outcome items, sink.take (Line.renderAll (Item.leading items))) := by
  rw [perform_eq_write, runOn_bind_ok (runOn_write_of_fits h), runOn_ofExcept]

lemma runOn_titled_write {title text : String} {sink : Sink}
    (h : sink.Fits (titleText title ++ text ++ "\n")) :
    (titled title (write text)).runOn sink =
      flush.runOn (sink.take (titleText title ++ text ++ "\n")) := by
  have hbody : (do
      DumpM.title title
      write text
      write "\n" : DumpM Unit) = write (titleText title ++ text ++ "\n") := by
    rw [DumpM.title, ← bind_assoc, write_append, write_append]
  rw [runOn_titled, hbody, runOn_write_of_fits h]
  rfl

end DumpM

end TreeDump
