import TreeDump.Proofs.Dump.Rendering
import TreeDump.Proofs.Dump.Resolving
import TreeDump.Proofs.Number.ShortestText

/-!
# Dumps of constant tables

A constant table is dumped entry by entry: the key of each, and then the literal that it stands for.
The first entry that stands for nothing ends the dump after its key. Main statements: what the
entries stand for determines the dump on every sink that takes everything; and a dump that fails
does so for the first entry that stands for nothing.
-/

namespace TreeDump

open DumpM

namespace Constant

/-- What is written for a constant, one step below the key of its entry. -/
def rendered : Constant → ByteArray
  | string bytes =>
    "\n    string: \"".toUTF8 ++ (StringBytes.encode bytes).toByteArray ++ "\"".toUTF8
  | double value => ("\n    double: " ++ value.text).toUTF8

/-- What is written for the key of an entry. -/
def renderedKey (key : String) : ByteArray := ("\n  [" ++ key ++ "]:").toUTF8

/-- What entries are dumped as, one after the other, up to the first that is refused. -/
inductive Dumped (symbols objects : Table Node) :
    List (String × String) → ByteArray → Except DumpError Unit → Prop where
  | nil : Dumped symbols objects [] .empty (.ok ())
  | stands {key symbol : String} {constant : Constant} {rest : List (String × String)}
      {bytes : ByteArray} {result : Except DumpError Unit} :
      Stands symbols objects key symbol constant → Dumped symbols objects rest bytes result →
      Dumped symbols objects ((key, symbol) :: rest)
        (renderedKey key ++ constant.rendered ++ bytes) result
  | refused {key symbol : String} {error : DumpError} {rest : List (String × String)} :
      Refused symbols objects key symbol error →
      Dumped symbols objects ((key, symbol) :: rest) (renderedKey key) (.error error)

variable {symbols objects : Table Node} {entries : List (String × String)}
  {result : Except DumpError Unit} {error : DumpError}

lemma exists_dumped (symbols objects : Table Node) (entries : List (String × String)) :
    ∃ bytes result, Dumped symbols objects entries bytes result := by
  induction entries with
  | nil => exact ⟨_, _, .nil⟩
  | cons entry rest ih =>
    obtain ⟨key, symbol⟩ := entry
    cases h : resolve key symbol symbols objects with
    | error error => exact ⟨_, _, .refused (resolve_eq_error_iff.1 h)⟩
    | ok constant =>
      obtain ⟨bytes, result, hrest⟩ := ih
      exact ⟨_, _, .stands (resolve_eq_ok_iff.1 h) hrest⟩

lemma heading_eq_writeBytes (key : String) :
    DumpM.heading (keyLabel key) entryDepth = writeBytes (renderedKey key) := by
  rw [renderedKey, ← Line.render_key, heading_keyLabel]
  exact line_eq_write (.key key 2)

lemma print_eq_writeBytes (constant : Constant) :
    constant.print 3 = writeBytes constant.rendered := by
  cases constant with
  | string bytes =>
    have hopening : "\n    string: \"".toUTF8 = (indentText 3).toUTF8 ++ "string: \"".toUTF8 := by
      decide +kernel
    rw [rendered, hopening, ← writeBytes_append, ← writeBytes_append, ← writeBytes_append,
      bind_assoc, bind_assoc]
    rfl
  | double value =>
    have hline : (Line.field "double" value.text 3).render = "\n    double: " ++ value.text := by
      rw [Line.field, if_neg value.text_ne_empty, ← String.toList_inj]
      simp [Line.render]
    rw [rendered, ← hline]
    exact line_eq_write (.field "double" value.text 3)

lemma printEntry_of_stands {key symbol : String} {constant : Constant}
    (h : Stands symbols objects key symbol constant) :
    printEntry symbols objects (key, symbol) =
      writeBytes (renderedKey key ++ constant.rendered) := by
  rw [printEntry, resolve_eq_ok_iff.2 h, ofExcept_ok_bind, heading_eq_writeBytes]
  exact (congrArg _ (funext fun _ => constant.print_eq_writeBytes)).trans (writeBytes_append _ _)

lemma printEntry_of_refused {key symbol : String}
    (h : Refused symbols objects key symbol error) :
    printEntry symbols objects (key, symbol) = emit (renderedKey key) (.error error) := by
  rw [printEntry, resolve_eq_error_iff.2 h, ofExcept_error_bind, heading_eq_writeBytes]
  rfl

lemma Dumped.forM_printEntry {bytes : ByteArray} (h : Dumped symbols objects entries bytes result) :
    entries.forM (printEntry symbols objects) = emit bytes result := by
  induction h with
  | nil => rw [emit_ok]; exact write_empty.symm
  | stands hstands _ ih => rw [List.forM, printEntry_of_stands hstands, ih, writeBytes_bind_emit]
  | refused hrefused => rw [List.forM, printEntry_of_refused hrefused, emit_error_bind]

lemma Dumped.dumpConstantTable_eq {constants : Table String} {bytes : ByteArray}
    (h : Dumped symbols objects constants.entries bytes result) (title : String) :
    dumpConstantTable constants symbols objects title =
      titled title (emit
        (("\nDict(" ++ Decimal.ofNat constants.size ++ "):").toUTF8 ++ bytes) result) := by
  have hmarker : DumpM.heading (tableLabel constants.size) 1 =
      writeBytes ("\nDict(" ++ Decimal.ofNat constants.size ++ "):").toUTF8 := by
    rw [← Line.render_table, heading_tableLabel]
    exact line_eq_write (.table constants.size 1)
  rw [dumpConstantTable, h.forM_printEntry, hmarker, writeBytes_bind_emit]

lemma Dumped.exists_refused {bytes : ByteArray}
    (h : Dumped symbols objects entries bytes (.error error)) :
    ∃ front key symbol back, entries = front ++ (key, symbol) :: back ∧
      (∀ entry ∈ front, ∃ constant, Stands symbols objects entry.1 entry.2 constant) ∧
      Refused symbols objects key symbol error := by
  generalize hresult : Except.error error = result at h
  induction h with
  | nil => cases hresult
  | @stands key symbol constant rest bytes result hstands _ ih =>
    obtain ⟨front, found, symbol', back, hentries, hfront, hrefused⟩ := ih hresult
    refine ⟨(key, symbol) :: front, found, symbol', back, by rw [hentries]; rfl, ?_, hrefused⟩
    exact List.forall_mem_cons.2 ⟨⟨constant, hstands⟩, hfront⟩
  | @refused key symbol _ rest hrefused =>
    obtain rfl := Except.error.inj hresult
    exact ⟨[], key, symbol, rest, rfl, by simp, hrefused⟩

lemma Refused.not_stands {key symbol : String} (h : Refused symbols objects key symbol error)
    (constant : Constant) : ¬ Stands symbols objects key symbol constant := by
  intro hstands
  cases (resolve_eq_error_iff.2 h).symm.trans (resolve_eq_ok_iff.2 hstands)

/-- The complaint about an entry names its key exactly if all fields that have to be read for it
have the shapes that are asked for. -/
lemma Refused.formatMismatch_iff {key symbol : String}
    (h : Refused symbols objects key symbol error) :
    (∃ fault, error = .formatMismatch key fault) ↔
      ∀ node field shape, Consults symbols objects symbol node field shape →
        node.layer.HasShape field shape := by
  cases h with
  | unreadable hconsults hshape =>
    constructor
    · rintro ⟨fault, hfault⟩
      cases hfault
    · intro hreads
      exact absurd (hreads _ _ _ hconsults) hshape
  | unfit hreads _ => exact ⟨fun _ => hreads, fun _ => ⟨_, rfl⟩⟩

end Constant

section Table

variable (constants : Table String) (symbols objects : Table Node) (title : String) {sink : Sink}
  (hroom : sink.room = none) (hflush : sink.failsFlush = false)
include hroom hflush

/-- A constant table is dumped on a sink that takes everything as its entries say: the keys in their
order, each with the literal that its entry stands for, up to the first entry that is refused. -/
theorem runOn_dumpConstantTable :
    (∃ bytes result, Constant.Dumped symbols objects constants.entries bytes result) ∧
      ∀ bytes result, Constant.Dumped symbols objects constants.entries bytes result →
        (dumpConstantTable constants symbols objects title).runOn sink =
          (result, (sink.write (sectionBytes title
            (("\nDict(" ++ Decimal.ofNat constants.size ++ "):").toUTF8 ++ bytes)
            result)).2.flush.2) := by
  refine ⟨Constant.exists_dumped symbols objects constants.entries, fun bytes result h => ?_⟩
  rw [h.dumpConstantTable_eq]
  exact runOn_titled_emit title _ result hroom hflush

/-- A dump of a constant table fails for the first entry that stands for nothing. The complaint
names the key of that entry exactly if all fields that have to be read for it have the shapes that
are asked for. -/
theorem error_of_dumpConstantTable {error : DumpError}
    (h : ((dumpConstantTable constants symbols objects title).runOn sink).1 = .error error) :
    ∃ front key symbol back, constants.entries = front ++ (key, symbol) :: back ∧
      (∀ entry ∈ front, ∃ constant, Constant.Stands symbols objects entry.1 entry.2 constant) ∧
      (∀ constant, ¬ Constant.Stands symbols objects key symbol constant) ∧
      Constant.Refused symbols objects key symbol error ∧
      ((∃ fault, error = .formatMismatch key fault) ↔
        ∀ node field shape, Constant.Consults symbols objects symbol node field shape →
          node.layer.HasShape field shape) := by
  obtain ⟨bytes, result, hdumped⟩ := Constant.exists_dumped symbols objects constants.entries
  rw [hdumped.dumpConstantTable_eq, runOn_titled_emit title _ result hroom hflush] at h
  obtain rfl : result = .error error := h
  obtain ⟨front, key, symbol, back, hentries, hfront, hrefused⟩ := hdumped.exists_refused
  exact ⟨front, key, symbol, back, hentries, hfront, hrefused.not_stands, hrefused,
    hrefused.formatMismatch_iff⟩

end Table

/-- A symbol with a constant attribute whose string literal has some elements. -/
def stringSymbol (elements : List Scalar) : Node :=
  let literal : Node := .mk ⟨"CStringLiteral", ⟨[("value", .list elements)]⟩, .empty⟩
  let initializer : Node := .mk ⟨"StringInit", .empty, ⟨[("literal", .single (some literal))]⟩⟩
  let attributes : Node :=
    .mk ⟨"ConstantAttr", .empty, ⟨[("static_init", .single (some initializer))]⟩⟩
  .mk ⟨"Symbol", .empty, ⟨[("attrs", .single (some attributes))]⟩⟩

/-- A symbol with a line feed and a byte that is written as a negative number. -/
def stringSymbols : Table Node := ⟨[("a", stringSymbol [.int 10, .int (-23)])]⟩

/-- An object that is a constant double. -/
def doubleObjects : Table Node :=
  let type : Node := .mk ⟨"BackendDouble", .empty, .empty⟩
  ⟨[("d", .mk ⟨"BackendObj", ⟨[("is_constant", .single (.bool true))]⟩,
    ⟨[("assembly_type", .single (some type))]⟩⟩)]⟩

/-- A string, the double 1 under the number of its bits, and a key whose symbol is nowhere. -/
def mixedConstants : Table String := ⟨[("a", "a"), ("4607182418800017408", "d"), ("b", "b")]⟩

lemma refused_mixedConstants :
    Constant.Refused stringSymbols doubleObjects "b" "b"
      (.formatMismatch "b" (.symbolMissing "b")) := by
  have hlacks : Constant.LacksAttribute stringSymbols "b" := by
    intro entry hentry
    cases hentry
  have hnone : ∀ object ∈ doubleObjects.get? "b", object.tag ≠ "BackendObj" := by
    intro object hobject
    cases hobject
  refine .unfit (fun node field shape hconsults => ?_) (.symbolMissing hlacks hnone)
  cases hconsults with
  | attributes hentry => cases hentry
  | initializer hfound => obtain ⟨entry, hentry, -⟩ := hfound; cases hentry
  | literal hfound _ => obtain ⟨entry, hentry, -⟩ := hfound; cases hentry
  | elements hfound _ => obtain ⟨entry, hentry, -⟩ := hfound; cases hentry
  | constancy _ hobject _ => cases hobject
  | type _ hobject _ _ => cases hobject

/-- All that is written for these constants, to the key that the dump fails for. -/
theorem runOn_dumpConstantTable_mixedConstants :
    (dumpConstantTable mixedConstants stringSymbols doubleObjects "Constants").runOn
        (.new none false) =
      (.error (.formatMismatch "b" (.symbolMissing "b")),
        ((Sink.new none false).write
          ("@@ Constants @@\nDict(3):\n  [a]:\n    string: \"\\n".toUTF8 ++ ⟨#[0xE9]⟩ ++
            "\"\n  [4607182418800017408]:\n    double: 1\n  [b]:".toUTF8)).2.flush.2) := by
  have hstring : Constant.Stands stringSymbols doubleObjects "a" "a" (.string [0x0A, 0xE9]) := by
    have hbytes : List.Forall₂ Constant.IsByte [.int 10, .int (-23)] [0x0A, 0xE9] := by
      refine .cons ⟨10, rfl, ?_⟩ (.cons ⟨-23, rfl, ?_⟩ .nil) <;> decide
    exact .string ⟨_, rfl, rfl, rfl⟩ ⟨_, ⟨rfl, rfl⟩, rfl, rfl⟩ ⟨_, rfl, hbytes⟩
  have hdouble : Constant.Stands stringSymbols doubleObjects "4607182418800017408" "d"
      (.double ⟨0x3FF0000000000000⟩) := by
    have hlacks : Constant.LacksAttribute stringSymbols "d" := by
      intro entry hentry
      cases hentry
    exact .double hlacks rfl ⟨rfl, rfl, _, rfl, rfl⟩
      (Decimal.read?_eq_some_iff.1 (by decide +kernel))
  obtain ⟨-, hrun⟩ := runOn_dumpConstantTable mixedConstants stringSymbols doubleObjects
    "Constants" (rfl : (Sink.new none false).room = none) rfl
  rw [hrun _ _ (.stands hstring (.stands hdouble (.refused refused_mixedConstants)))]
  refine congrArg (fun bytes => (_, ((Sink.new none false).write bytes).2.flush.2)) ?_
  decide +kernel

/-- Elements of another type than that of a string literal are not reported under the key. -/
theorem dumpConstantTable_long_elements :
    let done := (dumpConstantTable ⟨[("a", "a")]⟩ ⟨[("a", stringSymbol [.long 65])]⟩ .empty
      "Constants").runOn (.new none false)
    done.1 = .error (.fieldMismatch "CStringLiteral" "value" (.scalars .int)) ∧
      ∀ fault, done.1 ≠ .error (.formatMismatch "a" fault) := by
  intro done
  have hdone : done.1 = .error (.fieldMismatch "CStringLiteral" "value" (.scalars .int)) := rfl
  refine ⟨hdone, fun fault h => ?_⟩
  rw [hdone] at h
  cases h

/-- What is refused there is the only entry, and it is refused for the elements. -/
theorem refused_long_elements :
    Constant.Refused ⟨[("a", stringSymbol [.long 65])]⟩ .empty "a" "a"
      (.fieldMismatch "CStringLiteral" "value" (.scalars .int)) := by
  obtain ⟨front, key, symbol, back, hentries, -, -, hrefused, -⟩ :=
    error_of_dumpConstantTable ⟨[("a", "a")]⟩ ⟨[("a", stringSymbol [.long 65])]⟩ .empty "Constants"
      (rfl : (Sink.new none false).room = none) rfl rfl
  cases front with
  | nil =>
    cases hentries
    exact hrefused
  | cons entry front => simp at hentries

end TreeDump
