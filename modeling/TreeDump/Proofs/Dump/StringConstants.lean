import TreeDump.Proofs.Dump.ConstantTable
import TreeDump.Proofs.Text.EscapedBytes
import Mathlib.Data.Set.Function

/-!
# Strings in constant tables

In the dump of a constant table a string stands between quotes, as the body that its bytes are
encoded as. The body has no line break and no quote that is not escaped, so the line of the constant
and its literal end where they seem to, and the bytes can be read off the dump.
-/

namespace TreeDump

open DumpM StringBytes

def lineFeed : UInt8 := 0x0A

/-- What stands before the body of a string, from the line break on. -/
def stringOpening : List UInt8 := "\n    string: \"".toUTF8.data.toList

lemma toList_data_append (front back : ByteArray) :
    (front ++ back).data.toList = front.data.toList ++ back.data.toList := by
  rw [ByteArray.data_append, Array.toList_append]

namespace Constant

variable {symbols objects : Table Node} {result : Except DumpError Unit} {bytes : ByteArray}

lemma rendered_string (bytes : List UInt8) :
    (string bytes).rendered.data.toList = stringOpening ++ encode bytes ++ [quote] := by
  have hclosing : "\"".toUTF8.data.toList = [quote] := by decide
  rw [rendered, toList_data_append, toList_data_append, hclosing, stringOpening,
    List.data_toByteArray]

lemma renderedKey_begins (key : String) :
    ∃ more, (renderedKey key).data.toList = lineFeed :: more := by
  have hopening : "\n  [".toUTF8.data.toList = [lineFeed, 0x20, 0x20, 0x5B] := by decide
  have hkey : renderedKey key = "\n  [".toUTF8 ++ (key ++ "]:").toUTF8 := by
    rw [renderedKey, String.append_assoc]
    exact String.toByteArray_append
  rw [hkey, toList_data_append, hopening]
  exact ⟨_, rfl⟩

lemma Dumped.begins {entries : List (String × String)}
    (h : Dumped symbols objects entries bytes result) :
    ∃ more, (bytes ++ closing result).data.toList = lineFeed :: more := by
  cases h with
  | nil => exact ⟨[], by decide⟩
  | @stands key _ constant _ rest =>
    obtain ⟨more, hkey⟩ := renderedKey_begins key
    rw [toList_data_append, toList_data_append, toList_data_append, hkey]
    exact ⟨_, rfl⟩
  | @refused key =>
    obtain ⟨more, hkey⟩ := renderedKey_begins key
    rw [toList_data_append, hkey]
    exact ⟨_, rfl⟩

/-- An entry that the dump gets to is there in full, and then comes a line feed. -/
lemma Dumped.exists_rendered {front back : List (String × String)} {key symbol : String}
    {constant : Constant}
    (h : Dumped symbols objects (front ++ (key, symbol) :: back) bytes result)
    (hfront : ∀ entry ∈ front, ∃ constant, Stands symbols objects entry.1 entry.2 constant)
    (hstands : Stands symbols objects key symbol constant) :
    ∃ before more, (bytes ++ closing result).data.toList =
      before ++ constant.rendered.data.toList ++ lineFeed :: more := by
  induction front generalizing bytes with
  | nil =>
    cases h with
    | @stands _ _ _ _ rest _ hfound hrest =>
      obtain rfl := hfound.unique hstands
      obtain ⟨more, hmore⟩ := hrest.begins
      refine ⟨(renderedKey key).data.toList, more, ?_⟩
      rw [ByteArray.append_assoc, toList_data_append, toList_data_append, hmore]
    | refused hrefused => exact absurd hstands (hrefused.not_stands constant)
  | cons entry front ih =>
    obtain ⟨found, hfound⟩ := hfront entry List.mem_cons_self
    cases h with
    | @stands first _ other _ rest _ _ hrest =>
      obtain ⟨before, more, hbytes⟩ := ih hrest fun entry hentry =>
        hfront entry (List.mem_cons_of_mem _ hentry)
      refine ⟨(renderedKey first ++ other.rendered).data.toList ++ before, more, ?_⟩
      rw [ByteArray.append_assoc, toList_data_append, hbytes, List.append_assoc, List.append_assoc,
        List.append_assoc]
    | refused hrefused => exact absurd hfound (hrefused.not_stands found)

end Constant

lemma bytes_dumpConstantTable {constants : Table String} {symbols objects : Table Node}
    (title : String) {sink : Sink} (hroom : sink.room = none) {bytes : ByteArray}
    {result : Except DumpError Unit}
    (h : Constant.Dumped symbols objects constants.entries bytes result) :
    ((dumpConstantTable constants symbols objects title).runOn sink).2.bytes =
      sink.bytes ++ sectionBytes title
        (("\nDict(" ++ Decimal.ofNat constants.size ++ "):").toUTF8 ++ bytes) result := by
  rw [h.dumpConstantTable_eq, runOn_titled, enclosed_emit, runOn_emit, Sink.write, hroom]
  rfl

/-- Encoding is a bijection of the byte strings onto the bodies of literals. In a body there are no
control characters that have escape sequences, and the quoting marks come only escaped. So whatever
else is in a constant table, a string that its dump gets to is on one line, its literal ends at the
first quote that is not escaped, and what is before that is decoded to its bytes. -/
theorem StringBytes.bijOn_encode :
    Set.BijOn encode Set.univ {text | Body text} ∧
      (∀ bytes, decode? (encode bytes) = some bytes) ∧
      (∀ bytes, ∀ byte ∈ encode bytes, byte ∉ controls) ∧
      (∀ bytes front byte back, encode bytes = front ++ byte :: back → byte ∈ marks →
        ∃ before, front = before ++ [backslash] ∧ escapesNext before = false) ∧
      ∀ (constants : Table String) (symbols objects : Table Node) (title : String) (sink : Sink)
        (front back : List (String × String)) (key symbol : String) (bytes : List UInt8),
        sink.room = none →
        constants.entries = front ++ (key, symbol) :: back →
        (∀ entry ∈ front, ∃ constant, Constant.Stands symbols objects entry.1 entry.2 constant) →
        Constant.Stands symbols objects key symbol (.string bytes) →
        ∃ before body more,
          ((dumpConstantTable constants symbols objects title).runOn sink).2.bytes.data.toList =
            before ++ stringOpening ++ (body ++ quote :: lineFeed :: more) ∧
          ClosesAt (body ++ quote :: lineFeed :: more) body (lineFeed :: more) ∧
          lineFeed ∉ body ∧ decode? body = some bytes := by
  refine ⟨⟨?_, ?_, ?_⟩, decode?_encode, ?_, ?_, ?_⟩
  · exact fun bytes _ => body_encode bytes
  · exact fun bytes _ other _ heq => encode_injective heq
  · intro text hbody
    obtain ⟨bytes, hbytes⟩ := Body.exists_encode hbody
    exact ⟨bytes, Set.mem_univ bytes, hbytes⟩
  · exact fun bytes => (body_encode bytes).notMem_controls
  · intro bytes front byte back heq hmark
    exact exists_of_escapesNext
      ((body_encode bytes).escapesNext_of_mem_marks hmark front back heq)
  · intro constants symbols objects title sink front back key symbol bytes hroom hentries hfront
      hstands
    obtain ⟨written, result, hdumped⟩ := Constant.exists_dumped symbols objects constants.entries
    have hbytes := bytes_dumpConstantTable title hroom hdumped
    rw [hentries] at hdumped
    obtain ⟨before, more, hmore⟩ := hdumped.exists_rendered hfront hstands
    have hbody := body_encode bytes
    refine ⟨sink.bytes.data.toList ++ ("@@ " ++ title ++ " @@").toUTF8.data.toList ++
      ("\nDict(" ++ Decimal.ofNat constants.size ++ "):").toUTF8.data.toList ++ before,
      encode bytes, more, ?_, hbody.closesAt _, ?_, decode?_encode bytes⟩
    · rw [hbytes, sectionBytes, ByteArray.append_assoc, ByteArray.append_assoc, toList_data_append,
        toList_data_append, toList_data_append, hmore, Constant.rendered_string]
      simp only [List.append_assoc, List.singleton_append]
    · exact fun hfeed => hbody.notMem_controls _ hfeed (by decide)

/-- A quote, a backslash and a line feed in a string do not end its literal or its line. -/
theorem StringBytes.decode?_dumpConstantTable :
    ∃ before body more,
      ((dumpConstantTable ⟨[("a", "a")]⟩
          ⟨[("a", stringSymbol [.int 0x22, .int 0x5C, .int 0x0A])]⟩ .empty "Constants").runOn
        (.new none false)).2.bytes.data.toList =
          before ++ stringOpening ++ (body ++ quote :: lineFeed :: more) ∧
      ClosesAt (body ++ quote :: lineFeed :: more) body (lineFeed :: more) ∧
      lineFeed ∉ body ∧ decode? body = some [0x22, 0x5C, 0x0A] := by
  have hbytes : List.Forall₂ Constant.IsByte [.int 0x22, .int 0x5C, .int 0x0A]
      [0x22, 0x5C, 0x0A] := by
    refine .cons ⟨0x22, rfl, ?_⟩ (.cons ⟨0x5C, rfl, ?_⟩ (.cons ⟨0x0A, rfl, ?_⟩ .nil)) <;> decide
  exact bijOn_encode.2.2.2.2 _ _ _ "Constants" _ [] [] "a" "a" _ rfl rfl (by simp)
    (.string ⟨_, rfl, rfl, rfl⟩ ⟨_, ⟨rfl, rfl⟩, rfl, rfl⟩ ⟨_, rfl, hbytes⟩)

end TreeDump
