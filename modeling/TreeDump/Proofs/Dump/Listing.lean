import TreeDump.Dump.Tables
import TreeDump.Proofs.Dump.Running
import TreeDump.Proofs.Tree.Folding
import TreeDump.Proofs.Tree.Reading

/-!
# Listings of trees

The listing of a tree has everything that a dump could come to in its order: the lines of a tree in
which all is well, and in the place of a field or a node that is not as declared what is wrong with
it. A listing does not end at a defect. The main statement is that a dump carries out the listing,
on every sink.
-/

namespace TreeDump

/-- A line of a dump: its text and its depth. -/
structure Line where
  text : String
  depth : Nat
deriving DecidableEq

namespace Line

/-- A label with a colon, and a value after a space unless it is empty. -/
def field (label value : String) (depth : Nat) : Line :=
  ⟨if value = "" then label ++ ":" else label ++ ": " ++ value, depth⟩

def heading (label : String) (depth : Nat) : Line := ⟨label ++ ":", depth⟩

/-- How many values or children a list has. -/
def list (count depth : Nat) : Line := ⟨"List[" ++ Decimal.ofNat count ++ "]:", depth⟩

/-- How many children a map has. -/
def dict (count depth : Nat) : Line := ⟨"Dict[" ++ Decimal.ofNat count ++ "]:", depth⟩

def key (key : String) (depth : Nat) : Line := ⟨"[" ++ key ++ "]:", depth⟩

/-- How many entries a table has. -/
def table (count depth : Nat) : Line := ⟨"Dict(" ++ Decimal.ofNat count ++ "):", depth⟩

/-- A line feed, two spaces for each step from the margin, and the text. -/
def render (line : Line) : String :=
  "\n" ++ String.ofList (List.replicate (2 * (line.depth - 1)) ' ') ++ line.text

def renderAll : List Line → String
  | [] => ""
  | line :: rest => line.render ++ renderAll rest

end Line

/-- An item of a listing. -/
inductive Item where
  | line (line : Line)
  | defect (error : DumpError)
deriving DecidableEq

/-- How a tree is listed below a given depth. -/
abbrev Listing := Nat → List Item

namespace Listing

def optional : Option Listing → Listing
  | some listing, depth => listing depth
  | none, depth => [.line (.heading "None" (depth + 1))]

end Listing

namespace ScalarField

def shape (field : ScalarField) : FieldShape :=
  match field.cardinality with
  | .single => .scalar field.type
  | .list => .scalars field.type

/-- The lines of a declared scalar as it is found in a node whose heading is at a depth, if it is
found as declared. -/
def lines? (field : ScalarField) (depth : Nat) : ScalarSlot → Option (List Line)
  | .single value =>
    if field.cardinality = .single ∧ value.type = field.type then
      some [.field field.name value.text (depth + 1)]
    else none
  | .list values =>
    if field.cardinality = .list ∧ ∀ value ∈ values, value.type = field.type then
      some (.list values.length (depth + 1) ::
        values.map fun value => .field field.type.name value.text (depth + 2))
    else none

def items (field : ScalarField) {ν : Type} (node : Layer ν) (depth : Nat) : List Item :=
  match (node.scalars.get? field.name).bind (field.lines? depth) with
  | some lines => lines.map Item.line
  | none => [.defect (.fieldMismatch node.tag field.name field.shape)]

end ScalarField

namespace ChildField

def shape (field : ChildField) : FieldShape :=
  match field.cardinality with
  | .single => .child
  | .list => .children
  | .dict => .dict

/-- The items of a declared child as it is found in a node whose heading is at a depth, if it is
found as declared. -/
def items? (field : ChildField) (depth : Nat) : ChildSlot Listing → Option (List Item)
  | .single child => if field.cardinality = .single then some (Listing.optional child depth) else none
  | .list children =>
    if field.cardinality = .list then
      some (.line (.list children.length (depth + 1)) ::
        children.flatMap fun child => child (depth + 1))
    else none
  | .dict entries =>
    if field.cardinality = .dict then
      some (.line (.dict entries.size (depth + 1)) ::
        entries.entries.flatMap fun entry =>
          .line (.key entry.1 (depth + 2)) :: entry.2 (depth + 2))
    else none

def items (field : ChildField) (node : Layer Listing) (depth : Nat) : List Item :=
  ((node.children.get? field.name).bind (field.items? depth)).getD
    [.defect (.fieldMismatch node.tag field.name field.shape)]

end ChildField

namespace Descriptor

def items (descriptor : Descriptor) (node : Layer Listing) (depth : Nat) : List Item :=
  .line (.heading descriptor.name depth) ::
    (descriptor.scalars.flatMap (fun field => field.items node depth) ++
      descriptor.children.flatMap fun field => field.items node depth)

end Descriptor

namespace Schema

def itemsLayer (schema : Schema) (node : Layer Listing) : Listing := fun depth =>
  match schema.get? node.tag with
  | some descriptor => descriptor.items node (depth + 1)
  | none => [.defect (.dispatchMismatch node.tag)]

/-- The listing of a tree that may be absent, below a depth. -/
def listing (schema : Schema) (node : Option Node) : Listing :=
  .optional (node.map (Node.fold schema.itemsLayer))

end Schema

namespace DumpM

def performItem : Item → DumpM Unit
  | .line line => .line line.text line.depth
  | .defect error => .ofExcept (.error error)

/-- Does what items say, up to the first defect. -/
def perform : List Item → DumpM Unit
  | [] => pure ()
  | item :: rest => do
    performItem item
    perform rest

lemma heading_bracketed {closing closed : String} (h : closing ++ ":" = closed)
    (opening middle : String) (depth : Nat) :
    heading (opening ++ middle ++ closing) depth = line (opening ++ middle ++ closed) depth := by
  rw [heading, field, fieldText, if_pos rfl, ← h, ← String.append_assoc]

lemma heading_listLabel (count depth : Nat) :
    heading (listLabel count) depth = performItem (.line (.list count depth)) := by
  rw [listLabel, heading_bracketed (rfl : "]" ++ ":" = "]:")]
  rfl

lemma heading_dictLabel (count depth : Nat) :
    heading (dictLabel count) depth = performItem (.line (.dict count depth)) := by
  rw [dictLabel, heading_bracketed (rfl : "]" ++ ":" = "]:")]
  rfl

lemma heading_keyLabel (key : String) (depth : Nat) :
    heading (keyLabel key) depth = performItem (.line (.key key depth)) := by
  rw [keyLabel, heading_bracketed (rfl : "]" ++ ":" = "]:")]
  rfl

lemma heading_tableLabel (count depth : Nat) :
    heading (tableLabel count) depth = performItem (.line (.table count depth)) := by
  rw [tableLabel, heading_bracketed (rfl : ")" ++ ":" = "):")]
  rfl

lemma perform_append (front back : List Item) :
    perform (front ++ back) = (perform front >>= fun _ => perform back) := by
  induction front with
  | nil => rfl
  | cons item front ih => rw [List.cons_append, perform, perform, ih, bind_assoc]

lemma perform_line (line : Line) : perform [.line line] = .line line.text line.depth := by
  simp only [perform, bind_pure_unit]
  rfl

lemma perform_flatMap {α : Type} (elements : List α) (items : α → List Item) :
    perform (elements.flatMap items) = elements.forM fun element => perform (items element) := by
  induction elements with
  | nil => rfl
  | cons element elements ih => rw [List.flatMap_cons, perform_append, ih, List.forM]

lemma perform_map {α : Type} (elements : List α) (item : α → Item) :
    perform (elements.map item) = elements.forM fun element => performItem (item element) := by
  induction elements with
  | nil => rfl
  | cons element elements ih => rw [List.map_cons, perform, ih, List.forM]

end DumpM

def Listing.print (listing : Listing) : Print := fun depth => .perform (listing depth)

open DumpM

lemma Listing.print_optional (listing : Option Listing) :
    (Listing.optional listing).print = Print.optional (listing.map Listing.print) := by
  funext depth
  cases listing with
  | none => exact perform_line _
  | some listing => rfl

lemma ScalarField.print_eq (field : ScalarField) {ν : Type} (node : Layer ν) (depth : Nat) :
    field.print node depth = perform (field.items node depth) := by
  obtain ⟨type, name, cardinality⟩ := field
  unfold ScalarField.items ScalarField.print
  cases cardinality with
  | single =>
    unfold Layer.readScalar
    rcases node.scalars.get? name with _ | value | values
    · rfl
    · simp only [Option.bind_some, ScalarSlot.single?, lines?, true_and]
      split
      · exact (perform_line (.field name value.text (depth + 1))).symm
      · rfl
    · rfl
  | list =>
    unfold Layer.readScalars
    rcases node.scalars.get? name with _ | value | values
    · rfl
    · rfl
    · simp only [Option.bind_some, ScalarSlot.list?, lines?, true_and, List.all_eq_true,
        decide_eq_true_eq]
      split
      · simp only [List.map_cons, List.map_map, perform, perform_map, ← heading_listLabel]
        rfl
      · rfl

lemma ChildSlot.print_list (children : List Listing) (depth : Nat) :
    Print.items (children.map Listing.print) depth =
      perform (.line (.list children.length (depth + 1)) ::
        children.flatMap fun child => child (depth + 1)) := by
  simp only [Print.items, List.length_map, heading_listLabel, perform, perform_flatMap,
    List.forM_eq_forM, List.forM_map]
  rfl

lemma ChildSlot.print_dict (entries : Table Listing) (depth : Nat) :
    Print.dict (entries.map Listing.print) depth =
      perform (.line (.dict entries.size (depth + 1)) ::
        entries.entries.flatMap fun entry =>
          .line (.key entry.1 (depth + 2)) :: entry.2 (depth + 2)) := by
  rw [Print.dict, Table.size_map, heading_dictLabel]
  simp only [Table.map, Print.entry, heading_keyLabel, perform, perform_flatMap,
    List.forM_eq_forM, List.forM_map]
  rfl

lemma ChildField.print_eq (field : ChildField) (node : Layer Listing) (depth : Nat) :
    field.print (node.mapChildren Listing.print) depth = perform (field.items node depth) := by
  obtain ⟨name, cardinality⟩ := field
  unfold ChildField.items ChildField.print
  cases cardinality with
  | single =>
    simp only [Layer.readChild_mapChildren]
    unfold Layer.readChild
    rcases node.children.get? name with _ | child | children | entries
    · rfl
    · exact (congrFun (Listing.print_optional child) depth).symm
    · rfl
    · rfl
  | list =>
    simp only [Layer.readChildren_mapChildren]
    unfold Layer.readChildren
    rcases node.children.get? name with _ | child | children | entries
    · rfl
    · rfl
    · exact ChildSlot.print_list children depth
    · rfl
  | dict =>
    simp only [Layer.readDict_mapChildren]
    unfold Layer.readDict
    rcases node.children.get? name with _ | child | children | entries
    · rfl
    · rfl
    · rfl
    · exact ChildSlot.print_dict entries depth

lemma Schema.printLayer_eq (schema : Schema) (node : Layer Listing) :
    schema.printLayer (node.mapChildren Listing.print) = (schema.itemsLayer node).print := by
  funext depth
  change _ = perform (schema.itemsLayer node depth)
  unfold Schema.printLayer Schema.itemsLayer
  rw [Layer.tag_mapChildren]
  cases schema.get? node.tag with
  | none => rfl
  | some descriptor =>
    simp only [Descriptor.print, Descriptor.items, perform, perform_append, perform_flatMap,
      ScalarField.print_eq, ChildField.print_eq]
    rfl

namespace Schema

lemma fold_printLayer (schema : Schema) :
    Node.fold schema.printLayer = Listing.print ∘ Node.fold schema.itemsLayer :=
  funext (Node.fold_comp Listing.print schema.printLayer_eq)

/-- A dump carries out the listing of its tree. -/
theorem printNode_eq_perform (schema : Schema) (node : Option Node) (depth : Nat) :
    schema.printNode node depth = perform (schema.listing node depth) := by
  have hprint := congrFun (Listing.print_optional (node.map (Node.fold schema.itemsLayer))) depth
  rw [Option.map_map, ← schema.fold_printLayer] at hprint
  exact hprint.symm

/-- The listing of a table: its count, and each key with its tree. -/
def tableItems (schema : Schema) (table : Table Node) : List Item :=
  .line (.table table.size 1) :: table.entries.flatMap fun entry =>
    .line (.key entry.1 2) :: schema.listing (some entry.2) 2

lemma dumpTable_eq_perform (schema : Schema) (table : Table Node) (title : String) :
    schema.dumpTable table title = titled title (perform (schema.tableItems table)) := by
  unfold dumpTable printEntries tableItems
  simp only [heading_tableLabel, heading_keyLabel, perform, perform_flatMap, printNode_eq_perform]
  rfl

end Schema

end TreeDump
