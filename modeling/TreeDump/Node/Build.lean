import TreeDump.Node.Basic

/-!
# Building nodes

A node is built from its tag by giving values to fields, one after the other. A field that gets a
value again keeps the last one, also if that is of another shape. Scalars and lists of scalars share
a name space, and the three forms of children share another.
-/

namespace TreeDump

/-- A value for a field. -/
inductive FieldSetting where
  | scalar (name : String) (value : Scalar)
  | scalars (name : String) (values : List Scalar)
  | child (name : String) (child : Option Node)
  | children (name : String) (items : List Node)
  | dict (name : String) (entries : Table Node)

namespace Layer

def ofTag (tag : String) : Layer Node := ⟨tag, .empty, .empty⟩

def set (layer : Layer Node) : FieldSetting → Layer Node
  | .scalar name value => { layer with scalars := layer.scalars.insert name (.single value) }
  | .scalars name values => { layer with scalars := layer.scalars.insert name (.list values) }
  | .child name child => { layer with children := layer.children.insert name (.single child) }
  | .children name items => { layer with children := layer.children.insert name (.list items) }
  | .dict name entries => { layer with children := layer.children.insert name (.dict entries) }

end Layer

namespace Node

/-- The node of a tag whose fields have taken values in order. -/
def build (tag : String) (settings : List FieldSetting) : Node :=
  mk (settings.foldl Layer.set (.ofTag tag))

end Node

end TreeDump
