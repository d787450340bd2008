import TreeDump.Schema.Basic

/-!
# The node table of a C compiler

The nodes whose trees the compiler dumps, grouped by the structure that owns them. The order of the
table is the order of the branches of the printer made from it.
-/

namespace TreeDump

namespace CompilerTable

def frontEndSymbols : List NodeSpec := [
  ⟨"Type", [], []⟩,
  ⟨"Char", [], []⟩,
  ⟨"SChar", [], []⟩,
  ⟨"UChar", [], []⟩,
  ⟨"Int", [], []⟩,
  ⟨"Long", [], []⟩,
  ⟨"UInt", [], []⟩,
  ⟨"ULong", [], []⟩,
  ⟨"Double", [], []⟩,
  ⟨"Void", [], []⟩,
  ⟨"FunType", [("TULong", "param_reg_mask"), ("TULong", "ret_reg_mask")],
    ["[param_types", "ret_type"]⟩,
  ⟨"Pointer", [], ["ref_type"]⟩,
  ⟨"Array", [("TLong", "size")], ["elem_type"]⟩,
  ⟨"Structure", [("TIdentifier", "tag"), ("Bool", "is_union")], []⟩,
  ⟨"StaticInit", [], []⟩,
  ⟨"IntInit", [("TInt", "value")], []⟩,
  ⟨"LongInit", [("TLong", "value")], []⟩,
  ⟨"UIntInit", [("TUInt", "value")], []⟩,
  ⟨"ULongInit", [("TULong", "value")], []⟩,
  ⟨"DoubleInit", [("TIdentifier", "dbl_const")], []⟩,
  ⟨"ZeroInit", [("TLong", "byte")], []⟩,
  ⟨"StringInit", [("TIdentifier", "string_const"), ("Bool", "is_null_term")], ["literal"]⟩,
  ⟨"PointerInit", [("TIdentifier", "name")], []⟩,
  ⟨"InitialValue", [], []⟩,
  ⟨"Tentative", [], []⟩,
  ⟨"Initial", [], ["[static_inits"]⟩,
  ⟨"NoInitializer", [], []⟩,
  ⟨"IdentifierAttr", [], []⟩,
  ⟨"FunAttr", [("Bool", "is_defined"), ("Bool", "is_global")], []⟩,
  ⟨"StaticAttr", [("Bool", "is_global")], ["init"]⟩,
  ⟨"ConstantAttr", [], ["static_init"]⟩,
  ⟨"LocalAttr", [], []⟩,
  ⟨"Symbol", [], ["type_t", "attrs"]⟩,
  ⟨"StructMember", [("TLong", "offset")], ["member_type"]⟩,
  ⟨"StructTypedef", [("TInt", "alignment"), ("TLong", "size"), ("TIdentifier", "[member_names")],
    ["(members"]⟩]

def syntaxTree : List NodeSpec := [
  ⟨"CConst", [], []⟩,
  ⟨"CConstInt", [("TInt", "value")], []⟩,
  ⟨"CConstLong", [("TLong", "value")], []⟩,
  ⟨"CConstDouble", [("TDouble", "value")], []⟩,
  ⟨"CConstUInt", [("TUInt", "value")], []⟩,
  ⟨"CConstULong", [("TULong", "value")], []⟩,
  ⟨"CStringLiteral", [("TInt", "[value")], []⟩,
  ⟨"CUnaryOp", [], []⟩,
  ⟨"CComplement", [], []⟩,
  ⟨"CNegate", [], []⟩,
  ⟨"CNot", [], []⟩,
  ⟨"CPrefix", [], []⟩,
  ⟨"CPostfix", [], []⟩,
  ⟨"CBinaryOp", [], []⟩,
  ⟨"CAdd", [], []⟩,
  ⟨"CSubtract", [], []⟩,
  ⟨"CMultiply", [], []⟩,
  ⟨"CDivide", [], []⟩,
  ⟨"CRemainder", [], []⟩,
  ⟨"CBitAnd", [], []⟩,
  ⟨"CBitOr", [], []⟩,
  ⟨"CBitXor", [], []⟩,
  ⟨"CBitShiftLeft", [], []⟩,
  ⟨"CBitShiftRight", [], []⟩,
  ⟨"CBitShrArithmetic", [], []⟩,
  ⟨"CAnd", [], []⟩,
  ⟨"COr", [], []⟩,
  ⟨"CEqual", [], []⟩,
  ⟨"CNotEqual", [], []⟩,
  ⟨"CLessThan", [], []⟩,
  ⟨"CLessOrEqual", [], []⟩,
  ⟨"CGreaterThan", [], []⟩,
  ⟨"CGreaterOrEqual", [], []⟩,
  ⟨"CExp", [], ["exp_type"]⟩,
  ⟨"CConstant", [], ["constant", "exp_type"]⟩,
  ⟨"CString", [], ["literal", "exp_type"]⟩,
  ⟨"CVar", [("TIdentifier", "name")], ["exp_type"]⟩,
  ⟨"CCast", [], ["exp", "target_type", "exp_type"]⟩,
  ⟨"CUnary", [], ["unary_op", "exp", "exp_type"]⟩,
  ⟨"CBinary", [], ["binary_op", "exp_left", "exp_right", "exp_type"]⟩,
  ⟨"CAssignment", [], ["unary_op", "exp_left", "exp_right", "exp_type"]⟩,
  ⟨"CConditional", [], ["condition", "exp_middle", "exp_right", "exp_type"]⟩,
  ⟨"CFunctionCall", [("TIdentifier", "name")], ["[args", "exp_type"]⟩,
  ⟨"CDereference", [], ["exp", "exp_type"]⟩,
  ⟨"CAddrOf", [], ["exp", "exp_type"]⟩,
  ⟨"CSubscript", [], ["primary_exp", "subscript_exp", "exp_type"]⟩,
  ⟨"CSizeOf", [], ["exp", "exp_type"]⟩,
  ⟨"CSizeOfT", [], ["target_type", "exp_type"]⟩,
  ⟨"CDot", [("TIdentifier", "member")], ["structure", "exp_type"]⟩,
  ⟨"CArrow", [("TIdentifier", "member")], ["pointer", "exp_type"]⟩,
  ⟨"CStatement", [], []⟩,
  ⟨"CReturn", [], ["exp"]⟩,
  ⟨"CExpression", [], ["exp"]⟩,
  ⟨"CIf", [], ["condition", "then", "else_fi"]⟩,
  ⟨"CGoto", [("TIdentifier", "target")], []⟩,
  ⟨"CLabel", [("TIdentifier", "target")], ["jump_to"]⟩,
  ⟨"CCompound", [], ["block"]⟩,
  ⟨"CWhile", [("TIdentifier", "target")], ["condition", "body"]⟩,
  ⟨"CDoWhile", [("TIdentifier", "target")], ["condition", "body"]⟩,
  ⟨"CFor", [("TIdentifier", "target")], ["init", "condition", "post", "body"]⟩,
  ⟨"CSwitch", [("TIdentifier", "target"), ("Bool", "is_default")], ["match", "body", "[cases"]⟩,
  ⟨"CCase", [("TIdentifier", "target")], ["value", "jump_to"]⟩,
  ⟨"CDefault", [("TIdentifier", "target")], ["jump_to"]⟩,
  ⟨"CBreak", [("TIdentifier", "target")], []⟩,
  ⟨"CContinue", [("TIdentifier", "target")], []⟩,
  ⟨"CNull", [], []⟩,
  ⟨"CForInit", [], []⟩,
  ⟨"CInitDecl", [], ["init"]⟩,
  ⟨"CInitExp", [], ["init"]⟩,
  ⟨"CBlock", [], []⟩,
  ⟨"CB", [], ["[block_items"]⟩,
  ⟨"CBlockItem", [], []⟩,
  ⟨"CS", [], ["statement"]⟩,
  ⟨"CD", [], ["declaration"]⟩,
  ⟨"CStorageClass", [], []⟩,
  ⟨"CStatic", [], []⟩,
  ⟨"CExtern", [], []⟩,
  ⟨"CInitializer", [], ["init_type"]⟩,
  ⟨"CSingleInit", [], ["exp", "init_type"]⟩,
  ⟨"CCompoundInit", [], ["[initializers", "init_type"]⟩,
  ⟨"CMemberDeclaration", [("TIdentifier", "member_name")], ["member_type"]⟩,
  ⟨"CStructDeclaration", [("TIdentifier", "tag"), ("Bool", "is_union")], ["[members"]⟩,
  ⟨"CFunctionDeclaration", [("TIdentifier", "name"), ("TIdentifier", "[params")],
    ["body", "fun_type", "storage_class"]⟩,
  ⟨"CVariableDeclaration", [("TIdentifier", "name")], ["init", "var_type", "storage_class"]⟩,
  ⟨"CDeclaration", [], []⟩,
  ⟨"CFunDecl", [], ["function_decl"]⟩,
  ⟨"CVarDecl", [], ["variable_decl"]⟩,
  ⟨"CStructDecl", [], ["struct_decl"]⟩,
  ⟨"CProgram", [], ["[declarations"]⟩]

def threeAddressCode : List NodeSpec := [
  ⟨"TacUnaryOp", [], []⟩,
  ⟨"TacComplement", [], []⟩,
  ⟨"TacNegate", [], []⟩,
  ⟨"TacNot", [], []⟩,
  ⟨"TacBinaryOp", [], []⟩,
  ⟨"TacAdd", [], []⟩,
  ⟨"TacSubtract", [], []⟩,
  ⟨"TacMultiply", [], []⟩,
  ⟨"TacDivide", [], []⟩,
  ⟨"TacRemainder", [], []⟩,
  ⟨"TacBitAnd", [], []⟩,
  ⟨"TacBitOr", [], []⟩,
  ⟨"TacBitXor", [], []⟩,
  ⟨"TacBitShiftLeft", [], []⟩,
  ⟨"TacBitShiftRight", [], []⟩,
  ⟨"TacBitShrArithmetic", [], []⟩,
  ⟨"TacEqual", [], []⟩,
  ⟨"TacNotEqual", [], []⟩,
  ⟨"TacLessThan", [], []⟩,
  ⟨"TacLessOrEqual", [], []⟩,
  ⟨"TacGreaterThan", [], []⟩,
  ⟨"TacGreaterOrEqual", [], []⟩,
  ⟨"TacValue", [], []⟩,
  ⟨"TacConstant", [], ["constant"]⟩,
  ⟨"TacVariable", [("TIdentifier", "name")], []⟩,
  ⟨"TacExpResult", [], []⟩,
  ⟨"TacPlainOperand", [], ["val"]⟩,
  ⟨"TacDereferencedPointer", [], ["val"]⟩,
  ⟨"TacSubObject", [("TIdentifier", "base_name"), ("TLong", "offset")], []⟩,
  ⟨"TacInstruction", [], []⟩,
  ⟨"TacReturn", [], ["val"]⟩,
  ⟨"TacSignExtend", [], ["src", "dst"]⟩,
  ⟨"TacTruncate", [], ["src", "dst"]⟩,
  ⟨"TacZeroExtend", [], ["src", "dst"]⟩,
  ⟨"TacDoubleToInt", [], ["src", "dst"]⟩,
  ⟨"TacDoubleToUInt", [], ["src", "dst"]⟩,
  ⟨"TacIntToDouble", [], ["src", "dst"]⟩,
  ⟨"TacUIntToDouble", [], ["src", "dst"]⟩,
  ⟨"TacFunCall", [("TIdentifier", "name")], ["[args", "dst"]⟩,
  ⟨"TacUnary", [], ["unary_op", "src", "dst"]⟩,
  ⟨"TacBinary", [], ["binary_op", "src1", "src2", "dst"]⟩,
  ⟨"TacCopy", [], ["src", "dst"]⟩,
  ⟨"TacGetAddress", [], ["src", "dst"]⟩,
  ⟨"TacLoad", [], ["src_ptr", "dst"]⟩,
  ⟨"TacStore", [], ["src", "dst_ptr"]⟩,
  ⟨"TacAddPtr", [("TLong", "scale")], ["src_ptr", "idx", "dst"]⟩,
  ⟨"TacCopyToOffset", [("TIdentifier", "dst_name"), ("TLong", "offset")], ["src"]⟩,
  ⟨"TacCopyFromOffset", [("TIdentifier", "src_name"), ("TLong", "offset")], ["dst"]⟩,
  ⟨"TacJump", [("TIdentifier", "target")], []⟩,
  ⟨"TacJumpIfZero", [("TIdentifier", "target")], ["condition"]⟩,
  ⟨"TacJumpIfNotZero", [("TIdentifier", "target")], ["condition"]⟩,
  ⟨"TacLabel", [("TIdentifier", "name")], []⟩,
  ⟨"TacTopLevel", [], []⟩,
  ⟨"TacFunction", [("TIdentifier", "name"), ("Bool", "is_global"), ("TIdentifier", "[params")],
    ["[body"]⟩,
  ⟨"TacStaticVariable", [("TIdentifier", "name"), ("Bool", "is_global")],
    ["static_init_type", "[static_inits"]⟩,
  ⟨"TacStaticConstant", [("TIdentifier", "name")], ["static_init_type", "static_init"]⟩,
  ⟨"TacProgram", [],
    ["[static_constant_top_levels", "[static_variable_top_levels", "[function_top_levels"]⟩]

def backEndSymbols : List NodeSpec := [
  ⟨"AssemblyType", [], []⟩,
  ⟨"Byte", [], []⟩,
  ⟨"LongWord", [], []⟩,
  ⟨"QuadWord", [], []⟩,
  ⟨"BackendDouble", [], []⟩,
  ⟨"ByteArray", [("TLong", "size"), ("TInt", "alignment")], []⟩,
  ⟨"BackendSymbol", [], []⟩,
  ⟨"BackendObj", [("Bool", "is_static"), ("Bool", "is_constant")], ["assembly_type"]⟩,
  ⟨"BackendFun", [("Bool", "is_defined")], ["[callee_saved_registers"]⟩]

def rows : List NodeSpec := frontEndSymbols ++ syntaxTree ++ threeAddressCode ++ backEndSymbols

end CompilerTable

namespace Schema

/-- The schema of the compiler's nodes. -/
def compiler : Except SchemaError Schema := ofSpecs CompilerTable.rows

end Schema

end TreeDump
