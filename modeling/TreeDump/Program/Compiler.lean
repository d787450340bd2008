import TreeDump.Program.Basic

/-!
# The printer program of a C compiler

The program that the compiler keeps for its own nodes, as it was made from its node table. It stands
on its own: nothing in it is looked up in the table.
-/

namespace TreeDump

namespace CompilerProgram

/-- The arms for the nodes of the front end's symbol table. -/
def frontEndArms : List Arm := [
  ⟨"Type", [.heading "Type" 0]⟩,
  ⟨"Char", [.heading "Char" 0]⟩,
  ⟨"SChar", [.heading "SChar" 0]⟩,
  ⟨"UChar", [.heading "UChar" 0]⟩,
  ⟨"Int", [.heading "Int" 0]⟩,
  ⟨"Long", [.heading "Long" 0]⟩,
  ⟨"UInt", [.heading "UInt" 0]⟩,
  ⟨"ULong", [.heading "ULong" 0]⟩,
  ⟨"Double", [.heading "Double" 0]⟩,
  ⟨"Void", [.heading "Void" 0]⟩,
  ⟨"FunType", [.heading "FunType" 0, .scalar "param_reg_mask" "param_reg_mask" .uLong 1,
    .scalar "ret_reg_mask" "ret_reg_mask" .uLong 1, .children "param_types" 1 1,
    .child "ret_type" 0]⟩,
  ⟨"Pointer", [.heading "Pointer" 0, .child "ref_type" 0]⟩,
  ⟨"Array", [.heading "Array" 0, .scalar "size" "size" .long 1, .child "elem_type" 0]⟩,
  ⟨"Structure", [.heading "Structure" 0, .identifier "tag" "tag" 1,
    .scalar "is_union" "is_union" .bool 1]⟩,
  ⟨"StaticInit", [.heading "StaticInit" 0]⟩,
  ⟨"IntInit", [.heading "IntInit" 0, .scalar "value" "value" .int 1]⟩,
  ⟨"LongInit", [.heading "LongInit" 0, .scalar "value" "value" .long 1]⟩,
  ⟨"UIntInit", [.heading "UIntInit" 0, .scalar "value" "value" .uInt 1]⟩,
  ⟨"ULongInit", [.heading "ULongInit" 0, .scalar "value" "value" .uLong 1]⟩,
  ⟨"DoubleInit", [.heading "DoubleInit" 0, .identifier "dbl_const" "dbl_const" 1]⟩,
  ⟨"ZeroInit", [.heading "ZeroInit" 0, .scalar "byte" "byte" .long 1]⟩,
  ⟨"StringInit", [.heading "StringInit" 0, .identifier "string_const" "string_const" 1,
    .scalar "is_null_term" "is_null_term" .bool 1, .child "literal" 0]⟩,
  ⟨"PointerInit", [.heading "PointerInit" 0, .identifier "name" "name" 1]⟩,
  ⟨"InitialValue", [.heading "InitialValue" 0]⟩,
  ⟨"Tentative", [.heading "Tentative" 0]⟩,
  ⟨"Initial", [.heading "Initial" 0, .children "static_inits" 1 1]⟩,
  ⟨"NoInitializer", [.heading "NoInitializer" 0]⟩,
  ⟨"IdentifierAttr", [.heading "IdentifierAttr" 0]⟩,
  ⟨"FunAttr", [.heading "FunAttr" 0, .scalar "is_defined" "is_defined" .bool 1,
    .scalar "is_global" "is_global" .bool 1]⟩,
  ⟨"StaticAttr", [.heading "StaticAttr" 0, .scalar "is_global" "is_global" .bool 1,
    .child "init" 0]⟩,
  ⟨"ConstantAttr", [.heading "ConstantAttr" 0, .child "static_init" 0]⟩,
  ⟨"LocalAttr", [.heading "LocalAttr" 0]⟩,
  ⟨"Symbol", [.heading "Symbol" 0, .child "type_t" 0, .child "attrs" 0]⟩,
  ⟨"StructMember", [.heading "StructMember" 0, .scalar "offset" "offset" .long 1,
    .child "member_type" 0]⟩,
  ⟨"StructTypedef", [.heading "StructTypedef" 0, .scalar "alignment" "alignment" .int 1,
    .scalar "size" "size" .long 1, .scalars "member_names" .identifier 1 "TIdentifier" .text 2,
    .dict "members" 1 2 2]⟩]

def syntaxTreeArms : List Arm := [
  ⟨"CConst", [.heading "CConst" 0]⟩,
  ⟨"CConstInt", [.heading "CConstInt" 0, .scalar "value" "value" .int 1]⟩,
  ⟨"CConstLong", [.heading "CConstLong" 0, .scalar "value" "value" .long 1]⟩,
  ⟨"CConstDouble", [.heading "CConstDouble" 0, .scalar "value" "value" .double 1]⟩,
  ⟨"CConstUInt", [.heading "CConstUInt" 0, .scalar "value" "value" .uInt 1]⟩,
  ⟨"CConstULong", [.heading "CConstULong" 0, .scalar "value" "value" .uLong 1]⟩,
  ⟨"CStringLiteral", [.heading "CStringLiteral" 0, .scalars "value" .int 1 "TInt" .canonical 2]⟩,
  ⟨"CUnaryOp", [.heading "CUnaryOp" 0]⟩,
  ⟨"CComplement", [.heading "CComplement" 0]⟩,
  ⟨"CNegate", [.heading "CNegate" 0]⟩,
  ⟨"CNot", [.heading "CNot" 0]⟩,
  ⟨"CPrefix", [.heading "CPrefix" 0]⟩,
  ⟨"CPostfix", [.heading "CPostfix" 0]⟩,
  ⟨"CBinaryOp", [.heading "CBinaryOp" 0]⟩,
  ⟨"CAdd", [.heading "CAdd" 0]⟩,
  ⟨"CSubtract", [.heading "CSubtract" 0]⟩,
  ⟨"CMultiply", [.heading "CMultiply" 0]⟩,
  ⟨"CDivide", [.heading "CDivide" 0]⟩,
  ⟨"CRemainder", [.heading "CRemainder" 0]⟩,
  ⟨"CBitAnd", [.heading "CBitAnd" 0]⟩,
  ⟨"CBitOr", [.heading "CBitOr" 0]⟩,
  ⟨"CBitXor", [.heading "CBitXor" 0]⟩,
  ⟨"CBitShiftLeft", [.heading "CBitShiftLeft" 0]⟩,
  ⟨"CBitShiftRight", [.heading "CBitShiftRight" 0]⟩,
  ⟨"CBitShrArithmetic", [.heading "CBitShrArithmetic" 0]⟩,
  ⟨"CAnd", [.heading "CAnd" 0]⟩,
  ⟨"COr", [.heading "COr" 0]⟩,
  ⟨"CEqual", [.heading "CEqual" 0]⟩,
  ⟨"CNotEqual", [.heading "CNotEqual" 0]⟩,
  ⟨"CLessThan", [.heading "CLessThan" 0]⟩,
  ⟨"CLessOrEqual", [.heading "CLessOrEqual" 0]⟩,
  ⟨"CGreaterThan", [.heading "CGreaterThan" 0]⟩,
  ⟨"CGreaterOrEqual", [.heading "CGreaterOrEqual" 0]⟩,
  ⟨"CExp", [.heading "CExp" 0, .child "exp_type" 0]⟩,
  ⟨"CConstant", [.heading "CConstant" 0, .child "constant" 0, .child "exp_type" 0]⟩,
  ⟨"CString", [.heading "CString" 0, .child "literal" 0, .child "exp_type" 0]⟩,
  ⟨"CVar", [.heading "CVar" 0, .identifier "name" "name" 1, .child "exp_type" 0]⟩,
  ⟨"CCast", [.heading "CCast" 0, .child "exp" 0, .child "target_type" 0, .child "exp_type" 0]⟩,
  ⟨"CUnary", [.heading "CUnary" 0, .child "unary_op" 0, .child "exp" 0, .child "exp_type" 0]⟩,
  ⟨"CBinary", [.heading "CBinary" 0, .child "binary_op" 0, .child "exp_left" 0,
    .child "exp_right" 0, .child "exp_type" 0]⟩,
  ⟨"CAssignment", [.heading "CAssignment" 0, .child "unary_op" 0, .child "exp_left" 0,
    .child "exp_right" 0, .child "exp_type" 0]⟩,
  ⟨"CConditional", [.heading "CConditional" 0, .child "condition" 0, .child "exp_middle" 0,
    .child "exp_right" 0, .child "exp_type" 0]⟩,
  ⟨"CFunctionCall", [.heading "CFunctionCall" 0, .identifier "name" "name" 1,
    .children "args" 1 1, .child "exp_type" 0]⟩,
  ⟨"CDereference", [.heading "CDereference" 0, .child "exp" 0, .child "exp_type" 0]⟩,
  ⟨"CAddrOf", [.heading "CAddrOf" 0, .child "exp" 0, .child "exp_type" 0]⟩,
  ⟨"CSubscript", [.heading "CSubscript" 0, .child "primary_exp" 0, .child "subscript_exp" 0,
    .child "exp_type" 0]⟩,
  ⟨"CSizeOf", [.heading "CSizeOf" 0, .child "exp" 0, .child "exp_type" 0]⟩,
  ⟨"CSizeOfT", [.heading "CSizeOfT" 0, .child "target_type" 0, .child "exp_type" 0]⟩,
  ⟨"CDot", [.heading "CDot" 0, .identifier "member" "member" 1, .child "structure" 0,
    .child "exp_type" 0]⟩,
  ⟨"CArrow", [.heading "CArrow" 0, .identifier "member" "member" 1, .child "pointer" 0,
    .child "exp_type" 0]⟩,
  ⟨"CStatement", [.heading "CStatement" 0]⟩,
  ⟨"CReturn", [.heading "CReturn" 0, .child "exp" 0]⟩,
  ⟨"CExpression", [.heading "CExpression" 0, .child "exp" 0]⟩,
  ⟨"CIf", [.heading "CIf" 0, .child "condition" 0, .child "then" 0, .child "else_fi" 0]⟩,
  ⟨"CGoto", [.heading "CGoto" 0, .identifier "target" "target" 1]⟩,
  ⟨"CLabel", [.heading "CLabel" 0, .identifier "target" "target" 1, .child "jump_to" 0]⟩,
  ⟨"CCompound", [.heading "CCompound" 0, .child "block" 0]⟩,
  ⟨"CWhile", [.heading "CWhile" 0, .identifier "target" "target" 1, .child "condition" 0,
    .child "body" 0]⟩,
  ⟨"CDoWhile", [.heading "CDoWhile" 0, .identifier "target" "target" 1, .child "condition" 0,
    .child "body" 0]⟩,
  ⟨"CFor", [.heading "CFor" 0, .identifier "target" "target" 1, .child "init" 0,
    .child "condition" 0, .child "post" 0, .child "body" 0]⟩,
  ⟨"CSwitch", [.heading "CSwitch" 0, .identifier "target" "target" 1,
    .scalar "is_default" "is_default" .bool 1, .child "match" 0, .child "body" 0,
    .children "cases" 1 1]⟩,
  ⟨"CCase", [.heading "CCase" 0, .identifier "target" "target" 1, .child "value" 0,
    .child "jump_to" 0]⟩,
  ⟨"CDefault", [.heading "CDefault" 0, .identifier "target" "target" 1, .child "jump_to" 0]⟩,
  ⟨"CBreak", [.heading "CBreak" 0, .identifier "target" "target" 1]⟩,
  ⟨"CContinue", [.heading "CContinue" 0, .identifier "target" "target" 1]⟩,
  ⟨"CNull", [.heading "CNull" 0]⟩,
  ⟨"CForInit", [.heading "CForInit" 0]⟩,
  ⟨"CInitDecl", [.heading "CInitDecl" 0, .child "init" 0]⟩,
  ⟨"CInitExp", [.heading "CInitExp" 0, .child "init" 0]⟩,
  ⟨"CBlock", [.heading "CBlock" 0]⟩,
  ⟨"CB", [.heading "CB" 0, .children "block_items" 1 1]⟩,
  ⟨"CBlockItem", [.heading "CBlockItem" 0]⟩,
  ⟨"CS", [.heading "CS" 0, .child "statement" 0]⟩,
  ⟨"CD", [.heading "CD" 0, .child "declaration" 0]⟩,
  ⟨"CStorageClass", [.heading "CStorageClass" 0]⟩,
  ⟨"CStatic", [.heading "CStatic" 0]⟩,
  ⟨"CExtern", [.heading "CExtern" 0]⟩,
  ⟨"CInitializer", [.heading "CInitializer" 0, .child "init_type" 0]⟩,
  ⟨"CSingleInit", [.heading "CSingleInit" 0, .child "exp" 0, .child "init_type" 0]⟩,
  ⟨"CCompoundInit", [.heading "CCompoundInit" 0, .children "initializers" 1 1,
    .child "init_type" 0]⟩,
  ⟨"CMemberDeclaration", [.heading "CMemberDeclaration" 0,
    .identifier "member_name" "member_name" 1, .child "member_type" 0]⟩,
  ⟨"CStructDeclaration", [.heading "CStructDeclaration" 0, .identifier "tag" "tag" 1,
    .scalar "is_union" "is_union" .bool 1, .children "members" 1 1]⟩,
  ⟨"CFunctionDeclaration", [.heading "CFunctionDeclaration" 0, .identifier "name" "name" 1,
    .scalars "params" .identifier 1 "TIdentifier" .text 2, .child "body" 0, .child "fun_type" 0,
    .child "storage_class" 0]⟩,
  ⟨"CVariableDeclaration", [.heading "CVariableDeclaration" 0, .identifier "name" "name" 1,
    .child "init" 0, .child "var_type" 0, .child "storage_class" 0]⟩,
  ⟨"CDeclaration", [.heading "CDeclaration" 0]⟩,
  ⟨"CFunDecl", [.heading "CFunDecl" 0, .child "function_decl" 0]⟩,
  ⟨"CVarDecl", [.heading "CVarDecl" 0, .child "variable_decl" 0]⟩,
  ⟨"CStructDecl", [.heading "CStructDecl" 0, .child "struct_decl" 0]⟩,
  ⟨"CProgram", [.heading "CProgram" 0, .children "declarations" 1 1]⟩]

/-- The arms for the nodes of the three-address code. -/
def threeAddressArms : List Arm := [
  ⟨"TacUnaryOp", [.heading "TacUnaryOp" 0]⟩,
  ⟨"TacComplement", [.heading "TacComplement" 0]⟩,
  ⟨"TacNegate", [.heading "TacNegate" 0]⟩,
  ⟨"TacNot", [.heading "TacNot" 0]⟩,
  ⟨"TacBinaryOp", [.heading "TacBinaryOp" 0]⟩,
  ⟨"TacAdd", [.heading "TacAdd" 0]⟩,
  ⟨"TacSubtract", [.heading "TacSubtract" 0]⟩,
  ⟨"TacMultiply", [.heading "TacMultiply" 0]⟩,
  ⟨"TacDivide", [.heading "TacDivide" 0]⟩,
  ⟨"TacRemainder", [.heading "TacRemainder" 0]⟩,
  ⟨"TacBitAnd", [.heading "TacBitAnd" 0]⟩,
  ⟨"TacBitOr", [.heading "TacBitOr" 0]⟩,
  ⟨"TacBitXor", [.heading "TacBitXor" 0]⟩,
  ⟨"TacBitShiftLeft", [.heading "TacBitShiftLeft" 0]⟩,
  ⟨"TacBitShiftRight", [.heading "TacBitShiftRight" 0]⟩,
  ⟨"TacBitShrArithmetic", [.heading "TacBitShrArithmetic" 0]⟩,
  ⟨"TacEqual", [.heading "TacEqual" 0]⟩,
  ⟨"TacNotEqual", [.heading "TacNotEqual" 0]⟩,
  ⟨"TacLessThan", [.heading "TacLessThan" 0]⟩,
  ⟨"TacLessOrEqual", [.heading "TacLessOrEqual" 0]⟩,
  ⟨"TacGreaterThan", [.heading "TacGreaterThan" 0]⟩,
  ⟨"TacGreaterOrEqual", [.heading "TacGreaterOrEqual" 0]⟩,
  ⟨"TacValue", [.heading "TacValue" 0]⟩,
  ⟨"TacConstant", [.heading "TacConstant" 0, .child "constant" 0]⟩,
  ⟨"TacVariable", [.heading "TacVariable" 0, .identifier "name" "name" 1]⟩,
  ⟨"TacExpResult", [.heading "TacExpResult" 0]⟩,
  ⟨"TacPlainOperand", [.heading "TacPlainOperand" 0, .child "val" 0]⟩,
  ⟨"TacDereferencedPointer", [.heading "TacDereferencedPointer" 0, .child "val" 0]⟩,
  ⟨"TacSubObject", [.heading "TacSubObject" 0, .identifier "base_name" "base_name" 1,
    .scalar "offset" "offset" .long 1]⟩,
  ⟨"TacInstruction", [.heading "TacInstruction" 0]⟩,
  ⟨"TacReturn", [.heading "TacReturn" 0, .child "val" 0]⟩,
  ⟨"TacSignExtend", [.heading "TacSignExtend" 0, .child "src" 0, .child "dst" 0]⟩,
  ⟨"TacTruncate", [.heading "TacTruncate" 0, .child "src" 0, .child "dst" 0]⟩,
  ⟨"TacZeroExtend", [.heading "TacZeroExtend" 0, .child "src" 0, .child "dst" 0]⟩,
  ⟨"TacDoubleToInt", [.heading "TacDoubleToInt" 0, .child "src" 0, .child "dst" 0]⟩,
  ⟨"TacDoubleToUInt", [.heading "TacDoubleToUInt" 0, .child "src" 0, .child "dst" 0]⟩,
  ⟨"TacIntToDouble", [.heading "TacIntToDouble" 0, .child "src" 0, .child "dst" 0]⟩,
  ⟨"TacUIntToDouble", [.heading "TacUIntToDouble" 0, .child "src" 0, .child "dst" 0]⟩,
  ⟨"TacFunCall", [.heading "TacFunCall" 0, .identifier "name" "name" 1, .children "args" 1 1,
    .child "dst" 0]⟩,
  ⟨"TacUnary", [.heading "TacUnary" 0, .child "unary_op" 0, .child "src" 0, .child "dst" 0]⟩,
  ⟨"TacBinary", [.heading "TacBinary" 0, .child "binary_op" 0, .child "src1" 0, .child "src2" 0,
    .child "dst" 0]⟩,
  ⟨"TacCopy", [.heading "TacCopy" 0, .child "src" 0, .child "dst" 0]⟩,
  ⟨"TacGetAddress", [.heading "TacGetAddress" 0, .child "src" 0, .child "dst" 0]⟩,
  ⟨"TacLoad", [.heading "TacLoad" 0, .child "src_ptr" 0, .child "dst" 0]⟩,
  ⟨"TacStore", [.heading "TacStore" 0, .child "src" 0, .child "dst_ptr" 0]⟩,
  ⟨"TacAddPtr", [.heading "TacAddPtr" 0, .scalar "scale" "scale" .long 1, .child "src_ptr" 0,
    .child "idx" 0, .child "dst" 0]⟩,
  ⟨"TacCopyToOffset", [.heading "TacCopyToOffset" 0, .identifier "dst_name" "dst_name" 1,
    .scalar "offset" "offset" .long 1, .child "src" 0]⟩,
  ⟨"TacCopyFromOffset", [.heading "TacCopyFromOffset" 0, .identifier "src_name" "src_name" 1,
    .scalar "offset" "offset" .long 1, .child "dst" 0]⟩,
  ⟨"TacJump", [.heading "TacJump" 0, .identifier "target" "target" 1]⟩,
  ⟨"TacJumpIfZero", [.heading "TacJumpIfZero" 0, .identifier "target" "target" 1,
    .child "condition" 0]⟩,
  ⟨"TacJumpIfNotZero", [.heading "TacJumpIfNotZero" 0, .identifier "target" "target" 1,
    .child "condition" 0]⟩,
  ⟨"TacLabel", [.heading "TacLabel" 0, .identifier "name" "name" 1]⟩,
  ⟨"TacTopLevel", [.heading "TacTopLevel" 0]⟩,
  ⟨"TacFunction", [.heading "TacFunction" 0, .identifier "name" "name" 1,
    .scalar "is_global" "is_global" .bool 1,
    .scalars "params" .identifier 1 "TIdentifier" .text 2, .children "body" 1 1]⟩,
  ⟨"TacStaticVariable", [.heading "TacStaticVariable" 0, .identifier "name" "name" 1,
    .scalar "is_global" "is_global" .bool 1, .child "static_init_type" 0,
    .children "static_inits" 1 1]⟩,
  ⟨"TacStaticConstant", [.heading "TacStaticConstant" 0, .identifier "name" "name" 1,
    .child "static_init_type" 0, .child "static_init" 0]⟩,
  ⟨"TacProgram", [.heading "TacProgram" 0, .children "static_constant_top_levels" 1 1,
    .children "static_variable_top_levels" 1 1, .children "function_top_levels" 1 1]⟩]

/-- The arms for the nodes of the back end's symbol table. -/
def backEndArms : List Arm := [
  ⟨"AssemblyType", [.heading "AssemblyType" 0]⟩,
  ⟨"Byte", [.heading "Byte" 0]⟩,
  ⟨"LongWord", [.heading "LongWord" 0]⟩,
  ⟨"QuadWord", [.heading "QuadWord" 0]⟩,
  ⟨"BackendDouble", [.heading "BackendDouble" 0]⟩,
  ⟨"ByteArray", [.heading "ByteArray" 0, .scalar "size" "size" .long 1,
    .scalar "alignment" "alignment" .int 1]⟩,
  ⟨"BackendSymbol", [.heading "BackendSymbol" 0]⟩,
  ⟨"BackendObj", [.heading "BackendObj" 0, .scalar "is_static" "is_static" .bool 1,
    .scalar "is_constant" "is_constant" .bool 1, .child "assembly_type" 0]⟩,
  ⟨"BackendFun", [.heading "BackendFun" 0, .scalar "is_defined" "is_defined" .bool 1,
    .children "callee_saved_registers" 1 1]⟩]

end CompilerProgram

namespace Program

/-- The printer program kept for the compiler's nodes. -/
def compiler : Program where
  importsTypes := true
  arms := CompilerProgram.frontEndArms ++ CompilerProgram.syntaxTreeArms ++
    CompilerProgram.threeAddressArms ++ CompilerProgram.backEndArms

end Program

end TreeDump
