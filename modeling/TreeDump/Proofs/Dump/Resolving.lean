import TreeDump.Proofs.Dump.Standing

/-!
# Resolving entries of constant tables

Main statements: an entry is resolved to a constant exactly if it stands for it, and it is not
resolved exactly if there is a reason to refuse it, which is then what is reported.
-/

namespace TreeDump.Constant

variable {symbols objects : Table Node} {key symbol : String} {error : DumpError}

lemma refuse_eq_error_iff {α : Type} {fault : ConstantFault} :
    (refuse key fault : Except DumpError α) = .error error ↔ error = .formatMismatch key fault := by
  simp [refuse, eq_comm]

section TaggedChild

variable {node child : Node} {field tag : String} {fault : ConstantFault}

lemma taggedChild_eq_ok_iff :
    taggedChild key node field tag fault = .ok child ↔ node.HasTagged field tag child := by
  unfold taggedChild Node.HasTagged Node.HasChild
  rw [bind_eq_ok_iff]
  constructor
  · rintro ⟨_ | found, hread, h⟩
    · cases h
    · dsimp only at h
      split at h
      · next htag =>
        obtain rfl := Except.ok.inj h
        exact ⟨Layer.readChild_eq_ok_iff.1 hread, htag⟩
      · cases h
  · rintro ⟨hchild, htag⟩
    exact ⟨some child, Layer.readChild_eq_ok_iff.2 hchild, if_pos htag⟩

lemma taggedChild_error (h : taggedChild key node field tag fault = .error error) :
    (¬ node.layer.HasShape field .child ∧ error = .fieldMismatch node.tag field .child) ∨
      (∀ child, ¬ node.HasTagged field tag child) ∧ error = .formatMismatch key fault := by
  have hnone : ∀ child, ¬ node.HasTagged field tag child := by
    intro child hchild
    cases h.symm.trans (taggedChild_eq_ok_iff.2 hchild)
  unfold taggedChild at h
  obtain hread | ⟨_ | found, -, h⟩ := bind_eq_error_iff.1 h
  · exact .inl (Layer.readChild_eq_error_iff.1 hread)
  · exact .inr ⟨hnone, refuse_eq_error_iff.1 h⟩
  · dsimp only at h
    split at h
    · cases h
    · exact .inr ⟨hnone, refuse_eq_error_iff.1 h⟩

lemma taggedChild_of_forall_not (hshape : node.layer.HasShape field .child)
    (h : ∀ child, ¬ node.HasTagged field tag child) :
    taggedChild key node field tag fault = .error (.formatMismatch key fault) := by
  cases hchild : taggedChild key node field tag fault with
  | ok child => exact absurd (taggedChild_eq_ok_iff.1 hchild) (h child)
  | error error =>
    obtain ⟨hnot, -⟩ | ⟨-, rfl⟩ := taggedChild_error hchild
    · exact absurd hshape hnot
    · rfl

lemma taggedChild_of_not_hasShape (h : ¬ node.layer.HasShape field .child) :
    taggedChild key node field tag fault = .error (.fieldMismatch node.tag field .child) :=
  bind_eq_error_iff.2 (.inl (Layer.readChild_eq_error_iff.2 ⟨h, rfl⟩))

end TaggedChild

lemma byte_eq_ok_iff {element : Scalar} {value : UInt8} :
    byte key element = .ok value ↔ IsByte element value := by
  cases element with
  | int number =>
    have hbyte : UInt8.ofNat (number.toInt % 256).toNat = value ↔
        (value.toNat : Int) = number.toInt % 256 := by
      rw [← UInt8.toNat_inj, UInt8.toNat_ofNat']
      omega
    simp only [byte, IsByte, Scalar.int.injEq, exists_eq_left']
    split
    · next hrange => simp [hbyte, hrange]
    · next hrange =>
      simp only [refuse, reduceCtorEq, false_iff]
      exact fun h => hrange ⟨h.1, h.2.1⟩
  | _ => simp [byte, IsByte, refuse]

lemma byte_error {element : Scalar} (h : byte key element = .error error) :
    error = .formatMismatch key .elementNotByte := by
  unfold byte at h
  split at h
  · split at h
    · cases h
    · exact refuse_eq_error_iff.1 h
  · exact refuse_eq_error_iff.1 h

lemma IsByte.type {element : Scalar} {byte : UInt8} (h : IsByte element byte) :
    element.type = .int := by
  obtain ⟨value, rfl, -⟩ := h
  rfl

lemma stringBytes_eq_ok_iff {initializer : Node} {bytes : List UInt8} :
    stringBytes key initializer = .ok bytes ↔
      ∃ literal, initializer.HasTagged "literal" "CStringLiteral" literal ∧
        HasBytes literal bytes := by
  unfold stringBytes
  simp only [bind_eq_ok_iff, taggedChild_eq_ok_iff, Layer.readScalars_eq_ok_iff, mapM_eq_ok_iff,
    byte_eq_ok_iff]
  refine exists_congr fun literal => and_congr_right fun _ => exists_congr fun elements => ?_
  constructor
  · rintro ⟨⟨hfield, -⟩, hbytes⟩
    exact ⟨hfield, hbytes⟩
  · rintro ⟨hfield, hbytes⟩
    have htyped := hbytes.imp fun _ _ h => And.intro h.type h
    exact ⟨⟨hfield, ((List.forall₂_and_left _ _).1 htyped).1⟩, hbytes⟩

lemma doubleOfKey_eq_ok_iff {value : Binary64} :
    doubleOfKey key = .ok value ↔ Decimal.Denotes key value.bits.toNat := by
  rw [← Decimal.read?_eq_some_iff]
  unfold doubleOfKey
  cases hread : Decimal.read? key with
  | none => simp [refuse]
  | some bits =>
    dsimp only
    constructor
    · intro h
      split at h
      · next hbits =>
        obtain rfl := Except.ok.inj h
        exact congrArg some (UInt64.toNat_ofNat_of_lt hbits).symm
      · cases h
    · intro h
      obtain rfl := Option.some.inj h
      rw [if_pos value.bits.toNat_lt_size, UInt64.ofNat_toNat]

lemma doubleOfKey_error (h : doubleOfKey key = .error error) :
    error = .formatMismatch key .keyNotBits := by
  unfold doubleOfKey at h
  split at h
  · split at h
    · cases h
    · exact refuse_eq_error_iff.1 h
  · exact refuse_eq_error_iff.1 h

lemma attribute?_eq_some_iff {attributes : Node} :
    attribute? symbol symbols = .ok (some attributes) ↔
      HasAttribute symbols symbol attributes := by
  unfold attribute? HasAttribute Node.HasTagged Node.HasChild
  cases symbols.get? symbol with
  | none => simp
  | some entry =>
    simp [bind_eq_ok_iff, Layer.readChild_eq_ok_iff, Option.filter_eq_some_iff, pure, Except.pure]

lemma attribute?_eq_none_iff :
    attribute? symbol symbols = .ok none ↔ LacksAttribute symbols symbol := by
  unfold attribute? LacksAttribute Node.HasChild
  cases symbols.get? symbol with
  | none => simp
  | some entry =>
    simp [bind_eq_ok_iff, Layer.readChild_eq_ok_iff, Option.filter_eq_none_iff, pure, Except.pure]

lemma attribute?_of_not_hasShape {entry : Node} (hentry : symbols.get? symbol = some entry)
    (h : ¬ entry.layer.HasShape "attrs" .child) :
    attribute? symbol symbols = .error (.fieldMismatch entry.tag "attrs" .child) := by
  unfold attribute?
  rw [hentry]
  exact bind_eq_error_iff.2 (.inl (Layer.readChild_eq_error_iff.2 ⟨h, rfl⟩))

lemma attribute?_error (h : attribute? symbol symbols = .error error) :
    ∃ entry, symbols.get? symbol = some entry ∧ ¬ entry.layer.HasShape "attrs" .child ∧
      error = .fieldMismatch entry.tag "attrs" .child := by
  unfold attribute? at h
  cases hentry : symbols.get? symbol with
  | none =>
    rw [hentry] at h
    cases h
  | some entry =>
    rw [hentry] at h
    obtain hread | ⟨child, -, h⟩ := bind_eq_error_iff.1 h
    · exact ⟨entry, rfl, Layer.readChild_eq_error_iff.1 hread⟩
    · cases h

lemma find_object_iff {object : Node} :
    (objects.get? symbol).filter (·.tag = "BackendObj") = some object ↔
      objects.get? symbol = some object ∧ object.tag = "BackendObj" := by
  simp [Option.filter_eq_some_iff]

lemma isDouble_iff {object : Node} {isConstant : Scalar} {type : Option Node}
    (htag : object.tag = "BackendObj")
    (hconstant : object.layer.readScalar "is_constant" .bool = .ok isConstant)
    (htype : object.layer.readChild "assembly_type" = .ok type) :
    IsDouble object ↔ isConstant = .bool true ∧ type.any (·.tag = "BackendDouble") := by
  obtain ⟨hconstant, -⟩ := Layer.readScalar_eq_ok_iff.1 hconstant
  have htype := Layer.readChild_eq_ok_iff.1 htype
  constructor
  · rintro ⟨-, htrue, found, hfound, hdouble⟩
    have hscalars := hconstant.symm.trans htrue
    have hchildren := htype.symm.trans hfound
    simp_all
  · rintro ⟨rfl, hany⟩
    cases type with
    | none => cases hany
    | some type => exact ⟨htag, hconstant, type, htype, by simpa using hany⟩

lemma backEndDouble_eq {object : Node} (hobject : objects.get? symbol = some object)
    (htag : object.tag = "BackendObj") :
    backEndDouble key symbol objects = (do
      let isConstant ← object.layer.readScalar "is_constant" .bool
      let type ← object.layer.readChild "assembly_type"
      if isConstant = .bool true ∧ type.any (·.tag = "BackendDouble") then doubleOfKey key
      else refuse key .objectNotDouble) := by
  unfold backEndDouble
  rw [find_object_iff.2 ⟨hobject, htag⟩]

lemma backEndDouble_of_none
    (h : (objects.get? symbol).filter (·.tag = "BackendObj") = none) :
    backEndDouble key symbol objects = refuse key (.symbolMissing symbol) := by
  unfold backEndDouble
  rw [h]

lemma backEndDouble_eq_ok_iff {value : Binary64} :
    backEndDouble key symbol objects = .ok value ↔
      ∃ object, objects.get? symbol = some object ∧ IsDouble object ∧
        Decimal.Denotes key value.bits.toNat := by
  constructor
  · intro h
    cases hfound : (objects.get? symbol).filter (·.tag = "BackendObj") with
    | none =>
      rw [backEndDouble_of_none hfound] at h
      cases h
    | some object =>
      obtain ⟨hobject, htag⟩ := find_object_iff.1 hfound
      rw [backEndDouble_eq hobject htag] at h
      obtain ⟨isConstant, hconstant, hrest⟩ := bind_eq_ok_iff.1 h
      obtain ⟨type, htype, hkey⟩ := bind_eq_ok_iff.1 hrest
      split at hkey
      · next hdouble =>
        refine ⟨object, hobject, ?_, doubleOfKey_eq_ok_iff.1 hkey⟩
        exact (isDouble_iff htag hconstant htype).2 hdouble
      · cases hkey
  · rintro ⟨object, hobject, hdouble, hkey⟩
    obtain ⟨type, htype, -⟩ := hdouble.double
    have hconstant := Layer.readScalar_eq_ok_iff.2 ⟨hdouble.constant, rfl⟩
    have hchild := Layer.readChild_eq_ok_iff.2 htype
    rw [backEndDouble_eq hobject hdouble.tag]
    refine bind_eq_ok_iff.2 ⟨_, hconstant, bind_eq_ok_iff.2 ⟨_, hchild, ?_⟩⟩
    rw [if_pos ((isDouble_iff hdouble.tag hconstant hchild).1 hdouble)]
    exact doubleOfKey_eq_ok_iff.2 hkey

/-! ### Entries -/

lemma resolve_of_hasAttribute {attributes : Node} (h : HasAttribute symbols symbol attributes) :
    resolve key symbol symbols objects = (do
      let initializer ←
        taggedChild key attributes "static_init" "StringInit" .initializerNotString
      return .string (← stringBytes key initializer)) := by
  unfold resolve
  rw [attribute?_eq_some_iff.2 h]
  rfl

lemma resolve_of_lacksAttribute (h : LacksAttribute symbols symbol) :
    resolve key symbol symbols objects =
      (do return .double (← backEndDouble key symbol objects)) := by
  unfold resolve
  rw [attribute?_eq_none_iff.2 h]
  rfl

/-- An entry is resolved to a constant exactly if it stands for it. -/
theorem resolve_eq_ok_iff {constant : Constant} :
    resolve key symbol symbols objects = .ok constant ↔
      Stands symbols objects key symbol constant := by
  constructor
  · intro h
    cases hattribute : attribute? symbol symbols with
    | error error =>
      unfold resolve at h
      rw [hattribute] at h
      cases h
    | ok found =>
      cases found with
      | none =>
        have hlacks := attribute?_eq_none_iff.1 hattribute
        rw [resolve_of_lacksAttribute hlacks] at h
        obtain ⟨value, hvalue, h⟩ := bind_eq_ok_iff.1 h
        obtain rfl := Except.ok.inj h
        obtain ⟨object, hobject, hdouble, hkey⟩ := backEndDouble_eq_ok_iff.1 hvalue
        exact .double hlacks hobject hdouble hkey
      | some attributes =>
        have hfound := attribute?_eq_some_iff.1 hattribute
        rw [resolve_of_hasAttribute hfound] at h
        obtain ⟨initializer, hinitializer, h⟩ := bind_eq_ok_iff.1 h
        obtain ⟨bytes, hbytes, h⟩ := bind_eq_ok_iff.1 h
        obtain rfl := Except.ok.inj h
        obtain ⟨literal, hliteral, hbytes⟩ := stringBytes_eq_ok_iff.1 hbytes
        exact .string hfound ⟨initializer, taggedChild_eq_ok_iff.1 hinitializer, hliteral⟩ hbytes
  · intro h
    cases h with
    | string hfound hliteral hbytes =>
      obtain ⟨initializer, hinitializer, hliteral⟩ := hliteral
      rw [resolve_of_hasAttribute hfound]
      refine bind_eq_ok_iff.2 ⟨initializer, taggedChild_eq_ok_iff.2 hinitializer, ?_⟩
      exact bind_eq_ok_iff.2 ⟨_, stringBytes_eq_ok_iff.2 ⟨_, hliteral, hbytes⟩, rfl⟩
    | double hlacks hobject hdouble hkey =>
      rw [resolve_of_lacksAttribute hlacks]
      exact bind_eq_ok_iff.2 ⟨_, backEndDouble_eq_ok_iff.2 ⟨_, hobject, hdouble, hkey⟩, rfl⟩

lemma Stands.unique {constant other : Constant} (h : Stands symbols objects key symbol constant)
    (hother : Stands symbols objects key symbol other) : constant = other :=
  Except.ok.inj ((resolve_eq_ok_iff.2 h).symm.trans (resolve_eq_ok_iff.2 hother))

/-- A field that has to be read and has not the shape for it ends the resolution. -/
lemma resolve_of_not_hasShape {node : Node} {field : String} {shape : FieldShape}
    (h : Consults symbols objects symbol node field shape)
    (hshape : ¬ node.layer.HasShape field shape) :
    resolve key symbol symbols objects = .error (.fieldMismatch node.tag field shape) := by
  cases h with
  | attributes hentry =>
    unfold resolve
    exact bind_eq_error_iff.2 (.inl (attribute?_of_not_hasShape hentry hshape))
  | initializer hfound =>
    rw [resolve_of_hasAttribute hfound]
    exact bind_eq_error_iff.2 (.inl (taggedChild_of_not_hasShape hshape))
  | literal hfound hinitializer =>
    rw [resolve_of_hasAttribute hfound]
    refine bind_eq_error_iff.2 (.inr ⟨_, taggedChild_eq_ok_iff.2 hinitializer, ?_⟩)
    refine bind_eq_error_iff.2 (.inl ?_)
    exact bind_eq_error_iff.2 (.inl (taggedChild_of_not_hasShape hshape))
  | elements hfound hliteral =>
    obtain ⟨initializer, hinitializer, hliteral⟩ := hliteral
    rw [resolve_of_hasAttribute hfound]
    refine bind_eq_error_iff.2 (.inr ⟨_, taggedChild_eq_ok_iff.2 hinitializer, ?_⟩)
    refine bind_eq_error_iff.2 (.inl ?_)
    refine bind_eq_error_iff.2 (.inr ⟨_, taggedChild_eq_ok_iff.2 hliteral, ?_⟩)
    exact bind_eq_error_iff.2 (.inl (Layer.readScalars_eq_error_iff.2 ⟨hshape, rfl⟩))
  | constancy hlacks hobject htag =>
    rw [resolve_of_lacksAttribute hlacks, backEndDouble_eq hobject htag]
    refine bind_eq_error_iff.2 (.inl ?_)
    exact bind_eq_error_iff.2 (.inl (Layer.readScalar_eq_error_iff.2 ⟨hshape, rfl⟩))
  | type hlacks hobject htag hconstancy =>
    obtain ⟨value, hvalue, htype⟩ := hconstancy
    rw [resolve_of_lacksAttribute hlacks, backEndDouble_eq hobject htag]
    refine bind_eq_error_iff.2 (.inl ?_)
    refine bind_eq_error_iff.2 (.inr ⟨value, Layer.readScalar_eq_ok_iff.2 ⟨hvalue, htype⟩, ?_⟩)
    exact bind_eq_error_iff.2 (.inl (Layer.readChild_eq_error_iff.2 ⟨hshape, rfl⟩))

lemma resolve_of_unfit {fault : ConstantFault}
    (hreads : ∀ node field shape, Consults symbols objects symbol node field shape →
      node.layer.HasShape field shape)
    (h : Unfit symbols objects key symbol fault) :
    resolve key symbol symbols objects = .error (.formatMismatch key fault) := by
  cases h with
  | initializerNotString hfound hnone =>
    rw [resolve_of_hasAttribute hfound]
    have hshape := hreads _ _ _ (.initializer hfound)
    exact bind_eq_error_iff.2 (.inl (taggedChild_of_forall_not hshape hnone))
  | literalMissing hfound hinitializer hnone =>
    rw [resolve_of_hasAttribute hfound]
    have hshape := hreads _ _ _ (.literal hfound hinitializer)
    refine bind_eq_error_iff.2 (.inr ⟨_, taggedChild_eq_ok_iff.2 hinitializer, ?_⟩)
    refine bind_eq_error_iff.2 (.inl ?_)
    exact bind_eq_error_iff.2 (.inl (taggedChild_of_forall_not hshape hnone))
  | elementNotByte hfound hliteral hnone =>
    obtain ⟨elements, helements⟩ := hreads _ _ _ (.elements hfound hliteral)
    obtain ⟨initializer, hinitializer, hliteral⟩ := hliteral
    rw [resolve_of_hasAttribute hfound]
    refine bind_eq_error_iff.2 (.inr ⟨_, taggedChild_eq_ok_iff.2 hinitializer, ?_⟩)
    refine bind_eq_error_iff.2 (.inl ?_)
    refine bind_eq_error_iff.2 (.inr ⟨_, taggedChild_eq_ok_iff.2 hliteral, ?_⟩)
    refine bind_eq_error_iff.2 (.inr ⟨elements, Layer.readScalars_eq_ok_iff.2 helements, ?_⟩)
    cases hbytes : elements.mapM (byte key) with
    | ok bytes =>
      simp only [mapM_eq_ok_iff, byte_eq_ok_iff] at hbytes
      exact absurd ⟨elements, helements.1, hbytes⟩ (hnone bytes)
    | error error =>
      obtain ⟨element, -, helement⟩ := exists_of_mapM_eq_error hbytes
      rw [byte_error helement]
  | symbolMissing hlacks hnone =>
    rw [resolve_of_lacksAttribute hlacks, backEndDouble_of_none (by simpa using hnone)]
    rfl
  | objectNotDouble hlacks hobject htag hdouble =>
    have hconstancy := hreads _ _ _ (.constancy hlacks hobject htag)
    obtain ⟨type, htype⟩ := hreads _ _ _ (.type hlacks hobject htag hconstancy)
    obtain ⟨isConstant, hconstant⟩ := hconstancy
    have hconstant := Layer.readScalar_eq_ok_iff.2 hconstant
    have htype := Layer.readChild_eq_ok_iff.2 htype
    rw [resolve_of_lacksAttribute hlacks, backEndDouble_eq hobject htag]
    refine bind_eq_error_iff.2 (.inl ?_)
    refine bind_eq_error_iff.2 (.inr ⟨_, hconstant, bind_eq_error_iff.2 (.inr ⟨_, htype, ?_⟩)⟩)
    exact if_neg (mt (isDouble_iff htag hconstant htype).2 hdouble)
  | keyNotBits hlacks hobject hdouble hkey =>
    obtain ⟨type, htype, -⟩ := hdouble.double
    have hconstant := Layer.readScalar_eq_ok_iff.2 ⟨hdouble.constant, rfl⟩
    have htype := Layer.readChild_eq_ok_iff.2 htype
    rw [resolve_of_lacksAttribute hlacks, backEndDouble_eq hobject hdouble.tag]
    refine bind_eq_error_iff.2 (.inl ?_)
    refine bind_eq_error_iff.2 (.inr ⟨_, hconstant, bind_eq_error_iff.2 (.inr ⟨_, htype, ?_⟩)⟩)
    rw [if_pos ((isDouble_iff hdouble.tag hconstant htype).1 hdouble)]
    cases hbits : doubleOfKey key with
    | ok value => exact absurd (doubleOfKey_eq_ok_iff.1 hbits) (hkey value)
    | error error => rw [doubleOfKey_error hbits]

lemma refused_of_unfit {fault : ConstantFault} (h : Unfit symbols objects key symbol fault)
    (hresolve : resolve key symbol symbols objects = .error (.formatMismatch key fault)) :
    Refused symbols objects key symbol (.formatMismatch key fault) := by
  refine .unfit (fun node field shape hconsults => ?_) h
  by_contra hshape
  rw [resolve_of_not_hasShape hconsults hshape] at hresolve
  cases hresolve

lemma refused_of_stringBytes {attributes initializer : Node}
    (hfound : HasAttribute symbols symbol attributes)
    (hinitializer : attributes.HasTagged "static_init" "StringInit" initializer)
    (hresolve : resolve key symbol symbols objects = .error error)
    (h : stringBytes key initializer = .error error) :
    Refused symbols objects key symbol error := by
  have hbytes := h
  unfold stringBytes at h
  obtain h | ⟨literal, hliteral, h⟩ := bind_eq_error_iff.1 h
  · obtain ⟨hshape, rfl⟩ | ⟨hnone, rfl⟩ := taggedChild_error h
    · exact .unreadable (.literal hfound hinitializer) hshape
    · exact refused_of_unfit (.literalMissing hfound hinitializer hnone) hresolve
  · have hliteral := taggedChild_eq_ok_iff.1 hliteral
    obtain h | ⟨elements, -, h⟩ := bind_eq_error_iff.1 h
    · obtain ⟨hshape, rfl⟩ := Layer.readScalars_eq_error_iff.1 h
      exact .unreadable (.elements hfound ⟨initializer, hinitializer, hliteral⟩) hshape
    · obtain ⟨element, -, h⟩ := exists_of_mapM_eq_error h
      obtain rfl := byte_error h
      refine refused_of_unfit (.elementNotByte hfound ⟨_, hinitializer, hliteral⟩ ?_) hresolve
      intro bytes hhas
      cases hbytes.symm.trans (stringBytes_eq_ok_iff.2 ⟨literal, hliteral, hhas⟩)

lemma refused_of_backEndDouble (hlacks : LacksAttribute symbols symbol)
    (hresolve : resolve key symbol symbols objects = .error error)
    (h : backEndDouble key symbol objects = .error error) :
    Refused symbols objects key symbol error := by
  cases hfound : (objects.get? symbol).filter (·.tag = "BackendObj") with
  | none =>
    rw [backEndDouble_of_none hfound] at h
    obtain rfl := refuse_eq_error_iff.1 h
    exact refused_of_unfit (.symbolMissing hlacks (by simpa using hfound)) hresolve
  | some object =>
    obtain ⟨hobject, htag⟩ := find_object_iff.1 hfound
    rw [backEndDouble_eq hobject htag] at h
    obtain h | ⟨isConstant, hconstant, h⟩ := bind_eq_error_iff.1 h
    · obtain ⟨hshape, rfl⟩ := Layer.readScalar_eq_error_iff.1 h
      exact .unreadable (.constancy hlacks hobject htag) hshape
    · obtain h | ⟨type, htype, h⟩ := bind_eq_error_iff.1 h
      · obtain ⟨hshape, rfl⟩ := Layer.readChild_eq_error_iff.1 h
        have hconstancy := Layer.readScalar_eq_ok_iff.1 hconstant
        exact .unreadable (.type hlacks hobject htag ⟨isConstant, hconstancy⟩) hshape
      · have hdouble := isDouble_iff htag hconstant htype
        split at h
        · next htest =>
          obtain rfl := doubleOfKey_error h
          refine refused_of_unfit (.keyNotBits hlacks hobject (hdouble.2 htest) ?_) hresolve
          intro value hkey
          cases h.symm.trans (doubleOfKey_eq_ok_iff.2 hkey)
        · next htest =>
          obtain rfl := refuse_eq_error_iff.1 h
          have hother := mt hdouble.1 htest
          exact refused_of_unfit (.objectNotDouble hlacks hobject htag hother) hresolve

lemma refused_of_resolve (h : resolve key symbol symbols objects = .error error) :
    Refused symbols objects key symbol error := by
  have hresolve := h
  cases hattribute : attribute? symbol symbols with
  | error attributeError =>
    unfold resolve at h
    rw [hattribute] at h
    obtain rfl := Except.error.inj h
    obtain ⟨entry, hentry, hshape, rfl⟩ := attribute?_error hattribute
    exact .unreadable (.attributes hentry) hshape
  | ok found =>
    cases found with
    | none =>
      have hlacks := attribute?_eq_none_iff.1 hattribute
      rw [resolve_of_lacksAttribute hlacks] at h
      obtain h | ⟨value, -, h⟩ := bind_eq_error_iff.1 h
      · exact refused_of_backEndDouble hlacks hresolve h
      · cases h
    | some attributes =>
      have hfound := attribute?_eq_some_iff.1 hattribute
      rw [resolve_of_hasAttribute hfound] at h
      obtain h | ⟨initializer, hinitializer, h⟩ := bind_eq_error_iff.1 h
      · obtain ⟨hshape, rfl⟩ | ⟨hnone, rfl⟩ := taggedChild_error h
        · exact .unreadable (.initializer hfound) hshape
        · exact refused_of_unfit (.initializerNotString hfound hnone) hresolve
      · have hinitializer := taggedChild_eq_ok_iff.1 hinitializer
        obtain h | ⟨bytes, -, h⟩ := bind_eq_error_iff.1 h
        · exact refused_of_stringBytes hfound hinitializer hresolve h
        · cases h

/-- An entry is not resolved exactly if there is a reason to refuse it, and for that reason. -/
theorem resolve_eq_error_iff :
    resolve key symbol symbols objects = .error error ↔
      Refused symbols objects key symbol error := by
  refine ⟨refused_of_resolve, fun h => ?_⟩
  cases h with
  | unreadable hconsults hshape => exact resolve_of_not_hasShape hconsults hshape
  | unfit hreads hunfit => exact resolve_of_unfit hreads hunfit

end TreeDump.Constant
