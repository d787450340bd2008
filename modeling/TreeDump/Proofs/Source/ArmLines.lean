import TreeDump.Program.Source
import TreeDump.Proofs.Text.Occurrences
import TreeDump.Proofs.Text.Quoting
import Mathlib.Data.List.Nodup

/-!
# The lines that open arms

In the source of a program the line that opens an arm stands exactly where the arm begins, and no
other line ends with an arrow and a brace. A tag cannot imitate such a line: there is no line break
in its literal, and no quote without a backslash.
-/

namespace TreeDump

open Literal (quote encode guarded_encode encode_injective)

/-- What stands between the literal of an arm and the end of its line. -/
def arrow : String := " => \x7b"

/-- The line that opens the arm of a tag. -/
def armOpening (tag : String) : String := "        " ++ quote tag ++ arrow

/-- One line, and it opens no arm. -/
def Inner (line : String) : Prop := OneLine line ∧ ¬ arrow.toList <:+ line.toList

instance (line : String) : Decidable (Inner line) := inferInstanceAs (Decidable (_ ∧ _))

lemma oneLine_sourceLine {text : String} (h : OneLine text) (level : Nat) :
    OneLine (sourceLine level text) := by
  have hspaces : OneLine (String.ofList (List.replicate (4 * level) ' ')) := by
    simp [OneLine]
  exact hspaces.append h

/-- A call whose failure ends the function opens no arm. -/
lemma inner_attempt {front : String} (h : OneLine front) (level : Nat) :
    Inner (sourceLine level (front ++ ")?;")) := by
  refine ⟨oneLine_sourceLine (h.append (by decide)) level, ?_⟩
  rintro ⟨before, hsuffix⟩
  have hlast := congrArg List.getLast? hsuffix
  simp [sourceLine, arrow] at hlast

lemma oneLine_depthExpression (below : Nat) : OneLine (depthExpression below) := by
  cases below with
  | zero => decide
  | succ below => exact .append (by decide) (.ofNat _)

lemma oneLine_path (type : FieldType) : OneLine type.path := by
  cases type <;> decide

lemma inner_writeField {label value : String} (hlabel : OneLine label) (hvalue : OneLine value)
    (level below : Nat) : Inner (sourceLine level (writeField label value below)) := by
  refine inner_attempt ?_ level
  simp only [oneLine_append, hlabel, hvalue, oneLine_depthExpression]
  decide

lemma inner_printCall {node : String} (hnode : OneLine node) (level below : Nat) :
    Inner (sourceLine level (printCall node below)) := by
  refine inner_attempt ?_ level
  simp only [oneLine_append, hnode, oneLine_depthExpression]
  decide

lemma inner_writeCount {marker collection : String} (hmarker : OneLine marker)
    (hcollection : OneLine collection) (level below : Nat) :
    Inner (sourceLine level (writeCount marker collection below)) := by
  refine inner_writeField ?_ (by decide) level below
  simp only [oneLine_append, hmarker, hcollection]
  decide

/-- No line of a statement opens an arm, whatever its labels and fields are. -/
lemma inner_statement (statement : Statement) : ∀ line ∈ statement.sourceLines, Inner line := by
  have hclose : Inner (sourceLine 3 "\x7d") := by decide +kernel
  have hitem : OneLine "Some(item)" := by decide
  cases statement with
  | heading label below =>
    simp only [Statement.sourceLines, List.forall_mem_singleton]
    exact inner_writeField (.quote label) (by decide) 3 below
  | identifier label field below =>
    have hname : OneLine ("node.identifier(" ++ quote field ++ ")?") :=
      .append (.append (by decide) (.quote field)) (by decide)
    simp only [Statement.sourceLines, List.forall_mem_singleton]
    exact inner_writeField (.quote label) hname 3 below
  | scalar label field type below =>
    have hvalue : OneLine ("&node.scalar(" ++ quote field ++ ", " ++ type.path ++
        ")?.canonical()") := by
      simp only [oneLine_append, OneLine.quote, oneLine_path]
      decide
    simp only [Statement.sourceLines, List.forall_mem_singleton]
    exact inner_writeField (.quote label) hvalue 3 below
  | scalars field type countBelow label form below =>
    have hbind : Inner (sourceLine 3 ("let values = node.scalar_list(" ++ quote field ++ ", " ++
        type.path ++ ")?;")) := by
      refine inner_attempt ?_ 3
      simp only [oneLine_append, OneLine.quote, oneLine_path]
      decide
    have hloop : Inner (sourceLine 3 "for value in values \x7b") := by decide +kernel
    have hvalue : OneLine ("&value." ++ form.call) := by cases form <;> decide
    simp only [Statement.sourceLines, List.forall_mem_cons]
    exact ⟨hbind, inner_writeCount (by decide) (by decide) 3 countBelow, hloop,
      inner_writeField (.quote label) hvalue 4 below, hclose, List.forall_mem_nil _⟩
  | child field below =>
    have hchild : OneLine ("node.child(" ++ quote field ++ ")?") :=
      .append (.append (by decide) (.quote field)) (by decide)
    simp only [Statement.sourceLines, List.forall_mem_singleton]
    exact inner_printCall hchild 3 below
  | children field countBelow below =>
    have hbind : Inner (sourceLine 3 ("let items = node.child_list(" ++ quote field ++ ")?;")) :=
      inner_attempt (.append (by decide) (.quote field)) 3
    have hloop : Inner (sourceLine 3 "for item in items \x7b") := by decide +kernel
    simp only [Statement.sourceLines, List.forall_mem_cons]
    exact ⟨hbind, inner_writeCount (by decide) (by decide) 3 countBelow, hloop,
      inner_printCall hitem 4 below, hclose, List.forall_mem_nil _⟩
  | dict field countBelow keyBelow below =>
    have hbind : Inner (sourceLine 3 ("let entries = node.child_map(" ++ quote field ++ ")?;")) :=
      inner_attempt (.append (by decide) (.quote field)) 3
    have hloop : Inner (sourceLine 3 "for (key, item) in entries \x7b") := by decide +kernel
    simp only [Statement.sourceLines, List.forall_mem_cons]
    exact ⟨hbind, inner_writeCount (by decide) (by decide) 3 countBelow, hloop,
      inner_writeField (by decide) (by decide) 4 keyBelow, inner_printCall hitem 4 below, hclose,
      List.forall_mem_nil _⟩

lemma oneLine_armOpening (tag : String) : OneLine (armOpening tag) :=
  ((show OneLine "        " by decide).append (.quote tag)).append (by decide)

lemma arrow_suffix_armOpening (tag : String) : arrow.toList <:+ (armOpening tag).toList :=
  ⟨("        " ++ quote tag).toList, by simp [armOpening]⟩

/-- The opening of an arm ends no other opening: the quote before the tag would stand in the other
literal after a blank. -/
lemma armOpening_suffix_iff {first second : String} :
    (armOpening first).toList <:+ (armOpening second).toList ↔ first = second := by
  refine ⟨?_, fun h => h ▸ List.suffix_rfl⟩
  rintro ⟨before, h⟩
  have htext : ∀ tag, (armOpening tag).toList =
      "        ".toList ++ '"' :: encode isHidden tag.toList ++ '"' :: arrow.toList := by
    intro tag
    simp [armOpening, toList_quote]
  have hsame : encode isHidden first.toList = encode isHidden second.toList → first = second :=
    fun heq => String.toList_injective (encode_injective isHidden heq)
  rw [htext, htext, ← List.append_assoc] at h
  replace h := List.append_cancel_right h
  rw [← List.append_assoc] at h
  obtain ⟨middle, hblanks, hrest⟩ | ⟨middle, hblanks, hrest⟩ := List.append_eq_append_iff.1 h
  · have hlength := congrArg List.length hblanks
    simp only [List.length_append] at hlength
    obtain rfl : middle = [] := List.eq_nil_of_length_eq_zero (by omega)
    exact hsame (List.cons.inj hrest).2
  · cases middle with
    | nil => exact hsame (List.cons.inj hrest).2.symm
    | cons c middle =>
      have hguard := guarded_encode isHidden second.toList middle _ (List.cons.inj hrest).2
      have hlast := congrArg List.getLast? hblanks
      simp [List.getLast?_cons, hguard] at hlast

/-- Arms with the places at which they begin, from the place at which the first does. -/
def located (start : Nat) : List Arm → List (Arm × Nat)
  | [] => []
  | arm :: rest => (arm, start) :: located (start + (joinLines arm.sourceLines).length) rest

@[simp] lemma map_fst_located (start : Nat) (arms : List Arm) :
    (located start arms).map Prod.fst = arms := by
  induction arms generalizing start with
  | nil => rfl
  | cons arm arms ih => rw [located, List.map_cons, ih]

lemma le_of_mem_located {start : Nat} {arms : List Arm} {arm : Arm × Nat}
    (h : arm ∈ located start arms) : start ≤ arm.2 := by
  induction arms generalizing start with
  | nil => cases h
  | cons first arms ih =>
    rcases List.mem_cons.1 h with rfl | hrest
    · exact Nat.le_refl _
    · exact Nat.le_trans (Nat.le_add_right ..) (ih hrest)

lemma pairwise_located (start : Nat) (arms : List Arm) :
    (located start arms).Pairwise fun first second => first.2 < second.2 := by
  induction arms generalizing start with
  | nil => exact .nil
  | cons arm arms ih =>
    refine .cons (fun second hsecond => ?_) (ih _)
    have hlength : 0 < (joinLines arm.sourceLines).length := by
      simp only [joinLines, Arm.sourceLines, List.flatMap_cons, List.length_append,
        List.length_singleton]
      omega
    have hlater := le_of_mem_located hsecond
    change start < second.2
    omega

lemma sourceLines_arm (arm : Arm) :
    ∃ body, arm.sourceLines = armOpening arm.tag :: body ∧ ∀ line ∈ body, Inner line := by
  refine ⟨_, rfl, fun line hline => ?_⟩
  rcases List.mem_append.1 hline with hbody | hlast
  · obtain ⟨statement, -, hline⟩ := List.mem_flatMap.1 hbody
    exact inner_statement statement line hline
  · rw [List.mem_singleton.1 hlast]
    decide +kernel

lemma oneLine_arm (arm : Arm) : ∀ line ∈ arm.sourceLines, OneLine line := by
  obtain ⟨body, hlines, hbody⟩ := sourceLines_arm arm
  rw [hlines, List.forall_mem_cons]
  exact ⟨oneLine_armOpening arm.tag, fun line hline => (hbody line hline).1⟩

section Ending

variable {ending : String} (hending : arrow.toList <:+ ending.toList)

include hending

lemma endings_inner {lines : List String} (h : ∀ line ∈ lines, Inner line) (start : Nat) :
    endings ending start lines = [] :=
  endings_eq_nil (fun line hline hsuffix => (h line hline).2 (hending.trans hsuffix)) start

/-- Lines with an end that has an arrow open arms, and they stand where these arms begin. -/
lemma endings_arms (start : Nat) (arms : List Arm) :
    endings ending start (arms.flatMap Arm.sourceLines) =
      ((located start arms).filter fun arm => ending.toList <:+ (armOpening arm.1.tag).toList).map
        fun arm => arm.2 + ((armOpening arm.1.tag).toList.length - ending.toList.length) := by
  induction arms generalizing start with
  | nil => rfl
  | cons arm arms ih =>
    obtain ⟨body, hlines, hbody⟩ := sourceLines_arm arm
    rw [List.flatMap_cons, endings_append, ih, located, List.filter_cons]
    rw [hlines, endings, endings_inner hending hbody, List.append_nil]
    split
    · next h => simp [h]
    · next h => simp [h]

end Ending

namespace Program

lemma sourceLines_eq (program : Program) :
    ∃ front back, program.sourceLines = front ++ program.arms.flatMap Arm.sourceLines ++ back ∧
      (∀ line ∈ front, Inner line) ∧ ∀ line ∈ back, Inner line := by
  refine ⟨_, _, rfl, ?_, by decide +kernel⟩
  split <;> decide +kernel

lemma oneLine_sourceLines (program : Program) : ∀ line ∈ program.sourceLines, OneLine line := by
  obtain ⟨front, back, hlines, hfront, hback⟩ := program.sourceLines_eq
  intro line hline
  rw [hlines, List.mem_append, List.mem_append] at hline
  rcases hline with (hline | hline) | hline
  · exact (hfront line hline).1
  · obtain ⟨arm, -, hline⟩ := List.mem_flatMap.1 hline
    exact oneLine_arm arm line hline
  · exact (hback line hline).1

lemma toList_source (program : Program) :
    program.source.toList = joinLines program.sourceLines := String.toList_ofList

lemma occurrences_source (program : Program) :
    ∃ start, ∀ ending : String, arrow.toList <:+ ending.toList → OneLine ending →
      occurrences (ending ++ "\n").toList program.source.toList =
        ((located start program.arms).filter fun arm =>
          ending.toList <:+ (armOpening arm.1.tag).toList).map
          fun arm => arm.2 + ((armOpening arm.1.tag).toList.length - ending.toList.length) := by
  obtain ⟨front, back, hlines, hfront, hback⟩ := program.sourceLines_eq
  refine ⟨(joinLines front).length, fun ending harrow hending => ?_⟩
  have hbreak : (ending ++ "\n").toList = ending.toList ++ ['\n'] := String.toList_append
  rw [program.toList_source, hbreak, occurrences_joinLines hending program.oneLine_sourceLines,
    hlines, endings_append, endings_append, endings_inner harrow hfront, endings_inner harrow hback,
    endings_arms harrow, List.nil_append, List.append_nil, Nat.zero_add]

/-- If tags are distinct, the opening of each arm occurs once in a source, in the order of the arms,
and their arrows are the only ones before a line break. -/
theorem occurrences_armOpening {program : Program} (h : (program.arms.map Arm.tag).Nodup) :
    ∃ places : List Nat, places.Pairwise (· < ·) ∧
      program.arms.map (fun arm =>
        occurrences (armOpening arm.tag ++ "\n").toList program.source.toList) =
        places.map ([·]) ∧
      occurrences (arrow ++ "\n").toList program.source.toList =
        List.zipWith (fun arm place => place + (8 + (quote arm.tag).length))
          program.arms places := by
  obtain ⟨start, hoccurrences⟩ := program.occurrences_source
  have hpairwise := pairwise_located start program.arms
  have harms := map_fst_located start program.arms
  generalize located start program.arms = arms at hoccurrences hpairwise harms
  rw [← harms, List.map_map] at h
  refine ⟨arms.map Prod.snd, List.pairwise_map.2 hpairwise, ?_, ?_⟩
  · rw [← harms, List.map_map, List.map_map]
    refine List.map_congr_left fun arm harm => ?_
    have hsame : ∀ other ∈ arms,
        (armOpening arm.1.tag).toList <:+ (armOpening other.1.tag).toList ↔ other = arm :=
      fun other hother => armOpening_suffix_iff.trans
        ⟨fun htag => List.inj_on_of_nodup_map h hother harm htag.symm, fun heq => heq ▸ rfl⟩
    have honce : arms.filter (fun other =>
        (armOpening arm.1.tag).toList <:+ (armOpening other.1.tag).toList) = [arm] := by
      rw [List.filter_congr fun other hother => decide_eq_decide.2 (hsame other hother),
        List.filter_eq, List.count_eq_one_of_mem h.of_map harm]
      rfl
    rw [Function.comp_apply, hoccurrences _ (arrow_suffix_armOpening _) (oneLine_armOpening _),
      honce]
    simp
  · have hall : ∀ arm ∈ arms, decide (arrow.toList <:+ (armOpening arm.1.tag).toList) = true :=
      fun arm _ => decide_eq_true (arrow_suffix_armOpening arm.1.tag)
    have hlength : ∀ tag, (armOpening tag).toList.length - arrow.toList.length =
        8 + (quote tag).length := by
      intro tag
      have hopening : (armOpening tag).length = 8 + (quote tag).length + arrow.length := by
        rw [armOpening, String.length_append, String.length_append]
        rfl
      rw [String.length_toList, String.length_toList, hopening, Nat.add_sub_cancel]
    rw [hoccurrences arrow List.suffix_rfl (by decide), List.filter_eq_self.2 hall, ← harms,
      List.zipWith_map, List.zipWith_self]
    simp only [hlength]

end Program

end TreeDump
