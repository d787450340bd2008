import TreeDump.Number.Decimal
import TreeDump.Text.Alphanumeric
import TreeDump.Text.Blank

/-!
# The log filter

A filter is a list of directives, separated by commas. A directive has the form
`target[span{field=value}]=level`, where all but one part may be missing, and gives the least severe
level that is logged. Of the directives that apply to an event the most specific one decides: the
one with the longest target, of these one with a field, and of two that are alike the later one. A
filter without a directive logs errors only.
-/

namespace TreeDump.CommandLine

/-- How much is logged, from nothing to everything. -/
inductive LogLevel where
  | off
  | error
  | warn
  | info
  | debug
  | trace
deriving DecidableEq

namespace LogLevel

def all : List LogLevel := [off, error, warn, info, debug, trace]

def name : LogLevel → String
  | off => "off"
  | error => "error"
  | warn => "warn"
  | info => "info"
  | debug => "debug"
  | trace => "trace"

def rank (level : LogLevel) : Nat := all.idxOf level

/-- The level of a name, in whichever case, or of a number. -/
def ofText? (text : String) : Option LogLevel :=
  match Decimal.read? text with
  | some rank => all[rank]?
  | none => all.find? fun level => level.name.toList = text.toList.map Char.toLower

end LogLevel

/-- Something that happened and may be logged. -/
structure LogEvent where
  level : LogLevel
  target : String
  message : String
  fields : List (String × String)

namespace LogEvent

/-- The names of the fields, of which the message is one. -/
def fieldNames (event : LogEvent) : List String := "message" :: event.fields.map Prod.fst

/-- The line that logs an event, without the time. -/
def line (event : LogEvent) : String :=
  let level := String.ofList (event.level.name.toList.map Char.toUpper)
  let fields := event.fields.map fun field => " " ++ field.1 ++ "=" ++ field.2
  level ++ " " ++ event.target ++ ": " ++ event.message ++ String.join fields ++ "\n"

end LogEvent

/-- What a directive asks of the fields: one of a name, and perhaps of a value. -/
structure LogField where
  name : String
  value : Option String
deriving DecidableEq

/-- The field that a text between braces asks for. What follows a second equals sign is ignored. -/
def LogField.ofText (text : String) : LogField :=
  match text.splitOn "=" with
  | name :: value :: _ => ⟨name, some value⟩
  | _ => ⟨text, none⟩

/-- A directive. Where it has a span or the value of a field, it is about what happens within spans
and leaves single events alone. -/
structure LogDirective where
  target : Option String
  span : Option String
  field : Option LogField
  level : LogLevel
deriving DecidableEq

/-- Why a text is no directive. -/
inductive DirectiveFault where
  | malformed
  | unknownLevel
  /-- A part of the text would begin or end within a character. -/
  | cutCharacter
deriving DecidableEq

def DirectiveFault.message (text : String) : DirectiveFault → String
  | malformed => "ignoring `" ++ text ++ "`: invalid filter directive\n"
  | unknownLevel =>
    "ignoring `" ++ text ++ "`: error parsing level filter: expected one of \"off\", \"error\", " ++
    "\"warn\", \"info\", \"debug\", \"trace\", or a number 0-5\n"
  | cutCharacter => "a part of `" ++ text ++ "` ends within a character\n"

namespace LogDirective

/-- A text in two, after so many bytes, unless that is within a character. -/
def splitAt? : Nat → List Char → Option (List Char × List Char)
  | 0, text => some ([], text)
  | _ + 1, [] => none
  | size + 1, c :: rest =>
    if c.utf8Size ≤ size + 1 then
      (splitAt? (size + 1 - c.utf8Size) rest).map fun (before, after) => (c :: before, after)
    else none

/-- Cutting a text in two loses nothing, and the first part has the size asked for. -/
theorem splitAt?_eq_some {size : Nat} {text before after : List Char}
    (h : splitAt? size text = some (before, after)) :
    before ++ after = text ∧ before.foldr (fun c rest => c.utf8Size + rest) 0 = size := by
  fun_induction splitAt? size text generalizing before with
  | case1 => cases h; exact ⟨rfl, rfl⟩
  | case2 => cases h
  | case3 size c rest hsize ih =>
    obtain ⟨⟨first, second⟩, hsplit, heq⟩ := Option.map_eq_some_iff.1 h
    cases heq
    obtain ⟨happend, hsum⟩ := ih hsplit
    refine ⟨congrArg (c :: ·) happend, ?_⟩
    rw [List.foldr_cons, hsum]
    omega
  | case4 => cases h

/-- The part of a text from one byte to another, or to the end. -/
def cut (text : List Char) (start : Nat) (stop : Option Nat) : Except DirectiveFault String :=
  let part := do
    let (_, rest) ← splitAt? start text
    match stop with
    | none => return rest
    | some stop => return (← splitAt? (stop - start) rest).1
  match part with
  | some part => .ok (String.ofList part)
  | none => .error .cutCharacter

/-- Where the first of some marks stands, which it is and what follows it, given the place in bytes
at which the text begins. -/
def seek (marks : List Char) (place : Nat) : List Char → Option (Nat × Char × List Char)
  | [] => none
  | c :: rest => if c ∈ marks then some (place, c, rest) else seek marks (place + c.utf8Size) rest

section Read

/-! The marks of a directive are looked for between the blanks around it, but its parts are cut at
the same numbers of bytes from the text with the blanks. -/

variable (text : List Char)

/-- The directive with the level that begins at a place, where no level means everything. -/
def readLevel (directive : LogDirective) (start : Nat) : Except DirectiveFault LogDirective := do
  let level ← cut text start none
  if level = "" then return { directive with level := .trace }
  else match LogLevel.ofText? level with
    | some level => return { directive with level }
    | none => throw .unknownLevel

/-- The directive when its brackets are closed and the rest is still to come. -/
def readEnd (directive : LogDirective) (place : Nat) :
    List Char → Except DirectiveFault LogDirective
  | [] => .ok directive
  | '=' :: _ => readLevel text directive (place + 1)
  | _ => .error .malformed

/-- The directive when its braces are open and the field is still to come. -/
def readField (directive : LogDirective) (start : Nat) (rest : List Char) :
    Except DirectiveFault LogDirective := do
  match seek ['\x7d'] start rest with
  | none => throw .malformed
  | some (stop, _, rest) =>
    let field ← cut text start (some stop)
    if field = "" then throw .malformed
    else match rest with
      | ']' :: rest =>
        readEnd text { directive with field := some (.ofText field) } (stop + 2) rest
      | _ => throw .malformed

/-- The directive when its brackets are open and the span is still to come. -/
def readSpan (directive : LogDirective) (start : Nat) (rest : List Char) :
    Except DirectiveFault LogDirective := do
  match seek [']', '\x7b'] start rest with
  | none => throw .malformed
  | some (stop, mark, rest) =>
    let span ← cut text start (some stop)
    if mark = ']' then readEnd text { directive with span := some span } (stop + 1) rest
    else
      let span := if span = "" then none else some span
      readField text { directive with span } (stop + 1) rest

/-- The directive when its target or its level is still to come. -/
def readTarget (inner : List Char) : Except DirectiveFault LogDirective := do
  match seek ['=', '['] 0 inner with
  | none =>
    let single := String.ofList text
    match LogLevel.ofText? single with
    | some level => return ⟨none, none, none, level⟩
    | none => return ⟨some single, none, none, .trace⟩
  | some (stop, mark, rest) =>
    let directive := ⟨some (← cut text 0 (some stop)), none, none, .trace⟩
    if mark = '=' then readLevel text directive (stop + 1)
    else readSpan text directive (stop + 1) rest

end Read

/-- Whether a directive without brackets may begin with a character. -/
def begins (c : Char) : Bool := c = '-' || c = ':' || c = '_' || isAlphanumeric c

def ofText (text : String) : Except DirectiveFault LogDirective :=
  let text := text.toList
  match trimBlanks text with
  | '[' :: rest => readSpan text ⟨none, none, none, .trace⟩ 1 rest
  | c :: rest => if begins c then readTarget text (c :: rest) else .error .malformed
  | [] => .error .malformed

/-- Whether a directive applies to an event: it asks for no span and no value, its target begins the
event's, and its field is there. -/
def appliesTo (directive : LogDirective) (event : LogEvent) : Bool :=
  directive.span.isNone &&
  directive.target.all (fun target => target.toList.isPrefixOf event.target.toList) &&
  directive.field.all fun field => field.value.isNone && event.fieldNames.contains field.name

/-- How specific a directive is: the size of its target, then the name of its field. -/
def specificity (directive : LogDirective) : Nat × List Char :=
  (directive.target.elim 0 (·.utf8ByteSize + 1), directive.field.elim [] (·.name.toList))

/-- The more specific of two directives, the second if they are alike. -/
def moreSpecific (first second : LogDirective) : LogDirective :=
  let a := first.specificity
  let b := second.specificity
  if b.1 < a.1 ∨ (b.1 = a.1 ∧ b.2 < a.2) then first else second

end LogDirective

/-- A filter by its directives. -/
structure LogFilter where
  directives : List LogDirective
deriving DecidableEq

namespace LogFilter

/-- The complaints about pieces that are passed over and the directives of the others. If a piece
cannot be cut, nothing is read after it and there is no filter. -/
def ofPieces : List String → List String × Option LogFilter
  | [] => ([], some ⟨[]⟩)
  | piece :: rest =>
    match LogDirective.ofText piece with
    | .error .cutCharacter => ([DirectiveFault.cutCharacter.message piece], none)
    | .error fault =>
      let (complaints, filter) := ofPieces rest
      (fault.message piece :: complaints, filter)
    | .ok directive =>
      let (complaints, filter) := ofPieces rest
      (complaints, filter.map fun filter => ⟨directive :: filter.directives⟩)

def ofText (text : String) : List String × Option LogFilter :=
  ofPieces ((text.splitOn ",").filter (· ≠ ""))

def levelFor (filter : LogFilter) (event : LogEvent) : LogLevel :=
  if filter.directives = [] then .error
  else match filter.directives.filter (·.appliesTo event) with
    | [] => .off
    | first :: rest => (rest.foldl LogDirective.moreSpecific first).level

def logs (filter : LogFilter) (event : LogEvent) : Bool :=
  event.level.rank ≤ (filter.levelFor event).rank

end LogFilter

end TreeDump.CommandLine
