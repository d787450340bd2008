/-!
# Control sequences

A control sequence steers a terminal instead of being shown. It begins with the escape character,
and the character after that says how far it goes. `ControlSequence.strip` leaves what a text shows
without them. A tab or the end of a line within a sequence is shown, and so is what follows it up to
the next control character; then the sequence goes on.
-/

namespace TreeDump.ControlSequence

/-- A place in a text with control sequences. -/
inductive Place where
  /-- Between sequences. -/
  | outside
  /-- After the escape character. -/
  | escape
  /-- In a sequence of two characters, before the last. -/
  | intermediate
  /-- In a sequence with parameters, which a letter or mark ends. -/
  | parameters
  /-- At the beginning of a device control string. -/
  | device
  /-- Among the parameters of a device control string. -/
  | deviceParameters
  /-- After the parameters of a device control string. -/
  | deviceIntermediate
  /-- In the body of a string, which a terminator ends. -/
  | body
  /-- In a system command, which a bell ends. -/
  | command
deriving DecidableEq

/-- Whether a character is a control character that moves on in the text. -/
def isSpacing (c : Char) : Bool := c = '\t' || c = '\n' || c = '\x0c' || c = '\r'

/-- Whether a character is shown outside of sequences. -/
def isShown (c : Char) : Bool := isSpacing c || (' ' ≤ c && c ≠ '\x7f')

/-- Whether the encoding of a character holds the byte that ends the body of a string. -/
def holdsTerminator (c : Char) : Bool := (String.utf8EncodeChar c).contains 0x9C

/-- The place after a character that neither begins a sequence nor breaks one off. -/
def Place.after (place : Place) (c : Char) : Place :=
  match place with
  | .outside => .outside
  | .escape =>
    if c < ' ' ∨ '\x7f' ≤ c then .escape
    else if c ≤ '/' then .intermediate
    else if c = '[' then .parameters
    else if c = ']' then .command
    else if c = 'P' then .device
    else if c = 'X' ∨ c = '^' ∨ c = '_' then .body
    else .outside
  | .intermediate => if '0' ≤ c ∧ c < '\x7f' then .outside else .intermediate
  | .parameters => if '@' ≤ c ∧ c < '\x7f' then .outside else .parameters
  | .device =>
    if c < ' ' ∨ '\x7f' ≤ c then .device
    else if c ≤ '/' then .deviceIntermediate
    else if c ≤ '?' then .deviceParameters
    else .body
  | .deviceParameters =>
    if c < ' ' ∨ '\x7f' ≤ c then .deviceParameters
    else if c ≤ '/' then .deviceIntermediate
    else if c ≤ ';' then .deviceParameters
    else .body
  | .deviceIntermediate => if '0' ≤ c ∧ c < '\x7f' then .body else .deviceIntermediate
  | .body => if holdsTerminator c then .outside else .body
  | .command => if c = '\x07' then .outside else .command

def Place.next (place : Place) (c : Char) : Place :=
  if c = '\x1b' then .escape else if c = '\x18' ∨ c = '\x1a' then .outside else place.after c

def Place.shows (place : Place) (c : Char) : Bool :=
  match place with
  | .outside => isShown c
  | .escape | .intermediate | .parameters => isSpacing c
  | _ => false

/-- What is shown of a text, from a place, and whether the character before it is shown. -/
def stripFrom (place : Place) (shown : Bool) : List Char → List Char
  | [] => []
  | c :: rest =>
    if shown && isShown c then
      c :: stripFrom (if c ≤ '\x7f' then place else .outside) true rest
    else if place.shows c then c :: stripFrom (place.next c) true rest
    else stripFrom (place.next c) false rest

/-- A text is shown as it is if each of its characters is shown. -/
theorem stripFrom_outside {text : List Char} (h : ∀ c ∈ text, isShown c = true) (shown : Bool) :
    stripFrom .outside shown text = text := by
  induction text generalizing shown with
  | nil => rfl
  | cons c rest ih =>
    have hc : isShown c = true := h c List.mem_cons_self
    have hrest := ih fun d hd => h d (List.mem_cons_of_mem c hd)
    have hnext : Place.outside.next c = .outside := by
      have hescape : c ≠ '\x1b' := by rintro rfl; revert hc; decide
      simp [Place.next, Place.after, hescape]
    simp [stripFrom, Place.shows, hc, hnext, hrest]

/-- What is shown of a text. -/
def strip (text : String) : String := String.ofList (stripFrom .outside false text.toList)

end TreeDump.ControlSequence
