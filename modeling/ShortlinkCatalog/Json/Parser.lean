import ShortlinkCatalog.Json.Token

/-!
# Reading JSON

The parser is a machine over tokens.  Its state says what may come next, and holds
the arrays and objects that are still open.  How many these may be depends on the calls
that are under way, so it is a parameter of reading.  An error names the first token that
cannot stand where it does, by its position in the text and by line and column.
-/

namespace ShortlinkCatalog.Json

/-- An array or an object that is still open, with what it holds so far, last first. -/
inductive Frame
  | items (done : List Json)
  | members (done : Members) (name : Text)
deriving Repr

abbrev Stack := List Frame

inductive State
  | awaitValue (stack : Stack)
  | awaitItem (stack : Stack)
  | awaitFirstName (stack : Stack)
  | awaitName (done : Members) (stack : Stack)
  | awaitColon (done : Members) (name : Text) (stack : Stack)
  | complete (value : Json) (stack : Stack)
deriving Repr

/-- The most arrays and objects that may be open at once, which is what the calls that are
under way leave room for.  A list of rows always fits. -/
class Room where
  most : Nat
  two_le : 2 ≤ most

/-- The room in the usual stack of a thousand calls, of which some two dozen are under way. -/
instance : Room := ⟨975, by decide⟩

variable [Room]

/-- Opens an array or an object inside of those that are open. -/
def openContainer (stack : Stack) (container : Container) : Except Fault State :=
  if Room.most ≤ stack.length then .error (.tooDeep container)
  else
    match container with
    | .array => .ok (.awaitItem stack)
    | .object => .ok (.awaitFirstName stack)

/-- What the token at `position` does where a value has to come. -/
def readValue (stack : Stack) (position : Nat) : Token → Except Fault State
  | .openArray => openContainer stack .array
  | .openObject => openContainer stack .object
  | .text value => .ok (.complete (.string value) stack)
  | .scalar value => .ok (.complete value stack)
  | .badText fault => .error fault
  | .badScalar fault => .error fault
  | _ => .error (.malformed .expectingValue position)

def readName (done : Members) (stack : Stack) (position : Nat) : Token → Except Fault State
  | .text name => .ok (.awaitColon done name stack)
  | .badText fault => .error fault
  | _ => .error (.malformed .expectingName position)

/-- What the token at `position` does after a value. -/
def readAfter (value : Json) (position : Nat) (token : Token) : Stack → Except Fault State
  | [] => .error (.malformed .extraData position)
  | .items done :: stack =>
      match token with
      | .comma => .ok (.awaitValue (.items (value :: done) :: stack))
      | .closeArray => .ok (.complete (.array (value :: done).reverse) stack)
      | _ => .error (.malformed .expectingComma position)
  | .members done name :: stack =>
      match token with
      | .comma => .ok (.awaitName ((name, value) :: done) stack)
      | .closeObject => .ok (.complete (.object (distinct ((name, value) :: done))) stack)
      | _ => .error (.malformed .expectingComma position)

def State.step (state : State) (placed : Placed) : Except Fault State :=
  match state with
  | .awaitValue stack => readValue stack placed.position placed.token
  | .awaitItem stack =>
      match placed.token with
      | .closeArray => .ok (.complete (.array []) stack)
      | token => readValue (.items [] :: stack) placed.position token
  | .awaitFirstName stack =>
      match placed.token with
      | .closeObject => .ok (.complete (.object []) stack)
      | token => readName [] stack placed.position token
  | .awaitName done stack => readName done stack placed.position placed.token
  | .awaitColon done name stack =>
      match placed.token with
      | .colon => .ok (.awaitValue (.members done name :: stack))
      | _ => .error (.malformed .expectingColon placed.position)
  | .complete value stack => readAfter value placed.position placed.token stack

def run (state : State) : List Placed → Except Fault State
  | [] => .ok state
  | placed :: rest =>
      match state.step placed with
      | .error fault => .error fault
      | .ok state => run state rest

/-- The value, if the text may end here, at `position`. -/
def State.finish (position : Nat) : State → Except Fault Json
  | .complete value [] => .ok value
  | .complete _ (_ :: _) => .error (.malformed .expectingComma position)
  | .awaitValue _ | .awaitItem _ => .error (.malformed .expectingValue position)
  | .awaitFirstName _ | .awaitName _ _ => .error (.malformed .expectingName position)
  | .awaitColon .. => .error (.malformed .expectingColon position)

def parse (text : Text) : Except Fault Json :=
  match run (.awaitValue []) (tokens text) with
  | .error fault => .error fault
  | .ok state => state.finish text.length

def SyntaxError.message : SyntaxError → Text
  | .expectingValue => "Expecting value"
  | .expectingName => "Expecting property name enclosed in double quotes"
  | .expectingColon => "Expecting ':' delimiter"
  | .expectingComma => "Expecting ',' delimiter"
  | .unterminatedText => "Unterminated string starting at"
  | .controlCharacter => "Invalid control character at"
  | .invalidEscape => "Invalid \\escape"
  | .invalidUnicodeEscape => "Invalid \\uXXXX escape"
  | .extraData => "Extra data"

/-- A fault with the line and the column of its position, both counted from one. -/
inductive ParseError
  | malformed (kind : SyntaxError) (position line column : Nat)
  | tooManyDigits (digits : Nat)
  | tooDeep (container : Container)
deriving DecidableEq, Repr

def Fault.locate (text : Text) : Fault → ParseError
  | .tooManyDigits digits => .tooManyDigits digits
  | .tooDeep container => .tooDeep container
  | .malformed kind position =>
      let before := text.take position
      let line := before.count (.char '\n') + 1
      .malformed kind position line ((Text.afterLast '\n' before).length + 1)

def Container.name : Container → Text
  | .array => "array"
  | .object => "object"

def ParseError.message : ParseError → Text
  | .malformed kind position line column =>
      kind.message ++ ": line " ++ Text.ofNat line ++ " column " ++ Text.ofNat column
        ++ " (char " ++ Text.ofNat position ++ ")"
  | .tooManyDigits digits => Decimal.tooManyDigitsMessage digits
  | .tooDeep container =>
      "maximum recursion depth exceeded while decoding a JSON " ++ container.name
        ++ " from a unicode string"

end ShortlinkCatalog.Json
