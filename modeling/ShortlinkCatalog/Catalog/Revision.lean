import ShortlinkCatalog.Decimal.Integer

/-!
# Naming revisions

The history of the database has one revision.  A name stands for it or for the base
before it: a word, the identifier or a start of it, possibly after the label of a
branch and an at sign.  A label is the name of a revision on the branch, so here every
name that can be looked up is one.  Instead of a name a number of steps up or down may
be written, from a named place or from where the database is.
-/

namespace ShortlinkCatalog.Revision

/-- The identifier of the revision. -/
def identifier : Text := "001_archived_shortcodes"

inductive Error
  | unknown (name : Text)
  /-- There is no revision where there has to be one. -/
  | noRevision
  | outOfRange (written : Text) (steps : Nat)
  | walkedTooFar
  | tooManyDigits (digits : Nat)
deriving DecidableEq, Repr

def Error.message : Error → Text
  | .unknown name => "Can't locate revision identified by '" ++ name ++ "'"
  | .noRevision => []
  | .outOfRange written steps =>
      "Relative revision " ++ written ++ " didn't produce " ++ Text.ofNat steps ++ " migrations"
  | .walkedTooFar => "Walked too far"
  | .tooManyDigits digits => Decimal.tooManyDigitsMessage digits

/-- The name of the kind of error. -/
def Error.kind : Error → Text
  | .noRevision => "AssertionError"
  | .tooManyDigits _ => "ValueError"
  | _ => "CommandError"

/-- A place in the history.  The base is the bottom for a walk that comes down to it; for
one that starts there it is nowhere, from which one step in either direction leads to
the revision.  A walk that leaves the history ends nowhere, too. -/
inductive Place
  | nowhere
  | bottom
  | revision
deriving DecidableEq, Repr

/-! ## Names -/

/-- Looks up the identifier or a start of it, which cannot be empty. -/
def lookUp (name : Text) : Except Error Unit :=
  if name.isEmpty then .error .noRevision
  else if name.isPrefixOf identifier then .ok ()
  else .error (.unknown name)

/-- What a name without a label says. -/
inductive Meaning
  | base
  | head
  | named (name : Text)
deriving DecidableEq, Repr

def meaning (name : Text) : Meaning :=
  if name == "base" then .base
  else if name == "head" || name == "heads" then .head
  else .named name

def Meaning.find : Meaning → Except Error Place
  | .base => .ok .nowhere
  | .head => .ok .revision
  | .named name => (lookUp name).map fun _ => .revision

/-- The label before the first at sign, if there is one, and what is said after it.  The
head of a branch is looked for among its names already here. -/
def resolve (text : Text) : Except Error (Option Text × Meaning) :=
  match Text.splitFirst '@' text with
  | (label, some name) =>
      if meaning name = .head && !label.isEmpty then
        (meaning label).find.map fun _ => (some label, .head)
      else .ok (some label, meaning name)
  | (name, none) => .ok (none, meaning name)

/-- Looks up a label; an empty one is none. -/
def lookUpLabel (label : Option Text) : Except Error Unit :=
  match label.getD [] with
  | [] => .ok ()
  | label => lookUp label

/-- The place that a name stands for. -/
def find (text : Text) : Except Error Place := do
  let (label, meaning) ← resolve text
  lookUpLabel label
  meaning.find

/-! ## Walks -/

/-- Walks up along the branch of a label, if there is one.  At each step the places above
are looked at for the label, even if there are none. -/
def walkUp (label : Option Text) : Place → Nat → Except Error Place
  | place, 0 => .ok place
  | .nowhere, steps + 1 => do
      let _ ← label.mapM find
      walkUp label .revision steps
  | .revision, _ + 1 => do
      let _ ← label.mapM resolve
      return .nowhere
  | .bottom, _ + 1 => .error .noRevision

def walkDown : Place → Nat → Place
  | place, 0 => place
  | .nowhere, steps + 1 => walkDown .revision steps
  | .revision, steps + 1 => walkDown .bottom steps
  | .bottom, _ + 1 => .nowhere

/-- The places that a name stands for when it may stand for none: the base has none.  A
negative number counts down from the head, but on no branch that has a label. -/
def findAny (text : Text) : Except Error (Option Place) := do
  let (label, meaning) ← resolve text
  match meaning with
  | .base => return none
  | .head =>
      lookUpLabel label
      return some .revision
  | .named name =>
      match Decimal.parseAnyScript? name with
      | some (.negSucc below) =>
          return if label.isSome then none else some (walkDown .revision (below + 1))
      | _ =>
          lookUpLabel label
          return some (← meaning.find)

/-! ## Numbers of steps -/

/-- A number of steps as it is written, with a sign, from a named place or from here. -/
structure Relative where
  label : Option Text
  name : Option Text
  written : Text
deriving DecidableEq, Repr

/-- A character of a name from which steps are counted. -/
def isNameCharacter (character : CodePoint) : Bool :=
  Text.isAsciiLetter character || Text.isDecimalDigit character || character == '_'

def isSign (character : CodePoint) : Bool := character == '+' || character == '-'

/-- Steps at the start of a text, whatever follows them. -/
def stepsAt (label : Option Text) (text : Text) : Option Relative :=
  let name := text.takeWhile isNameCharacter
  match text.drop name.length with
  | sign :: rest =>
      let digits := rest.takeWhile Text.isDecimalDigit
      if isSign sign && !digits.isEmpty then
        some ⟨label, if name.isEmpty then none else some name, sign :: digits⟩
      else none
  | [] => none

/-- The cuts of a text at the at signs of its first line, but for one at its start; the
text before is in `before`, the last character first. -/
def labelCuts (before : Text) : Text → List (Text × Text)
  | [] => []
  | character :: rest =>
      if character == '\n' then []
      else if character == '@' && !before.isEmpty then
        (before.reverse, rest) :: labelCuts (character :: before) rest
      else labelCuts (character :: before) rest

/-- The steps that a text starts with; a label is as short as it can be. -/
def Relative.parse? (text : Text) : Option Relative :=
  ((labelCuts [] text).findSome? fun (label, rest) => stepsAt (some label) rest).or
    (stepsAt none text)

/-- The number of steps, which is negative for steps down. -/
def Relative.steps (relative : Relative) : Except Error Int :=
  match Decimal.parseAnyScript? relative.written with
  | some steps => .ok steps
  | none => .error (.tooManyDigits (relative.written.length - 1))

/-- The place that steps are counted down from, which is looked for on its branch. -/
def findOn (label : Option Text) (name : Text) : Except Error Place :=
  match label with
  | none => find name
  | some label => find (label ++ "@" ++ name)

end ShortlinkCatalog.Revision
