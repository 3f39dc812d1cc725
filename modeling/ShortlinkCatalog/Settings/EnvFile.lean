import ShortlinkCatalog.Text.Blank

/-!
# Environment files

An environment file gives names values, one to a line.  A name may be quoted and may
follow the word `export`; a value may be quoted with escapes, over several lines, or
plain up to a comment.  A line that breaks these rules is skipped, and a name without
an equals sign has no value.  A byte order mark at the start is no part of the text.
Values may refer to earlier values and to the environment.
-/

namespace ShortlinkCatalog.EnvFile

/-- A name and its value, in the order of the file. -/
abbrev Bindings := List (Text × Option Text)

/-- Every kind of line end as a newline. -/
def normalNewlines : Text → Text
  | '\x0d' :: '\n' :: rest => '\n' :: normalNewlines rest
  | '\x0d' :: rest => '\n' :: normalNewlines rest
  | character :: rest => character :: normalNewlines rest
  | [] => []

/-- Blanks other than newlines. -/
def isInlineBlank (character : CodePoint) : Bool :=
  Text.isBlank character && character != '\n' && character != '\r'

def skipBlanks (text : Text) : Text := text.dropWhile isInlineBlank

def isLineEnd (character : CodePoint) : Bool := character == '\n' || character == '\r'

/-- What follows the word `export`, if blanks separate it from more. -/
def skipExport (text : Text) : Text :=
  match Text.dropStart? "export" text with
  | some (blank :: rest) => if isInlineBlank blank then skipBlanks rest else text
  | _ => text

def isNameCharacter (character : CodePoint) : Bool :=
  character != '=' && character != '#' && !Text.isBlank character

/-- The name at the start of a text, and what follows it. -/
def name? : Text → Option (Text × Text)
  | '\x27' :: rest =>
      match Text.splitFirst '\x27' rest with
      | (name, some rest) => if name.isEmpty then none else some (name, rest)
      | _ => none
  | text =>
      let name := text.takeWhile isNameCharacter
      if name.isEmpty then none else some (name, text.drop name.length)

/-- The inside of a quoted value and what follows the closing quote, which is the first
one that no backslash goes with. -/
def quoted? (mark : CodePoint) : Text → Option (Text × Text)
  | [] => none
  | [character] => if character == mark then some ([], []) else none
  | character :: next :: rest =>
      if character == mark then some ([], next :: rest)
      else if character == '\x5c' then
        (quoted? mark rest).map fun (inside, after) => (character :: next :: inside, after)
      else (quoted? mark (next :: rest)).map fun (inside, after) => (character :: inside, after)

/-- What the letter of an escape between double quotes stands for. -/
def doubleEscape? : CodePoint → Option CodePoint
  | '\x5c' => some '\x5c'
  | '\x27' => some '\x27'
  | '\x22' => some '\x22'
  | 'a' => some '\x07'
  | 'b' => some '\x08'
  | 'f' => some '\x0c'
  | 'n' => some '\n'
  | 'r' => some '\r'
  | 't' => some '\t'
  | 'v' => some '\x0b'
  | _ => none

def singleEscape? : CodePoint → Option CodePoint
  | '\x5c' => some '\x5c'
  | '\x27' => some '\x27'
  | _ => none

def unescape (escape? : CodePoint → Option CodePoint) : Text → Text
  | '\x5c' :: letter :: rest =>
      match escape? letter with
      | some character => character :: unescape escape? rest
      | none => '\x5c' :: unescape escape? (letter :: rest)
  | character :: rest => character :: unescape escape? rest
  | [] => []

/-- A plain value up to a comment, which starts after a blank. -/
def beforeComment (afterBlank : Bool) : Text → Text
  | [] => []
  | character :: rest =>
      if afterBlank && character == '#' then []
      else character :: beforeComment (Text.isBlank character) rest

/-- The value at the start of a text that may follow a blank, and what follows it. -/
def value? (afterBlank : Bool) : Text → Option (Text × Text)
  | '\x27' :: rest =>
      (quoted? '\x27' rest).map fun (inside, rest) => (unescape singleEscape? inside, rest)
  | '\x22' :: rest =>
      (quoted? '\x22' rest).map fun (inside, rest) => (unescape doubleEscape? inside, rest)
  | text =>
      let line := text.takeWhile (!isLineEnd ·)
      some (Text.trimEnd Text.isBlank (beforeComment afterBlank line), text.drop line.length)

/-- What follows an optional comment and the end of the line. -/
def lineEnd? (text : Text) : Option Text :=
  let text := match skipBlanks text with
    | '#' :: rest => rest.dropWhile (!isLineEnd ·)
    | _ => text
  match skipBlanks text with
  | '\n' :: rest => some rest
  | [] => some []
  | _ => none

/-- What was found, or else the place where it was looked for. -/
def orPlace {α : Type} (found : Option α) (place : Text) : Except Text α :=
  match found with
  | some result => .ok result
  | none => .error place

/-- The value after a name, if there is an equals sign, and what follows. -/
def assignment (text : Text) : Except Text (Option Text × Text) :=
  match skipBlanks text with
  | '=' :: rest =>
      let start := skipBlanks rest
      let found := orPlace (value? (start.length < rest.length) start) start
      found.map fun (value, rest) => (some value, rest)
  | rest => .ok (none, rest)

/-- One line from its first character on, and what follows it; a comment binds nothing.
A line that breaks the rules gives the place where it does. -/
def line (text : Text) : Except Text (Option (Text × Option Text) × Text) := do
  let start := skipExport text
  if start.head? == some '#' then
    let rest ← orPlace (lineEnd? start) start
    return (none, rest)
  else
    let (name, rest) ← orPlace (name? start) start
    let (value, rest) ← assignment rest
    let rest ← orPlace (lineEnd? rest) rest
    return (some (name, value), rest)

/-- What follows the line in which reading failed. -/
def skipLine (text : Text) : Text := (text.dropWhile (!isLineEnd ·)).drop 1

/-- The bindings of a text.  Every line takes a character, so `fuel` for each
character is enough. -/
def bindingsWithin : Nat → Text → Bindings
  | 0, _ => []
  | fuel + 1, text =>
      match text.dropWhile Text.isBlank with
      | [] => []
      | start =>
          match line start with
          | .error rest => bindingsWithin fuel (skipLine rest)
          | .ok (none, rest) => bindingsWithin fuel rest
          | .ok (some binding, rest) => binding :: bindingsWithin fuel rest

def bindings (text : Text) : Bindings :=
  let text := normalNewlines ((Text.dropStart? "\ufeff" text).getD text)
  bindingsWithin (text.length + 1) text

/-! ## References -/

/-- A reference at the start of a text, after its dollar sign and brace: the name, the
value it has if the name is unknown, and what follows. -/
def reference? (text : Text) : Option (Text × Text × Text) :=
  let name := text.takeWhile fun character : CodePoint => character != '\x7d' && character != ':'
  match text.drop name.length with
  | '\x7d' :: rest => some (name, [], rest)
  | ':' :: '-' :: rest =>
      match Text.splitFirst '\x7d' rest with
      | (value, some rest) => some (name, value, rest)
      | _ => none
  | _ => none

/-- A value with its references replaced, where `used` characters of the text belong
to a reference already replaced. -/
def expand (lookup : Text → Option Text) (used : Nat) : Text → Text
  | [] => []
  | character :: rest =>
      match used with
      | left + 1 => expand lookup left rest
      | 0 =>
          let reference := match character, rest with
            | '$', '\x7b' :: inside => reference? inside
            | _, _ => none
          match reference with
          | some (name, fallback, after) =>
              (lookup name).getD fallback ++ expand lookup (rest.length - after.length) rest
          | none => character :: expand lookup 0 rest

/-- Gives a name a value, in its old place if it has one. -/
def put (name : Text) (value : Option Text) : Bindings → Bindings
  | [] => [(name, value)]
  | binding :: bindings =>
      if binding.1 = name then (name, value) :: bindings else binding :: put name value bindings

/-- The value of a name for a reference: earlier bindings come before the environment,
and one without a value is empty. -/
def known? (environment : List (Text × Text)) (resolved : Bindings) (name : Text) :
    Option Text :=
  match resolved.lookup name with
  | some value => some (value.getD [])
  | none => environment.lookup name

/-- The bindings with their references replaced, each name once. -/
def resolve (environment : List (Text × Text)) (bindings : Bindings) : Bindings :=
  bindings.foldl (fun resolved binding =>
    put binding.1 (binding.2.map (expand (known? environment resolved) 0)) resolved) []

end ShortlinkCatalog.EnvFile
