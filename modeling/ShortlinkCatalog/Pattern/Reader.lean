import ShortlinkCatalog.Decimal.Integer
import ShortlinkCatalog.Pattern.CharacterClass
import ShortlinkCatalog.Pattern.Regex

/-!
# Reading patterns

Reads the written form of a regular expression: alternatives between bars, each a sequence of
characters, classes, anchors and groups, which may be repeated.  Flags stand at the start and
hold for the whole expression.  Names of groups, the edges of words and classes of letters are
not part of the notation that is read.
-/

namespace ShortlinkCatalog

namespace Regex

/-- What the flags at the start of an expression ask for. -/
structure Flags where
  ignoreCase : Bool
  everyLine : Bool
  dotAll : Bool
deriving DecidableEq, Repr

namespace Flags

def none : Flags := ⟨false, false, false⟩

/-- The likeness of characters to those that a group has taken. -/
def alike (flags : Flags) (left right : CodePoint) : Bool :=
  if flags.ignoreCase then Text.simpleLower left == Text.simpleLower right else left == right

/-- The flags with those that some letters stand for. -/
def add? (flags : Flags) : Text → Option Flags
  | [] => some flags
  | 'i' :: letters => add? { flags with ignoreCase := true } letters
  | 'm' :: letters => add? { flags with everyLine := true } letters
  | 's' :: letters => add? { flags with dotAll := true } letters
  | _ => Option.none

/-- The flags at the start of a text, and the text behind them. -/
def read (text : Text) : Flags × Text :=
  match (Text.dropStart? "(?" text).map (Text.splitFirst ')') with
  | some (letter :: letters, some rest) =>
      match Flags.none.add? (letter :: letters) with
      | some flags => (flags, rest)
      | Option.none => (.none, text)
  | _ => (.none, text)

end Flags

/-! ## Characters and classes -/

/-- What the character after a backslash stands for: a class with a name, or one character.
Other letters and digits stand for nothing. -/
def escaped? (character : CodePoint) : Option ClassItem :=
  if character == 'd' then some (.digit true)
  else if character == 'D' then some (.digit false)
  else if character == 's' then some (.blank true)
  else if character == 'S' then some (.blank false)
  else if character == 'n' then some (.range ('\n', '\n'))
  else if character == 't' then some (.range ('\t', '\t'))
  else if character == 'r' then some (.range ('\x0d', '\x0d'))
  else if Text.isAsciiLetter character || Text.isAsciiDigit character then none
  else some (.range (character, character))

/-- The first member of a class that a text writes, and what follows it. -/
def classMember? : Text → Option (ClassItem × Text)
  | [] => none
  | ['\x5c'] => none
  | '\x5c' :: character :: rest => (escaped? character).map (·, rest)
  | character :: rest => some (.range (character, character), rest)

/-- The members of a class up to the bracket that closes it.  Each takes a character, so
`fuel` for each character is enough. -/
def classMembers? : Nat → Text → Option (List ClassItem × Text)
  | 0, _ => none
  | _, ']' :: rest => some ([], rest)
  | fuel + 1, text => do
      let (item, rest) ← classMember? text
      let (item, rest) ← match item, rest with
        | .range (first, _), '-' :: ']' :: _ => some (.range (first, first), rest)
        | .range (first, _), '-' :: rest =>
            match classMember? rest with
            | some (.range (last, _), rest) =>
                if first ≤ last then some (.range (first, last), rest) else none
            | _ => none
        | item, rest => some (item, rest)
      let (items, rest) ← classMembers? fuel rest
      some (item :: items, rest)

/-- A class after its opening bracket.  A closing bracket that comes first is a member. -/
def charClass? (text : Text) : Option (CharacterClass × Text) :=
  let (excluded, text) := match text with
    | '^' :: rest => (true, rest)
    | _ => (false, text)
  let (first, text) : List ClassItem × Text := match text with
    | ']' :: rest => ([.range (']', ']')], rest)
    | _ => ([], text)
  (classMembers? (text.length + 1) text).map fun (items, rest) => (⟨excluded, first ++ items⟩, rest)

/-- Characters that stand for themselves only if they are escaped. -/
def isSpecial (character : CodePoint) : Bool :=
  ("^$.|?*+()[\x7b\x5c" : Text).contains character

/-- An anchor at the start of a text, and what follows it. -/
def anchor? (flags : Flags) : Text → Option (Regex × Text)
  | '^' :: rest => some (if flags.everyLine then lineStart else textStart, rest)
  | '$' :: rest => some (.lineEnd flags.everyLine, rest)
  | '\x5c' :: 'A' :: rest => some (textStart, rest)
  | '\x5c' :: 'Z' :: rest => some (.textEnd, rest)
  | _ => none

/-- One character of a class at the start of a text, or what a group with a number below
`number` has taken, and what follows it. -/
def single? (flags : Flags) (number : Nat) (text : Text) : Option (Regex × Text) :=
  let ofClass (charClass : CharacterClass) : Regex := .one (charClass.contains flags.ignoreCase ·)
  match text with
  | '.' :: rest => some (if flags.dotAll then .one fun _ => true
      else ofClass ⟨true, [.range ('\n', '\n')]⟩, rest)
  | '[' :: rest => (charClass? rest).map fun (charClass, rest) => (ofClass charClass, rest)
  | '\x5c' :: character :: rest =>
      if '1' ≤ character && character ≤ '9' then
        let taken := character.toNat - 48
        if taken < number then some (.same taken flags.alike, rest) else none
      else (escaped? character).map fun item => (ofClass ⟨false, [item]⟩, rest)
  | character :: rest =>
      if isSpecial character then none else some (ofClass (.single character), rest)
  | [] => none

/-! ## Repetitions -/

/-- A decimal number, or `default` for an empty text. -/
def count? (default : Option Nat) (digits : Text) : Option (Option Nat) :=
  if digits.isEmpty then some default
  else if digits.all Text.isAsciiDigit then some (some (Decimal.natOfDigits digits))
  else none

/-- The counts between braces: one number, or a least and a greatest one. -/
def counts? (text : Text) : Option (Nat × Option Nat) := do
  match Text.splitFirst ',' text with
  | (least, none) =>
      let least ← (← count? none least)
      some (least, some least)
  | (least, some most) =>
      let least ← (← count? (some 0) least)
      let most ← count? none most
      if most.all (least ≤ ·) then some (least, most) else none

/-- How often what comes before a text is repeated, if it is, and what follows. -/
def range? : Text → Option (Option (Nat × Option Nat) × Text)
  | '?' :: rest => some (some (0, some 1), rest)
  | '*' :: rest => some (some (0, none), rest)
  | '+' :: rest => some (some (1, none), rest)
  | '\x7b' :: rest =>
      match Text.splitFirst '\x7d' rest with
      | (inside, some rest) => (counts? inside).map fun counts => (some counts, rest)
      | _ => none
  | rest => some (none, rest)

/-- An expression with the repetition that a text starts with, and what follows it: a question
mark makes a repetition lazy, and after a plus sign it gives nothing back. -/
def withRange? (body : Regex) (text : Text) : Option (Regex × Text) := do
  match ← range? text with
  | (none, rest) => some (body, rest)
  | (some (least, most), rest) =>
      let (all, rest) := match rest with
        | '?' :: rest => (Regex.repeated body least most true, rest)
        | '+' :: rest => (.atomic (.repeated body least most false), rest)
        | rest => (.repeated body least most false, rest)
      match ← range? rest with
      | (none, rest) => some (all, rest)
      | _ => none

/-! ## Groups and alternatives -/

/-- The number of characters that every match takes, if it is the same for all. -/
def width? : Regex → Option Nat
  | nothing | between _ | lineEnd _ | textEnd | look .. => some 0
  | one _ => some 1
  | sequence first second => do some ((← width? first) + (← width? second))
  | choice first second => do
      let width ← width? first
      if (← width? second) = width then some width else none
  | repeated body least most _ => do
      let width ← width? body
      if width = 0 || most = some least then some (least * width) else none
  | group _ body | atomic body => width? body
  | same .. | ifTaken .. => none

/-- A look at what is before a place, which needs to know how far to go back. -/
def lookBehind? (wanted : Bool) (body : Regex) : Option Regex :=
  body.width?.map fun width => .look width wanted body

/-- What the mark at the start of a group makes of its body, and what follows it.  A group
without a mark is noted under the next number. -/
def groupKind (number : Nat) (text : Text) : (Regex → Option Regex) × Nat × Text :=
  match text with
  | '?' :: ':' :: rest => (some, number, rest)
  | '?' :: '=' :: rest => (some ∘ .look 0 true, number, rest)
  | '?' :: '!' :: rest => (some ∘ .look 0 false, number, rest)
  | '?' :: '<' :: '=' :: rest => (lookBehind? true, number, rest)
  | '?' :: '<' :: '!' :: rest => (lookBehind? false, number, rest)
  | '?' :: '>' :: rest => (some ∘ .atomic, number, rest)
  | rest => (some ∘ .group number, number + 1, rest)

/-- The alternatives up to the end of a group or of the text, of which `done` holds the
expressions before it backwards; `number` is that of the next group.  Every step takes a
character, so `fuel` for each character and one more is enough. -/
def alternatives? (flags : Flags) :
    Nat → Nat → List Regex → Text → Option (Regex × Nat × Text)
  | 0, _, _, _ => none
  | fuel + 1, number, done, text =>
      match text with
      | [] => some (inSequence done.reverse, number, [])
      | ')' :: _ => some (inSequence done.reverse, number, text)
      | '|' :: rest => do
          let (others, number, rest) ← alternatives? flags fuel number [] rest
          some (.choice (inSequence done.reverse) others, number, rest)
      | '(' :: rest => do
          let (kind, number, rest) := groupKind number rest
          let (body, number, rest) ← alternatives? flags fuel number [] rest
          let (all, rest) ← withRange? (← kind body) (← Text.dropStart? ")" rest)
          alternatives? flags fuel number (all :: done) rest
      | text =>
          match anchor? flags text with
          | some (anchor, rest) =>
              match range? rest with
              | some (none, rest) => alternatives? flags fuel number (anchor :: done) rest
              | _ => none
          | none => do
              let (single, rest) ← single? flags number text
              let (all, rest) ← withRange? single rest
              alternatives? flags fuel number (all :: done) rest

/-- The regular expression that a text writes. -/
def parse? (text : Text) : Option Regex :=
  let (flags, body) := Flags.read text
  match alternatives? flags (body.length + 1) 1 [] body with
  | some (regex, _, []) => some regex
  | _ => none

end Regex

/-- The pattern that a text writes. -/
def Pattern.parse? (text : Text) : Option Pattern :=
  (Regex.parse? text).map fun regex => regex.toPattern text

end ShortlinkCatalog
