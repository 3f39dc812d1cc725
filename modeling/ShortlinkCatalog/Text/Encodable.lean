import ShortlinkCatalog.Text.Quoted

/-!
# Texts that cannot be encoded

An encoding does not reach every code point: UTF-8 has no surrogates and ASCII has
only 128 characters.  A refused text is described by its first run of code points out
of reach.
-/

namespace ShortlinkCatalog.Text

/-- The first run of characters out of reach, from `start` up to `stop`. -/
structure EncodeError where
  encoding : Text
  text : Text
  start : Nat
  stop : Nat
  reason : Text
deriving DecidableEq, Repr

def EncodeError.message (error : EncodeError) : Text :=
  let run := (error.text.drop error.start).take (error.stop - error.start)
  let place : Text := match run with
    | [character] =>
        "character '" ++ escapeCode character.toNat ++ "' in position " ++ ofNat error.start
    | _ =>
        "characters in position " ++ ofNat error.start ++ "-" ++ ofNat (error.stop - 1)
  "'" ++ error.encoding ++ "' codec can't encode " ++ place ++ ": " ++ error.reason

/-- The name of the kind of error. -/
def EncodeError.kind : Text := "UnicodeEncodeError"

/-- Why a text cannot be encoded, if it holds a character out of reach. -/
def encodeFault (encoding reason : Text) (outOfReach : CodePoint → Bool) (text : Text) :
    Option EncodeError :=
  let start := (text.takeWhile (!outOfReach ·)).length
  match (text.drop start).takeWhile outOfReach with
  | [] => none
  | run => some ⟨encoding, text, start, start + run.length, reason⟩

def utf8Fault : Text → Option EncodeError :=
  encodeFault "utf-8" "surrogates not allowed" CodePoint.isSurrogate

def asciiFault : Text → Option EncodeError :=
  encodeFault "ascii" "ordinal not in range(128)" (!isAscii ·)

end ShortlinkCatalog.Text
