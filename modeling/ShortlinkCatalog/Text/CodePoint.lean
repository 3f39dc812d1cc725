/-!
# Code points

A code point is a character or one of the 2048 surrogates.  Surrogates stand for
nothing by themselves, but a JSON document can spell one, and then the text that it
spells has one.  They have no UTF-8 form, no case and no glyph; the order of code
points is that of their numbers.
-/

namespace ShortlinkCatalog

/-- A character, or the surrogate with this distance from the first one. -/
inductive CodePoint
  | char (value : Char)
  | surrogate (index : Fin 0x800)
deriving DecidableEq, Repr

namespace CodePoint

instance : Inhabited CodePoint := ⟨.char 'A'⟩

instance : Coe Char CodePoint := ⟨.char⟩

/-- The number of the first surrogate. -/
def firstSurrogate : Nat := 0xd800

/-- The number of the first code point after the surrogates. -/
def afterSurrogates : Nat := 0xe000

def toNat : CodePoint → Nat
  | .char value => value.toNat
  | .surrogate index => firstSurrogate + index

/-- The code point with a number below 0x110000. -/
def ofNat (code : Nat) : CodePoint :=
  if hsurrogate : firstSurrogate ≤ code ∧ code < afterSurrogates then
    .surrogate ⟨code - firstSurrogate, by
      simp only [firstSurrogate, afterSurrogates] at hsurrogate ⊢
      omega⟩
  else .char (Char.ofNat code)

instance : LE CodePoint := ⟨fun left right => left.toNat ≤ right.toNat⟩

instance (left right : CodePoint) : Decidable (left ≤ right) :=
  inferInstanceAs (Decidable (left.toNat ≤ right.toNat))

def isSurrogate : CodePoint → Bool
  | .char _ => false
  | .surrogate _ => true

end CodePoint

end ShortlinkCatalog
