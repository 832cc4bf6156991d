/-!
# Similar words

How much two words resemble each other, as a fraction: equal words have a resemblance of one, and words
without a letter in common one of zero. Letters count as common if they stand at about the same place.
A common start counts extra, since mistakes are rare there.
-/

namespace LexKit.Text

structure Fraction where
  numerator : Nat
  denominator : Nat
deriving Repr, DecidableEq

namespace Fraction

def lt (first second : Fraction) : Bool :=
  first.numerator * second.denominator < second.numerator * first.denominator

end Fraction

/-- The letters that were found in common: how many, how many of them stand before the one found last, the
place of the one found last, and the letters of the second word that are still free. -/
structure Common where
  count : Nat := 0
  turned : Nat := 0
  last : Nat := 0
  free : List (Option Char)
deriving Repr, DecidableEq

namespace Common

/-- Looks for a letter among the free ones that are not further than `reach` from its place. -/
def step (reach : Nat) (common : Common) (letter : Char × Nat) : Common :=
  let (char, place) := letter
  let found := common.free.zipIdx.find? fun (other, index) =>
    place ≤ index + reach && index ≤ place + reach && other == some char
  match found with
  | none => common
  | some (_, index) =>
      { count := common.count + 1
        turned := if index < common.last then common.turned + 1 else common.turned
        last := index
        free := common.free.set index none }

end Common

def commonLetters (first second : List Char) : Common :=
  let reach := max first.length second.length / 2 - 1
  first.zipIdx.foldl (Common.step reach) { free := second.map some }

/-- The mean of three shares: of the common letters in each of the words, and of those among them that come in
the same order. -/
def letterResemblance (first second : List Char) : Fraction :=
  let common := commonLetters first second
  if first.isEmpty && second.isEmpty then ⟨1, 1⟩
  else if common.count = 0 then ⟨0, 1⟩
  else
    ⟨common.count * common.count * (first.length + second.length)
        + (common.count - common.turned) * first.length * second.length,
      3 * first.length * second.length * common.count⟩

def commonStart : List Char → List Char → Nat
  | first :: firsts, second :: seconds => if first = second then commonStart firsts seconds + 1 else 0
  | _, _ => 0

/-- How much two words resemble each other: each letter of the common start takes away a tenth of what the
letters lack. -/
def resemblance (first second : List Char) : Fraction :=
  let letters := letterResemblance first second
  let lacking := letters.denominator - letters.numerator
  let total := 10 * letters.numerator + commonStart first second * lacking
  ⟨min total (10 * letters.denominator), 10 * letters.denominator⟩

def slipThreshold : Fraction := ⟨4, 5⟩

/-- The word that resembles the given one most, if one of them is similar enough; the first of equals. -/
def closest? (word : String) (known : List String) : Option String :=
  let better := fun (best : Option (Fraction × String)) other =>
    let likeness := resemblance word.toList other.toList
    let rival := (best.map (·.1)).getD slipThreshold
    if rival.lt likeness then some (likeness, other) else best
  (known.foldl better none).map (·.2)

end LexKit.Text
