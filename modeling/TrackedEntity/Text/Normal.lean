import TrackedEntity.Text.Hexadecimal
import TrackedEntity.Text.NormalTables

/-!
# The compatibility form of a name

Many characters can be written in several ways: an accented letter as one character or as a letter
and an accent, a letter in full width or in a mathematical style. `compatibilityForm` brings all of
them to one form (normal form KC of Unicode, version 14), so that names can be compared character by
character. It works in three steps: every character is replaced by what it stands for
(`decompose`), accents on one letter are put into a fixed order (`arrange`), and letters are joined
with their accents again where there is a character for both (`compose`).

The syllables of Hangul are not in the tables, because their parts can be computed.
-/

namespace TrackedEntity.Text

/-! ### Reading the tables -/

/-- A number in hexadecimal digits. -/
def readHex (digits : String) : Nat := (ofHex? digits).getD 0

/-- A code point, and how many characters in a row a word is about. -/
def readRun (word : String) : Nat × Nat :=
  match word.splitOn "*" with
  | [first, count] => (readHex first, readHex count)
  | _ => (readHex word, 1)

/-- The words of a table, each with the code point that it is about; `width` is the number of code
points that a word advances. -/
def readPlaces (width : String → Nat) : (next : Nat) → List String → List (Nat × String)
  | _, [] => []
  | next, w :: ws =>
    match w.toList with
    | '@' :: digits => readPlaces width (readHex (String.ofList digits)) ws
    | _ => (next, w) :: readPlaces width (next + width w) ws

/-- The words in the lines of a table. -/
def tableWords (lines : List String) : List String := lines.flatMap fun l => l.splitOn " "

/-- Joins the two words of each pair. -/
def joinPairs : List String → List String
  | a :: b :: rest =>
    if a.startsWith "@" then a :: joinPairs (b :: rest) else (a ++ "." ++ b) :: joinPairs rest
  | rest => rest
termination_by words => words.length

/-- The characters that are composed of two others, with their parts. -/
def pairs : List (Nat × Nat × Nat) :=
  (readPlaces (fun _ => 1) 0 (joinPairs (tableWords pairWords))).filterMap fun (c, w) =>
    match w.splitOn "." with
    | [a, b] => some (c, readHex a, readHex b)
    | _ => none

/-- What stretches of characters stand for: first, count, and the parts of the first one. -/
def decompositions : List (Nat × Nat × List Nat) :=
  (readPlaces (fun w => (readRun w).2) 0 (tableWords decompositionWords)).map fun (c, w) =>
    let (first, count) := readRun w
    (c, count, if count = 1 then (w.splitOn ".").map readHex else [first])

/-- The combining classes of stretches of characters: first, count, class. -/
def classes : List (Nat × Nat × Nat) :=
  (tableWords classWords).filterMap fun w =>
    match w.splitOn ":" with
    | [run, k] => some ((readRun run).1, (readRun run).2, k.toNat?.getD 0)
    | _ => none

/-- The entry of a stretch that a code point lies in, and its distance from the first one. -/
def findStretch (stretches : List (Nat × Nat × α)) (c : Nat) : Option (Nat × α) :=
  (stretches.find? fun s => s.1 ≤ c && c < s.1 + s.2.1).map fun s => (c - s.1, s.2.2)

/-- The combining class of a character: zero for letters, and the position of an accent. -/
def combiningClass (c : Nat) : Nat := ((findStretch classes c).map (·.2)).getD 0

/-! ### The syllables of Hangul -/

/-- The first syllable. -/
def firstSyllable : Nat := 0xac00

/-- The first leading consonant. -/
def firstLeading : Nat := 0x1100

/-- The first vowel. -/
def firstVowel : Nat := 0x1161

/-- The code point before the first trailing consonant. -/
def beforeTrailing : Nat := 0x11a7

/-- The parts of a syllable: a leading consonant, one of 21 vowels, and perhaps one of 27 trailing
consonants. -/
def syllableParts? (c : Nat) : Option (List Nat) :=
  if firstSyllable ≤ c && c < firstSyllable + 19 * 588 then
    let i := c - firstSyllable
    let two := [firstLeading + i / 588, firstVowel + i % 588 / 28]
    some (if i % 28 = 0 then two else two ++ [beforeTrailing + i % 28])
  else none

/-- The syllable that two parts make: a consonant and a vowel, or a syllable without trailing
consonant and such a consonant. -/
def syllableOf? (a b : Nat) : Option Nat :=
  if firstLeading ≤ a && a < firstLeading + 19 && firstVowel ≤ b && b < firstVowel + 21 then
    some (firstSyllable + (a - firstLeading) * 588 + (b - firstVowel) * 28)
  else if firstSyllable ≤ a && a < firstSyllable + 19 * 588 && (a - firstSyllable) % 28 = 0
      && beforeTrailing < b && b < beforeTrailing + 28 then
    some (a + (b - beforeTrailing))
  else none

/-! ### The three steps -/

/-- The parts that a character stands for. The first part of a pair may be a pair again; the fuel
bounds how often. -/
def decomposeWithin : (fuel : Nat) → Nat → List Nat
  | 0, c => [c]
  | fuel + 1, c =>
    match syllableParts? c, findStretch decompositions c, pairs.find? (·.1 = c) with
    | some parts, _, _ => parts
    | none, some (_, []), _ => [c]
    | none, some (distance, first :: rest), _ => (first + distance) :: rest
    | none, none, some (_, a, b) => decomposeWithin fuel a ++ decomposeWithin fuel b
    | none, none, none => [c]

/-- The parts that a character stands for; no character is a pair more than three deep. -/
def decompose (c : Nat) : List Nat := decomposeWithin 4 c

/-- Puts an accent among those before it: behind those of its class or a lower one. The accents come
last first. -/
def insertAccent (c : Nat) : List Nat → List Nat
  | [] => [c]
  | d :: ds =>
    if combiningClass c < combiningClass d then d :: insertAccent c ds else c :: d :: ds

/-- Puts the accents on each letter into the order of their classes. The accents on the last letter
so far come last first. -/
def arrange : (accents : List Nat) → List Nat → List Nat
  | accents, [] => accents.reverse
  | accents, c :: cs =>
    if combiningClass c = 0 then accents.reverse ++ c :: arrange [] cs
    else arrange (insertAccent c accents) cs

/-- The character for two others, if there is one. -/
def pairOf? (a b : Nat) : Option Nat :=
  (syllableOf? a b).or ((pairs.find? fun p => p.2.1 = a && p.2.2 = b).map (·.1))

/-- Joins a letter with the accents behind it. An accent is out of reach when one that was not
joined stands before it and has the same class or a higher one. The accents that were not joined
come last first. -/
def composeFrom (letter : Nat) : (accents : List Nat) → List Nat → List Nat
  | accents, [] => letter :: accents.reverse
  | accents, c :: cs =>
    let k := combiningClass c
    let blocked := accents.head?.any fun d => k ≤ combiningClass d
    match if blocked then none else pairOf? letter c with
    | some joined => composeFrom joined accents cs
    | none =>
      if k = 0 then letter :: (accents.reverse ++ composeFrom c [] cs)
      else composeFrom letter (c :: accents) cs

/-- Joins letters with their accents. -/
def compose : List Nat → List Nat
  | [] => []
  | c :: cs => composeFrom c [] cs

/-- The one form of a text. Texts of ASCII have it already. -/
def compatibilityForm (s : String) : String :=
  if s.toList.all (·.toNat < 0x80) then s
  else
    let parts := s.toList.flatMap fun c => decompose c.toNat
    String.ofList ((compose (arrange [] parts)).map Char.ofNat)

end TrackedEntity.Text
