import TrackedEntity.Settings.Environment
import TrackedEntity.Text.Blank

/-!
# Environment files

An environment file gives variables, one entry after another. An entry is a name, perhaps after the
word `export`, an equals sign and a value, with blanks around the equals sign; a name alone stands
for a variable without value. A name may stand in single quotes. A value in quotes may reach over
several lines and may hold escapes; a value without quotes ends at the end of its line or before a
blank and a number sign. A comment may follow any entry. What is no entry is passed over up to the
end of its line (`entries`).

In a value `${name}` stands for the value of a variable, and `${name:-text}` for the value or else
for a text. Variables of earlier entries come before those of the process (`variablesOf`).
-/

namespace TrackedEntity.EnvironmentFile

/-! ### Pieces of an entry -/

/-- Line breaks of every kind as one character. -/
def uniformBreaks : List Char → List Char
  | [] => []
  | '\r' :: '\n' :: cs => '\n' :: uniformBreaks cs
  | '\r' :: cs => '\n' :: uniformBreaks cs
  | c :: cs => c :: uniformBreaks cs

/-- A blank within a line. -/
def isGap (c : Char) : Bool := Text.isBlank c && c != '\n'

/-- The text without the rest of its first line. -/
def skipLine (cs : List Char) : List Char := (cs.dropWhile (· != '\n')).drop 1

/-- What was read from the beginning of a text, with the rest of the text; or the place where
reading failed. -/
abbrev Reading (α : Type) : Type := Except (List Char) (α × List Char)

/-- The text up to the first quote that does not follow a backslash, and what comes after it; the
flag tells whether a backslash stands before the text. -/
def untilQuote? (quote : Char) : (escaped : Bool) → List Char → Option (List Char × List Char)
  | _, [] => none
  | escaped, c :: cs =>
    if c = quote && !escaped then some ([], cs)
    else (untilQuote? quote (c = '\\') cs).map fun (inner, rest) => (c :: inner, rest)

/-- The text up to the last quote, and what comes after it. -/
def untilLastQuote? (quote : Char) : List Char → Option (List Char × List Char)
  | [] => none
  | c :: cs =>
    match untilLastQuote? quote cs with
    | some (inner, rest) => some (c :: inner, rest)
    | none => if c = quote then some ([], cs) else none

/-- Replaces a backslash and one of some letters by what they stand for; the flag tells whether a
backslash stands before the text. -/
def unescape (letters : List (Char × Char)) : (escaped : Bool) → List Char → List Char
  | escaped, [] => if escaped then ['\\'] else []
  | false, c :: cs => if c = '\\' then unescape letters true cs else c :: unescape letters false cs
  | true, c :: cs =>
    match letters.lookup c with
    | some meant => meant :: unescape letters false cs
    | none => '\\' :: c :: unescape letters false cs

/-- The escapes between single quotes. -/
def singleEscapes : List (Char × Char) := [('\\', '\\'), ('\'', '\'')]

/-- The escapes between double quotes. -/
def doubleEscapes : List (Char × Char) :=
  [('\\', '\\'), ('\'', '\''), ('"', '"'), ('a', '\x07'), ('b', '\x08'), ('f', '\x0c'),
   ('n', '\n'), ('r', '\r'), ('t', '\t'), ('v', '\x0b')]

/-- The value after an opening quote. A quote after a backslash closes it only when there is no
other one. -/
def readQuoted (quote : Char) (letters : List (Char × Char)) (cs rest : List Char) :
    Reading (List Char) :=
  match (untilQuote? quote false rest).or (untilLastQuote? quote rest) with
  | some (inner, rest) => .ok (unescape letters false inner, rest)
  | none => .error cs

/-- A line up to a blank with a number sign behind it. -/
def cutComment : List Char → List Char
  | [] => []
  | c :: cs =>
    if Text.isBlank c && (cs.dropWhile Text.isBlank).head? == some '#' then []
    else c :: cutComment cs

/-- The value at the beginning of a text. -/
def readValue : List Char → Reading (List Char)
  | '\'' :: rest => readQuoted '\'' singleEscapes ('\'' :: rest) rest
  | '"' :: rest => readQuoted '"' doubleEscapes ('"' :: rest) rest
  | cs =>
    let line := cutComment (cs.takeWhile (· != '\n'))
    .ok ((line.reverse.dropWhile Text.isBlank).reverse, cs.dropWhile (· != '\n'))

/-- The name at the beginning of a text; a comment has none. -/
def readName : List Char → Reading (Option String)
  | '#' :: rest => .ok (none, '#' :: rest)
  | '\'' :: rest =>
    match rest.takeWhile (· != '\''), rest.dropWhile (· != '\'') with
    | c :: cs, _ :: rest => .ok (some (String.ofList (c :: cs)), rest)
    | _, _ => .error ('\'' :: rest)
  | cs =>
    let inName (c : Char) : Bool := c != '=' && c != '#' && !Text.isBlank c
    match cs.takeWhile inName with
    | [] => .error cs
    | name => .ok (some (String.ofList name), cs.dropWhile inName)

/-- The text without the word `export` at its beginning, if a blank follows it. -/
def skipExport (cs : List Char) : List Char :=
  match cs with
  | 'e' :: 'x' :: 'p' :: 'o' :: 'r' :: 't' :: c :: rest =>
    if isGap c then rest.dropWhile isGap else cs
  | _ => cs

/-- The rest of an entry after its value: a comment at most, and the end of the line. -/
def readEnd (cs : List Char) : Reading Unit :=
  let afterComment :=
    match cs.dropWhile isGap with
    | '#' :: rest => rest.dropWhile (· != '\n')
    | _ => cs
  match afterComment.dropWhile isGap with
  | [] => .ok ((), [])
  | '\n' :: rest => .ok ((), rest)
  | _ => .error afterComment

/-- The value of an entry, if there is one, up to the end of the line. -/
def readAssigned (cs : List Char) : Except (List Char) (Option (List Char) × List Char) := do
  match cs.dropWhile isGap with
  | '=' :: rest =>
    let (v, rest) ← readValue (rest.dropWhile isGap)
    let ((), rest) ← readEnd rest
    return (some v, rest)
  | rest =>
    let ((), rest) ← readEnd rest
    return (none, rest)

/-! ### Entries and variables -/

/-- A name and what is assigned to it, if anything. -/
abbrev Entry := String × Option (List Char)

/-- The entry at the beginning of a text, if there is one. -/
def readEntry (cs : List Char) : Except (List Char) (Option Entry × List Char) :=
  match cs.dropWhile Text.isBlank with
  | [] => .ok (none, [])
  | cs => do
    let (name, rest) ← readName (skipExport cs)
    let (v, rest) ← readAssigned rest
    return (name.map (·, v), rest)

/-- The text behind its first entry, with that entry; what is no entry is passed over. -/
def step (cs : List Char) : Option Entry × List Char :=
  match readEntry cs with
  | .ok (entry, rest) => (entry, rest)
  | .error place => (none, skipLine place)

/-- The entries of a text. Every step shortens the text, or there is nothing left to read. -/
def entries (cs : List Char) : List Entry :=
  if _h : (step cs).2.length < cs.length then (step cs).1.toList ++ entries (step cs).2 else []
termination_by cs.length

/-- A reference to a variable after its opening brace: the name, the text for a missing variable,
and what follows. -/
def readReference? (cs : List Char) : Option (String × List Char × List Char) :=
  let name := String.ofList (cs.takeWhile fun c => c != '\x7d' && c != ':')
  match cs.dropWhile fun c => c != '\x7d' && c != ':' with
  | '\x7d' :: rest => some (name, [], rest)
  | ':' :: '-' :: rest =>
    match rest.dropWhile (· != '\x7d') with
    | _ :: after => some (name, rest.takeWhile (· != '\x7d'), after)
    | [] => none
  | _ => none

/-- A value with its references replaced; the fuel bounds the number of characters. -/
def expandWithin (value? : String → Option (List Char)) : (fuel : Nat) → List Char → List Char
  | 0, cs => cs
  | _, [] => []
  | fuel + 1, c :: cs =>
    match c, cs with
    | '$', '\x7b' :: inner =>
      match readReference? inner with
      | some (name, missing, rest) =>
        (value? name).getD missing ++ expandWithin value? fuel rest
      | none => c :: expandWithin value? fuel cs
    | _, _ => c :: expandWithin value? fuel cs

/-- A value with its references replaced. -/
def expand (value? : String → Option (List Char)) (cs : List Char) : List Char :=
  expandWithin value? cs.length cs

/-- The variables that entries give, beside those of the process. A variable without value counts
as empty where it is referred to. -/
def define (process : Environment) (found : Table String (Option String)) (entry : Entry) :
    Table String (Option String) :=
  let value? (name : String) : Option (List Char) :=
    match found.get? name with
    | some v => some (v.getD "").toList
    | none => (Table.get? process name).map String.toList
  found.put entry.1 (entry.2.map fun v => String.ofList (expand value? v))

/-- The variables of an environment file, in order of first appearance. -/
def variablesOf (process : Environment) (text : String) : Table String (Option String) :=
  (entries (uniformBreaks text.toList)).foldl (define process) []

end TrackedEntity.EnvironmentFile
