import StyleDoc.Command.Path

/-!
# Patterns for paths

A pattern stands for all paths that it matches. A question mark matches one character, a star any
characters inside a name, a class in brackets one character of the class or, with an exclamation
mark, one outside of it. Two stars as a whole component match any number of directories.
-/

namespace StyleDoc

open Text

/-! ## Tokens -/

/-- A part of a character class. -/
inductive ClassItem where
  | single (c : Char)
  | range (first last : Char)
deriving DecidableEq, Repr

def ClassItem.holds : ClassItem → Char → Bool
  | single c, given => c == given
  | range first last, given => first ≤ given && given ≤ last

/-- The items of a class. A dash between two characters makes them the ends of a range. -/
def classItems : List Char → List ClassItem
  | first :: '-' :: last :: rest => .range first last :: classItems rest
  | c :: rest => .single c :: classItems rest
  | [] => []

inductive PatternToken where
  | char (c : Char)
  | anyChar
  | anyName
  | anyPath
  | inside (items : List ClassItem)
  | outside (items : List ClassItem)
deriving DecidableEq, Repr

inductive PatternFault where
  | wildcards
  | recursiveWildcards
  | range
deriving DecidableEq, Repr

def PatternFault.message : PatternFault → String
  | wildcards => "wildcards are either regular `*` or recursive `**`"
  | recursiveWildcards => "recursive wildcards must form a single path component"
  | range => "invalid range pattern"

/-- What is wrong with a pattern, and at which of its characters. -/
structure PatternError where
  position : Nat
  fault : PatternFault
deriving DecidableEq, Repr

def PatternError.message (error : PatternError) : String :=
  "Pattern syntax error near position " ++ toString error.position ++ ": " ++ error.fault.message

/-- The class behind an opening bracket, with the number of its characters up to the closing
bracket and what follows. The first character of a class cannot close it. -/
def readClass? (text : List Char) : Option (PatternToken × Nat × List Char) :=
  match text with
  | '!' :: first :: rest =>
    (cut? ']' rest).map fun (more, behind) =>
      (.outside (classItems (first :: more)), more.length + 3, behind)
  | '!' :: [] => none
  | first :: rest =>
    (cut? ']' rest).map fun (more, behind) =>
      (.inside (classItems (first :: more)), more.length + 2, behind)
  | [] => none

/-- Two stars, at this position and behind the character `last`, with the number of characters that
they take: they need a slash or an end of the pattern on either side. -/
def readAnyPath (position : Nat) (last : Option Char) (rest : List Char) :
    Except PatternError (Nat × List Char) :=
  if last.all (· == '/') then
    match rest with
    | [] => .ok (2, [])
    | '/' :: rest => .ok (3, rest)
    | _ => .error ⟨position + 2, .recursiveWildcards⟩
  else .error ⟨position - 1, .recursiveWildcards⟩

/-- The tokens of a pattern from one of its positions on, behind the character `last`. A step takes
one character at least, so `fuel` steps are enough for a pattern of that length. -/
def tokensFrom (fuel position : Nat) (last : Option Char) (text : List Char) :
    Except PatternError (List PatternToken) :=
  match fuel, text with
  | _, [] => .ok []
  | 0, _ => .ok []
  | fuel + 1, '?' :: rest => (.anyChar :: ·) <$> tokensFrom fuel (position + 1) (some '?') rest
  | fuel + 1, '*' :: rest =>
    match (rest.takeWhile (· == '*')).length, rest.dropWhile (· == '*') with
    | 0, rest => (.anyName :: ·) <$> tokensFrom fuel (position + 1) (some '*') rest
    | 1, rest => do
      let (taken, rest) ← readAnyPath position last rest
      (.anyPath :: ·) <$> tokensFrom fuel (position + taken) (some '/') rest
    | _, _ => .error ⟨position + 2, .wildcards⟩
  | fuel + 1, '[' :: rest =>
    match readClass? rest with
    | none => .error ⟨position, .range⟩
    | some (token, taken, rest) =>
      (token :: ·) <$> tokensFrom fuel (position + taken) (some ']') rest
  | fuel + 1, c :: rest => (.char c :: ·) <$> tokensFrom fuel (position + 1) (some c) rest

def patternTokens (pattern : List Char) : Except PatternError (List PatternToken) :=
  tokensFrom pattern.length 0 none pattern

/-! ## Matching a name -/

def PatternToken.holds : PatternToken → Char → Bool
  | char c, given => c == given
  | inside items, given => items.any (·.holds given)
  | outside items, given => !items.any (·.holds given)
  | _, _ => true

/-- Whether the tokens match the whole name. -/
def matchesName : List PatternToken → List Char → Bool
  | [], name => name.isEmpty
  | token :: tokens, name =>
    if token = .anyName ∨ token = .anyPath then
      (List.range (name.length + 1)).any fun skipped => matchesName tokens (name.drop skipped)
    else
      match name with
      | [] => false
      | c :: rest => token.holds c && matchesName tokens rest

/-! ## Components -/

/-- One component of a pattern. -/
inductive PatternStep where
  | literal (name : String)
  | wild (tokens : List PatternToken)
  | anyPath
deriving DecidableEq, Repr

def PatternToken.char? : PatternToken → Option Char
  | char c => some c
  | _ => none

def PatternStep.ofTokens (tokens : List PatternToken) : PatternStep :=
  if .anyPath ∈ tokens then anyPath
  else
    match tokens.mapM PatternToken.char? with
    | some text => literal (String.ofList text)
    | none => wild tokens

/-- Whether the tokens match the name of a file. They match texts only. -/
def matchesFileName (tokens : List PatternToken) (name : FileName) : Bool :=
  (ofBytes? name).any fun text => matchesName tokens text.toList

/-- Whether the step matches a name that was found in a directory. -/
def PatternStep.matchesEntry : PatternStep → FileName → Bool
  | literal name, entry => bytes name == entry
  | wild tokens, entry => matchesFileName tokens entry
  | anyPath, _ => true

/-- A pattern by its components. -/
structure PathPattern where
  /-- The directory in which the pattern starts. -/
  start : Path
  steps : List PatternStep
  /-- Whether the pattern ends with a slash, so that no file matches it. -/
  directoriesOnly : Bool
deriving DecidableEq, Repr

/-- The steps with one of any adjacent ones for any number of directories. -/
def mergeAnyPath : List PatternStep → List PatternStep
  | .anyPath :: .anyPath :: steps => mergeAnyPath (.anyPath :: steps)
  | step :: steps => step :: mergeAnyPath steps
  | [] => []

/-- The pattern is read as a whole first and then by components, each of which must be well-formed
by itself. -/
def PathPattern.ofText (text : List Char) : Except PatternError PathPattern := do
  let _ ← patternTokens text
  let absolute := text.head? = some '/'
  let pieces := split '/' (if absolute then text.tail else text)
  let directoriesOnly := text.getLast? = some '/'
  let pieces := if pieces.getLast? = some [] ∧ 1 < pieces.length then pieces.dropLast else pieces
  let tokens ← pieces.mapM patternTokens
  return {
    start := .ofText (if absolute then "/" else ".")
    steps := mergeAnyPath (tokens.map PatternStep.ofTokens)
    directoriesOnly := directoriesOnly }

end StyleDoc
