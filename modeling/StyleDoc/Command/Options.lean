import StyleDoc.Annotation.Standard
import StyleDoc.Command.Path
import StyleDoc.Json.Printer
import StyleDoc.Text.Basic

/-!
# Options of the command

The words of a command line are sources or options. Short options may be joined in one word, and an
option with a value takes it from the same word or from the next one. Each option may be given once.
-/

namespace StyleDoc

structure Options where
  sources : List String
  output : Option Path
  compact : Bool
  noStandard : Bool
  quiet : Bool
deriving DecidableEq, Repr

/-- The options that need no value. -/
inductive Flag where
  | compact
  | noStandard
  | quiet
deriving DecidableEq, Repr

/-- Where an option in need of a value gets it from, if a word ends with one. -/
inductive OutputValue where
  | notAsked
  | attached (value : List Char)
  | nextWord
deriving DecidableEq, Repr

/-- One word of a command line. -/
inductive Word where
  | source
  | onlySources
  | options (flags : List Flag) (output : OutputValue)
  | help
  | unknown
deriving DecidableEq, Repr

namespace Word

/-- Short options after their common dash. -/
def ofShort : List Char → Word
  | [] => options [] .notAsked
  | 'h' :: _ => help
  | 'o' :: [] => options [] .nextWord
  | 'o' :: '=' :: value => options [] (.attached value)
  | 'o' :: value => options [] (.attached value)
  | 'q' :: rest =>
    match ofShort rest with
    | options flags output => options (.quiet :: flags) output
    | word => word
  | _ => unknown

def longFlag? (name : List Char) : Option Flag :=
  if name = "compact".toList then some .compact
  else if name = "no-builtin".toList then some .noStandard
  else if name = "quiet".toList then some .quiet
  else none

/-- A long option after its two dashes. -/
def ofLong (text : List Char) : Word :=
  match Text.cut? '=' text with
  | some (name, value) => if name = "output".toList then options [] (.attached value) else unknown
  | none =>
    if text = "output".toList then options [] .nextWord
    else if text = "help".toList then help
    else
      match longFlag? text with
      | some flag => options [flag] .notAsked
      | none => unknown

def ofString (word : String) : Word :=
  match word.toList with
  | ['-', '-'] => onlySources
  | '-' :: '-' :: text => ofLong text
  | '-' :: c :: text => ofShort (c :: text)
  | _ => source

end Word

/-- What a command line asks for. -/
inductive Request where
  | help
  | run (options : Options)
deriving DecidableEq, Repr

namespace Options

def default : Options := ⟨[], none, false, false, false⟩

def setFlag (options : Options) : Flag → Option Options
  | .compact => if options.compact then none else some { options with compact := true }
  | .noStandard => if options.noStandard then none else some { options with noStandard := true }
  | .quiet => if options.quiet then none else some { options with quiet := true }

def setOutput (options : Options) (value : String) : Option Options :=
  if value = "" ∨ options.output.isSome then none
  else some { options with output := some (.ofText value) }

/-- Whether a word can be the value of the option before it. -/
def isValue (word : String) : Bool := word == "-" || word.toList.head? != some '-'

/-- Reads the words of a command line on top of options that are set already. There is no result
for a command line that makes no sense. -/
def readFrom (options : Options) : List String → Option Request
  | [] => some (.run options)
  | word :: words =>
    match Word.ofString word with
    | .source => readFrom { options with sources := options.sources ++ [word] } words
    | .onlySources => some (.run { options with sources := options.sources ++ words })
    | .help => some .help
    | .unknown => none
    | .options flags output =>
      match flags.foldlM setFlag options, output with
      | none, _ => none
      | some options, .notAsked => readFrom options words
      | some options, .attached value =>
        match options.setOutput (String.ofList value) with
        | none => none
        | some options => readFrom options words
      | some options, .nextWord =>
        match words with
        | [] => none
        | value :: words =>
          match if isValue value then options.setOutput value else none with
          | none => none
          | some options => readFrom options words

def read (words : List String) : Option Request := readFrom default words

def registry (options : Options) : Registry :=
  if options.noStandard then .empty else .standard

def layout (options : Options) : Json.Layout := if options.compact then .compact else .pretty

end Options

end StyleDoc
