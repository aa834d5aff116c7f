import StyleDoc.Text.CaseTable

/-!
# Lower case

The lower-case form of a text, character by character but for the Greek sigma, which has a form of
its own at the end of a word.
-/

namespace StyleDoc.Text

/-- Whether the first character that is not case-ignorable is a cased one. -/
def continuesWord (text : List Char) : Bool :=
  (text.dropWhile (inRanges caseIgnorableRanges)).head?.any (inRanges casedRanges)

def CaseRun.covers (run : CaseRun) (c : Char) : Bool :=
  run.first ≤ c.toNat && c.toNat ≤ run.last && (c.toNat - run.first) % run.step == 0

/-- The lower-case form of one character. The dotted capital I is the only one that becomes two
characters, the dot staying behind as a combining mark. -/
def lowerChar (c : Char) : List Char :=
  if c = 'İ' then ['i', '\u0307']
  else
    match caseRuns.find? (·.covers c) with
    | some run => [Char.ofNat (c.toNat + run.shift).toNat]
    | none => [c]

/-- The lower-case form of `text`, the characters before it being `before`, last one first. -/
def lowerAfter (before : List Char) : List Char → List Char
  | [] => []
  | c :: rest =>
    (if c = 'Σ' then if continuesWord before && !continuesWord rest then ['ς'] else ['σ']
      else lowerChar c) ++ lowerAfter (c :: before) rest

def lowercase (text : List Char) : List Char := lowerAfter [] text

end StyleDoc.Text
