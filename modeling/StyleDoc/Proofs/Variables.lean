import StyleDoc.Proofs.Headers

/-!
# Variables

The value of a variable is what the declaration assigns, without the flags behind it. A flag is a
word behind an exclamation mark, and the flags are as many as there can be: no longer end of what is
assigned consists of flags and white space alone. An exclamation mark before them belongs to the
value.
-/

namespace StyleDoc.Declaration

open Text

/-! ## Flags -/

/-- Flags as they are written: each a word behind an exclamation mark, with white space before each
and behind the last. -/
inductive IsFlags : List (List Char) → List Char → Prop where
  | none {space : List Char} (allSpace : ∀ c ∈ space, isSpace c = true) : IsFlags [] space
  | flag {space word rest : List Char} {flags : List (List Char)}
      (allSpace : ∀ c ∈ space, isSpace c = true) (nonempty : word ≠ [])
      (allWord : ∀ c ∈ word, isWord c = true) (others : IsFlags flags rest) :
      IsFlags (word :: flags) (space ++ '!' :: word ++ rest)

/-- The end of an assigned text that consists of flags, as long as it can be. -/
structure LongestFlags (assigned kept suffix : List Char) (flags : List (List Char)) : Prop where
  parts : kept ++ suffix = assigned
  isFlags : IsFlags flags suffix
  longest : ∀ other flags', other <:+ assigned → IsFlags flags' other →
    other.length ≤ suffix.length

/-- The pieces, an exclamation mark before each. -/
def marked (pieces : List (List Char)) : List Char := pieces.flatMap ('!' :: ·)

theorem isFlag_iff {piece : List Char} :
    isFlag piece = true ↔
      dropEndWhile isSpace piece ≠ [] ∧ ∀ c ∈ dropEndWhile isSpace piece, isWord c = true := by
  simp [isFlag]

theorem not_mem_of_isFlag {piece : List Char} (flag : isFlag piece = true) : '!' ∉ piece := by
  obtain ⟨space, parts, allSpace⟩ := exists_dropEndWhile_append isSpace piece
  rw [← parts, List.mem_append, not_or]
  constructor
  · exact not_mem_of_forall (by decide) (isFlag_iff.1 flag).2
  · exact not_mem_of_forall (by decide) allSpace

/-- The pieces between the exclamation marks of flags: a word each, and the white space behind. -/
theorem IsFlags.exists_pieces {flags : List (List Char)} {text : List Char}
    (isFlags : IsFlags flags text) :
    ∃ space pieces, (∀ c ∈ space, isSpace c = true) ∧ (∀ piece ∈ pieces, isFlag piece = true) ∧
      space ++ marked pieces = text ∧ pieces.map (dropEndWhile isSpace) = flags := by
  induction isFlags with
  | @none space allSpace => exact ⟨space, [], allSpace, by simp, by simp [marked], rfl⟩
  | @flag before word rest flags allSpace nonempty allWord _ inductionHypothesis =>
    obtain ⟨space, pieces, spaces, allFlags, rfl, rfl⟩ := inductionHypothesis
    have solid : Solid word := fun c member => isSpace_of_isWord (allWord c member)
    have trimmed : dropEndWhile isSpace (word ++ space) = word := by
      rw [dropEndWhile_append spaces, solid.dropEndWhile_eq]
    have first : isFlag (word ++ space) = true := by
      rw [isFlag_iff, trimmed]
      exact ⟨nonempty, allWord⟩
    refine ⟨before, (word ++ space) :: pieces, allSpace, ?_, by simp [marked], ?_⟩
    · exact List.forall_mem_cons.2 ⟨first, allFlags⟩
    · rw [List.map_cons, trimmed]

theorem isFlags_of_pieces {space : List Char} {pieces : List (List Char)}
    (allSpace : ∀ c ∈ space, isSpace c = true) (allFlags : ∀ piece ∈ pieces, isFlag piece = true) :
    IsFlags (pieces.map (dropEndWhile isSpace)) (space ++ marked pieces) := by
  induction pieces generalizing space with
  | nil =>
    rw [marked, List.flatMap_nil, List.append_nil]
    exact .none allSpace
  | cons piece pieces inductionHypothesis =>
    rw [List.forall_mem_cons] at allFlags
    obtain ⟨ended, parts, spaces⟩ := exists_dropEndWhile_append isSpace piece
    obtain ⟨nonempty, allWord⟩ := isFlag_iff.1 allFlags.1
    have written := IsFlags.flag allSpace nonempty allWord (inductionHypothesis spaces allFlags.2)
    have same : space ++ '!' :: dropEndWhile isSpace piece ++ (ended ++ marked pieces) =
        space ++ marked (piece :: pieces) := by
      conv => rhs; rw [marked, List.flatMap_cons, ← parts]
      simp [marked]
    rwa [same] at written

theorem split_append_marked {pieces : List (List Char)}
    (allFlags : ∀ piece ∈ pieces, isFlag piece = true) (text : List Char) :
    split '!' (text ++ marked pieces) = split '!' text ++ pieces :=
  split_append_flatMap (fun piece member => not_mem_of_isFlag (allFlags piece member)) text

theorem IsFlags.unique {flags others : List (List Char)} {text : List Char}
    (first : IsFlags flags text) (second : IsFlags others text) : flags = others := by
  have whole : ∀ {space : List Char}, (∀ c ∈ space, isSpace c = true) →
      split '!' space = [space] := fun allSpace =>
    split_of_not_mem (not_mem_of_forall (by decide) allSpace)
  obtain ⟨space, pieces, allSpace, allFlags, parts, rfl⟩ := first.exists_pieces
  obtain ⟨space', pieces', allSpace', allFlags', parts', rfl⟩ := second.exists_pieces
  -- Neither words nor white space have an exclamation mark, and so the marks cut out the pieces.
  have same : space :: pieces = space' :: pieces' := by
    have found := congrArg (split '!') (parts.trans parts'.symm)
    rwa [split_append_marked allFlags, split_append_marked allFlags', whole allSpace,
      whole allSpace'] at found
  rw [(List.cons.inj same).2]

theorem LongestFlags.unique {assigned kept kept' suffix suffix' : List Char}
    {flags flags' : List (List Char)} (first : LongestFlags assigned kept suffix flags)
    (second : LongestFlags assigned kept' suffix' flags') : kept = kept' ∧ flags = flags' := by
  have ends : suffix <:+ assigned := ⟨kept, first.parts⟩
  have ends' : suffix' <:+ assigned := ⟨kept', second.parts⟩
  have noLonger := second.longest _ _ ends first.isFlags
  have noShorter := first.longest _ _ ends' second.isFlags
  have inner : suffix <:+ suffix' := List.suffix_of_suffix_length_le ends ends' noLonger
  obtain rfl : suffix = suffix' := inner.eq_of_length_le noShorter
  exact ⟨List.append_cancel_right (first.parts.trans second.parts.symm),
    first.isFlags.unique second.isFlags⟩

/-! ## The value of a variable -/

/-- Pieces of the class `p` at the end of a list are among the last ones of the class. -/
theorem suffix_takeWhile_reverse {α : Type} {p : α → Bool} {last pieces : List α}
    (inside : ∀ piece ∈ last, p piece = true) (ends : last <:+ pieces) :
    last <:+ (pieces.reverse.takeWhile p).reverse := by
  obtain ⟨front, rfl⟩ := ends
  have reversed : ∀ piece ∈ last.reverse, p piece = true := fun piece member =>
    inside piece (List.mem_reverse.1 member)
  rw [List.reverse_append, List.takeWhile_append_of_pos reversed, List.reverse_append,
    List.reverse_reverse]
  exact List.suffix_append _ _

/-- An assigned text before a mark, and the pieces behind it: they are flags, and every piece that
ends the text among flags is one of them. -/
structure FlagPieces (assigned front : List Char) (pieces : List (List Char)) : Prop where
  parts : front ++ marked pieces = assigned
  allFlags : ∀ piece ∈ pieces, isFlag piece = true
  whole : ∀ other others, other ++ marked others = assigned →
    (∀ piece ∈ others, isFlag piece = true) → others <:+ pieces

theorem exists_flagPieces (assigned : List Char) :
    ∃ front pieces, FlagPieces assigned front pieces ∧
      splitFlags assigned = (trim front, pieces.map (dropEndWhile isSpace)) := by
  obtain ⟨first, pieces, found⟩ := List.exists_cons_of_ne_nil (split_ne_nil '!' assigned)
  have apart : (pieces.reverse.dropWhile isFlag).reverse ++
      (pieces.reverse.takeWhile isFlag).reverse = pieces := by
    rw [← List.reverse_append, List.takeWhile_append_dropWhile, List.reverse_reverse]
  refine ⟨join '!' (first :: (pieces.reverse.dropWhile isFlag).reverse),
    (pieces.reverse.takeWhile isFlag).reverse, ?_, by rw [splitFlags, found]⟩
  constructor
  case parts =>
    have joined := join_split '!' assigned
    rw [found, ← apart, join_cons, List.flatMap_append] at joined
    rw [join_cons, List.append_assoc]
    exact joined
  case allFlags =>
    intro piece member
    exact List.all_eq_true.1 List.all_takeWhile piece (List.mem_reverse.1 member)
  case whole =>
    intro other others parts allFlags
    refine suffix_takeWhile_reverse allFlags ?_
    -- The other text has a piece of its own, so the first piece is none of those behind it.
    obtain ⟨first', pieces', begins⟩ := List.exists_cons_of_ne_nil (split_ne_nil '!' other)
    rw [← parts, split_append_marked allFlags, begins] at found
    exact ⟨pieces', (List.cons.inj found).2⟩

theorem FlagPieces.longestFlags {assigned kept space : List Char} {pieces : List (List Char)}
    (flagPieces : FlagPieces assigned (kept ++ space) pieces)
    (allSpace : ∀ c ∈ space, isSpace c = true)
    (ends : ∀ c, kept.getLast? = some c → isSpace c = false) :
    LongestFlags assigned kept (space ++ marked pieces) (pieces.map (dropEndWhile isSpace)) := by
  constructor
  case parts => rw [← List.append_assoc, flagPieces.parts]
  case isFlags => exact isFlags_of_pieces allSpace flagPieces.allFlags
  case longest =>
    rintro other flags' ⟨before, parts⟩ isFlags
    obtain ⟨space', others, allSpace', allFlags', rfl, -⟩ := isFlags.exists_pieces
    rw [← List.append_assoc] at parts
    -- Its pieces are the last ones here, so only the white space before them is left to compare.
    obtain ⟨more, rfl⟩ := flagPieces.whole _ _ parts allFlags'
    have same : kept ++ (space ++ marked more) = before ++ space' := by
      have whole := flagPieces.parts.trans parts.symm
      simp only [marked, List.flatMap_append, ← List.append_assoc] at whole ⊢
      exact List.append_cancel_right whole
    have shorter : space'.length ≤ (space ++ marked more).length := by
      rcases List.append_eq_append_iff.1 same with ⟨between, -, tail⟩ | ⟨between, kept', tail⟩
      · rw [tail, List.length_append]
        exact Nat.le_add_left _ _
      · -- What is kept does not end with white space, so it has no part in it.
        cases last : between.getLast? with
        | none => rw [tail, List.getLast?_eq_none_iff.1 last, List.nil_append]
        | some c =>
          have solid : isSpace c = false := ends c (by rw [kept', List.getLast?_append, last]; rfl)
          have inside : c ∈ space' := by
            rw [tail]
            exact List.mem_append_left _ (List.mem_of_getLast? last)
          exact absurd inside (not_mem_of_forall solid allSpace')
    simp only [marked, List.flatMap_append, List.length_append] at shorter ⊢
    omega

theorem exists_longestFlags (assigned : List Char) :
    ∃ kept suffix flags, LongestFlags assigned kept suffix flags ∧
      splitFlags assigned = (trim kept, flags) := by
  obtain ⟨front, pieces, flagPieces, value⟩ := exists_flagPieces assigned
  obtain ⟨space, parts, allSpace⟩ := exists_dropEndWhile_append isSpace front
  have trimmed := trim_append allSpace (dropEndWhile isSpace front)
  rw [parts] at trimmed
  rw [← parts] at flagPieces
  refine ⟨_, _, _, flagPieces.longestFlags allSpace fun c => getLast?_dropEndWhile, ?_⟩
  rw [value, trimmed]

/-- The longest end of flags decides about the value and the flags of the variable. -/
theorem splitFlags_eq {assigned kept suffix : List Char} {flags : List (List Char)}
    (longest : LongestFlags assigned kept suffix flags) :
    splitFlags assigned = (trim kept, flags) := by
  obtain ⟨kept', suffix', flags', found, value⟩ := exists_longestFlags assigned
  obtain ⟨rfl, rfl⟩ := longest.unique found
  exact value

/-! ## Declarations of variables -/

/-- What is declared behind a dollar sign and a name, by what follows the name: nothing when this is
a second name, and else a variable when something is assigned. The variable has the value before the
longest end of flags, and it is global when one of these flags says so. -/
inductive VariableReading (name rest : List Char) (start : Option Nat) : Declaration → Prop where
  | secondName {space other : List Char} (second : SecondName rest space other) :
      VariableReading name rest start .unknown
  | assigned {before assigned kept suffix : List Char} {flags : List (List Char)} {scope : Scope}
      (noSecond : ¬ ∃ space other, SecondName rest space other)
      (assignment : Assignment rest before assigned)
      (longest : LongestFlags assigned kept suffix flags)
      (isGlobal : scope = .globally ↔ "global".toList ∈ flags) :
      VariableReading name rest start
        (.var (String.ofList name) (String.ofList (trim kept)) scope
          (lineRange start (Text.lineFeeds (before ++ ':' :: assigned))))
  | unassigned (noSecond : ¬ ∃ space other, SecondName rest space other)
      (nothing : ¬ ∃ before assigned, Assignment rest before assigned) :
      VariableReading name rest start .unknown

theorem scopeOfFlags_eq_iff {flags : List (List Char)} {scope : Scope} :
    scopeOfFlags flags = scope ↔ (scope = .globally ↔ "global".toList ∈ flags) := by
  unfold scopeOfFlags
  generalize "global".toList = word
  cases scope <;> by_cases member : word ∈ flags <;> simp [member]

section Dollar

variable {text name rest : List Char} (leading : LeadingRun isNameChar text name rest)
  (named : name ≠ []) (start : Option Nat)
include leading named

theorem ofText_assigned {before assigned kept suffix : List Char} {flags : List (List Char)}
    (tail : Tail.ofText rest = .assignment before assigned)
    (longest : LongestFlags assigned kept suffix flags) :
    ofText ('$' :: text) start =
      .var (String.ofList name) (String.ofList (trim kept)) (scopeOfFlags flags)
        (lineRange start (Text.lineFeeds (before ++ ':' :: assigned))) := by
  have header : Header.ofText? ('$' :: text) = some ⟨.dollar, name, Tail.ofText rest⟩ :=
    Header.ofText?_of_leadingRun leading named .dollar
  have feeds : Header.lineFeeds ⟨.dollar, name, .assignment before assigned⟩ =
      Text.lineFeeds (before ++ ':' :: assigned) := by
    simp [Header.lineFeeds, Tail.text, lineFeeds_append, lineFeeds_cons]
  unfold ofText
  rw [header, tail]
  dsimp only
  rw [splitFlags_eq longest, feeds]

theorem ofText_unassigned
    (tail : ∀ before assigned, Tail.ofText rest ≠ .assignment before assigned) :
    ofText ('$' :: text) start = .unknown := by
  have header : Header.ofText? ('$' :: text) = some ⟨.dollar, name, Tail.ofText rest⟩ :=
    Header.ofText?_of_leadingRun leading named .dollar
  unfold ofText
  rw [header]
  cases taken : Tail.ofText rest with
  | second space other => rfl
  | assignment before assigned => exact absurd taken (tail before assigned)
  | nothing => rfl

theorem VariableReading.ofText_eq {declaration : Declaration}
    (reading : VariableReading name rest start declaration) :
    ofText ('$' :: text) start = declaration := by
  cases reading with
  | secondName second =>
    refine ofText_unassigned leading named start fun before assigned taken => ?_
    cases (Tail.ofText_eq_second_iff.2 second).symm.trans taken
  | assigned noSecond assignment longest isGlobal =>
    have tail := (Tail.ofText_of_no_second noSecond).1 _ _ assignment
    rw [ofText_assigned leading named start tail longest, scopeOfFlags_eq_iff.2 isGlobal]
  | unassigned noSecond nothing =>
    refine ofText_unassigned leading named start fun before assigned taken => ?_
    cases ((Tail.ofText_of_no_second noSecond).2 nothing).symm.trans taken

theorem variableReading_ofText :
    VariableReading name rest start (ofText ('$' :: text) start) := by
  by_cases second : ∃ space other, SecondName rest space other
  · obtain ⟨space, other, second⟩ := second
    have reading : VariableReading name rest start .unknown := .secondName second
    rwa [reading.ofText_eq leading named]
  · by_cases assignment : ∃ before assigned, Assignment rest before assigned
    · obtain ⟨before, assigned, assignment⟩ := assignment
      obtain ⟨kept, suffix, flags, longest, -⟩ := exists_longestFlags assigned
      have reading : VariableReading name rest start (.var _ _ (scopeOfFlags flags) _) :=
        .assigned second assignment longest (scopeOfFlags_eq_iff.1 rfl)
      rwa [reading.ofText_eq leading named]
    · have reading : VariableReading name rest start .unknown := .unassigned second assignment
      rwa [reading.ofText_eq leading named]

end Dollar

/-- The code behind the name of a variable says what is declared, and nothing else is. -/
theorem read_eq_iff_variableReading {code text name rest : List Char}
    (begins : trimStart code = '$' :: text) (leading : LeadingRun isNameChar text name rest)
    (named : name ≠ []) (line : Option Nat) (declaration : Declaration) :
    read code line = declaration ↔
      VariableReading name rest (line.map (· + Text.lineFeeds (code.takeWhile isSpace)))
        declaration := by
  unfold read
  rw [begins]
  constructor
  · rintro rfl
    exact variableReading_ofText leading named _
  · exact fun reading => reading.ofText_eq leading named _

/-- An exclamation mark in the value, and two flags behind it on lines of their own. -/
theorem read_eq_iff_variableReading_flags :
    trimStart "\n$w-x : a !(b)\n!default !global\t;c;".toList =
        '$' :: "w-x : a !(b)\n!default !global\t;c;".toList ∧
      LeadingRun isNameChar "w-x : a !(b)\n!default !global\t;c;".toList "w-x".toList
        " : a !(b)\n!default !global\t;c;".toList ∧
      "w-x".toList ≠ [] ∧
      VariableReading "w-x".toList " : a !(b)\n!default !global\t;c;".toList (some 2)
        (.var "w-x" "a !(b)" .globally (some ⟨2, 3⟩)) := by
  have begins : trimStart "\n$w-x : a !(b)\n!default !global\t;c;".toList =
      '$' :: "w-x : a !(b)\n!default !global\t;c;".toList := by decide
  have leading : LeadingRun isNameChar "w-x : a !(b)\n!default !global\t;c;".toList "w-x".toList
      " : a !(b)\n!default !global\t;c;".toList := leadingRun isNameChar _
  have named : "w-x".toList ≠ [] := by decide
  have read : read "\n$w-x : a !(b)\n!default !global\t;c;".toList (some 1) =
      .var "w-x" "a !(b)" .globally (some ⟨2, 3⟩) := by decide +kernel
  exact ⟨begins, leading, named, (read_eq_iff_variableReading begins leading named _ _).1 read⟩

end StyleDoc.Declaration
