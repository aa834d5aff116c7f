import Mathlib.Tactic.SplitIfs
import StyleDoc.Declaration.Reader
import StyleDoc.Proofs.Offsets

/-!
# The parts of a declaration

What the reader of a declaration takes stands in the code: the header at its beginning, and the body
behind the first brace with a brace behind it. The line on which the code begins has an influence on
the line numbers of the declaration, and on nothing else. Lines that are counted on from there are
those that are looked up for the offsets of the declaration in its source.
-/

namespace StyleDoc

open Text

/-! ## Bodies -/

namespace Block

/-- The number of blocks that are open behind one more character. There is none when the character
closes the block around the text. -/
def Mode.inner? (mode : Mode) (inner : Nat) (c : Char) : Option Nat :=
  if mode.isCode ∧ c = '}' then if inner = 0 then none else some (inner - 1)
  else if mode.isCode ∧ c = '{' then some (inner + 1)
  else some inner

section Step

variable {mode : Mode} {inner next : Nat} {c : Char}

theorem Mode.eq_of_inner?_eq_none (closes : mode.inner? inner c = none) : c = '}' := by
  unfold Mode.inner? at closes
  split_ifs at closes with brace
  exact brace.2

theorem bodyFrom?_of_closes (closes : mode.inner? inner c = none) (rest : List Char) :
    bodyFrom? mode inner (c :: rest) = some ([], rest) := by
  unfold Mode.inner? at closes
  split_ifs at closes with brace outermost
  subst outermost
  simp [bodyFrom?, brace]

theorem bodyFrom?_of_goesOn (goesOn : mode.inner? inner c = some next) (rest : List Char) :
    bodyFrom? mode inner (c :: rest) =
      (bodyFrom? (mode.step c) next rest).map fun found => (c :: found.1, found.2) := by
  unfold Mode.inner? at goesOn
  split_ifs at goesOn with brace outermost opens
  · obtain ⟨inner, rfl⟩ := Nat.exists_eq_succ_of_ne_zero outermost
    cases goesOn
    simp [bodyFrom?, brace]
  · cases goesOn
    simp [bodyFrom?, opens]
  · cases goesOn
    simp [bodyFrom?, brace, opens]

theorem bodyFrom?_cons (opens : c ≠ '{') (closes : c ≠ '}') (mode : Mode) (inner : Nat)
    (rest : List Char) :
    bodyFrom? mode inner (c :: rest) =
      (bodyFrom? (mode.step c) inner rest).map fun found => (c :: found.1, found.2) :=
  bodyFrom?_of_goesOn (by simp [Mode.inner?, opens, closes]) rest

end Step

theorem bodyFrom?_eq {mode : Mode} {inner : Nat} {text body behind : List Char}
    (found : bodyFrom? mode inner text = some (body, behind)) : body ++ '}' :: behind = text := by
  induction text generalizing mode inner body with
  | nil => cases found
  | cons c rest inductionHypothesis =>
    cases open? : mode.inner? inner c with
    | none =>
      rw [bodyFrom?_of_closes open?] at found
      cases found
      rw [Mode.eq_of_inner?_eq_none open?, List.nil_append]
    | some next =>
      rw [bodyFrom?_of_goesOn open?] at found
      obtain ⟨⟨later, behind'⟩, inside, same⟩ := Option.map_eq_some_iff.1 found
      cases same
      rw [List.cons_append, inductionHypothesis inside]

theorem first?_eq {text before body : List Char} (found : first? text = some (before, body)) :
    '{' ∉ before ∧ ∃ behind, before ++ '{' :: body ++ '}' :: behind = text ∧
      bodyFrom? (.code '{') 0 (body ++ '}' :: behind) = some (body, behind) := by
  unfold first? at found
  split at found
  case h_1 => cases found
  case h_2 before' inside cut =>
    obtain ⟨body', read, same⟩ := Option.map_eq_some_iff.1 found
    obtain ⟨⟨body'', behind⟩, closed, rfl⟩ := Option.map_eq_some_iff.1 read
    cases same
    have parts := bodyFrom?_eq closed
    refine ⟨(cut?_eq cut).2, behind, ?_, by rw [parts, closed]⟩
    rw [List.append_assoc, List.cons_append, parts]
    exact (cut?_eq cut).1

end Block

namespace Declaration

/-! ## Headers -/

/-- What stands between the first colon of the text and the first semicolon behind it. -/
structure Assignment (text before assigned : List Char) : Prop where
  colon : ':' ∉ before
  semicolon : ';' ∉ assigned
  parts : ∃ behind, before ++ ':' :: assigned ++ ';' :: behind = text

theorem assignment?_eq_some_iff {text before assigned : List Char} :
    assignment? text = some (before, assigned) ↔ Assignment text before assigned := by
  constructor
  · intro found
    unfold assignment? at found
    split at found
    case h_1 => cases found
    case h_2 before' behind colon =>
      obtain ⟨⟨assigned', rest⟩, semicolon, same⟩ := Option.map_eq_some_iff.1 found
      cases same
      refine ⟨(cut?_eq colon).2, (cut?_eq semicolon).2, rest, ?_⟩
      rw [← (cut?_eq colon).1, ← (cut?_eq semicolon).1, List.append_assoc, List.cons_append]
  · rintro ⟨colon, semicolon, behind, rfl⟩
    unfold assignment?
    rw [List.append_assoc, List.cons_append, cut?_append_cons colon]
    dsimp only
    rw [cut?_append_cons semicolon]
    rfl

theorem Tail.prefix_of_ofText (text : List Char) : (Tail.ofText text).text <+: text := by
  unfold Tail.ofText
  dsimp only
  split
  case isTrue =>
    have parts : text.takeWhile isSpace ++ text.dropWhile isSpace = text :=
      List.takeWhile_append_dropWhile
    refine ⟨(spanName (text.dropWhile isSpace)).2, ?_⟩
    conv => rhs; rw [← parts, ← List.takeWhile_append_dropWhile (p := isNameChar)
      (l := text.dropWhile isSpace)]
    rw [Tail.text, List.append_assoc]
    rfl
  case isFalse =>
    split
    case h_1 before assigned found =>
      obtain ⟨rest, parts⟩ := (assignment?_eq_some_iff.1 found).parts
      exact ⟨rest, by rw [← parts]; simp [Tail.text]⟩
    case h_2 => exact List.nil_prefix

theorem not_mem_spanName (text : List Char) : '\n' ∉ (spanName text).1 :=
  not_mem_takeWhile (by decide) text

theorem Tail.of_ofText_eq_second {text space name : List Char}
    (found : Tail.ofText text = .second space name) : name ≠ [] ∧ '\n' ∉ name := by
  unfold Tail.ofText at found
  dsimp only at found
  split at found
  case isTrue both =>
    cases found
    exact ⟨both.2, not_mem_spanName _⟩
  case isFalse => split at found <;> cases found

/-- The character that a declaration of this sigil begins with. -/
theorem Sigil.char_of_ofChar? {c : Char} {sigil : Sigil} (found : Sigil.ofChar? c = some sigil) :
    sigil.char = c := by
  unfold Sigil.ofChar? at found
  split at found <;> cases found <;> rfl

theorem Header.ofText?_cons (c : Char) (rest : List Char) :
    Header.ofText? (c :: rest) = (Sigil.ofChar? c).bind fun sigil =>
      if (spanName rest).1 = [] then none
      else some ⟨sigil, (spanName rest).1, Tail.ofText (spanName rest).2⟩ := by
  unfold Header.ofText?
  dsimp only
  cases Sigil.ofChar? c <;> rfl

/-- What is known of a header that has been found. -/
theorem Header.ofText?_eq_some {text : List Char} {header : Header}
    (found : Header.ofText? text = some header) :
    ∃ rest, text = header.sigil.char :: rest ∧ header.name = (spanName rest).1 ∧
      header.name ≠ [] ∧ header.tail = Tail.ofText (spanName rest).2 := by
  cases text with
  | nil => cases found
  | cons c rest =>
    rw [Header.ofText?_cons] at found
    obtain ⟨sigil, begun, named⟩ := Option.bind_eq_some_iff.1 found
    split at named
    case isTrue => cases named
    case isFalse nonempty =>
      cases named
      exact ⟨rest, by rw [Sigil.char_of_ofChar? begun], rfl, nonempty, rfl⟩

theorem Header.text_prefix {text : List Char} {header : Header}
    (found : Header.ofText? text = some header) : header.text <+: text := by
  obtain ⟨rest, rfl, named, _, tail⟩ := Header.ofText?_eq_some found
  have parts : (spanName rest).1 ++ (spanName rest).2 = rest := List.takeWhile_append_dropWhile
  obtain ⟨more, behind⟩ := Tail.prefix_of_ofText (spanName rest).2
  refine ⟨more, ?_⟩
  rw [Header.text, named, tail, List.append_assoc, List.cons_append, behind, parts]

theorem Header.not_mem_name {text : List Char} {header : Header}
    (found : Header.ofText? text = some header) : '\n' ∉ header.name := by
  obtain ⟨rest, _, named, _⟩ := Header.ofText?_eq_some found
  rw [named]
  exact not_mem_spanName rest

/-- A header never ends with a line feed. -/
theorem Header.exists_text_eq_concat {text : List Char} {header : Header}
    (found : Header.ofText? text = some header) :
    ∃ inside last, header.text = inside ++ [last] ∧ Text.lineFeeds inside = header.lineFeeds := by
  have nameWhole := Header.not_mem_name found
  obtain ⟨_, _, _, nonempty, tail⟩ := Header.ofText?_eq_some found
  obtain ⟨sigil, name, taken⟩ := header
  dsimp only at nameWhole nonempty tail
  have begins : ∀ rest, Text.lineFeeds (sigil.char :: name ++ rest) = Text.lineFeeds rest := by
    intro rest
    rw [lineFeeds_append, lineFeeds_cons (by cases sigil <;> decide),
      lineFeeds_of_not_mem nameWhole, Nat.zero_add]
  -- The last character is that of the second name, the semicolon, or that of the only name.
  cases taken with
  | second space other =>
    obtain ⟨otherNonempty, otherWhole⟩ := Tail.of_ofText_eq_second tail.symm
    obtain ⟨inside, last, parts, feeds⟩ :=
      exists_concat_of_not_mem (sigil.char :: name ++ space) otherNonempty otherWhole
    refine ⟨inside, last, by simp [← parts, Header.text, Tail.text], ?_⟩
    rw [feeds, begins, Header.lineFeeds, Tail.text, lineFeeds_append,
      lineFeeds_of_not_mem otherWhole, Nat.add_zero]
  | assignment before assigned =>
    refine ⟨sigil.char :: name ++ (before ++ ':' :: assigned), ';', ?_, ?_⟩
    · simp [Header.text, Tail.text]
    · have semicolon : Text.lineFeeds [';'] = 0 := rfl
      rw [begins, Header.lineFeeds, Tail.text, lineFeeds_append _ [';'], semicolon, Nat.add_zero]
  | nothing =>
    obtain ⟨inside, last, parts, feeds⟩ :=
      exists_concat_of_not_mem [sigil.char] nonempty nameWhole
    refine ⟨inside, last, by simpa [Header.text, Tail.text] using parts, ?_⟩
    rw [feeds, lineFeeds_cons (by cases sigil <;> decide)]
    rfl

/-! ## What a declaration can be -/

/-- The word behind the at sign that declares a block. -/
inductive Keyword : BlockForm → List Char → Prop where
  | function : Keyword .function "function".toList
  | mixin : Keyword .mixin "mixin".toList

theorem Keyword.ne_nil {form : BlockForm} {word : List Char} (keyword : Keyword form word) :
    word ≠ [] := by
  cases keyword <;> decide

/-- What makes a header that of a block, and the name of the block. -/
inductive Header.Opens : Header → BlockForm → List Char → Prop where
  | callable {form : BlockForm} {word space name : List Char} (keyword : Keyword form word) :
      Opens ⟨.atSign, word, .second space name⟩ form name
  | placeholder {name : List Char} {tail : Tail} :
      Opens ⟨.percent, name, tail⟩ .placeholder name

theorem ofText_of_opens {text name : List Char} {header : Header} {form : BlockForm}
    (found : Header.ofText? text = some header) (opens : header.Opens form name)
    (start : Option Nat) : ofText text start = blockOf form name header text start := by
  unfold ofText
  rw [found]
  cases opens with
  | callable keyword =>
    have different : "mixin".toList ≠ "function".toList := by decide
    cases keyword with
    | function => exact if_pos rfl
    | mixin => exact (if_neg different).trans (if_pos rfl)
  | placeholder => rfl

/-- A declaration that is known begins with a header. It is the block that the header opens, or it
is a variable on the lines of its header, on whatever line the text begins. -/
theorem ofText_cases (text : List Char) :
    (∀ start, ofText text start = unknown) ∨ ∃ header, Header.ofText? text = some header ∧
      ((∃ form name, header.Opens form name ∧
          ∀ start, ofText text start = blockOf form name header text start) ∨
        header.sigil = .dollar ∧ ∃ name value scope, ∀ start,
          ofText text start = var name value scope (lineRange start header.lineFeeds)) := by
  cases found : Header.ofText? text with
  | none => exact .inl fun start => by rw [ofText, found]
  | some header =>
    have block : ∀ {form name}, header.Opens form name → ∃ form name, header.Opens form name ∧
        ∀ start, ofText text start = blockOf form name header text start :=
      fun opens => ⟨_, _, opens, ofText_of_opens found opens⟩
    obtain ⟨sigil, word, tail⟩ := header
    cases sigil with
    | atSign =>
      cases tail with
      | second space name =>
        by_cases isFunction : word = "function".toList
        · subst isFunction
          exact .inr ⟨_, rfl, .inl (block (.callable .function))⟩
        · by_cases isMixin : word = "mixin".toList
          · subst isMixin
            exact .inr ⟨_, rfl, .inl (block (.callable .mixin))⟩
          · refine .inl fun start => ?_
            rw [ofText, found]
            exact (if_neg isFunction).trans (if_neg isMixin)
      | assignment before assigned => exact .inl fun start => by rw [ofText, found]
      | nothing => exact .inl fun start => by rw [ofText, found]
    | percent => exact .inr ⟨_, rfl, .inl (block .placeholder)⟩
    | dollar =>
      cases tail with
      | assignment before assigned =>
        exact .inr ⟨_, rfl, .inr ⟨rfl, _, _, _, fun start => by rw [ofText, found]⟩⟩
      | second space name => exact .inl fun start => by rw [ofText, found]
      | nothing => exact .inl fun start => by rw [ofText, found]

/-! ## Lines -/

/-- The line on which the text begins is used for the lines of the declaration only. -/
theorem mapLines_ofText {change : Option LineRange → Option LineRange} {start other : Option Nat}
    (changes : ∀ feeds, change (lineRange start feeds) = lineRange other feeds) (text : List Char) :
    (ofText text start).mapLines change = ofText text other := by
  rcases ofText_cases text with none | ⟨header, _, isBlock | isVar⟩
  · rw [none, none]
    rfl
  · obtain ⟨form, name, _, same⟩ := isBlock
    rw [same, same]
    unfold blockOf
    cases Block.first? text <;> simp [mapLines, changes]
  · obtain ⟨_, name, value, scope, same⟩ := isVar
    rw [same, same, mapLines, changes]

/-- White space in front of the code moves the declaration to a later line. -/
theorem read_append {space : List Char} (allSpace : ∀ c ∈ space, isSpace c = true)
    (code : List Char) (line : Option Nat) :
    read (space ++ code) line = read code (line.map (· + Text.lineFeeds space)) := by
  unfold read trimStart
  rw [List.takeWhile_append_of_pos allSpace, List.dropWhile_append_of_pos allSpace]
  simp only [lineFeeds_append, Option.map_map, Function.comp_def, Nat.add_assoc]

/-! ## The last character of a declaration -/

/-- What stands in the code before the character with which the declaration ends. This is the brace
that closes the body, or the last character of the header when no block follows; a variable always
ends with its header. -/
inductive Inside (code : List Char) : Declaration → List Char → Prop where
  | body {form name lines} {before body behind : List Char} (firstBrace : '{' ∉ before)
      (parts : before ++ '{' :: body ++ '}' :: behind = code) :
      Inside code (.block form name (String.ofList body) lines) (before ++ '{' :: body)
  | header {form name lines} {header : Header} {inside : List Char} {last : Char}
      (found : Header.ofText? code = some header) (noBlock : Block.first? code = none)
      (parts : header.text = inside ++ [last]) :
      Inside code (.block form name "" lines) inside
  | var {name value scope lines} {header : Header} {inside : List Char} {last : Char}
      (found : Header.ofText? code = some header) (parts : header.text = inside ++ [last]) :
      Inside code (.var name value scope lines) inside

theorem Inside.exists_eq {code inside : List Char} {declaration : Declaration}
    (ends : Inside code declaration inside) : ∃ last rest, inside ++ last :: rest = code := by
  cases ends with
  | body _ parts => exact ⟨_, _, parts⟩
  | header found _ parts =>
    obtain ⟨rest, whole⟩ := Header.text_prefix found
    exact ⟨_, rest, by rw [← whole, parts, List.append_assoc, List.singleton_append]⟩
  | var found parts =>
    obtain ⟨rest, whole⟩ := Header.text_prefix found
    exact ⟨_, rest, by rw [← whole, parts, List.append_assoc, List.singleton_append]⟩

/-- The lines of a declaration go from the line of the text to the line of its last character. -/
theorem exists_inside {text : List Char} {line : Nat}
    (declared : ofText text (some line) ≠ unknown) :
    ∃ inside, Inside text (ofText text (some line)) inside ∧
      (ofText text (some line)).lines? = some ⟨line, line + Text.lineFeeds inside⟩ := by
  rcases ofText_cases text with none | ⟨header, found, isBlock | isVar⟩
  · exact absurd (none _) declared
  · obtain ⟨form, name, _, same⟩ := isBlock
    rw [same]
    unfold blockOf
    cases first : Block.first? text with
    | some block =>
      obtain ⟨before, body⟩ := block
      obtain ⟨firstBrace, behind, parts, _⟩ := Block.first?_eq first
      refine ⟨before ++ '{' :: body, .body firstBrace parts, ?_⟩
      simp [lines?, lineRange, lineFeeds_cons]
    | none =>
      obtain ⟨inside, last, parts, feeds⟩ := Header.exists_text_eq_concat found
      exact ⟨inside, .header found first parts, by rw [feeds]; rfl⟩
  · obtain ⟨_, name, value, scope, same⟩ := isVar
    obtain ⟨inside, last, parts, feeds⟩ := Header.exists_text_eq_concat found
    rw [same]
    exact ⟨inside, .var found parts, by rw [feeds]; rfl⟩

/-! ## Looking lines up -/

/-- The last byte of a header is on the line of its last character. -/
theorem Header.lineAt_text {text : List Char} {header : Header}
    (found : Header.ofText? text = some header) (front : List Char) :
    lineAt (front ++ text) (byteLength front + (byteLength header.text - 1)) =
      lineCount front + header.lineFeeds := by
  obtain ⟨inside, last, parts, feeds⟩ := Header.exists_text_eq_concat found
  obtain ⟨rest, begun⟩ := Header.text_prefix found
  have size : byteLength header.text - 1 = byteLength inside + (last.utf8Size - 1) := by
    rw [parts, byteLength_append, ← Nat.add_sub_assoc last.utf8Size_pos]
    rfl
  have within : last.utf8Size - 1 < last.utf8Size := Nat.sub_lt last.utf8Size_pos Nat.one_pos
  rw [size, ← begun, parts, List.append_assoc, ← List.append_assoc, ← Nat.add_assoc,
    ← byteLength_append, List.singleton_append, lineAt_byteLength_add _ _ within, lineCount,
    lineFeeds_append, feeds, ← Nat.add_assoc]
  rfl

theorem lineAt_first? {text before body : List Char}
    (found : Block.first? text = some (before, body)) (front : List Char) :
    lineAt (front ++ text) (byteLength front + (byteLength before + 1 + byteLength body)) =
      lineCount front + (Text.lineFeeds before + Text.lineFeeds body) := by
  obtain ⟨_, behind, parts, _⟩ := Block.first?_eq found
  have size : byteLength before + 1 + byteLength body = byteLength (before ++ '{' :: body) := by
    rw [byteLength_append, Nat.add_assoc]
    rfl
  have feeds : Text.lineFeeds (before ++ '{' :: body) =
      Text.lineFeeds before + Text.lineFeeds body := by
    rw [lineFeeds_append, lineFeeds_cons (by decide)]
  rw [size, ← parts, ← List.append_assoc, ← byteLength_append, lineAt_byteLength, lineCount,
    lineFeeds_append, feeds, ← Nat.add_assoc]
  rfl

/-- The line of the last byte is the last one of the declaration. -/
theorem mapLines_lineAt (front text : List Char) :
    ((ofText text none).mapLines fun _ => (Header.ofText? text).map fun header =>
      ⟨lineCount front, lineAt (front ++ text) (byteLength front + lastByte header text)⟩) =
        ofText text (some (lineCount front)) := by
  rcases ofText_cases text with none | ⟨header, found, ⟨form, name, opens, same⟩ | isVar⟩
  · rw [none, none]
    rfl
  · have noVariable : header.sigil ≠ .dollar := by cases opens <;> exact Sigil.noConfusion
    rw [same, same, found, Option.map_some, lastByte, if_neg noVariable]
    unfold blockOf
    cases first : Block.first? text with
    | some block =>
      obtain ⟨before, body⟩ := block
      dsimp only
      rw [lineAt_first? first]
      rfl
    | none =>
      dsimp only
      rw [Header.lineAt_text found]
      rfl
  · obtain ⟨isVariable, name, value, scope, same⟩ := isVar
    rw [same, same, found, Option.map_some, lastByte, if_pos isVariable]
    dsimp only
    rw [Header.lineAt_text found]
    rfl

/-- Lines that are looked up in the whole source are the ones that are counted from the code on. -/
theorem readIn_lineAt (front code : List Char) :
    readIn (fun offset => lineAt (front ++ code) (byteLength front + offset)) code =
      read code (some (lineCount front)) := by
  have parts : front ++ code.takeWhile isSpace ++ trimStart code = front ++ code := by
    rw [List.append_assoc, trimStart, List.takeWhile_append_dropWhile]
  have looked := mapLines_lineAt (front ++ code.takeWhile isSpace) (trimStart code)
  have first := lineAt_byteLength (front ++ code.takeWhile isSpace) (trimStart code)
  rw [parts, byteLength_append] at looked first
  unfold readIn
  dsimp only
  rw [first]
  simp only [← Nat.add_assoc]
  rw [looked, read, lineCount, lineFeeds_append]
  simp only [lineCount, Option.map_some, Nat.add_assoc]

end Declaration

end StyleDoc
