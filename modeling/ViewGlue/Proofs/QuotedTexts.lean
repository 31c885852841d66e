import ViewGlue.Manifest.Lowering

/-!
# Quoted texts in manifests

A quoted text has its place in a manifest, with the same quotes at both ends. The quotes in front of
it are those that are found by looking at the characters alone (`Quoted.StandsIn.valueStart_eq`).
The tokens of a manifest cover its characters one after another, so each quoted token has such a
place (`isReadFrom_of_tokens?`).
-/

namespace ViewGlue.Manifest

open Text (Rest)
open TypeExpr (byteLength)

/-! ## Characters and bytes -/

/-- The bytes of characters one after another add up. -/
theorem byteLength_append (s t : List Char) :
    byteLength (s ++ t) = byteLength s + byteLength t := by
  induction s with
  | nil => simp [byteLength]
  | cons c s ih => simp [byteLength, ih, Nat.add_assoc]

/-- Behind the bytes of some characters stand the characters behind them. -/
theorem fromByte_append (before behind : List Char) :
    fromByte (byteLength before) (before ++ behind) = behind := by
  induction before with
  | nil => simp [byteLength, fromByte]
  | cons c before ih =>
    have positive := c.utf8Size_pos
    obtain ⟨last, size⟩ : ∃ last, byteLength (c :: before) = last + 1 :=
      ⟨byteLength (c :: before) - 1, by rw [byteLength]; omega⟩
    have fits : c.utf8Size ≤ last + 1 := by
      rw [← size, byteLength]
      omega
    have left : last + 1 - c.utf8Size = byteLength before := by
      rw [← size, byteLength]
      omega
    rw [size, List.cons_append, fromByte, if_pos fits, left, ih]

/-! ## Quotes -/

/-- Characters that start with three quotes start with no shorter ones. -/
theorem openingLength_three {quote : Char} (isQuote : quote = '"' ∨ quote = '\'')
    (rest : List Char) : openingLength (quote :: quote :: quote :: rest) = 3 := by
  rcases isQuote with rfl | rfl
  · rfl
  · rfl

/-- Characters that start with a quote and not with three start with one. -/
theorem openingLength_one {quote : Char} (isQuote : quote = '"' ∨ quote = '\'') {rest : List Char}
    (other : ¬ [quote, quote] <+: rest) : openingLength (quote :: rest) = 1 := by
  have three : ([quote, quote, quote].isPrefixOf (quote :: rest)) = false := by
    rw [Bool.eq_false_iff, Ne, List.isPrefixOf_iff_prefix, List.cons_prefix_cons]
    exact fun all => other all.2
  rcases isQuote with rfl | rfl
  · have found : openings.find? (·.isPrefixOf ('"' :: rest)) = some ['"'] := by
      simp [openings, three]
    rw [openingLength, found]
    rfl
  · have found : openings.find? (·.isPrefixOf ('\'' :: rest)) = some ['\''] := by
      simp [openings, three]
    rw [openingLength, found]
    rfl

/-- Of the quotes that characters start with, the longest ones are found. -/
theorem openingLength_append {opening behind : List Char} (opens : opening ∈ openings)
    (longest : opening.length = 1 → ¬ opening ++ opening ++ opening <+: opening ++ behind) :
    openingLength (opening ++ behind) = byteLength opening := by
  have one {quote : Char} (isQuote : quote = '"' ∨ quote = '\'')
      (single : ¬ [quote, quote, quote] <+: quote :: behind) :
      openingLength (quote :: behind) = 1 :=
    openingLength_one isQuote fun more =>
      single (List.cons_prefix_cons.2 ⟨rfl, more⟩)
  simp only [openings, List.mem_cons, List.not_mem_nil, or_false] at opens
  rcases opens with rfl | rfl | rfl | rfl
  · exact openingLength_three (.inl rfl) behind
  · exact openingLength_three (.inr rfl) behind
  · exact one (.inl rfl) (longest rfl)
  · exact one (.inr rfl) (longest rfl)

/-- A quoted text has its place among characters: what stands before it takes the bytes up to its
start, and it takes those of the same quotes at both ends and of what is between them. -/
structure Quoted.StandsIn (s : List Char) (written : Quoted)
    (before opening inside behind : List Char) : Prop where
  /-- Its quotes with the inside between them stand behind what is before. -/
  whole : s = before ++ (opening ++ inside ++ opening ++ behind)
  /-- The quotes are one or three of either kind. -/
  opens : opening ∈ openings
  /-- Three quotes in a row are never one quote with something behind it. -/
  longest : opening.length = 1 →
    ¬ opening ++ opening ++ opening <+: opening ++ inside ++ opening ++ behind
  /-- It starts where its first quote does. -/
  start : written.start = byteLength before
  /-- It ends behind its last quote. -/
  length : written.length = byteLength (opening ++ inside ++ opening)

/-- Where a value starts, its characters say how many quotes open it. -/
theorem Quoted.StandsIn.valueStart_eq {text : String} {written : Quoted}
    {before opening inside behind : List Char}
    (stands : written.StandsIn text.toList before opening inside behind) :
    valueStart text written.start = byteLength (before ++ opening) := by
  have found : openingLength (opening ++ inside ++ opening ++ behind) = byteLength opening := by
    have first : opening ++ inside ++ opening ++ behind =
        opening ++ (inside ++ (opening ++ behind)) := by
      simp only [List.append_assoc]
    rw [first]
    exact openingLength_append stands.opens (first ▸ stands.longest)
  rw [valueStart, stands.whole, stands.start, fromByte_append, found, byteLength_append]

/-! ## Quoted texts that are read -/

/-- Characters start with a quoted text: between the same quotes stands what says the value. -/
structure StartsQuoted (s opening inside behind : List Char) (value : String) : Prop where
  /-- The quotes with the inside between them stand in front. -/
  whole : s = opening ++ inside ++ opening ++ behind
  /-- The quotes are one or three of either kind. -/
  opens : opening ∈ openings
  /-- One quote is not the first of three. -/
  longest : opening.length = 1 → ¬ opening ++ opening ++ opening <+: s
  /-- The inside is decoded to the value, as the quotes demand. -/
  decoded : quotedValue (opening.head? == some '"') (opening.length == 3) inside = some value

variable {quote : Char} {escapes : Bool} {s inside : List Char}

/-- Behind the inside of a text stands the closing quote. -/
theorem insideQuotes_eq_some {rest : Rest s}
    (read : insideQuotes quote escapes s = some (inside, rest)) :
    s = inside ++ quote :: rest.left := by
  fun_induction insideQuotes quote escapes s generalizing inside with
  | case1 => cases read
  | case2 => cases read; rfl
  | case3 => cases read
  | case4 => cases read; rfl
  | case5 c d rest _ _ inner left escaped ih =>
    cases read
    exact congrArg (c :: d :: ·) (ih escaped)
  | case6 => cases read
  | case7 c d rest _ _ inner left later ih =>
    cases read
    exact congrArg (c :: ·) (ih later)
  | case8 => cases read

/-- Behind the inside of a text of several lines stand three closing quotes. -/
theorem insideThreeQuotes_eq_some {rest : Rest s}
    (read : insideThreeQuotes quote escapes s = some (inside, rest)) :
    s = inside ++ quote :: quote :: quote :: rest.left := by
  fun_induction insideThreeQuotes quote escapes s generalizing inside with
  | case1 a b c closes d e left more =>
    obtain ⟨rfl, rfl, rfl⟩ := closes
    obtain ⟨rfl, rfl⟩ := more
    cases read
    rfl
  | case2 a b c closes e left other =>
    obtain ⟨rfl, rfl, rfl⟩ := closes
    cases read
    rfl
  | case3 a b c closes d e left =>
    obtain ⟨rfl, rfl, rfl⟩ := closes
    cases read
    rfl
  | case4 a b c closes =>
    obtain ⟨rfl, rfl, rfl⟩ := closes
    cases read
    rfl
  | case5 a b c closes d =>
    obtain ⟨rfl, rfl, rfl⟩ := closes
    cases read
    rfl
  | case6 a b c closes =>
    obtain ⟨rfl, rfl, rfl⟩ := closes
    cases read
    rfl
  | case7 a b c rest _ _ inner left escaped ih =>
    cases read
    exact congrArg (a :: b :: ·) (ih escaped)
  | case8 => cases read
  | case9 a b c rest _ _ inner left later ih =>
    cases read
    exact congrArg (a :: ·) (ih later)
  | case10 => cases read
  | case11 => cases read

/-- A quote takes one byte. -/
theorem utf8Size_quote (isQuote : quote = '"' ∨ quote = '\'') : quote.utf8Size = 1 := by
  rcases isQuote with rfl | rfl
  · rfl
  · rfl

variable {behind : List Char} {value : String}

/-- What stands between one quote and the next one is a quoted text. -/
theorem startsQuoted_one (isQuote : quote = '"' ∨ quote = '\'')
    (whole : s = inside ++ quote :: behind) (other : ¬ [quote, quote] <+: s)
    (decoded : quotedValue (quote == '"') false inside = some value) :
    StartsQuoted (quote :: s) [quote] inside behind value where
  whole := by simp [whole]
  opens := by rcases isQuote with rfl | rfl <;> decide
  longest := fun _ three => other (List.cons_prefix_cons.1 three).2
  decoded := by simpa using decoded

/-- What stands between three quotes and the next three is a quoted text. -/
theorem startsQuoted_three (isQuote : quote = '"' ∨ quote = '\'')
    (whole : s = inside ++ quote :: quote :: quote :: behind)
    (decoded : quotedValue (quote == '"') true inside = some value) :
    StartsQuoted (quote :: quote :: quote :: s) [quote, quote, quote] inside behind value where
  whole := by simp [whole]
  opens := by rcases isQuote with rfl | rfl <;> decide
  longest := nofun
  decoded := by simpa using decoded

/-- A quoted text that is read stands in front with its quotes. -/
theorem quoted?_eq_some {rest : Rest s} {lexeme : Lexeme} {length : Nat}
    (isQuote : quote = '"' ∨ quote = '\'') (first : s.head? = some quote)
    (read : quoted? quote s = some ((lexeme, length), rest)) :
    ∃ opening inside value quotes, lexeme = .quoted value quotes ∧
      length = byteLength (opening ++ inside ++ opening) ∧
      StartsQuoted s opening inside rest.left value := by
  have size := utf8Size_quote isQuote
  match s, rest, first, read with
  | [], _, _, read => cases read
  | [_], _, _, read => cases read
  | [a, b], rest, first, read =>
    obtain rfl : a = quote := by simpa using first
    rw [quoted?] at read
    split at read
    · rename_i same
      subst same
      cases read
      refine ⟨[b], [], "", 1, rfl, ?_, startsQuoted_one isQuote rfl ?_ ?_⟩
      · simp [byteLength, size]
      · simp
      · rcases isQuote with rfl | rfl <;> rfl
    · cases read
  | a :: b :: c :: others, rest, first, read =>
    obtain rfl : a = quote := by simpa using first
    rw [quoted?] at read
    split at read
    · rename_i opens
      obtain ⟨-, rfl, rfl⟩ := opens
      split at read
      · rename_i inner left closes
        obtain ⟨value, decoded, same⟩ := Option.map_eq_some_iff.1 read
        cases same
        refine ⟨[c, c, c], inner, value, 3, rfl, ?_,
          startsQuoted_three isQuote (insideThreeQuotes_eq_some closes) decoded⟩
        simp only [byteLength_append, byteLength, size]
        omega
      · cases read
    · rename_i opens
      split at read
      · rename_i inner left closes
        obtain ⟨value, decoded, same⟩ := Option.map_eq_some_iff.1 read
        cases same
        refine ⟨[a], inner, value, 1, rfl, ?_,
          startsQuoted_one isQuote (insideQuotes_eq_some closes) ?_ decoded⟩
        · simp only [byteLength_append, byteLength, size]
          omega
        · intro longer
          simp only [List.cons_prefix_cons, List.nil_prefix, and_true] at longer
          exact opens ⟨rfl, longer.1.symm, longer.2.symm⟩
      · cases read

/-! ## Tokens in their places -/

/-- A run is what it takes, in front of what is left. -/
theorem run_append (property : Char → Bool) (c : Char) (rest : List Char) :
    c :: rest = (run property c rest).1 ++ (run property c rest).2.left := by
  simp [run]

/-- A word is what it takes, in front of what is left. -/
theorem word_append (c : Char) (rest : List Char) :
    c :: rest = (word c rest).1 ++ (word c rest).2.left := by
  have whole := run_append (! endsWord ·) c rest
  rw [word]
  generalize run (! endsWord ·) c rest = first at whole ⊢
  obtain ⟨taken, left⟩ := first
  dsimp only at whole ⊢
  split
  · exact whole
  · rename_i d more same
    split
    · have shorter : more.length < rest.length := by
        have fewer := (left.left.dropWhile_sublist isSpace).length_le
        have taking := left.shorter
        simp only [same, List.length_cons] at fewer taking
        omega
      have later := word_append d more
      have blanks : left.left = left.left.takeWhile isSpace ++ d :: more := by
        rw [← same, List.takeWhile_append_dropWhile]
      have joined : c :: rest = taken ++
          (left.left.takeWhile isSpace ++ ((word d more).1 ++ (word d more).2.left)) := by
        rw [← later, ← blanks]
        exact whole
      simpa [Rest.within] using joined
    · exact whole
termination_by rest.length

/-- A lexeme takes the first bytes, and it is a quoted text only if one stands there. -/
def Front (s : List Char) (lexeme : Lexeme) (length : Nat) (left : List Char) : Prop :=
  ∃ taken, s = taken ++ left ∧ byteLength taken = length ∧
    ∀ value quotes, lexeme = .quoted value quotes → ∃ opening inside,
      taken = opening ++ inside ++ opening ∧ StartsQuoted s opening inside left value

/-- A mark takes one byte and is no quoted text. -/
theorem front_of_mark? {c : Char} {mark : Lexeme} (marked : mark? c = some mark)
    (rest : List Char) : Front (c :: rest) mark 1 rest := by
  unfold mark? at marked
  split at marked <;> cases marked
  all_goals exact ⟨[_], rfl, rfl, nofun⟩

/-- What is taken is the front of the characters. -/
theorem front_of_lexeme? {rest : Rest s} {lexeme : Lexeme} {length : Nat}
    (read : lexeme? s = some ((lexeme, length), rest)) : Front s lexeme length rest.left := by
  rw [lexeme?.eq_def] at read
  split at read
  · cases read
  · cases read
    exact ⟨['\r', '\n'], rfl, rfl, nofun⟩
  · rename_i c others _
    split at read
    · subst_vars
      cases read
      exact ⟨['\n'], rfl, rfl, nofun⟩
    split at read
    · cases read
    split at read
    · cases read
      exact ⟨_, run_append isSpace c others, rfl, nofun⟩
    split at read
    · -- a comment, up to the end of its line
      rw [comment?] at read
      dsimp only at read
      split at read
      · cases read
        exact ⟨_, run_append (fun d => d != '\n' && d != '\r') c others, rfl, nofun⟩
      · cases read
    split at read
    · rename_i isQuote
      obtain ⟨opening, inside, value, _, rfl, rfl, starts⟩ := quoted?_eq_some isQuote rfl read
      refine ⟨_, starts.whole, rfl, ?_⟩
      rintro _ _ ⟨⟩
      exact ⟨opening, inside, rfl, starts⟩
    split at read
    · rename_i mark marked
      cases read
      exact front_of_mark? marked others
    · cases read
      exact ⟨_, word_append c others, rfl, nofun⟩

/-- A quoted text at the front of characters has its place where these stand behind others. -/
theorem StartsQuoted.standsIn {s opening inside behind : List Char} {value : String}
    (starts : StartsQuoted s opening inside behind value) (before : List Char) :
    Quoted.StandsIn (before ++ s)
      ⟨value, byteLength before, byteLength (opening ++ inside ++ opening)⟩
      before opening inside behind := by
  have whole := starts.whole
  subst whole
  exact ⟨rfl, starts.opens, starts.longest, rfl, rfl⟩

/-- A quoted text has its place among characters, and is decoded from what stands there between its
quotes. -/
def Quoted.IsReadFrom (s : List Char) (written : Quoted) : Prop :=
  ∃ before opening inside behind, written.StandsIn s before opening inside behind ∧
    quotedValue (opening.head? == some '"') (opening.length == 3) inside = some written.value

/-- A quoted text among the tokens of characters has its place where these stand behind others. -/
theorem isReadFrom_of_scan {offset : Nat} (front : List Char) {s : List Char}
    {tokens : List Token}
    (scanned : scan offset s = some tokens) (passed : byteLength front = offset) {token : Token}
    (listed : token ∈ tokens) {value : String} {quotes : Nat}
    (isQuoted : token.lexeme = .quoted value quotes) :
    Quoted.IsReadFrom (front ++ s) ⟨value, token.start, token.length⟩ := by
  fun_induction scan offset s generalizing tokens front with
  | case1 =>
    cases scanned
    cases listed
  | case2 => cases scanned
  | case3 => cases scanned
  | case4 offset s _ lexeme length rest read tokens later ih =>
    cases scanned
    obtain ⟨taken, split, size, quoted⟩ := front_of_lexeme? read
    rcases List.mem_cons.1 listed with rfl | others
    · obtain ⟨opening, inside, rfl, starts⟩ := quoted value quotes isQuoted
      have place := starts.standsIn front
      rw [passed, size] at place
      exact ⟨_, _, _, _, place, starts.decoded⟩
    · have behind : byteLength (front ++ taken) = offset + length := by
        rw [byteLength_append, passed, size]
      have found := ih (front ++ taken) later behind others
      rw [List.append_assoc, ← split] at found
      exact found

/-- A quoted text among the tokens of a text has its place there. -/
theorem isReadFrom_of_tokens? {text : String} {tokens : List Token}
    (read : tokens? text = some tokens) {token : Token} (listed : token ∈ tokens) {value : String}
    {quotes : Nat} (isQuoted : token.lexeme = .quoted value quotes) :
    Quoted.IsReadFrom text.toList ⟨value, token.start, token.length⟩ := by
  unfold tokens? at read
  split at read
  · rename_i rest marked
    have found := isReadFrom_of_scan ['\ufeff'] read rfl listed isQuoted
    rw [marked]
    exact found
  · exact isReadFrom_of_scan [] read rfl listed isQuoted

end ViewGlue.Manifest
