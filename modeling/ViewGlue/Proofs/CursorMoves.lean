import ViewGlue.Proofs.TypeReaders
import ViewGlue.TypeExpr.Cursor

/-!
# Moves of the cursor

A cursor stands before characters (`Precedes`) and before the tokens these are cut into (`Faces`).
It moves over characters below 128 only, which are one byte long, so no move leaves the boundaries
of characters: blanks, marks, arrows and identifiers are taken as the tokens they are, and a fault
at the cursor is a fault at the next token.
-/

namespace ViewGlue.TypeExpr

open Text (isPlainBlank startsName continuesName)

variable {text : String}

/-! ## Characters behind the cursor -/

/-- Characters take the bytes of the text that they make. -/
theorem byteLength_eq_utf8ByteSize (s : List Char) :
    byteLength s = (String.ofList s).utf8ByteSize := by
  induction s with
  | nil => rfl
  | cons c s ih =>
    rw [byteLength, ih, String.ofList_cons, String.utf8ByteSize_append,
      String.utf8ByteSize_singleton]

/-- Characters below 128 take one byte each. -/
theorem utf8Size_of_lt {c : Char} (plain : c.toNat < 128) : c.utf8Size = 1 :=
  Char.utf8Size_eq_one_iff.2 (UInt32.le_iff_toNat_le.2 (Nat.le_of_lt_succ plain))

/-- The characters behind the cursor. -/
def Precedes (cursor : text.Pos) (s : List Char) : Prop :=
  ∃ front, cursor.Splits front (String.ofList s)

/-- All characters of a text are behind its start. -/
theorem precedes_startPos (text : String) : Precedes text.startPos text.toList := by
  refine ⟨"", ?_⟩
  rw [String.ofList_toList]
  exact String.splits_startPos text

namespace Precedes

variable {cursor : text.Pos} {s : List Char}

/-- The bytes that the cursor has passed and those behind it are all bytes of the text. -/
theorem byteIdx_add (precedes : Precedes cursor s) :
    cursor.offset.byteIdx + byteLength s = text.utf8ByteSize := by
  obtain ⟨front, splits⟩ := precedes
  rw [splits.offset_eq_rawEndPos, byteLength_eq_utf8ByteSize, String.byteIdx_rawEndPos,
    ← String.utf8ByteSize_append, ← splits.eq_append]

/-- There is a position behind the next characters. -/
theorem exists_behind (taken : List Char) (precedes : Precedes cursor (taken ++ s)) :
    ∃ next : text.Pos, next.offset.byteIdx = cursor.offset.byteIdx + byteLength taken ∧
      Precedes next s := by
  obtain ⟨front, splits⟩ := precedes
  have whole : text = front ++ String.ofList taken ++ String.ofList s := by
    rw [splits.eq_append, String.ofList_append, String.append_assoc]
  have onBoundary : String.Pos.Raw.IsValid text (front ++ String.ofList taken).rawEndPos :=
    String.Pos.Raw.isValid_iff_exists_append.2 ⟨_, _, whole, rfl⟩
  refine ⟨⟨_, onBoundary⟩, ?_, front ++ String.ofList taken, whole, rfl⟩
  rw [splits.offset_eq_rawEndPos, byteLength_eq_utf8ByteSize, String.byteIdx_rawEndPos,
    String.byteIdx_rawEndPos, String.utf8ByteSize_append]

/-- Between two positions of the text stand the characters that are behind the first one only. -/
theorem extract_eq {taken : List Char} {next : text.Pos} (precedes : Precedes cursor (taken ++ s))
    (behind : Precedes next s) : String.extract cursor next = String.ofList taken := by
  obtain ⟨front, splits⟩ := precedes
  obtain ⟨longer, ends⟩ := behind
  have same : longer = front ++ String.ofList taken := by
    have whole := splits.eq_append.symm.trans ends.eq_append
    rw [String.ofList_append, ← String.append_assoc, String.append_left_inj] at whole
    exact whole.symm
  rw [same] at ends
  rw [String.ofList_append] at splits
  obtain ⟨ordered, cut⟩ := String.copy_slice_eq_iff_splits.2 ⟨front, String.ofList s, splits, ends⟩
  rw [String.extract_eq_copy_slice _ _ ordered, cut]

/-- What is left of the text are the characters behind the cursor. -/
theorem extract_endPos (precedes : Precedes cursor s) :
    (String.extract cursor text.endPos).toList = s := by
  have ended : Precedes text.endPos [] := ⟨text, String.splits_endPos text⟩
  rw [extract_eq (by rwa [List.append_nil]) ended, String.toList_ofList]

end Precedes

/-! ## The byte at the cursor -/

/-- Characters below 128 are their own bytes. -/
theorem utf8EncodeChar_of_lt {c : Char} (plain : c.toNat < 128) :
    String.utf8EncodeChar c = [UInt8.ofNat c.toNat] := by
  have small : c.val.toNat ≤ 127 := Nat.le_of_lt_succ plain
  simp only [String.utf8EncodeChar, small, ↓reduceIte]
  rfl

/-- All other characters start with a byte that is no character below 128. -/
theorem utf8EncodeChar_of_not_lt {c : Char} (wide : ¬c.toNat < 128) :
    ∃ byte bytes, String.utf8EncodeChar c = byte :: bytes ∧ ¬byte < 128 := by
  have large : ¬c.val.toNat ≤ 127 := fun small => wide (Nat.lt_succ_of_le small)
  have leads {code : Nat} (least : 128 ≤ code) (most : code < 256) : ¬UInt8.ofNat code < 128 := by
    rw [UInt8.lt_iff_toNat_lt, UInt8.toNat_ofNat', Nat.mod_eq_of_lt most]
    exact Nat.not_lt.2 least
  simp only [String.utf8EncodeChar, large, ↓reduceIte]
  -- two, three or four bytes
  split
  · exact ⟨_, _, rfl, leads (by omega) (by omega)⟩
  · split
    · exact ⟨_, _, rfl, leads (by omega) (by omega)⟩
    · exact ⟨_, _, rfl, leads (by omega) (by omega)⟩

namespace Cursor

variable {cursor : text.Pos} {s : List Char} {property : Char → Bool}

/-- The byte at the cursor is the first one of the characters behind it. -/
theorem byte?_of_precedes (precedes : Precedes cursor s) :
    byte? cursor = (s.flatMap String.utf8EncodeChar).head? := by
  obtain ⟨front, splits⟩ := precedes
  have bytes : text.toByteArray =
      front.toByteArray ++ (s.flatMap String.utf8EncodeChar).toByteArray := by
    rw [splits.eq_append, String.toByteArray_append, String.toByteArray_ofList, List.utf8Encode]
  rw [byte?, String.toUTF8_eq_toByteArray, bytes, splits.offset_eq_rawEndPos,
    String.byteIdx_rawEndPos, ← String.size_toByteArray]
  cases encoded : s.flatMap String.utf8EncodeChar with
  | nil => simp
  | cons byte bytes =>
    rw [getElem?_pos _ _ (by simp), ByteArray.getElem_append_right (Nat.le_refl _)]
    simp

/-- There is no byte at the end only. -/
theorem byte?_eq_none_iff : byte? cursor = none ↔ ¬cursor.offset.byteIdx < text.utf8ByteSize := by
  rw [byte?, String.toUTF8_eq_toByteArray, ← String.size_toByteArray]
  by_cases inside : cursor.offset.byteIdx < text.toByteArray.size
  · rw [getElem?_pos text.toByteArray _ inside]
    simpa using inside
  · rw [getElem?_neg text.toByteArray _ inside]
    simpa using inside

/-- At the end the cursor sees nothing. -/
theorem sees_nil (precedes : Precedes cursor []) : sees property cursor = false := by
  rw [sees, byte?_of_precedes precedes]
  rfl

/-- The cursor sees of the next character what can be said of characters below 128. -/
theorem sees_cons (plain : ∀ c, property c = true → c.toNat < 128) {c : Char}
    (precedes : Precedes cursor (c :: s)) : sees property cursor = property c := by
  rw [sees, byte?_of_precedes precedes, List.flatMap_cons]
  by_cases ascii : c.toNat < 128
  · have code : (UInt8.ofNat c.toNat).toNat = c.toNat := by
      rw [UInt8.toNat_ofNat', Nat.mod_eq_of_lt (Nat.lt_trans ascii (by decide))]
    have small : UInt8.ofNat c.toNat < 128 := by
      rw [UInt8.lt_iff_toNat_lt, code]
      exact ascii
    rw [utf8EncodeChar_of_lt ascii]
    simp [small, code, Char.ofNat_toNat]
  · obtain ⟨byte, bytes, encoded, large⟩ := utf8EncodeChar_of_not_lt ascii
    have fails : property c = false := by
      cases holds : property c with
      | false => rfl
      | true => exact absurd (plain c holds) ascii
    rw [encoded]
    simp [large, fails]

/-- What the cursor sees of a property it sees of a weaker one. -/
theorem sees_mono {property weaker : Char → Bool}
    (implied : ∀ c, property c = true → weaker c = true) (sight : sees property cursor = true) :
    sees weaker cursor = true := by
  rw [sees, Option.any_eq_true] at sight ⊢
  obtain ⟨byte, found, both⟩ := sight
  rw [Bool.and_eq_true] at both
  exact ⟨byte, found, by rw [both.1, implied _ both.2]; rfl⟩

/-- What the cursor sees of one of two properties. -/
theorem sees_or (property other : Char → Bool) (cursor : text.Pos) :
    sees (fun c => property c || other c) cursor = (sees property cursor || sees other cursor) := by
  unfold sees
  cases byte? cursor with
  | none => rfl
  | some byte => simp [Bool.and_or_distrib_left]

/-! ## Moves over characters -/

/-- The cursor can move over whole characters. -/
theorem advance_eq_ok (taken : List Char) (precedes : Precedes cursor (taken ++ s)) :
    ∃ next, advance cursor (byteLength taken) = .ok next ∧
      next.position.offset.byteIdx = cursor.offset.byteIdx + byteLength taken ∧
      Precedes next.position s := by
  obtain ⟨next, index, behind⟩ := precedes.exists_behind taken
  have onBoundary : String.Pos.Raw.IsValid text ⟨cursor.offset.byteIdx + byteLength taken⟩ := by
    rw [← index]
    exact next.isValid
  have same : next = ⟨_, onBoundary⟩ := by
    apply String.Pos.ext
    rw [String.Pos.Raw.ext_iff]
    exact index
  refine ⟨⟨⟨_, onBoundary⟩, Nat.le_refl _⟩, dif_pos onBoundary, rfl, ?_⟩
  rwa [same] at behind

/-- The cursor can move over a character below 128. -/
theorem advance_one {c : Char} (plain : c.toNat < 128) (precedes : Precedes cursor (c :: s)) :
    ∃ next, advance cursor 1 = .ok next ∧
      next.position.offset.byteIdx = cursor.offset.byteIdx + c.utf8Size ∧
      Precedes next.position s := by
  have moved := advance_eq_ok [c] precedes
  have one : byteLength [c] = 1 := utf8Size_of_lt plain
  rw [utf8Size_of_lt plain]
  rwa [one] at moved

/-- The cursor moves over all next characters with a property that those below 128 only have. -/
theorem skipWhile_eq_ok (plain : ∀ c, property c = true → c.toNat < 128)
    (precedes : Precedes cursor s) :
    ∃ last, skipWhile property cursor = .ok last ∧
      last.position.offset.byteIdx =
        cursor.offset.byteIdx + byteLength (s.takeWhile property) ∧
      Precedes last.position (s.dropWhile property) := by
  induction s generalizing cursor with
  | nil =>
    refine ⟨⟨cursor, Nat.le_refl _⟩, ?_, rfl, precedes⟩
    rw [skipWhile, sees_nil precedes]
    rfl
  | cons c s ih =>
    have sight := sees_cons plain precedes
    cases holds : property c with
    | false =>
      rw [holds] at sight
      rw [List.takeWhile_cons_of_neg (by simp [holds]),
        List.dropWhile_cons_of_neg (by simp [holds])]
      refine ⟨⟨cursor, Nat.le_refl _⟩, ?_, rfl, precedes⟩
      rw [skipWhile, sight]
      rfl
    | true =>
      rw [holds] at sight
      rw [List.takeWhile_cons_of_pos holds, List.dropWhile_cons_of_pos holds]
      obtain ⟨next, moved, index, behind⟩ := advance_one (plain c holds) precedes
      obtain ⟨last, skipped, lastIndex, ends⟩ := ih behind
      refine ⟨(next.extend last).oneLess, ?_, ?_, ends⟩
      · rw [skipWhile, sight, moved]
        show (skipWhile property next.position >>= _) = _
        rw [skipped]
        rfl
      · show last.position.offset.byteIdx = _
        rw [lastIndex, index, byteLength, Nat.add_assoc]

end Cursor

/-! ## Tokens behind the cursor -/

/-- The tokens behind the cursor. -/
def Faces (cursor : text.Pos) (tokens : List Token) : Prop :=
  ∃ spaced s, Precedes cursor s ∧ scan cursor.offset.byteIdx spaced s = tokens

/-- The tokens behind the cursor, which stands directly behind a token. -/
def Follows (cursor : text.Pos) (tokens : List Token) : Prop :=
  ∃ s, Precedes cursor s ∧ scan cursor.offset.byteIdx false s = tokens

/-- The tokens behind the cursor, which stands where the first of them starts, or at the end. -/
def Meets (cursor : text.Pos) (tokens : List Token) : Prop :=
  ∃ spaced s, Precedes cursor s ∧ (∀ c ∈ s.head?, isPlainBlank c = false) ∧
    scan cursor.offset.byteIdx spaced s = tokens

/-- Directly behind a token the next tokens follow. -/
theorem Follows.faces {cursor : text.Pos} {tokens : List Token} (follows : Follows cursor tokens) :
    Faces cursor tokens :=
  ⟨false, follows⟩

/-- Where a token starts it is the next one. -/
theorem Meets.faces {cursor : text.Pos} {tokens : List Token} (meets : Meets cursor tokens) :
    Faces cursor tokens := by
  obtain ⟨spaced, s, precedes, -, same⟩ := meets
  exact ⟨spaced, s, precedes, same⟩

/-- The tokens of a text are behind its start. -/
theorem follows_startPos (text : String) : Follows text.startPos (tokens text) :=
  ⟨text.toList, precedes_startPos text, rfl⟩

/-- A character that is no blank starts a word, an arrow, or a lexeme of its own. -/
theorem scan_cases {c : Char} {s : List Char} (solid : isPlainBlank c = false) (offset : Nat)
    (spaced : Bool) :
    (startsName c = true ∧
      scan offset spaced (c :: s) =
        ⟨.word (String.ofList (c :: s.takeWhile continuesName)), offset, c.utf8Size, spaced⟩ ::
          scan (offset + byteLength (c :: s.takeWhile continuesName)) false
            (s.dropWhile continuesName)) ∨
    (∃ t, c :: s = '-' :: '>' :: t ∧
      scan offset spaced (c :: s) =
        ⟨.arrow, offset, c.utf8Size, spaced⟩ :: scan (offset + byteLength ['-', '>']) false t) ∨
    (startsName c = false ∧ ¬['-', '>'] <+: c :: s ∧
      scan offset spaced (c :: s) =
        ⟨.ofChar c, offset, c.utf8Size, spaced⟩ :: scan (offset + c.utf8Size) false s) := by
  cases starts : startsName c with
  | true =>
    refine .inl ⟨rfl, ?_⟩
    rw [scan, if_neg (by simp [solid]), if_pos starts]
  | false =>
    by_cases arrow : c = '-' ∧ s.head? = some '>'
    · obtain ⟨rfl, next⟩ := arrow
      cases s with
      | nil => cases next
      | cons d t =>
        obtain rfl : d = '>' := by simpa using next
        refine .inr (.inl ⟨t, rfl, ?_⟩)
        rw [scan, if_neg (by simp [solid]), if_neg (by simp [starts]), if_pos ⟨rfl, rfl⟩]
        rfl
    · refine .inr (.inr ⟨rfl, ?_, scan_mark solid starts arrow offset spaced⟩)
      rintro ⟨t, same⟩
      obtain ⟨rfl, rfl⟩ := List.cons.inj same
      exact arrow ⟨rfl, rfl⟩

/-- Blanks are no tokens. -/
theorem scan_dropWhile_isPlainBlank (offset : Nat) (spaced : Bool) (s : List Char) :
    ∃ passed, scan offset spaced s =
      scan (offset + byteLength (s.takeWhile isPlainBlank)) passed (s.dropWhile isPlainBlank) := by
  induction s generalizing offset spaced with
  | nil => exact ⟨spaced, rfl⟩
  | cons c s ih =>
    cases blank : isPlainBlank c with
    | false =>
      rw [List.takeWhile_cons_of_neg (by simp [blank]),
        List.dropWhile_cons_of_neg (by simp [blank])]
      exact ⟨spaced, rfl⟩
    | true =>
      rw [List.takeWhile_cons_of_pos blank, List.dropWhile_cons_of_pos blank, scan, if_pos blank,
        byteLength, ← Nat.add_assoc]
      exact ih _ _

/-- No blank is left behind the blanks. -/
theorem head?_dropWhile_isPlainBlank (s : List Char) :
    ∀ c ∈ (s.dropWhile isPlainBlank).head?, isPlainBlank c = false := by
  intro c first
  have stopped := List.head?_dropWhile_not isPlainBlank s
  rw [Option.mem_def.1 first] at stopped
  simpa using stopped

/-- A single character is no word. -/
theorem ofChar_ne_word (c : Char) (word : String) : Lexeme.ofChar c ≠ .word word := by
  unfold Lexeme.ofChar
  split <;> simp

/-- A single character is no arrow. -/
theorem ofChar_ne_arrow (c : Char) : Lexeme.ofChar c ≠ .arrow := by
  intro same
  have letters := congrArg Lexeme.chars same
  rw [chars_ofChar] at letters
  cases letters

namespace Cursor

variable {cursor : text.Pos} {tokens : List Token}

/-- Behind the blanks the next token starts. -/
theorem skipBlanks_eq_ok (faces : Faces cursor tokens) :
    ∃ next, skipBlanks cursor = .ok next ∧ Meets next.position tokens := by
  obtain ⟨spaced, s, precedes, rfl⟩ := faces
  have plain (c : Char) (blank : isPlainBlank c = true) : c.toNat < 128 := by
    simp only [isPlainBlank, Bool.or_eq_true, beq_iff_eq] at blank
    rcases blank with (((rfl | rfl) | rfl) | rfl) | rfl <;> decide
  obtain ⟨next, skipped, index, behind⟩ := skipWhile_eq_ok plain precedes
  obtain ⟨passed, same⟩ := scan_dropWhile_isPlainBlank cursor.offset.byteIdx spaced s
  refine ⟨next, skipped, passed, _, behind, head?_dropWhile_isPlainBlank s, ?_⟩
  rw [same, index]

/-- The next mark that the cursor sees is the next token, which it can take. -/
theorem mark_cases (mark : Char) (isMark : mark ∈ Lexeme.marks) (meets : Meets cursor tokens) :
    (sees (· == mark) cursor = true ∧
      ∃ token rest next, tokens = token :: rest ∧ token.lexeme = .ofChar mark ∧
        advance cursor 1 = .ok next ∧ Follows next.position rest) ∨
    (sees (· == mark) cursor = false ∧ ahead? tokens ≠ some (.ofChar mark)) := by
  obtain ⟨spaced, s, precedes, solid, rfl⟩ := meets
  have noWord : startsName mark = false ∧ mark ≠ '-' ∧ mark.toNat < 128 := by
    simp only [Lexeme.marks, List.mem_cons, List.not_mem_nil, or_false] at isMark
    rcases isMark with rfl | rfl | rfl | rfl | rfl | rfl | rfl | rfl <;> decide
  obtain ⟨noWord, noArrow, plain⟩ := noWord
  cases s with
  | nil =>
    refine .inr ⟨sees_nil precedes, ?_⟩
    rw [scan]
    exact (Option.some_ne_none _).symm
  | cons c s =>
    have sight : sees (· == mark) cursor = (c == mark) := by
      refine sees_cons (fun d same => ?_) precedes
      rw [beq_iff_eq] at same
      rwa [same]
    rw [sight]
    by_cases same : c = mark
    · subst same
      obtain ⟨next, moved, index, behind⟩ := advance_one plain precedes
      have token := scan_mark (s := s) (solid c rfl) noWord (fun arrow => noArrow arrow.1)
        cursor.offset.byteIdx spaced
      refine .inl ⟨beq_self_eq_true c, _, _, next, token, rfl, moved, s, behind, ?_⟩
      rw [index]
    · refine .inr ⟨beq_eq_false_iff_ne.2 same, ?_⟩
      have other : Lexeme.ofChar c ≠ .ofChar mark := fun lexemes => same (ofChar_inj.1 lexemes)
      obtain ⟨-, token⟩ | ⟨t, -, token⟩ | ⟨-, -, token⟩ :=
        scan_cases (s := s) (solid c rfl) cursor.offset.byteIdx spaced
      · simpa [token, ahead?] using (ofChar_ne_word mark _).symm
      · simpa [token, ahead?] using (ofChar_ne_arrow mark).symm
      · simpa [token, ahead?] using other

/-- An arrow is the next token exactly if what is left of the text starts with it, and the cursor
can take it. -/
theorem arrow_cases (meets : Meets cursor tokens) :
    (['-', '>'] <+: (String.extract cursor text.endPos).toList ∧
      ∃ token rest next, tokens = token :: rest ∧ token.lexeme = .arrow ∧
        advance cursor 2 = .ok next ∧ Follows next.position rest) ∨
    (¬['-', '>'] <+: (String.extract cursor text.endPos).toList ∧ ahead? tokens ≠ some .arrow) := by
  obtain ⟨spaced, s, precedes, solid, rfl⟩ := meets
  rw [precedes.extract_endPos]
  cases s with
  | nil =>
    refine .inr ⟨by simp, ?_⟩
    rw [scan]
    exact (Option.some_ne_none _).symm
  | cons c s =>
    obtain ⟨starts, token⟩ | ⟨t, same, token⟩ | ⟨-, other, token⟩ :=
      scan_cases (s := s) (solid c rfl) cursor.offset.byteIdx spaced
    · refine .inr ⟨?_, by simp [token, ahead?]⟩
      rintro ⟨t, same⟩
      obtain ⟨rfl, -⟩ := List.cons.inj same
      exact absurd starts (by decide)
    · rw [same] at precedes token ⊢
      obtain ⟨next, moved, index, behind⟩ := advance_eq_ok ['-', '>'] precedes
      refine .inl ⟨⟨t, rfl⟩, _, _, next, token, rfl, moved, t, behind, ?_⟩
      rw [index]
    · exact .inr ⟨other, by simpa [token, ahead?] using ofChar_ne_arrow c⟩

/-- The characters that start names are below 128. -/
theorem lt_of_startsName (c : Char) (starts : startsName c = true) : c.toNat < 128 :=
  Text.lt_of_continuesName (Text.continuesName_of_startsName starts)

/-- A word is the next token exactly if the cursor sees that a name starts. -/
theorem word_cases (meets : Meets cursor tokens) :
    (sees startsName cursor = true ∧
      ∃ token rest word, tokens = token :: rest ∧ token.lexeme = .word word) ∨
    (sees startsName cursor = false ∧ ∀ word, ahead? tokens ≠ some (.word word)) := by
  obtain ⟨spaced, s, precedes, solid, rfl⟩ := meets
  cases s with
  | nil =>
    refine .inr ⟨sees_nil precedes, fun word => ?_⟩
    rw [scan]
    exact (Option.some_ne_none _).symm
  | cons c s =>
    rw [sees_cons lt_of_startsName precedes]
    obtain ⟨starts, token⟩ | ⟨t, same, token⟩ | ⟨noWord, -, token⟩ :=
      scan_cases (s := s) (solid c rfl) cursor.offset.byteIdx spaced
    · exact .inl ⟨starts, _, _, _, token, rfl⟩
    · obtain ⟨rfl, rfl⟩ := List.cons.inj same
      exact .inr ⟨by decide, by simp [token, ahead?]⟩
    · refine .inr ⟨noWord, fun word => ?_⟩
      simpa [token, ahead?] using ofChar_ne_word c word

end Cursor

/-! ## Faults -/

/-- A fault is about a part of a text: it starts and ends between characters of the text, and it is
empty at the end only. -/
structure Fault.IsPartOf (text : String) (fault : Fault) : Prop where
  /-- It starts between characters. -/
  starts : String.Pos.Raw.IsValid text ⟨fault.offset⟩
  /-- It ends between characters. -/
  ends : String.Pos.Raw.IsValid text ⟨fault.offset + fault.length⟩
  /-- It does not go past the end of the text. -/
  inside : fault.offset + fault.length ≤ text.utf8ByteSize
  /-- A fault about nothing is at the end of the text. -/
  empty : fault.length = 0 → fault.offset = text.utf8ByteSize

/-- A fault from one position to another one behind it is about what stands between them. -/
theorem Fault.isPartOf_between (reason : Reason) (start stop : text.Pos)
    (ordered : start.offset.byteIdx < stop.offset.byteIdx) :
    IsPartOf text ⟨reason, start.offset.byteIdx, stop.offset.byteIdx - start.offset.byteIdx⟩ := by
  have stops : start.offset.byteIdx + (stop.offset.byteIdx - start.offset.byteIdx) =
      stop.offset.byteIdx := by omega
  refine ⟨start.isValid, ?_, ?_, fun empty => ?_⟩
  · show String.Pos.Raw.IsValid text ⟨_ + _⟩
    rw [stops]
    exact stop.isValid
  · show _ + _ ≤ _
    rw [stops]
    exact stop.isValid.le_utf8ByteSize
  · have none : stop.offset.byteIdx - start.offset.byteIdx = 0 := empty
    omega

/-- The next token starts with the next character that is no blank. -/
theorem exists_token {c : Char} {s : List Char} (solid : isPlainBlank c = false) (offset : Nat)
    (spaced : Bool) :
    ∃ token rest, scan offset spaced (c :: s) = token :: rest ∧ token.start = offset ∧
      token.width = c.utf8Size := by
  obtain ⟨-, token⟩ | ⟨t, -, token⟩ | ⟨-, -, token⟩ := scan_cases solid offset spaced
  all_goals exact ⟨_, _, token, rfl, rfl⟩

/-- The cursor is at the offset of the next token. -/
theorem Meets.position_eq {cursor : text.Pos} {tokens : List Token} (meets : Meets cursor tokens) :
    position text.utf8ByteSize tokens = cursor.offset.byteIdx := by
  obtain ⟨spaced, s, precedes, solid, rfl⟩ := meets
  cases s with
  | nil =>
    rw [scan, position]
    exact precedes.byteIdx_add.symm
  | cons c s =>
    obtain ⟨token, rest, same, start, -⟩ := exists_token (s := s) (solid c rfl) _ spaced
    rw [same, position, start]

/-- The cursor is before the end exactly if a token is left. -/
theorem Meets.byteIdx_lt_iff {cursor : text.Pos} {tokens : List Token}
    (meets : Meets cursor tokens) : cursor.offset.byteIdx < text.utf8ByteSize ↔ tokens ≠ [] := by
  obtain ⟨spaced, s, precedes, solid, rfl⟩ := meets
  have size := precedes.byteIdx_add
  cases s with
  | nil =>
    have ended : cursor.offset.byteIdx = text.utf8ByteSize := size
    simp [scan, ended]
  | cons c s =>
    obtain ⟨token, rest, same, -⟩ :=
      exists_token (s := s) (solid c rfl) cursor.offset.byteIdx spaced
    have wide := c.utf8Size_pos
    rw [byteLength] at size
    simp only [same, ne_eq, reduceCtorEq, not_false_eq_true, iff_true]
    omega

/-- A fault at the cursor is one at the next token, and it is about a part of the text. -/
theorem Meets.faultHere_eq {cursor : text.Pos} {tokens : List Token} (meets : Meets cursor tokens)
    (reason : Reason) :
    Cursor.faultHere reason cursor = .fault (faultAt text.utf8ByteSize reason tokens) ∧
      (faultAt text.utf8ByteSize reason tokens).IsPartOf text := by
  obtain ⟨spaced, s, precedes, solid, rfl⟩ := meets
  rw [Cursor.faultHere, precedes.extract_endPos]
  cases s with
  | nil =>
    have ended : cursor.offset.byteIdx = text.utf8ByteSize := precedes.byteIdx_add
    rw [scan, faultAt, ended]
    refine ⟨rfl, ?_, ?_, Nat.le_refl _, fun _ => rfl⟩
    all_goals exact String.Pos.Raw.isValid_rawEndPos
  | cons c s =>
    obtain ⟨token, rest, same, start, width⟩ := exists_token (s := s) (solid c rfl) _ spaced
    obtain ⟨next, index, -⟩ := Precedes.exists_behind [c] precedes
    have length : next.offset.byteIdx - cursor.offset.byteIdx = c.utf8Size := by
      rw [index]
      exact Nat.add_sub_cancel_left ..
    have wide := c.utf8Size_pos
    have part := Fault.isPartOf_between reason cursor next (by omega)
    rw [length] at part
    rw [same, faultAt, start, width]
    exact ⟨rfl, part⟩

/-! ## Taking tokens -/

/-- The outcome of a search for a lexeme: it is the next one and the cursor is behind it, or the
cursor is before another one. -/
inductive Seeks {start : Nat} (lexeme : Lexeme) (tokens : List Token) :
    Except Stop (Search text start) → Prop
  /-- The lexeme was the next one. -/
  | found {token : Token} {rest : List Token} {arrival : Arrival text (start + 1)}
      (next : tokens = token :: rest) (same : token.lexeme = lexeme)
      (follows : Follows arrival.position rest) : Seeks lexeme tokens (.ok (.found arrival))
  /-- Another lexeme is the next one, or there is none. -/
  | missed {arrival : Arrival text start} (other : ahead? tokens ≠ some lexeme)
      (meets : Meets arrival.position tokens) : Seeks lexeme tokens (.ok (.missed arrival))

/-- The outcome of taking an identifier: the next token is a word and the cursor is behind it, or
the next token is a fault. -/
inductive TakesWord {start : Nat} (tokens : List Token) : Walk text String start → Prop
  /-- The next token was a word. -/
  | word {token : Token} {rest : List Token} {word : String} {arrival : Arrival text (start + 1)}
      (next : tokens = token :: rest) (same : token.lexeme = .word word)
      (follows : Follows arrival.position rest) : TakesWord tokens (.ok (word, arrival))
  /-- The next token is no word, and the fault is about it. -/
  | fault (other : ∀ word, ahead? tokens ≠ some (.word word))
      (part : (faultAt text.utf8ByteSize .expectedIdentifier tokens).IsPartOf text) :
      TakesWord tokens (.error (.fault (faultAt text.utf8ByteSize .expectedIdentifier tokens)))

namespace Cursor

variable {cursor : text.Pos} {tokens : List Token}

/-- A mark is taken if it is the next token. -/
theorem seeks_eat (mark : Char) (isMark : mark ∈ Lexeme.marks) (faces : Faces cursor tokens) :
    Seeks (.ofChar mark) tokens (eat mark cursor) := by
  obtain ⟨start, skipped, meets⟩ := skipBlanks_eq_ok faces
  rw [eat, skipped]
  obtain ⟨sight, token, rest, next, same, isMark, moved, follows⟩ | ⟨sight, other⟩ :=
    mark_cases mark isMark meets
  · show Seeks _ _ (if _ then _ else _)
    rw [if_pos sight, moved]
    exact .found same isMark follows
  · show Seeks _ _ (if _ then _ else _)
    rw [if_neg (by simp [sight])]
    exact .missed other meets

/-- An arrow is taken if it is the next token. -/
theorem seeks_eatArrow (faces : Faces cursor tokens) :
    Seeks .arrow tokens (eatArrow cursor) := by
  obtain ⟨start, skipped, meets⟩ := skipBlanks_eq_ok faces
  rw [eatArrow, skipped]
  obtain ⟨starts, token, rest, next, same, isArrow, moved, follows⟩ | ⟨differs, other⟩ :=
    arrow_cases meets
  · show Seeks _ _ (if _ then _ else _)
    rw [if_pos starts, moved]
    exact .found same isArrow follows
  · show Seeks _ _ (if _ then _ else _)
    rw [if_neg differs]
    exact .missed other meets

/-- An identifier is taken if the next token is a word. -/
theorem takesWord_identifier (faces : Faces cursor tokens) :
    TakesWord tokens (identifier cursor) := by
  obtain ⟨start, skipped, meets⟩ := skipBlanks_eq_ok faces
  rw [identifier, skipped]
  show TakesWord _ (if _ then _ else _)
  obtain ⟨sight, -⟩ | ⟨sight, other⟩ := word_cases meets
  · obtain ⟨spaced, s, precedes, solid, rfl⟩ := meets
    cases s with
    | nil => exact absurd sight (by simp [sees_nil precedes])
    | cons c s =>
      have starts : startsName c = true := by rwa [sees_cons lt_of_startsName precedes] at sight
      obtain ⟨second, moved, index, behind⟩ := advance_one (lt_of_startsName c starts) precedes
      obtain ⟨last, passed, lastIndex, ends⟩ :=
        skipWhile_eq_ok (fun _ => Text.lt_of_continuesName) behind
      have cut : String.extract start.position last.position =
          String.ofList (c :: s.takeWhile continuesName) := by
        refine Precedes.extract_eq ?_ ends
        rwa [List.cons_append, List.takeWhile_append_dropWhile]
      have token : scan start.position.offset.byteIdx spaced (c :: s) =
          ⟨.word (String.ofList (c :: s.takeWhile continuesName)), start.position.offset.byteIdx,
            c.utf8Size, spaced⟩ ::
          scan last.position.offset.byteIdx false (s.dropWhile continuesName) := by
        rw [scan, if_neg (by simp [solid c rfl]), if_pos starts, lastIndex, index, Nat.add_assoc]
        rfl
      rw [if_pos sight, moved]
      show TakesWord _ (skipWhile continuesName second.position >>= _)
      rw [passed]
      refine .word token (congrArg Lexeme.word cut.symm) ⟨_, ends, rfl⟩
  · obtain ⟨fault, part⟩ := meets.faultHere_eq .expectedIdentifier
    rw [if_neg (by simp [sight]), fault]
    exact .fault other part

end Cursor

end ViewGlue.TypeExpr
