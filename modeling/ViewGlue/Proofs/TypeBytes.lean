import ViewGlue.Proofs.CursorMoves

/-!
# Reading types by bytes

The walk over the bytes of a text does what the readers do with its tokens: it stops with the same
fault, or it returns the same value with the cursor before the tokens that are left (`Agrees`). So
the cursor never leaves the boundaries of characters, and every fault is about a part of the text
(`bytes_read_on_boundaries`).
-/

namespace ViewGlue.TypeExpr

open Text (Rest startsName continuesName)

variable {text : String}

/-! ## Agreement -/

/-- A walk agrees with a reading. -/
inductive Agrees {α : Type} {least : Nat} {s : List Token} :
    Except Stop (α × Arrival text least) → Reading α s → Prop
  /-- Both give the value, and the cursor is before what is left. -/
  | value {value : α} {arrival : Arrival text least} {rest : Rest s}
      (faces : Faces arrival.position rest.left) : Agrees (.ok (value, arrival)) (.ok (value, rest))
  /-- Both stop at the same fault, which is part of the text. -/
  | fault {fault : Fault} (part : fault.IsPartOf text) :
      Agrees (.error (.fault fault)) (.error fault)

/-- Steps that agree one after the other agree together. -/
theorem Agrees.bind {α β : Type} {least start : Nat} {s t : List Token}
    {first : Except Stop (β × Arrival text start)} {reading : Reading β t}
    {next : β × Arrival text start → Except Stop (α × Arrival text least)}
    {step : β × Rest t → Reading α s} (agrees : Agrees first reading)
    (each : ∀ value arrival rest, Faces arrival.position rest.left →
      Agrees (next (value, arrival)) (step (value, rest))) :
    Agrees (first >>= next) (reading >>= step) := by
  cases agrees with
  | value faces => exact each _ _ _ faces
  | fault part => exact .fault part

/-- A walk agrees if one with the same steps does. -/
theorem Agrees.of_steps {α β : Type} {least : Nat} {s : List Token} {first : Except Stop β}
    {next steps : β → Except Stop (α × Arrival text least)} {reading : Reading α s}
    (agrees : Agrees (first >>= steps) reading) (same : ∀ found, next found = steps found) :
    Agrees (first >>= next) reading := by
  rwa [funext same]

/-! ## Single steps -/

/-- The outcome of taking a mark that must be there: it is the next token and the cursor is behind
it, or the next token is a fault. -/
inductive TakesMark {start : Nat} (mark : Char) (tokens : List Token) :
    Except Stop (Arrival text (start + 1)) → Prop
  /-- The mark was the next token. -/
  | mark {token : Token} {rest : List Token} {arrival : Arrival text (start + 1)}
      (next : tokens = token :: rest) (same : token.lexeme = .ofChar mark)
      (follows : Follows arrival.position rest) : TakesMark mark tokens (.ok arrival)
  /-- The next token is another one, and the fault is about it. -/
  | fault (other : ahead? tokens ≠ some (.ofChar mark))
      (part : (faultAt text.utf8ByteSize (.expectedMark mark) tokens).IsPartOf text) :
      TakesMark mark tokens
        (.error (.fault (faultAt text.utf8ByteSize (.expectedMark mark) tokens)))

/-- The outcome of taking what follows an element of a list: a comma, the closing mark, or a
fault. -/
inductive TakesSeparator {start : Nat} (closing : Char) (tokens : List Token) :
    Walk text Bool start → Prop
  /-- A comma was the next token, so another element follows. -/
  | comma {token : Token} {rest : List Token} {arrival : Arrival text (start + 1)}
      (next : tokens = token :: rest) (same : token.lexeme = .comma)
      (follows : Follows arrival.position rest) :
      TakesSeparator closing tokens (.ok (true, arrival))
  /-- The closing mark was the next token. -/
  | closed {token : Token} {rest : List Token} {arrival : Arrival text (start + 1)}
      (next : tokens = token :: rest) (same : token.lexeme = .ofChar closing)
      (follows : Follows arrival.position rest) :
      TakesSeparator closing tokens (.ok (false, arrival))
  /-- The next token is neither, and the fault is about it. -/
  | fault (noComma : ahead? tokens ≠ some .comma)
      (noClosing : ahead? tokens ≠ some (.ofChar closing))
      (part : (faultAt text.utf8ByteSize (.expectedMark closing) tokens).IsPartOf text) :
      TakesSeparator closing tokens
        (.error (.fault (faultAt text.utf8ByteSize (.expectedMark closing) tokens)))

namespace Cursor

variable {cursor : text.Pos} {tokens : List Token}

/-- A mark that must be there is taken, or the next token is a fault. -/
theorem takesMark_expect (mark : Char) (isMark : mark ∈ Lexeme.marks)
    (faces : Faces cursor tokens) : TakesMark mark tokens (expect mark cursor) := by
  have seeks := seeks_eat mark isMark faces
  rw [expect]
  generalize eat mark cursor = outcome at seeks
  cases seeks with
  | found next same follows => exact .mark next same follows
  | missed other meets =>
    obtain ⟨fault, part⟩ := meets.faultHere_eq (.expectedMark mark)
    show TakesMark mark tokens (.error (faultHere _ _))
    rw [fault]
    exact .fault other part

/-- Behind an element a comma or the closing mark is taken, or the next token is a fault. -/
theorem takesSeparator_separator (closing : Char) (isMark : closing ∈ Lexeme.marks)
    (faces : Faces cursor tokens) : TakesSeparator closing tokens (separator closing cursor) := by
  have seeks := seeks_eat ',' (by decide) faces
  rw [separator]
  generalize eat ',' cursor = outcome at seeks
  cases seeks with
  | found next same follows => exact .comma next same follows
  | @missed arrival noComma meets =>
    have takes := takesMark_expect closing isMark meets.faces
    show TakesSeparator closing tokens (expect closing arrival.position >>= _)
    generalize expect closing arrival.position = outcome at takes
    cases takes with
    | mark next same follows => exact .closed next same follows
    | fault other part => exact .fault noComma other part

/-- A question mark is taken as by the readers. -/
theorem eatQuestion_eq_ok {s : List Token} {rest : Rest s} (faces : Faces cursor rest.left) :
    ∃ arrival, eatQuestion cursor = .ok ((takeQuestion rest).1, arrival) ∧
      Faces arrival.position (takeQuestion rest).2.left := by
  obtain ⟨front, shorter⟩ := rest
  have seeks := seeks_eat '?' (by decide) faces
  rw [eatQuestion]
  generalize eat '?' cursor = outcome at seeks
  cases seeks with
  | @found token rest arrival next same follows =>
    obtain ⟨lexeme, start, width, spaced⟩ := token
    obtain rfl := next
    obtain rfl : lexeme = .question := same
    exact ⟨_, rfl, follows.faces⟩
  | @missed arrival other meets =>
    obtain ⟨noMark, same⟩ := takeQuestion_iff.2 (takesQuestion_false.2 ⟨rfl, other⟩)
    refine ⟨arrival, ?_, ?_⟩
    · rw [noMark]
      rfl
    · rw [same]
      exact meets.faces

/-- A name ends before characters of which the first is no dot, and before a dot behind a blank. -/
theorem nameEnds_scan (offset : Nat) (spaced : Bool) {s : List Char}
    (parted : s.head? = some '.' → spaced = true) : NameEnds (scan offset spaced s) := by
  induction s generalizing offset spaced with
  | nil =>
    rw [scan]
    rintro token ⟨⟩
  | cons c s ih =>
    cases blank : Text.isPlainBlank c with
    | true =>
      rw [scan, if_pos blank]
      exact ih _ true fun _ => rfl
    | false =>
      intro token first isDot
      obtain ⟨-, same⟩ | ⟨t, -, same⟩ | ⟨-, -, same⟩ := scan_cases (s := s) blank offset spaced
      all_goals
        rw [same] at first
        obtain rfl := Option.some.inj first
      · cases isDot
      · cases isDot
      · obtain rfl := ofChar_eq_dot.1 isDot
        exact parted rfl

/-- Where a name ends directly behind a word, the cursor sees no dot; and a dot that it sees
continues the name. -/
theorem dot_cases (follows : Follows cursor tokens) :
    (sees (· == '.') cursor = false ∧ NameEnds tokens) ∨
    (sees (· == '.') cursor = true ∧
      ∃ dot rest next, tokens = dot :: rest ∧ dot.lexeme = .dot ∧ dot.spaced = false ∧
        advance cursor 1 = .ok next ∧ Follows next.position rest) := by
  obtain ⟨s, precedes, rfl⟩ := follows
  have plain (c : Char) (same : (c == '.') = true) : c.toNat < 128 := by
    rw [beq_iff_eq] at same
    rw [same]
    decide
  cases s with
  | nil =>
    refine .inl ⟨sees_nil precedes, ?_⟩
    rw [scan]
    rintro token ⟨⟩
  | cons c s =>
    rw [sees_cons plain precedes]
    by_cases same : c = '.'
    · subst same
      obtain ⟨next, moved, index, behind⟩ := advance_one (by decide) precedes
      have token := scan_mark (c := '.') (s := s) (by decide) (by decide) (by simp)
        cursor.offset.byteIdx false
      refine .inr ⟨rfl, _, _, next, token, rfl, rfl, moved, s, behind, ?_⟩
      rw [index]
    · exact .inl ⟨beq_eq_false_iff_ne.2 same,
        nameEnds_scan _ _ fun first => absurd (Option.some.inj first) same⟩

/-- Dots and words that continue a name are taken as by the readers. -/
theorem agrees_segments {s : List Token} {shorter : tokens.length < s.length}
    (follows : Follows cursor tokens) :
    Agrees (segments cursor) (takeSegments text.utf8ByteSize (s := s) tokens shorter) := by
  induction length : tokens.length using Nat.strongRecOn generalizing cursor tokens s with
  | _ n ih =>
    subst length
    rw [segments]
    obtain ⟨sight, ends⟩ | ⟨sight, dot, rest, next, rfl, isDot, joined, moved, behind⟩ :=
      dot_cases follows
    · rw [if_neg (by simp [sight]), takeSegments_of_nameEnds ends]
      exact .value follows.faces
    · have takes := takesWord_identifier behind.faces
      rw [if_pos sight, moved]
      show Agrees (identifier next.position >>= _) _
      generalize identifier next.position = outcome at takes
      cases takes with
      | @word token left word arrival same isWord ends =>
        subst same
        have fewer : left.length < (dot :: token :: left).length := by
          simp only [List.length_cons]
          omega
        obtain ⟨lexeme, start, width, spaced⟩ := dot
        obtain ⟨lexeme', start', width', spaced'⟩ := token
        obtain rfl := isDot
        obtain rfl := joined
        obtain rfl := isWord
        exact Agrees.bind (ih left.length fewer ends rfl) fun words last rest faces => .value faces
      | fault other part =>
        rw [takeSegments_dot isDot joined other]
        exact .fault part

/-- A type can start at the next token exactly if the cursor sees that a name or a parenthesis
starts. -/
theorem sees_eq_startsType (meets : Meets cursor tokens) :
    sees (fun c => startsName c || c == '(') cursor = startsType tokens := by
  rw [sees_or]
  obtain ⟨sight, token, rest, word, rfl, isWord⟩ | ⟨noName, noWord⟩ := word_cases meets
  · obtain ⟨lexeme, start, width, spaced⟩ := token
    obtain rfl := isWord
    rw [sight]
    rfl
  · rw [noName, Bool.false_or]
    obtain ⟨sight, token, rest, next, rfl, isMark, -⟩ | ⟨sight, noMark⟩ :=
      mark_cases '(' (by decide) meets
    · obtain ⟨lexeme, start, width, spaced⟩ := token
      obtain rfl : lexeme = .leftParen := isMark
      exact sight
    · rw [sight]
      cases tokens with
      | nil => rfl
      | cons token rest =>
        obtain ⟨lexeme, start, width, spaced⟩ := token
        cases lexeme with
        | word word => exact absurd rfl (noWord word)
        | leftParen => exact absurd rfl noMark
        | _ => rfl

/-- A word marks a variance if a type can start behind it. -/
theorem markedVariance_word (word : String) (rest : List Token) :
    markedVariance (.word word) rest = if startsType rest then variance? word else none := by
  by_cases out : word = "out"
  · subst out
    rfl
  · by_cases inward : word = "in"
    · subst inward
      rfl
    · have unmarked : variance? word = none := by rw [variance?, if_neg out, if_neg inward]
      rw [unmarked, ite_self]
      unfold markedVariance
      split
      · exact absurd (Lexeme.word.inj ‹_›) out
      · exact absurd (Lexeme.word.inj ‹_›) inward
      · rfl

/-- Only words mark a variance. -/
theorem markedVariance_eq_none {lexeme : Lexeme} (noWord : ∀ word, lexeme ≠ .word word)
    (rest : List Token) : markedVariance lexeme rest = none := by
  cases lexeme with
  | word word => exact absurd rfl (noWord word)
  | _ => rfl

/-- The outcome of looking for a marker of variance: the next token marks one and the cursor is
where the token behind it starts, or it marks none. -/
inductive TakesMarker {start : Nat} (tokens : List Token) :
    Except Stop (Option (Variance × Arrival text (start + 1))) → Prop
  /-- A word of variance was the next token, and a type follows it. -/
  | marked {variance : Variance} {token : Token} {rest : List Token}
      {arrival : Arrival text (start + 1)} (next : tokens = token :: rest)
      (same : markedVariance token.lexeme rest = some variance)
      (meets : Meets arrival.position rest) : TakesMarker tokens (.ok (some (variance, arrival)))
  /-- The next token is no marker here. -/
  | unmarked (noMark : marked? tokens = none) : TakesMarker tokens (.ok none)

/-- Where the cursor sees no letter, no variance is marked. -/
theorem marked?_eq_none (meets : Meets cursor tokens)
    (noLetter : sees Text.isLetter cursor = false) : marked? tokens = none := by
  obtain ⟨spaced, s, precedes, solid, rfl⟩ := meets
  cases s with
  | nil =>
    rw [scan]
    rfl
  | cons c s =>
    have plain (d : Char) (letter : Text.isLetter d = true) : d.toNat < 128 :=
      lt_of_startsName d (by simp [startsName, letter])
    rw [sees_cons plain precedes] at noLetter
    obtain ⟨-, same⟩ | ⟨t, -, same⟩ | ⟨-, -, same⟩ :=
      scan_cases (s := s) (solid c rfl) cursor.offset.byteIdx spaced
    · -- both marking words start with a letter
      have other {word : String} (first : word.toList.head?.all Text.isLetter = true) :
          String.ofList (c :: s.takeWhile continuesName) ≠ word := by
        rintro rfl
        simp [noLetter] at first
      rw [same, marked?, markedVariance_word, variance?, if_neg (other (by decide)),
        if_neg (other (by decide)), ite_self]
    · rw [same, marked?]
      exact markedVariance_eq_none (by simp) _
    · rw [same, marked?]
      exact markedVariance_eq_none (ofChar_ne_word c) _

/-- A marker of variance is taken as by the readers. -/
theorem takesMarker_marker? (faces : Faces cursor tokens) :
    TakesMarker tokens (marker? cursor) := by
  obtain ⟨start, skipped, meets⟩ := skipBlanks_eq_ok faces
  rw [marker?, skipped]
  show TakesMarker _ (if _ then _ else _)
  cases letter : sees Text.isLetter start.position with
  | true =>
    have starts : sees startsName start.position = true :=
      sees_mono (fun c isLetter => by simp [startsName, isLetter]) letter
    rw [if_pos rfl]
    have takes := takesWord_identifier meets.faces
    generalize identifier start.position = outcome at takes
    cases takes with
    | @word token rest word arrival next isWord follows =>
      subst next
      have marks : marked? (token :: rest) = if startsType rest then variance? word else none := by
        rw [marked?, isWord, markedVariance_word]
      dsimp only [bind, Except.bind]
      cases named : variance? word with
      | none =>
        refine .unmarked ?_
        rw [marks, named, ite_self]
      | some variance =>
        obtain ⟨last, passed, ends⟩ := skipBlanks_eq_ok follows.faces
        dsimp only
        rw [passed]
        show TakesMarker _ (if _ then _ else _)
        rw [sees_eq_startsType ends]
        rw [named] at marks
        cases type : startsType rest with
        | true =>
          rw [type] at marks
          exact .marked rfl marks ends
        | false =>
          rw [type] at marks
          exact .unmarked marks
    | fault other part =>
      obtain ⟨-, token, rest, word, rfl, isWord⟩ | ⟨noName, -⟩ := word_cases meets
      · exact absurd (ahead?_eq_some.2 ⟨token, rest, rfl, isWord⟩) (other word)
      · exact absurd (starts.symm.trans noName) (by decide)
  | false =>
    rw [if_neg Bool.false_ne_true]
    exact .unmarked (marked?_eq_none meets letter)

/-! ## Lists -/

/-- What the readers do behind an element of a list: a comma is followed by the others, the closing
mark ends the list, and anything else is a fault. -/
structure ReadsOn {α : Type} {s : List Token} (text : String)
    (again : (t : List Token) → Reading (List α) t) (closing : Char)
    (step : Rest s → Reading (List α) s) (element : α) : Prop where
  /-- Behind a comma the others are read, and the element comes before them. -/
  comma {token : Token} {behind : List Token} (shorter : (token :: behind).length < s.length)
    (same : token.lexeme = .comma) :
    ∃ lift : Rest behind → Rest s, (∀ inner, (lift inner).left = inner.left) ∧
      step ⟨token :: behind, shorter⟩ =
        again behind >>= fun others => .ok (element :: others.1, lift others.2)
  /-- Behind the closing mark nothing more is read. -/
  closed {token : Token} {behind : List Token} (shorter : (token :: behind).length < s.length)
    (same : token.lexeme = .ofChar closing) :
    ∃ rest, rest.left = behind ∧ step ⟨token :: behind, shorter⟩ = .ok ([element], rest)
  /-- The fault is about the next token, where the closing mark is expected. -/
  fault {rest : Rest s} (noComma : ahead? rest.left ≠ some .comma)
    (noClosing : ahead? rest.left ≠ some (.ofChar closing)) :
    step rest = .error (faultAt text.utf8ByteSize (.expectedMark closing) rest.left)

/-- Lists of elements agree if each element does. -/
theorem agrees_list {α : Type} (closing : Char) (isMark : closing ∈ Lexeme.marks)
    {one : (t : List Token) → Reading α t} {many : (t : List Token) → Reading (List α) t}
    {step : (t : List Token) → α × Rest t → Reading (List α) t}
    (reads : ∀ t, many t = one t >>= step t)
    (continues : ∀ t first,
      ReadsOn text many closing (fun rest => step t (first, rest)) first)
    {walkOne : (cursor : text.Pos) → Walk text α cursor.offset.byteIdx}
    {walkMany : (cursor : text.Pos) → Walk text (List α) cursor.offset.byteIdx}
    (walks : ∀ cursor, walkMany cursor = do
      let (first, after) ← walkOne cursor
      let (more, behind) ← separator closing after.position
      if more then
        let (others, last) ← walkMany behind.position
        return (first :: others, after.past (behind.past last))
      else return ([first], after.past behind))
    {cursor : text.Pos} {tokens : List Token} (faces : Faces cursor tokens)
    (each : ∀ (cursor : text.Pos) t, t.length ≤ tokens.length → Faces cursor t →
      Agrees (walkOne cursor) (one t)) :
    Agrees (walkMany cursor) (many tokens) := by
  induction length : tokens.length using Nat.strongRecOn generalizing cursor tokens with
  | _ n ih =>
    subst length
    rw [walks, reads]
    refine Agrees.bind (each cursor tokens (Nat.le_refl _) faces) fun first arrival rest faces => ?_
    have next := continues tokens first
    have takes := takesSeparator_separator closing isMark faces
    show Agrees (separator closing arrival.position >>= _) _
    obtain ⟨front, shorter⟩ := rest
    generalize separator closing arrival.position = outcome at takes
    cases takes with
    | @comma token behind last same isComma follows =>
      obtain rfl : front = token :: behind := same
      obtain ⟨lift, kept, continued⟩ := next.comma shorter isComma
      have fewer : behind.length < tokens.length := by grind
      have others := ih behind.length fewer follows.faces
        (fun cursor t within => each cursor t (by omega)) rfl
      rw [continued]
      refine Agrees.bind others fun others arrival rest faces => .value ?_
      rw [kept]
      exact faces
    | @closed token behind last same isClosing follows =>
      obtain rfl : front = token :: behind := same
      obtain ⟨rest, left, ended⟩ := next.closed shorter isClosing
      rw [ended]
      refine .value ?_
      rw [left]
      exact follows.faces
    | fault noComma noClosing part =>
      rw [next.fault noComma noClosing]
      exact .fault part

variable {typeParameters : List String}

/-- The walk over types agrees with their reader where at most so many tokens are left. -/
def TypesAgree (typeParameters : List String) (text : String) (count : Nat) : Prop :=
  ∀ (cursor : text.Pos) (tokens : List Token), tokens.length ≤ count → Faces cursor tokens →
    Agrees (walkType typeParameters cursor) (readType typeParameters text.utf8ByteSize tokens)

/-- Types agree where fewer tokens are left. -/
theorem TypesAgree.mono {count fewer : Nat} (agree : TypesAgree typeParameters text count)
    (noMore : fewer ≤ count) : TypesAgree typeParameters text fewer :=
  fun cursor tokens within => agree cursor tokens (Nat.le_trans within noMore)

/-- Types with commas between them agree if each type does. -/
theorem agrees_walkItems (faces : Faces cursor tokens)
    (types : TypesAgree typeParameters text tokens.length) :
    Agrees (walkItems typeParameters cursor)
      (readItems typeParameters text.utf8ByteSize tokens) := by
  refine agrees_list ')' (by decide) (fun t => by rw [readItems])
    (fun t first => ⟨?_, ?_, ?_⟩) (fun cursor => by rw [walkItems]) faces types
  · rintro ⟨lexeme, start, width, spaced⟩ behind shorter rfl
    exact ⟨_, fun _ => rfl, rfl⟩
  · rintro ⟨lexeme, start, width, spaced⟩ behind shorter same
    obtain rfl : lexeme = .rightParen := same
    exact ⟨_, rfl, rfl⟩
  · rintro ⟨front, shorter⟩ noComma noClosing
    cases front with
    | nil => rfl
    | cons token behind =>
      obtain ⟨lexeme, start, width, spaced⟩ := token
      cases lexeme with
      | comma => exact absurd rfl noComma
      | rightParen => exact absurd rfl noClosing
      | _ => rfl

/-- Parameters of a function agree if each type does. -/
theorem agrees_walkParameters (faces : Faces cursor tokens)
    (types : TypesAgree typeParameters text tokens.length) :
    Agrees (walkParameters typeParameters cursor)
      (readParameters typeParameters text.utf8ByteSize tokens) := by
  have seeks := seeks_eat ')' (by decide) faces
  rw [walkParameters]
  generalize eat ')' cursor = outcome at seeks
  cases seeks with
  | @found token rest arrival next same follows =>
    subst next
    rw [readParameters]
    simp only [if_pos (show token.lexeme = .rightParen from same)]
    exact .value follows.faces
  | @missed arrival other meets =>
    have items := agrees_walkItems meets.faces types
    have reads : readParameters typeParameters text.utf8ByteSize tokens =
        readItems typeParameters text.utf8ByteSize tokens := by
      cases tokens with
      | nil => rw [readParameters]
      | cons token rest =>
        have noClosing : token.lexeme ≠ .rightParen := fun same => other (congrArg some same)
        rw [readParameters]
        simp only [if_neg noClosing]
    rw [reads]
    show Agrees (walkItems typeParameters arrival.position >>= _) _
    generalize walkItems typeParameters arrival.position = walk at items
    generalize readItems typeParameters text.utf8ByteSize tokens = reading at items
    cases items with
    | value faces => exact .value faces
    | fault part => exact .fault part

/-- An argument of a class agrees if its type does. -/
theorem agrees_walkArgument (faces : Faces cursor tokens)
    (types : TypesAgree typeParameters text tokens.length) :
    Agrees (walkArgument typeParameters cursor)
      (readArgument typeParameters text.utf8ByteSize tokens) := by
  have seeks := seeks_eat '*' (by decide) faces
  rw [walkArgument]
  generalize eat '*' cursor = outcome at seeks
  cases seeks with
  | @found token rest arrival next same follows =>
    subst next
    rw [readArgument]
    simp only [if_pos (show token.lexeme = .star from same)]
    exact .value follows.faces
  | @missed arrival other meets =>
    have takes := takesMarker_marker? meets.faces
    show Agrees (marker? arrival.position >>= _) _
    generalize marker? arrival.position = outcome at takes
    cases takes with
    | @marked variance token rest last next marks ends =>
      subst next
      have noStar : token.lexeme ≠ .star := fun same => other (congrArg some same)
      rw [readArgument]
      simp only [if_neg noStar, marks]
      exact Agrees.bind (types _ rest (by simp) ends.faces) fun type last left faces => .value faces
    | unmarked noMark =>
      cases tokens with
      | nil =>
        have nothing := types arrival.position [] (Nat.le_refl _) meets.faces
        rw [readType] at nothing
        rw [readArgument]
        show Agrees (walkType typeParameters arrival.position >>= _) _
        generalize walkType typeParameters arrival.position = walk at nothing
        cases nothing with
        | fault part => exact .fault part
      | cons token rest =>
        have noStar : token.lexeme ≠ .star := fun same => other (congrArg some same)
        have marks : markedVariance token.lexeme rest = none := noMark
        rw [readArgument]
        simp only [if_neg noStar, marks]
        exact Agrees.bind (types _ _ (Nat.le_refl _) meets.faces) fun type last left faces =>
          .value faces

/-- Arguments of a class agree if each type does. -/
theorem agrees_walkArguments (faces : Faces cursor tokens)
    (types : TypesAgree typeParameters text tokens.length) :
    Agrees (walkArguments typeParameters cursor)
      (readArguments typeParameters text.utf8ByteSize tokens) := by
  have argument (cursor : text.Pos) (t : List Token) (within : t.length ≤ tokens.length)
      (faces : Faces cursor t) : Agrees (walkArgument typeParameters cursor)
        (readArgument typeParameters text.utf8ByteSize t) :=
    agrees_walkArgument faces (types.mono within)
  refine agrees_list '>' (by decide) (fun t => by rw [readArguments])
    (fun t first => ⟨?_, ?_, ?_⟩) (fun cursor => by rw [walkArguments]) faces argument
  · rintro ⟨lexeme, start, width, spaced⟩ behind shorter rfl
    exact ⟨_, fun _ => rfl, rfl⟩
  · rintro ⟨lexeme, start, width, spaced⟩ behind shorter same
    obtain rfl : lexeme = .greater := same
    exact ⟨_, rfl, rfl⟩
  · rintro ⟨front, shorter⟩ noComma noClosing
    cases front with
    | nil => rfl
    | cons token behind =>
      obtain ⟨lexeme, start, width, spaced⟩ := token
      cases lexeme with
      | comma => exact absurd rfl noComma
      | greater => exact absurd rfl noClosing
      | _ => rfl

/-! ## Types -/

/-- A value that ends with a question mark if one is ahead agrees. -/
theorem agrees_question {α : Type} {least : Nat} {s : List Token} (rest : Rest s)
    (change : Bool → α) (lift : Arrival text cursor.offset.byteIdx → Arrival text least)
    (kept : ∀ last, (lift last).position = last.position) (faces : Faces cursor rest.left) :
    Agrees (eatQuestion cursor >>= fun found => pure (change found.1, lift found.2))
      (pure (change (takeQuestion rest).1, (takeQuestion rest).2) : Reading α s) := by
  obtain ⟨last, taken, behind⟩ := eatQuestion_eq_ok faces
  rw [taken]
  refine .value ?_
  rw [kept]
  exact behind

/-- What stands behind the name of a class agrees if its arguments do. -/
theorem agrees_class {s : List Token} {least : Nat} (name : QualifiedName) (rest : Rest s)
    (lift : Arrival text cursor.offset.byteIdx → Arrival text least)
    (kept : ∀ last, (lift last).position = last.position) (faces : Faces cursor rest.left)
    (types : TypesAgree typeParameters text rest.left.length) :
    Agrees
      (do
        match ← eat '<' cursor with
        | .found inside =>
          let found ← walkArguments typeParameters inside.position
          let mark ← eatQuestion found.2.position
          return (.named name found.1 mark.1, lift (inside.past (found.2.extend mark.2)).oneLess)
        | .missed here =>
          let mark ← eatQuestion here.position
          return (.named name [] mark.1, lift (here.extend mark.2)))
      (match rest.next? with
        | some (⟨.less, _, _, _⟩, left) => do
          let (arguments, inner) ← readArguments typeParameters text.utf8ByteSize left.left
          let (nullable, left) := takeQuestion (left.through inner)
          return (.named name arguments nullable, left)
        | _ =>
          let (nullable, left) := takeQuestion rest
          return (.named name [] nullable, left) : Reading TypeExpr s) := by
  have seeks := seeks_eat '<' (by decide) faces
  obtain ⟨front, shorter⟩ := rest
  generalize eat '<' cursor = outcome at seeks
  cases seeks with
  | @found mark inside first next isLess follows =>
    obtain ⟨lexeme, place, width, spaced⟩ := mark
    obtain rfl : front = _ := next
    obtain rfl : lexeme = .less := isLess
    refine Agrees.bind (agrees_walkArguments follows.faces (types.mono (by simp)))
      fun arguments closed behind faces => ?_
    exact agrees_question _ (TypeExpr.named name arguments ·)
      (fun last => lift (first.past (closed.extend last)).oneLess) (fun _ => kept _) faces
  | @missed here other meets =>
    have bare := agrees_question (⟨front, shorter⟩ : Rest s) (TypeExpr.named name [] ·)
      (fun last => lift (here.extend last)) (fun _ => kept _) meets.faces
    cases front with
    | nil => exact bare
    | cons next behind =>
      obtain ⟨lexeme, start, width, spaced⟩ := next
      cases lexeme with
      | less => exact absurd rfl other
      | _ => exact bare

/-- A word ahead is seen by its first character, which is no opening parenthesis. -/
theorem sees_of_isWord {token : Token} {rest : List Token} {word : String}
    (meets : Meets cursor (token :: rest)) (isWord : token.lexeme = .word word) :
    sees startsName cursor = true ∧ sees (· == '(') cursor = false := by
  constructor
  · obtain ⟨sight, -⟩ | ⟨-, other⟩ := word_cases meets
    · exact sight
    · exact absurd (congrArg some isWord) (other word)
  · obtain ⟨-, first, others, next, same, isMark, -⟩ | ⟨sight, -⟩ :=
      mark_cases '(' (by decide) meets
    · obtain ⟨rfl, -⟩ := List.cons.inj same
      cases isWord.symm.trans isMark
    · exact sight

/-- What a word starts agrees if the types in it do. -/
theorem agrees_walkType_word {token : Token} {rest : List Token} {word : String}
    (faces : Faces cursor (token :: rest)) (isWord : token.lexeme = .word word)
    (types : TypesAgree typeParameters text rest.length) :
    Agrees (walkType typeParameters cursor)
      (readType typeParameters text.utf8ByteSize (token :: rest)) := by
  obtain ⟨start, skipped, meets⟩ := skipBlanks_eq_ok faces
  obtain ⟨named, noMark⟩ := sees_of_isWord meets isWord
  have takes := takesWord_identifier meets.faces
  rw [walkType, skipped, readType]
  simp only [isWord]
  show Agrees (if _ then _ else if _ then _ else _) _
  rw [if_neg (by simp [noMark]), if_pos named]
  generalize identifier start.position = outcome at takes
  cases takes with
  | fault other _ => exact absurd (congrArg some isWord) (other word)
  | @word first others found arrival same isFound follows =>
    obtain ⟨rfl, rfl⟩ := List.cons.inj same
    obtain rfl : word = found := Lexeme.word.inj (isWord.symm.trans isFound)
    refine Agrees.bind (agrees_segments follows) fun words last left faces => ?_
    dsimp only
    by_cases isDynamic : words = [] ∧ word = "dynamic"
    · rw [if_pos isDynamic, if_pos isDynamic]
      exact .value faces
    rw [if_neg isDynamic, if_neg isDynamic]
    by_cases isVariable : words = [] ∧ word ∈ typeParameters
    · rw [if_pos isVariable, if_pos isVariable]
      exact agrees_question _ (TypeExpr.variable word ·)
        (fun behind => start.extendPast (arrival.extend (last.extend behind))) (fun _ => rfl) faces
    rw [if_neg isVariable, if_neg isVariable]
    have agreed := agrees_class (className word words) left
      (fun behind => start.extendPast (arrival.extend (last.extend behind))) (fun _ => rfl) faces
      (types.mono (by grind))
    -- both sides look ahead, so they are compared for each lexeme that may be next
    rcases left with ⟨- | ⟨⟨lexeme, place, width, spaced⟩, inside⟩, shorter⟩
    · exact agreed.of_steps (by rintro (_ | _) <;> rfl)
    · cases lexeme <;> exact agreed.of_steps (by rintro (_ | _) <;> rfl)

/-- What stands in parentheses without an arrow behind them agrees: it is one type, or a fault. -/
theorem agrees_grouped {s : List Token} {least : Nat} {fault blamed : Fault} (rest : Rest s)
    (parameters : List TypeExpr) (lift : Arrival text cursor.offset.byteIdx → Arrival text least)
    (kept : ∀ last, (lift last).position = last.position) (faces : Faces cursor rest.left)
    (part : fault.IsPartOf text) (same : blamed = fault) :
    Agrees
      (match parameters with
        | [type] => do
          let (nullable, last) ← eatQuestion cursor
          return (if nullable then type.withNullable true else type, lift last)
        | _ => throw (.fault fault))
      (match parameters with
        | [type] =>
          let (nullable, left) := takeQuestion rest
          return (if nullable then type.withNullable true else type, left)
        | _ => .error blamed : Reading TypeExpr s) := by
  subst same
  rcases parameters with - | ⟨type, - | ⟨second, more⟩⟩
  · exact .fault part
  · exact agrees_question rest (if · then type.withNullable true else type) lift kept faces
  · exact .fault part

/-- The fault of a missing arrow is about what stands between an opening parenthesis and the token
behind the closing one. -/
theorem missingArrow_eq {start here : text.Pos} {token : Token} {rest front : List Token}
    (meets : Meets start (token :: rest)) (ends : Meets here front)
    (passed : start.offset.byteIdx < here.offset.byteIdx) :
    (⟨.missingArrow, token.start, position text.utf8ByteSize front - token.start⟩ : Fault) =
        ⟨.missingArrow, start.offset.byteIdx, here.offset.byteIdx - start.offset.byteIdx⟩ ∧
      (⟨.missingArrow, start.offset.byteIdx, here.offset.byteIdx - start.offset.byteIdx⟩ :
        Fault).IsPartOf text := by
  have starts : token.start = start.offset.byteIdx := meets.position_eq
  have stops : position text.utf8ByteSize front = here.offset.byteIdx := ends.position_eq
  rw [starts, stops]
  exact ⟨rfl, Fault.isPartOf_between .missingArrow start here passed⟩

/-- An opening parenthesis ahead is seen. -/
theorem sees_of_leftParen {token : Token} {rest : List Token} (meets : Meets cursor (token :: rest))
    (opens : token.lexeme = .leftParen) : sees (· == '(') cursor = true := by
  obtain ⟨sight, -⟩ | ⟨-, other⟩ := mark_cases '(' (by decide) meets
  · exact sight
  · exact absurd (congrArg some opens) other

/-- What an opening parenthesis starts agrees if the types in it do. -/
theorem agrees_walkType_leftParen {token : Token} {rest : List Token}
    (faces : Faces cursor (token :: rest)) (opens : token.lexeme = .leftParen)
    (types : TypesAgree typeParameters text rest.length) :
    Agrees (walkType typeParameters cursor)
      (readType typeParameters text.utf8ByteSize (token :: rest)) := by
  obtain ⟨start, skipped, meets⟩ := skipBlanks_eq_ok faces
  have takes := takesMark_expect '(' (by decide) meets.faces
  rw [walkType, skipped, readType]
  simp only [opens]
  show Agrees (if _ then _ else _) _
  rw [if_pos (sees_of_leftParen meets opens)]
  generalize expect '(' start.position = outcome at takes
  cases takes with
  | fault other _ => exact absurd (congrArg some opens) other
  | @mark first others arrival same _ follows =>
    obtain ⟨rfl, rfl⟩ := List.cons.inj same
    refine Agrees.bind (agrees_walkParameters follows.faces types)
      fun parameters closed after faces => ?_
    dsimp only
    have seeks := seeks_eatArrow faces
    obtain ⟨front, shorter⟩ := after
    generalize eatArrow closed.position = outcome at seeks
    cases seeks with
    | @found mark behind _ next isArrow follows =>
      obtain ⟨lexeme, place, width, spaced⟩ := mark
      obtain rfl : front = _ := next
      obtain rfl : lexeme = .arrow := isArrow
      exact Agrees.bind (types _ behind (by grind) follows.faces) fun result last left faces =>
        .value faces
    | @missed here other ends =>
      obtain ⟨blamed, part⟩ := missingArrow_eq meets ends (by grind)
      have grouped := agrees_grouped ((Rest.behind token rest).through ⟨front, shorter⟩) parameters
        (fun last => start.extendPast (arrival.past (closed.extend (here.extend last))))
        (fun _ => rfl) ends.faces part blamed
      cases front with
      | nil => exact grouped
      | cons mark behind =>
        obtain ⟨lexeme, place, width, spaced⟩ := mark
        cases lexeme with
        | arrow => exact absurd rfl other
        | _ => exact grouped

/-- The walk over a type agrees with the reader of types. -/
theorem agrees_walkType (typeParameters : List String) (faces : Faces cursor tokens) :
    Agrees (walkType typeParameters cursor)
      (readType typeParameters text.utf8ByteSize tokens) := by
  induction length : tokens.length using Nat.strongRecOn generalizing cursor tokens with
  | _ n ih =>
    subst length
    have types {count : Nat} (fewer : count < tokens.length) :
        TypesAgree typeParameters text count :=
      fun cursor t within faces => ih t.length (Nat.lt_of_le_of_lt within fewer) faces rfl
    obtain ⟨start, skipped, meets⟩ := skipBlanks_eq_ok faces
    obtain ⟨-, token, rest, -, rfl, opens, -⟩ | ⟨noMark, noOpening⟩ :=
      mark_cases '(' (by decide) meets
    · exact agrees_walkType_leftParen faces opens (types (by simp))
    · obtain ⟨-, token, rest, word, rfl, isWord⟩ | ⟨noName, noWord⟩ := word_cases meets
      · exact agrees_walkType_word faces isWord (types (by simp))
      · rw [walkType, skipped]
        show Agrees (if _ then _ else if _ then _ else if _ then _ else _) _
        rw [if_neg (by simp [noMark]), if_neg (by simp [noName])]
        cases tokens with
        | nil =>
          obtain ⟨fault, part⟩ := meets.faultHere_eq .expectedType
          rw [if_pos (byte?_eq_none_iff.2 (by simp [meets.byteIdx_lt_iff])), readType, fault]
          exact .fault part
        | cons token rest =>
          obtain ⟨fault, part⟩ := meets.faultHere_eq .unexpectedCharacter
          rw [if_neg (by simp [byte?_eq_none_iff, meets.byteIdx_lt_iff]), readType, fault]
          obtain ⟨lexeme, place, width, spaced⟩ := token
          cases lexeme with
          | leftParen => exact absurd rfl noOpening
          | word word => exact absurd rfl (noWord word)
          | _ => exact .fault part

end Cursor

/-- The walk over a text returns what is read from it, or stops with the fault of the reading, which
is about a part of the text. -/
theorem parseBytes_cases (typeParameters : List String) (text : String) :
    (∃ type, parseBytes typeParameters text = .ok type ∧ parse typeParameters text = .ok type) ∨
    ∃ fault, parseBytes typeParameters text = .error (.fault fault) ∧
      parse typeParameters text = .error fault ∧ fault.IsPartOf text := by
  have size : byteLength text.toList = text.utf8ByteSize := by
    rw [byteLength_eq_utf8ByteSize, String.ofList_toList]
  have agrees := Cursor.agrees_walkType typeParameters (follows_startPos text).faces
  rw [parseBytes, parse, size]
  generalize Cursor.walkType typeParameters text.startPos = walk at agrees
  generalize readType typeParameters text.utf8ByteSize (tokens text) = reading at agrees
  cases agrees with
  | fault part => exact .inr ⟨_, rfl, rfl, part⟩
  | @value type arrival rest faces =>
    obtain ⟨last, skipped, meets⟩ := Cursor.skipBlanks_eq_ok faces
    by_cases ended : rest.left = []
    · have atEnd : ¬last.position.offset.byteIdx < text.utf8ByteSize :=
        fun before => meets.byteIdx_lt_iff.1 before ended
      refine .inl ⟨type, ?_, if_pos ended⟩
      show (Cursor.skipBlanks arrival.position >>= _) = _
      rw [skipped]
      exact if_neg atEnd
    · obtain ⟨fault, part⟩ := meets.faultHere_eq .trailingInput
      refine .inr ⟨_, ?_, if_neg ended, part⟩
      show (Cursor.skipBlanks arrival.position >>= _) = _
      rw [skipped, ← fault]
      exact if_pos (meets.byteIdx_lt_iff.2 ended)

/-- Reading a type never leaves the boundaries of characters. The walk over the bytes of a text,
which checks every move of its cursor, is never stopped by such a check; it returns the type that is
read from the text, or stops with the same fault. And every fault is about a part of the text that
starts and ends between characters, does not reach behind the end, and is empty at the end only. -/
theorem bytes_read_on_boundaries (typeParameters : List String) (text : String) :
    (∀ offset, parseBytes typeParameters text ≠ .error (.offBoundary offset)) ∧
    parseBytes typeParameters text = (parse typeParameters text).mapError .fault ∧
    ∀ fault, parse typeParameters text = .error fault →
      fault.offset + fault.length ≤ text.utf8ByteSize ∧
      String.Pos.Raw.IsValid text ⟨fault.offset⟩ ∧
      String.Pos.Raw.IsValid text ⟨fault.offset + fault.length⟩ ∧
      (fault.length = 0 → fault.offset = text.utf8ByteSize) := by
  obtain ⟨type, walked, read⟩ | ⟨fault, walked, read, part⟩ := parseBytes_cases typeParameters text
  · rw [walked, read]
    exact ⟨nofun, rfl, nofun⟩
  · rw [walked, read]
    refine ⟨nofun, rfl, fun found same => ?_⟩
    obtain rfl := Except.error.inj same
    exact ⟨part.inside, part.starts, part.ends, part.empty⟩

end ViewGlue.TypeExpr
