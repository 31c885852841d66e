import ViewGlue.Text.Identifier

/-!
# Numbers

Whole numbers of four bases and numbers with a fraction or an exponent, as manifests write them.
The value of a number of the second kind is never asked for, so only its form is checked. Words
that merely look like whole numbers pass too where no value is asked for.
-/

namespace ViewGlue.Manifest

/-- The value of a digit in base 16. -/
def hexDigit? (c : Char) : Option Nat :=
  if '0' ≤ c ∧ c ≤ '9' then some (c.toNat - '0'.toNat)
  else if 'a' ≤ c ∧ c ≤ 'f' then some (c.toNat - 'a'.toNat + 10)
  else if 'A' ≤ c ∧ c ≤ 'F' then some (c.toNat - 'A'.toNat + 10)
  else none

/-- The value of a digit in a base of at most 16. -/
def digit? (base : Nat) (c : Char) : Option Nat :=
  (hexDigit? c).filter (· < base)

/-- The number that digits of a base denote behind `value`. -/
def number? (base value : Nat) : List Char → Option Nat
  | [] => some value
  | c :: rest =>
    match digit? base c with
    | some digit => number? base (base * value + digit) rest
    | none => none

/-- The number that one or more digits of a base denote behind `value`. A single underscore may
stand between two digits. -/
def digits? (base value : Nat) : List Char → Option Nat
  | [] => none
  | [c] => (digit? base c).map (base * value + ·)
  | c :: '_' :: rest =>
    match digit? base c with
    | some digit => digits? base (base * value + digit) rest
    | none => none
  | c :: d :: rest =>
    match digit? base c with
    | some digit => digits? base (base * value + digit) (d :: rest)
    | none => none

/-- A number of base ten without a sign; it does not start with a zero unless it is zero. -/
def decimal? : List Char → Option Nat
  | ['0'] => some 0
  | '0' :: _ => none
  | s => digits? 10 0 s

/-- A number of base ten with or without a sign. -/
def signed? : List Char → Option Int
  | '+' :: s => (decimal? s).map Int.ofNat
  | '-' :: s => (decimal? s).map fun value => -Int.ofNat value
  | s => (decimal? s).map Int.ofNat

/-- The whole number that a word denotes. -/
def integer? : List Char → Option Int
  | '0' :: 'x' :: s => (digits? 16 0 s).map Int.ofNat
  | '0' :: 'o' :: s => (digits? 8 0 s).map Int.ofNat
  | '0' :: 'b' :: s => (digits? 2 0 s).map Int.ofNat
  | s => signed? s

/-- What stands behind a sign, if there is one. -/
def withoutSign : List Char → List Char
  | '+' :: s => s
  | '-' :: s => s
  | s => s

/-- The mark of an exponent. -/
def isExponentMark (c : Char) : Bool := c == 'e' || c == 'E'

/-- An exponent with its mark. -/
def isExponent : List Char → Bool
  | [] => false
  | mark :: s => isExponentMark mark && (digits? 10 0 (withoutSign s)).isSome

/-- A fraction, an exponent, or both in this order. -/
def isFraction : List Char → Bool
  | '.' :: s =>
    let exponent := s.dropWhile (! isExponentMark ·)
    (digits? 10 0 (s.takeWhile (! isExponentMark ·))).isSome &&
      (exponent.isEmpty || isExponent exponent)
  | s => isExponent s

/-- A number with a fraction or an exponent, an infinite one, or the word for no number. -/
def isReal (word : List Char) : Bool :=
  withoutSign word == "inf".toList || withoutSign word == "nan".toList ||
    ((signed? (word.takeWhile fun c => c != '.' && !isExponentMark c)).isSome &&
      isFraction (word.dropWhile fun c => c != '.' && !isExponentMark c))

/-- Whether a digit of base 16 is there. -/
def isHexDigit (c : Option Char) : Bool := (c.bind hexDigit?).isSome

/-- Parts of a word behind underscores. A digit of base 16 stands on either side of every
underscore between them. -/
def areLoose : List (List Char) → Bool
  | [] => true
  | [part] => isHexDigit part.head?
  | part :: next :: parts =>
    isHexDigit part.head? && isHexDigit part.getLast? && areLoose (next :: parts)

/-- Words that look like whole numbers: the mark of a base alone, or the digits of a number with
an underscore behind them and any characters but a dot, a space and a mark of an exponent further
on. -/
def isLoose (word : List Char) : Bool :=
  let parts := Text.splitChars (· == '_') word
  let digits := withoutSign (parts.headD [])
  word == "0x".toList || word == "0o".toList || word == "0b".toList ||
    (!digits.isEmpty && digits.all Text.isDigit && digits.head? != some '0' &&
      !parts.tail.isEmpty && areLoose parts.tail &&
      word.all fun c => c != '.' && c != ' ' && !isExponentMark c)

end ViewGlue.Manifest
