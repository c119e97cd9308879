import EntityEngine.Sql.Function.Text

/-!
Texts made from a pattern, in which marks stand for values: a `%` with flags, a width, a precision
and a letter for the form of the value. A mark of no known form ends the text.
-/

namespace EntityEngine.Sql

open Number Text

/-- What a mark says about the text of its value. -/
structure Mark where
  isLeft : Bool := false
  /-- The sign of numbers that are not negative. -/
  plus : Option Char := none
  isAlternate : Bool := false
  /-- Texts are measured in characters, and doubles have more digits. -/
  isWide : Bool := false
  isZeroPadded : Bool := false
  isGrouped : Bool := false
  width : Nat := 0
  precision : Option Nat := none
  deriving Repr, DecidableEq

namespace Mark

/-- A width or a precision of 31 binary digits. -/
def bounded (n : Nat) : Nat := n % 0x80000000

/-- The width or precision that a value gives, and whether it is negative. -/
def sizeOf (v : Value) : Nat × Bool :=
  let n := Int.bmod v.toInteger 0x100000000
  (if n = -0x80000000 then 0 else n.natAbs, n < 0)

/-- Whether the mark goes on with a precision or the letter for a long number. -/
def goesOn (s : List Char) : Bool := s.head? = some '.' || s.head? = some 'l'

/-- A mark read up to the letter of its form, with the values that are left. The fuel is the
length of the text. -/
def scan : Nat → Mark → List Value → List Char → Mark × List Value × List Char
  | 0, m, vs, s => (m, vs, s)
  | _, m, vs, [] => (m, vs, [])
  | fuel + 1, m, vs, c :: s =>
    let all := c :: s
    if c = '-' then scan fuel { m with isLeft := true } vs s
    else if c = '+' ∨ c = ' ' then scan fuel { m with plus := some c } vs s
    else if c = '#' then scan fuel { m with isAlternate := true } vs s
    else if c = '!' then scan fuel { m with isWide := true } vs s
    else if c = '0' then scan fuel { m with isZeroPadded := true } vs s
    else if c = ',' then scan fuel { m with isGrouped := true } vs s
    else if c = 'l' then (m, vs, if s.head? = some 'l' then s.drop 1 else s)
    else if isDigit c then
      let rest := all.dropWhile isDigit
      let m := { m with width := bounded (ofDigits (all.takeWhile isDigit)) }
      if goesOn rest then scan fuel m vs rest else (m, vs, rest)
    else if c = '*' then
      let (n, negative) := sizeOf (vs.head?.getD .null)
      let m := { m with width := n, isLeft := m.isLeft || negative }
      if goesOn s then scan fuel m (vs.drop 1) s else (m, vs.drop 1, s)
    else if c = '.' then
      let (m, vs, rest) := match s with
        | '*' :: s =>
          let (n, negative) := sizeOf (vs.head?.getD .null)
          ({ m with precision := if negative ∧ n = 0 then none else some n }, vs.drop 1, s)
        | s =>
          ({ m with precision := some (bounded (ofDigits (s.takeWhile isDigit))) }, vs,
            s.dropWhile isDigit)
      if rest.head? = some 'l' then scan fuel m vs rest else (m, vs, rest)
    else (m, vs, all)

/-- Digits in groups of three from the end. -/
def grouped : List Char → List Char
  | [] => []
  | c :: s =>
    if s.length % 3 = 0 && !s.isEmpty then c :: ',' :: grouped s else c :: grouped s

def zeros (n : Nat) : List Char := List.replicate n '0'

/-- An integer in base ten, with a sign unless it counts as natural. -/
def integerChars (m : Mark) (ordinal isNatural : Bool) (n : Int) : List Char :=
  let sign := if isNatural then [] else if n < 0 then ['-'] else m.plus.toList
  let size := if isNatural then (n % 0x10000000000000000).toNat else n.natAbs
  let ending := if !ordinal then "" else
    if 4 ≤ size % 10 ∨ size / 10 % 10 = 1 then "th"
    else (["th", "st", "nd", "rd"][size % 10]?).getD ""
  let digits := Nat.toDigits 10 size ++ ending.toList
  let least := if m.isZeroPadded then max (m.precision.getD 0) (m.width - sign.length)
    else m.precision.getD 0
  let digits := zeros (least - digits.length) ++ digits
  sign ++ if m.isGrouped && !ordinal then grouped digits else digits

/-- A natural number in base eight or sixteen. -/
def radixChars (m : Mark) (base : Nat) (mark : String) (isCapital : Bool) (n : Int) :
    List Char :=
  let size := (n % 0x10000000000000000).toNat
  let digits := Nat.toDigits base size
  let digits := if isCapital then digits.map Char.toUpper else digits
  let least := max (m.precision.getD 0) (if m.isZeroPadded then m.width else 0)
  (if m.isAlternate ∧ size ≠ 0 then mark.toList else []) ++
    zeros (least - digits.length) ++ digits

/-- The digits of a finite double that are looked at: `kept` of them, or as many as reach `kept`
places behind the point. Without places behind the point none are rounded away. -/
def digitsOf (m : Mark) (x : Float) (kept : Nat) (behindPoint : Bool) : Decimal :=
  if magnitude x = 0 then ⟨['0'], 1⟩
  else
    let (n, power) := countOf x
    let point := decimalWidth n + power
    let count : Int := if behindPoint then point + kept else kept
    let most := if m.isWide then 26 else 16
    if behindPoint ∧ kept = 0 then decimalOf n power
    else if count < 0 then ⟨[], point⟩
    else
      let d := cutDigits n power (min count.toNat most)
      if d.digits.isEmpty then ⟨[], point⟩ else d

/-- Digits without the zeros at the end of their fraction. -/
def trimFraction (keepsOne : Bool) (s : List Char) : List Char :=
  let s := trimZeros s
  if s.getLast? = some '.' then (if keepsOne then s ++ ['0'] else s.dropLast) else s

/-- The digits of a number around its point, `places` of them behind it. -/
def around (m : Mark) (d : Decimal) (places : Nat) : List Char :=
  let whole := if d.point ≤ 0 then ['0'] else
    d.digits.take d.point.toNat ++ zeros (d.point.toNat - d.digits.length)
  let behind := zeros (-d.point).toNat ++ d.digits.drop d.point.toNat
  let point := if 0 < places || m.isAlternate || m.isWide then ['.'] else []
  (if m.isGrouped then grouped whole else whole) ++ point ++
    (behind.take places ++ zeros (places - behind.length))

/-- The exponent of a number. -/
def exponentOf (letter : Char) (n : Int) : List Char :=
  let digits := Nat.toDigits 10 n.natAbs
  letter :: (if n < 0 then '-' else '+') :: (zeros (2 - digits.length) ++ digits)

/-- The forms of doubles: with places behind the point, with an exponent, or the shorter one. -/
inductive RealForm where
  | places
  | exponent
  | general
  deriving Repr, DecidableEq

/-- A double. An infinite one is a nine with a thousand digits where zeros fill the width. -/
def realChars (m : Mark) (form : RealForm) (letter : Char) (x : Float) : List Char :=
  let sign := if isNegative x && magnitude x ≠ 0 then ['-'] else m.plus.toList
  if x.isNaN then (if m.isZeroPadded then "null" else "NaN").toList
  else if isSpecial x && !m.isZeroPadded then sign ++ "Inf".toList
  else
    let precision := m.precision.getD 6
    let digits (kept : Nat) (behindPoint : Bool) : Decimal :=
      if isSpecial x then ⟨['9'], 1000⟩ else m.digitsOf x kept behindPoint
    let scientific (d : Decimal) (places : Nat) (trims : Bool) : List Char :=
      let s := m.around ⟨d.digits, 1⟩ places
      (if trims && s.contains '.' then trimFraction m.isWide s else s) ++
        exponentOf letter (d.point - 1)
    let plain (d : Decimal) (places : Nat) (trims : Bool) : List Char :=
      let s := m.around d places
      if trims && s.contains '.' then trimFraction m.isWide s else s
    let body := match form with
      | .places => plain (digits precision true) precision m.isWide
      | .exponent => scientific (digits (precision + 1) false) precision m.isWide
      | .general =>
        let most := max precision 1
        let d := digits most false
        let exponent := d.point - 1
        if exponent < -4 ∨ exponent > most - 1 then scientific d (most - 1) (!m.isAlternate)
        else plain d (most - 1 - exponent).toNat (!m.isAlternate)
    let fill := if m.isZeroPadded && !m.isLeft then m.width - (sign.length + body.length) else 0
    sign ++ zeros fill ++ body

/-- The start of a text, as long as the precision says. -/
def shortenedChars (m : Mark) (s : List Char) : List Char :=
  match m.precision with
  | some n =>
    if m.isWide then s.take n else if byteLength s ≤ n then s else ofBytesLossy ((textBytes s).take n)
  | none => s

/-- A text in its width, with blanks on one side. -/
def filled (m : Mark) (wide : Bool) (s : List Char) : List Char :=
  let blanks := List.replicate (m.width - if wide then s.length else byteLength s) ' '
  if m.isLeft then s ++ blanks else blanks ++ s

/-- A text with its quotes written twice. -/
def quotedChars (m : Mark) (quote : Char) (isWhole : Bool) (v : Value) : List Char :=
  if v.isNull then m.shortenedChars (if isWhole then "NULL" else "(NULL)").toList
  else
    let s := double quote (m.shortenedChars (untilNull v.chars))
    if isWhole then quote :: (s ++ [quote]) else s

/-- The first character of a text, as often as the precision says. -/
def repeatedChar (m : Mark) (v : Value) : List Char :=
  let c := (untilNull v.chars).head?.getD (Char.ofNat 0)
  List.replicate (max (m.precision.getD 1) 1) c

/-- The text for a value in the form of a letter; none if there is no such form. -/
def write (m : Mark) (letter : Char) (v : Value) : Option (List Char) :=
  let text (s : List Char) : Option (List Char) := some (m.filled m.isWide s)
  let number (s : List Char) : Option (List Char) := some (m.filled false s)
  if letter = 'd' ∨ letter = 'i' then number (m.integerChars false false v.toInteger)
  else if letter = 'u' then number (m.integerChars false true v.toInteger)
  else if letter = 'r' then number (m.integerChars true false v.toInteger)
  else if letter = 'o' then number (m.radixChars 8 "0" false v.toInteger)
  else if letter = 'x' ∨ letter = 'p' then number (m.radixChars 16 "0x" false v.toInteger)
  else if letter = 'X' then number (m.radixChars 16 "0X" true v.toInteger)
  else if letter = 'f' then number (m.realChars .places 'e' v.toDouble)
  else if letter = 'e' ∨ letter = 'E' then number (m.realChars .exponent letter v.toDouble)
  else if letter = 'g' then number (m.realChars .general 'e' v.toDouble)
  else if letter = 'G' then number (m.realChars .general 'E' v.toDouble)
  else if letter = 's' ∨ letter = 'z' then text (m.shortenedChars (untilNull v.chars))
  else if letter = 'q' then text (m.quotedChars '\'' false v)
  else if letter = 'Q' then text (m.quotedChars '\'' true v)
  else if letter = 'w' then text (m.quotedChars '"' false v)
  else if letter = 'c' then some (m.filled true (m.repeatedChar v))
  else none

end Mark

/-- The text of a pattern with values in the places of its marks; none if there is nothing to be
written. The fuel is the length of the pattern. -/
def formatted : Nat → List Value → List Char → Option (List Char)
  | 0, _, _ => none
  | _, _, [] => none
  | fuel + 1, vs, c :: s =>
    let more (text : List Char) (vs : List Value) (rest : List Char) : Option (List Char) :=
      some (text ++ (formatted fuel vs rest).getD [])
    if c ≠ '%' then more [c] vs s
    else if s.isEmpty then some ['%']
    else
      let (m, vs, rest) := Mark.scan s.length {} vs s
      match rest with
      | [] => none
      | letter :: rest =>
        if letter = '%' then more (m.filled false ['%']) vs rest
        else if letter = 'n' then more [] vs rest
        else
          match m.write letter (vs.head?.getD .null) with
          | some text => more text (vs.drop 1) rest
          | none => none

namespace Value

/-- The text of a pattern and values. -/
def format : List Value → Value
  | [] => null
  | p :: vs =>
    let pattern := untilNull p.chars
    match formatted pattern.length vs pattern with
    | some s => .text (String.ofList s)
    | none => null

/-- A value as it is written in a statement. -/
def quote : Value → Value
  | null => .text "NULL"
  | integer n => .text (toString n)
  | real x =>
    let general : Mark := { isWide := true, precision := some 15 }
    let exact : Mark := { isWide := true, precision := some 20 }
    let s := general.realChars .general 'e' x
    .text (String.ofList (if (doubleStart s) == x then s else exact.realChars .exponent 'e' x))
  | text s => .text (String.ofList (({} : Mark).quotedChars '\'' true (.text s)))
  | blob bytes => .text ("X'" ++ capitals (hexText bytes) ++ "'")

/-- The largest double that may have a fraction. -/
def lastFraction : Float := 4503599627370496

/-- A number rounded to some places behind the point. -/
def round (v : Value) (places : Option Value) : Value :=
  if v.isNull || places.any isNull then null
  else
    let x := v.toDouble
    let n := (max 0 (min 30 ((places.map toInt32).getD 0))).toNat
    if x < -lastFraction || lastFraction < x then ofReal x
    else if n = 0 then .real (ofInteger (wholePart (if x < 0 then x - 0.5 else x + 0.5)))
    else
      let m : Mark := { isWide := true, precision := some n }
      ofReal (doubleStart (m.realChars .places 'f' x))

end Value

end EntityEngine.Sql
