import NodeDeploy.Text.Numeral

/-! # Decimal fractions

A text writes a real number by an optional sign and either a word for an infinity or for no number,
in any case, or digits that may have a point among them and an exponent behind them.

* `isReal` decides.
-/

namespace NodeDeploy.Text

def withoutSign : List Char → List Char
  | '+' :: cs => cs
  | '-' :: cs => cs
  | cs => cs

def isDigits (cs : List Char) : Bool := !cs.isEmpty && cs.all isDigit

def isExponent : List Char → Bool
  | [] => true
  | c :: cs => (c = 'e' || c = 'E') && isDigits (withoutSign cs)

/-- Whether a text is digits, a point among them or not, and an exponent or none. -/
def isDecimal (cs : List Char) : Bool :=
  let whole := cs.takeWhile isDigit
  match cs.dropWhile isDigit with
  | '.' :: rest =>
    let part := rest.takeWhile isDigit
    !(whole.isEmpty && part.isEmpty) && isExponent (rest.dropWhile isDigit)
  | rest => !whole.isEmpty && isExponent rest

def isReal (cs : List Char) : Bool :=
  let unsigned := withoutSign cs
  let word := String.ofList (unsigned.map Char.toLower)
  word = "inf" || word = "infinity" || word = "nan" || isDecimal unsigned

end NodeDeploy.Text
