import RequestParams.Text.Digits

/-!
# Phone numbers

An optional country code and three groups of digits, each pair of neighbours apart by at most one
space or hyphen. The lengths of the groups vary, so that each part of the grammar takes a text to
the list of what may be left of it.
-/

namespace RequestParams.Grammar

open Text

/-- What is left after some number of digits between two bounds. -/
def afterDigits (least most : Nat) (s : List Char) : List (List Char) :=
  ((List.range (most + 1)).filter fun n =>
    least ≤ n && n ≤ s.length && (s.take n).all isDigit).map s.drop

/-- What is left after at most one space or hyphen. -/
def afterSeparator (s : List Char) : List (List Char) :=
  match s with
  | ' ' :: rest | '-' :: rest => [s, rest]
  | _ => [s]

/-- What is left after an optional country code: a plus, up to three digits, and a separator. -/
def afterCountry (s : List Char) : List (List Char) :=
  match s with
  | '+' :: rest => s :: (afterDigits 1 3 rest).flatMap afterSeparator
  | _ => [s]

/-- Whether a text is a phone number. `Rule.accepts_regex_phonePattern` has these texts as those of
a pattern. -/
def isPhone (s : String) : Bool :=
  let area := (afterCountry s.toList).flatMap (afterDigits 2 4)
  let exchange := (area.flatMap afterSeparator).flatMap (afterDigits 3 4)
  let subscriber := (exchange.flatMap afterSeparator).flatMap (afterDigits 4 4)
  subscriber.any List.isEmpty

end RequestParams.Grammar
