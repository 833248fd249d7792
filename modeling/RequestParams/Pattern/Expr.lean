/-!
# Regular expressions

An expression is read as a map on sets of positions of a text: from the positions where a match may
begin to those where it may end. A set of positions is a list of flags, one for each gap between
characters, the ends of the text included.
-/

namespace RequestParams.Pattern

/-- A condition on the characters before and after a position. -/
inductive Assertion
  /-- The start of the text. -/
  | textStart
  /-- The end of the text. -/
  | textEnd
  /-- The start of a line; with `crlf` a carriage return ends a line too. -/
  | lineStart (crlf : Bool)
  /-- The end of a line. -/
  | lineEnd (crlf : Bool)
  /-- A word on exactly one side. -/
  | wordBoundary (word : Char → Bool)
  /-- A word on both sides or on none. -/
  | noWordBoundary (word : Char → Bool)
  /-- A word begins. -/
  | wordStart (word : Char → Bool)
  /-- A word ends. -/
  | wordEnd (word : Char → Bool)
  /-- No word before. -/
  | wordStartHalf (word : Char → Bool)
  /-- No word after. -/
  | wordEndHalf (word : Char → Bool)

/-- Whether an assertion holds between two characters, which are missing at the ends. -/
def Assertion.holds (before after : Option Char) : Assertion → Bool
  | textStart => before.isNone
  | textEnd => after.isNone
  | lineStart false => before.isNone || before == some '\n'
  | lineStart true =>
    before.isNone || before == some '\n' || (before == some '\r' && after != some '\n')
  | lineEnd false => after.isNone || after == some '\n'
  | lineEnd true =>
    after.isNone || after == some '\r' || (after == some '\n' && before != some '\r')
  | wordBoundary word => before.any word != after.any word
  | noWordBoundary word => before.any word == after.any word
  | wordStart word => !before.any word && after.any word
  | wordEnd word => before.any word && !after.any word
  | wordStartHalf word => !before.any word
  | wordEndHalf word => !after.any word

/-- A regular expression. -/
inductive Expr
  /-- The empty text. -/
  | empty
  /-- One character of a class, which takes `cost` times the storage of a single letter. -/
  | char (cls : Char → Bool) (cost : Nat)
  /-- No character, under a condition. -/
  | look (condition : Assertion)
  /-- One after the other. -/
  | seq (first second : Expr)
  /-- One or the other. -/
  | alt (left right : Expr)
  /-- Between `least` and `most` times; without `most` any number from `least` up. -/
  | repeated (e : Expr) (least : Nat) (most : Option Nat)

/-- One flag for each position of a text. -/
abbrev Positions := List Bool

namespace Positions

/-- The positions of either set. -/
def join (s t : Positions) : Positions := List.zipWith (· || ·) s t

/-- The positions after a character of the class that follows a position of the set. -/
def advance (text : List Char) (cls : Char → Bool) (s : Positions) : Positions :=
  false :: List.zipWith (fun here c => here && cls c) s text

/-- Applies a step a number of times. -/
def iterate (f : Positions → Positions) : Nat → Positions → Positions
  | 0, s => s
  | n + 1, s => iterate f n (f s)

/-- The positions of the first set that are not in the second. -/
def without (s t : Positions) : Positions := List.zipWith (fun a b => a && !b) s t

/-- Adds to the positions reached what up to a number of further steps reach. Each step is taken
from the positions that the last one added, since a step from any other position is known. -/
def closure (f : Positions → Positions) : Nat → Positions → Positions → Positions
  | 0, reached, _ => reached
  | n + 1, reached, added =>
    let next := (f added).without reached
    if next.any id then closure f n (reached.join next) next else reached

end Positions

/-- The characters before and after each position. -/
def neighbours (text : List Char) : List (Option Char × Option Char) :=
  List.zip (none :: text.map some) (text.map some ++ [none])

namespace Expr

/-- The positions where a match can end that begins at a position of the set. More repetitions than
the text has positions reach nothing new. -/
def ends (text : List Char) : Expr → Positions → Positions
  | empty, s => s
  | char cls _, s => s.advance text cls
  | look condition, s =>
    List.zipWith (fun here (before, after) => here && condition.holds before after) s
      (neighbours text)
  | seq first second, s => second.ends text (first.ends text s)
  | alt left right, s => (left.ends text s).join (right.ends text s)
  | repeated e least most, s =>
    let positions := text.length + 1
    let start := Positions.iterate (e.ends text) (min least positions) s
    match most with
    | none => Positions.closure (e.ends text) positions start start
    | some most => Positions.closure (e.ends text) (min (most - least) positions) start start

/-- Whether the expression matches a part of the text. -/
def matchesIn (e : Expr) (text : List Char) : Bool :=
  (e.ends text (List.replicate (text.length + 1) true)).any id

/-- Storage of the expression with its repetitions unrolled. -/
def size : Expr → Nat
  | empty | look _ => 0
  | char _ cost => cost
  | seq first second => first.size + second.size
  | alt left right => left.size + right.size
  | repeated e least most => e.size * most.getD (least + 1)

end Expr

end RequestParams.Pattern
