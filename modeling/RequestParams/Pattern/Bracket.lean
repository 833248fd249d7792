import RequestParams.Pattern.Escape

/-!
# Bracketed classes

A bracketed class is a union of characters, ranges and classes, nested to any depth. Three binary
operations bind weaker than union and associate to the left.
-/

namespace RequestParams.Pattern

/-- An operation between the unions of a bracketed class. -/
inductive ClassOp
  | inter
  | diff
  | symmDiff
deriving DecidableEq, Repr

/-- A bracketed class that is still open. -/
structure OpenClass where
  /-- Whether its complement is meant. -/
  denied : Bool
  /-- What stands before the operation read last. -/
  left : Option (CharClass × ClassOp)
  /-- The union being read. -/
  union : CharClass
  /-- The number of items of the union. -/
  items : Nat
  /-- The nesting of the items and of what stands before them. -/
  depth : Nat
  /-- The cost of all items so far. -/
  cost : Nat

namespace OpenClass

/-- A class of which nothing has been read. -/
def start (denied : Bool) : OpenClass := ⟨denied, none, .none, 0, 0, if denied then 32 else 2⟩

/-- Adds an item to the union. -/
def add (level : OpenClass) (s : CharClass) (depth cost : Nat) : OpenClass :=
  { level with
    union := level.union.union s
    items := level.items + 1
    depth := max level.depth depth
    cost := level.cost + cost }

/-- The class read so far. With caseless letters the operands of an operation are folded. -/
def value (flags : Flags) (level : OpenClass) : CharClass :=
  let fold (s : CharClass) : CharClass := if flags.caseless then s.folded flags.ascii else s
  match level.left with
  | none => level.union
  | some (left, .inter) => (fold left).inter (fold level.union)
  | some (left, .diff) => (fold left).diff (fold level.union)
  | some (left, .symmDiff) => (fold left).symmDiff (fold level.union)

/-- The nesting of the class read so far: a union of several items is one level. -/
def valueDepth (level : OpenClass) : Nat :=
  let union := if level.items ≤ 1 then level.depth else level.depth + 1
  if level.left.isNone then union else union + 1

/-- Ends the union before an operation. -/
def operate (flags : Flags) (op : ClassOp) (level : OpenClass) : OpenClass :=
  { level with
    left := some (level.value flags, op)
    union := .none
    items := 0
    depth := level.valueDepth }

/-- The finished class: folded, then denied. In ASCII mode it must stay within ASCII. -/
def finish? (flags : Flags) (level : OpenClass) : Option CharClass :=
  let s := level.value flags
  let s := if flags.caseless then s.folded flags.ascii else s
  let s := if level.denied then s.complement flags.ascii else s
  if flags.ascii && !s.isAscii then none else some s

end OpenClass

/-- A class name between colons, with a caret if denied, and the text after the closing bracket. -/
def takeNamed? (s : List Char) : Option ((Bool × CharClass) × List Char) :=
  match s with
  | ':' :: rest =>
    let (denied, rest) := match rest with
      | '^' :: rest => (true, rest)
      | rest => (false, rest)
    match rest.span (· != ':') with
    | (name, ':' :: ']' :: rest) =>
      (CharClass.named? (String.ofList name)).map fun cls => ((denied, cls), rest)
    | _ => none
  | _ => none

/-- Reads the opening of a class after its bracket: a caret, hyphens that stand for themselves, and
a closing bracket that stands for itself where it comes first. -/
def openClass? (flags : Flags) (s : List Char) : Option (OpenClass × List Char) :=
  let (denied, s) := match flags.skip s with
    | '^' :: rest => (true, flags.skip rest)
    | rest => (false, rest)
  match hyphens s.length (OpenClass.start denied) s with
  | (_, []) => none
  | (level, ']' :: rest) =>
    if level.items = 0 then
      let rest := flags.skip rest
      if rest.isEmpty then none else some (level.add (.range ']' ']') 0 1, rest)
    else some (level, ']' :: rest)
  | (level, rest) => some (level, rest)
where
  /-- Adds the leading hyphens. -/
  hyphens : Nat → OpenClass → List Char → OpenClass × List Char
    | n + 1, level, '-' :: rest => hyphens n (level.add (.range '-' '-') 0 1) (flags.skip rest)
    | _, level, rest => (level, rest)

/-- Reads one element of a class. -/
def takeElement? (flags : Flags) (s : List Char) : Option (Primitive × List Char) :=
  match s with
  | [] => none
  | '\\' :: rest => takeEscape? flags rest
  | c :: rest => some (.literal c false, rest)

/-- The character of a literal inside a class; in ASCII mode it must be ASCII. -/
def literalChar? (flags : Flags) : Primitive → Option Char
  | .literal c _ => if flags.ascii && 128 ≤ c.toNat then none else some c
  | _ => none

/-- Cost of a range. -/
def rangeCost (last : Char) : Nat := if last.toNat < 128 then 1 else 8

/-- The class of an element that is no end of a range, with its cost. -/
def elementClass? (flags : Flags) : Primitive → Option (CharClass × Nat)
  | .cls s cost => some (s, cost)
  | .look _ => none
  | literal => (literalChar? flags literal).map fun c => (.range c c, rangeCost c)

/-- Reads an element of a class or a range of two, with its cost. -/
def takeRange? (flags : Flags) (s : List Char) : Option ((CharClass × Nat) × List Char) := do
  let (first, rest) ← takeElement? flags s
  match flags.skip rest with
  | [] => none
  | '-' :: more =>
    match flags.skip more with
    | ']' :: _ | '-' :: _ => return (← elementClass? flags first, '-' :: more)
    | more => do
      let (last, rest) ← takeElement? flags more
      let low ← literalChar? flags first
      let high ← literalChar? flags last
      if low ≤ high then return ((.range low high, rangeCost high), rest) else none
  | rest => return (← elementClass? flags first, rest)

/-- What one step of reading a class leads to. -/
inductive ClassStep
  /-- More is to be read; the open classes come innermost first. -/
  | more (level : OpenClass) (outer : List OpenClass) (rest : List Char)
  /-- The outermost class is closed. -/
  | done (s : CharClass) (depth cost : Nat) (rest : List Char)

/-- Reads the next part of a class. -/
def classStep? (flags : Flags) (level : OpenClass) (outer : List OpenClass) (s : List Char) :
    Option ClassStep := do
  match flags.skip s with
  | [] => none
  | '[' :: rest =>
    match takeNamed? rest with
    | some ((denied, cls), rest) =>
      let cls := if denied then cls.complement flags.ascii else cls
      return .more (level.add cls 0 3) outer rest
    | none =>
      let (inner, rest) ← openClass? flags rest
      return .more inner (level :: outer) rest
  | ']' :: rest =>
    let cls ← level.finish? flags
    match outer with
    | [] => return .done cls (level.valueDepth + 1) level.cost rest
    | next :: outer => return .more (next.add cls (level.valueDepth + 1) level.cost) outer rest
  | '&' :: '&' :: rest => return .more (level.operate flags .inter) outer rest
  | '-' :: '-' :: rest => return .more (level.operate flags .diff) outer rest
  | '~' :: '~' :: rest => return .more (level.operate flags .symmDiff) outer rest
  | rest =>
    let ((cls, cost), rest) ← takeRange? flags rest
    return .more (level.add cls 0 cost) outer rest

/-- A class that has been read. -/
structure ReadClass where
  /-- The class. -/
  cls : CharClass
  /-- Its nesting. -/
  depth : Nat
  /-- Its cost. -/
  cost : Nat
  /-- The text after it. -/
  rest : List Char

/-- Reads a class from inside its brackets to its end. Each step consumes a part of the text. -/
def readClass? (flags : Flags) (level : OpenClass) (outer : List OpenClass) (s : List Char) :
    Option ReadClass :=
  match classStep? flags level outer s with
  | none => none
  | some (.done cls depth cost rest) => some ⟨cls, depth, cost, rest⟩
  | some (.more level outer rest) =>
    if rest.length < s.length then readClass? flags level outer rest else none
termination_by s.length

/-- Reads a bracketed class after its opening bracket. -/
def takeClass? (flags : Flags) (s : List Char) : Option ReadClass :=
  (openClass? flags s).bind fun (level, rest) => readClass? flags level [] rest

end RequestParams.Pattern
