import RequestParams.Pattern.Bracket

/-!
# Reading patterns

A pattern is read with a stack of the groups that are still open. Each step consumes a part of the
pattern, so that reading ends. Look-around, references to groups, and patterns that unroll to too
large an expression are refused, as are all malformed ones.
-/

namespace RequestParams.Pattern

open Text

/-- A part of a branch. -/
inductive Item
  /-- An expression with the depth of its nesting. -/
  | expr (e : Expr) (depth : Nat)
  /-- A setting of flags, which cannot be repeated. -/
  | setting

/-- A group that is being read. -/
structure OpenGroup where
  /-- Finished branches, last first, with their nesting. -/
  branches : List (Expr × Nat)
  /-- Items of the branch being read, last first. -/
  items : List Item
  /-- The modes to return to after the group. -/
  outerFlags : Flags

namespace OpenGroup

/-- A group of which nothing has been read. -/
def start (outerFlags : Flags) : OpenGroup := ⟨[], [], outerFlags⟩

/-- Adds an item to the branch. -/
def push (group : OpenGroup) (e : Expr) (depth : Nat) : OpenGroup :=
  { group with items := .expr e depth :: group.items }

/-- The expression of the branch being read; several items are one level of nesting. -/
def branch (group : OpenGroup) : Expr × Nat :=
  let parts := group.items.filterMap fun
    | .expr e depth => some (e, depth)
    | .setting => none
  let depth := (parts.map Prod.snd).foldl max 0
  match group.items with
  | [] => (.empty, 0)
  | [_] => ((parts.head?.map Prod.fst).getD .empty, depth)
  | _ => (parts.foldl (fun e part => .seq part.1 e) .empty, depth + 1)

/-- Ends the branch. -/
def split (group : OpenGroup) : OpenGroup :=
  { group with branches := group.branch :: group.branches, items := [] }

/-- The expression of all branches; several branches are one level of nesting. -/
def value (group : OpenGroup) : Expr × Nat :=
  match group.branches with
  | [] => group.branch
  | branches =>
    let last := group.branch
    (branches.foldl (fun e branch => .alt branch.1 e) last.1,
      (branches.map Prod.snd).foldl max last.2 + 1)

end OpenGroup

/-- A pattern read in part. -/
structure State where
  /-- The modes in force. -/
  flags : Flags
  /-- The names of groups so far. -/
  names : List (List Char)
  /-- The innermost group, the whole pattern if none is open. -/
  group : OpenGroup
  /-- The groups around it, innermost first. -/
  outer : List OpenGroup
  /-- What is still to be read. -/
  rest : List Char

/-- The expression of a primitive; a byte beyond ASCII is no character in ASCII mode. -/
def primitiveExpr? (flags : Flags) : Primitive → Option Expr
  | .cls s cost => some (.char s cost)
  | .look condition => some (.look condition)
  | .literal c byte =>
    if flags.ascii && byte && 128 ≤ c.toNat then none
    else
      let single := CharClass.range c c
      if flags.caseless && (flags.unicode || c.toNat < 128) then
        some (.char (single.folded flags.ascii) 3)
      else
        some (.char single c.utf8Size)

/-- The class of a dot, which needs all characters. -/
def dotExpr? (flags : Flags) : Option Expr :=
  if flags.ascii then none
  else some (.char (fun c => flags.dotAll || !(c == '\n' || (flags.crlf && c == '\r'))) 31)

/-- The assertion of a caret. -/
def caret (flags : Flags) : Assertion :=
  if flags.multiline then .lineStart flags.crlf else .textStart

/-- The assertion of a dollar sign. -/
def dollar (flags : Flags) : Assertion :=
  if flags.multiline then .lineEnd flags.crlf else .textEnd

/-- Repeats the item read last; there must be one, and not a setting of flags. -/
def State.repeatLast? (state : State) (least : Nat) (most : Option Nat) (rest : List Char) :
    Option State :=
  match state.group.items with
  | .expr e depth :: items =>
    some { state with
      group := { state.group with items := .expr (.repeated e least most) (depth + 1) :: items }
      rest := rest }
  | _ => none

/-- Leaves out a mark of lazy repetition, which does not change whether a text matches. -/
def skipLazy (flags : Flags) (s : List Char) : List Char :=
  match flags.skip s with
  | '?' :: rest => rest
  | rest => rest

/-- Takes a count: digits with blanks around them, below `2 ^ 32`; a missing count is `none`. -/
def takeCount? (flags : Flags) (s : List Char) : Option (Option Nat × List Char) :=
  let (digits, rest) := digitsOf s.length (s.dropWhile isBlank)
  let rest := flags.skip (rest.dropWhile isBlank)
  match digits with
  | [] => some (none, rest)
  | digits =>
    let n := digitsValue digits
    if n < UInt32.size then some (some n, rest) else none
where
  /-- The leading digits, with skipped characters between them. -/
  digitsOf : Nat → List Char → List Char × List Char
    | n + 1, c :: rest =>
      if isDigit c then
        let (digits, rest) := digitsOf n (flags.skip rest)
        (c :: digits, rest)
      else ([], c :: rest)
    | _, rest => ([], rest)

/-- Reads the counts of a repetition after its brace: the least number, and the greatest if there is
one. The least may not be missing nor exceed the greatest. -/
def takeCounts? (flags : Flags) (s : List Char) : Option ((Nat × Option Nat) × List Char) := do
  let (least, rest) ← takeCount? flags (flags.skip s)
  let least ← least
  match rest with
  | '\x7d' :: rest => return ((least, some least), rest)
  | ',' :: rest =>
    match flags.skip rest with
    | '\x7d' :: rest => return ((least, none), rest)
    | rest => do
      let (most, rest) ← takeCount? flags rest
      let most ← most
      match rest with
      | '\x7d' :: rest => if least ≤ most then return ((least, some most), rest) else none
      | _ => none
  | _ => none

/-- Whether a character may start the name of a group. -/
def isNameStart (c : Char) : Bool := c == '_' || isAlphabetic c

/-- Whether a character may continue the name of a group. -/
def isNameChar (c : Char) : Bool :=
  c == '_' || c == '.' || c == '[' || c == ']' || isAlphabetic c || isNumeric c

/-- Reads the name of a group up to its closing angle. -/
def takeGroupName? (s : List Char) : Option (List Char × List Char) :=
  match s.span (· != '>') with
  | (first :: more, _ :: rest) =>
    if isNameStart first && more.all isNameChar then some (first :: more, rest) else none
  | _ => none

/-- Opens a group. -/
def State.openGroup (state : State) (inner : Flags) (rest : List Char) : State :=
  { state with
    flags := inner
    group := .start state.flags
    outer := state.group :: state.outer
    rest := rest }

/-- Opens a group with a name that no other group has. -/
def State.openNamed? (state : State) (s : List Char) : Option State := do
  let (name, rest) ← takeGroupName? s
  if name ∈ state.names then none
  else return { state.openGroup state.flags rest with names := name :: state.names }

/-- Reads what follows an opening parenthesis. -/
def State.openParen? (state : State) (s : List Char) : Option State :=
  match state.flags.skip s with
  | '?' :: '=' :: _ | '?' :: '!' :: _ | '?' :: '<' :: '=' :: _ | '?' :: '<' :: '!' :: _ => none
  | '?' :: 'P' :: '<' :: rest => state.openNamed? rest
  | '?' :: '<' :: rest => state.openNamed? rest
  | '?' :: rest =>
    match rest.span fun c => c != ':' && c != ')' with
    | (letters, ':' :: rest) =>
      (state.flags.setAll? true [] letters).map fun flags => state.openGroup flags rest
    | (letters, ')' :: rest) =>
      if letters.isEmpty then none
      else
        (state.flags.setAll? true [] letters).map fun flags =>
          { state with
            flags := flags
            group := { state.group with items := .setting :: state.group.items }
            rest := rest }
    | _ => none
  | rest => some (state.openGroup state.flags rest)

/-- Closes the innermost group. -/
def State.closeGroup? (state : State) (rest : List Char) : Option State :=
  match state.outer with
  | [] => none
  | next :: outer =>
    let (e, depth) := state.group.value
    some { state with
      flags := state.group.outerFlags
      group := next.push e (depth + 1)
      outer := outer
      rest := rest }

/-- Adds an item. -/
def State.add (state : State) (e : Expr) (depth : Nat) (rest : List Char) : State :=
  { state with group := state.group.push e depth, rest := rest }

/-- Reads the next part of a pattern that begins with `c`. -/
def State.step? (state : State) (c : Char) (rest : List Char) : Option State :=
  let flags := state.flags
  match c with
  | '(' => state.openParen? rest
  | ')' => state.closeGroup? rest
  | '|' => some { state with group := state.group.split, rest := rest }
  | '[' =>
    (takeClass? flags rest).map fun read =>
      state.add (.char read.cls read.cost) read.depth read.rest
  | '?' => state.repeatLast? 0 (some 1) (skipLazy flags rest)
  | '*' => state.repeatLast? 0 none (skipLazy flags rest)
  | '+' => state.repeatLast? 1 none (skipLazy flags rest)
  | '\x7b' =>
    (takeCounts? flags rest).bind fun ((least, most), rest) =>
      state.repeatLast? least most (skipLazy flags rest)
  | '.' => (dotExpr? flags).map fun e => state.add e 0 rest
  | '^' => some (state.add (.look (caret flags)) 0 rest)
  | '$' => some (state.add (.look (dollar flags)) 0 rest)
  | '\\' =>
    (takeEscape? flags rest).bind fun (element, rest) =>
      (primitiveExpr? flags element).map fun e => state.add e 0 rest
  | c => (primitiveExpr? flags (.literal c false)).map fun e => state.add e 0 rest

/-- Reads the rest of a pattern. Each step consumes a part of it. -/
def State.run? (state : State) : Option State :=
  match state.flags.skip state.rest with
  | [] => some state
  | c :: rest =>
    match state.step? c rest with
    | none => none
    | some next => if next.rest.length < state.rest.length then next.run? else none
termination_by state.rest.length

/-- The greatest nesting of a pattern. -/
def maxDepth : Nat := 250

/-- The greatest size of an expression, in letters. -/
def maxSize : Nat := 327680

/-- Reads a pattern. -/
def read? (pattern : List Char) : Option Expr := do
  let state ← State.run? ⟨{}, [], .start {}, [], pattern⟩
  let (e, depth) := state.group.value
  if state.outer.isEmpty && depth ≤ maxDepth && e.size ≤ maxSize then some e else none

end RequestParams.Pattern
