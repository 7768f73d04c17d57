/-
**Search patterns.**

The value that a directive asks of a field may be given as a pattern.  A pattern is a row of parts
with alternatives, repetitions and groups.  Only whether it can be used matters: a directive whose
pattern cannot be used makes its filter unreadable.

Main definitions:

* `Pattern.Row` — what was read of a group;
* `Pattern.group?` — what an opening parenthesis begins;
* `Pattern.isUsable` — whether a pattern can be used.
-/
import TableAccess.Logging.Pattern.Bracket
import TableAccess.Text.Alphanumeric

set_option relaxedAutoImplicit false
set_option autoImplicit false

namespace TableAccess

namespace Logging

namespace Pattern

/-! ### Rows -/

/-- What was read of a group. -/
structure Row where
  /-- How deep each part of the alternative at hand is nested, the last part first.  A switch of the
  mode is not nested and cannot be repeated. -/
  parts : List (Option Nat)
  /-- How deep the alternatives before are nested. -/
  alternatives : List Nat

namespace Row

def empty : Row := ⟨[], []⟩

def add (r : Row) (depth : Nat) : Row := { r with parts := some depth :: r.parts }

def switch (r : Row) : Row := { r with parts := none :: r.parts }

/-- The row with its last part repeated. -/
def repeatLast? (r : Row) : Option Row :=
  match r.parts with
  | some d :: rest => some { r with parts := some (d + 1) :: rest }
  | _ => none

/-- How deep the alternative at hand is nested. -/
def lastDepth (r : Row) : Nat := nesting (r.parts.map fun p => p.getD 0)

def depth (r : Row) : Nat :=
  match r.alternatives with
  | [] => r.lastDepth
  | ds => nesting (r.lastDepth :: ds)

/-- The row at the beginning of its next alternative. -/
def alternative (r : Row) : Row := ⟨[], r.lastDepth :: r.alternatives⟩

end Row

/-! ### Groups -/

/-- What an opening parenthesis begins: a switch of the mode up to the end of the group around it,
or a group, which may have a name. -/
inductive Opening where
  | switch (m : Mode)
  | group (m : Mode) (name : Option (List Char))

/-- The mode after a row of switches, the switches, the character that ends them and what is left.
`seen` holds the switches before, among them the hyphen that turns off those after it. -/
def switches? (m : Mode) (seen : List Char) :
    List Char → Option (Mode × List Char × Char × List Char)
  | [] => none
  | c :: cs =>
      if c = ':' || c = ')' then
        if seen.head? = some '-' then none else some (m, seen, c, cs)
      else if seen.contains c then none
      else if c = '-' then switches? m (c :: seen) cs
      else
        match m.set? c !(seen.contains '-') with
        | some m' => switches? m' (c :: seen) cs
        | none => none

def isGroupName : List Char → Bool
  | [] => false
  | c :: cs =>
      (c = '_' || Text.isAlphabetic c)
        && cs.all fun d => d = '_' || d = '.' || d = '[' || d = ']' || Text.isAlphanumeric d

/-- A group whose name begins here and ends with an angle bracket. -/
def namedGroup? (m : Mode) (cs : List Char) : Option (Opening × List Char) :=
  match Text.cut '>' cs with
  | (name, some rest) => if isGroupName name then some (.group m name, rest) else none
  | (_, none) => none

/-- What an opening parenthesis begins, and what is left.  A look at what stands before or after a
place is not among the groups. -/
def group? (m : Mode) (cs : List Char) : Option (Opening × List Char) :=
  match m.skip cs with
  | '?' :: 'P' :: '<' :: rest => namedGroup? m rest
  | '?' :: '<' :: rest => namedGroup? m rest
  | '?' :: rest =>
      match switches? m [] rest with
      | some (m', seen, c, rest) =>
          if c = ':' then some (.group m' none, rest)
          else if seen.isEmpty then none
          else some (.switch m', rest)
      | none => none
  | rest => some (.group m none, rest)

/-! ### Whole patterns -/

/-- The part that begins with a character, and what is left. -/
def part? (m : Mode) (c : Char) (cs : List Char) : Option (Part × List Char) :=
  if c = '\\' then escape? m cs
  else if c = '.' then some (.any, cs)
  else if c = '^' || c = '$' then some (.place false, cs)
  else some (.char c false, cs)

/-- What is left after the sign that makes a repetition as short as can be. -/
def afterShortest : List Char → List Char
  | '?' :: cs => cs
  | cs => cs

/-- How deep a pattern is nested, if it can be used.  The groups around the row at hand come with
the innermost first, each with the mode to go back to; every step takes at least one character. -/
def depthFrom :
    Nat → List (List Char) → List (Row × Mode) → Row → Mode → List Char → Option Nat
  | 0, _, _, _, _, _ => none
  | fuel + 1, names, around, row, m, cs =>
      match m.skip cs with
      | [] => if around.isEmpty then some row.depth else none
      | c :: cs =>
          if c = '(' then
            match group? m cs with
            | some (.switch m', rest) => depthFrom fuel names around row.switch m' rest
            | some (.group m' none, rest) =>
                depthFrom fuel names ((row, m) :: around) .empty m' rest
            | some (.group m' (some name), rest) =>
                if names.contains name then none
                else depthFrom fuel (name :: names) ((row, m) :: around) .empty m' rest
            | none => none
          else if c = ')' then
            match around with
            | (outer, m') :: around => depthFrom fuel names around (outer.add (row.depth + 1)) m' cs
            | [] => none
          else if c = '|' then depthFrom fuel names around row.alternative m cs
          else if c = '[' then
            match bracket? m cs with
            | some (d, rest) => depthFrom fuel names around (row.add d) m rest
            | none => none
          else if c = '*' || c = '+' || c = '?' then
            match row.repeatLast? with
            | some row => depthFrom fuel names around row m (afterShortest cs)
            | none => none
          else if c = '\x7b' then none
          else
            match part? m c cs with
            | some (p, rest) =>
                if p.standsAlone m then depthFrom fuel names around (row.add 0) m rest else none
            | none => none

/-- The bound on nesting. -/
def maxDepth : Nat := 250

def isUsable (cs : List Char) : Bool :=
  match depthFrom (cs.length + 1) [] [] .empty .usual cs with
  | some d => d ≤ maxDepth
  | none => false

end Pattern

end Logging

end TableAccess
