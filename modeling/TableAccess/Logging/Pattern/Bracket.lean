/-
**Classes between brackets in a search pattern.**

A class lists characters, ranges, named classes and classes between brackets of their own, and may
combine lists by operators.  Here it is only told whether a class is well formed and can be used in
its mode, and how deep it is nested.

Main definitions:

* `Pattern.nesting` — how deep a row of things is nested;
* `Pattern.bracket?` — the class after its opening bracket.
-/
import TableAccess.Logging.Pattern.Part

set_option relaxedAutoImplicit false
set_option autoImplicit false

namespace TableAccess

namespace Logging

namespace Pattern

/-- How deep a row of things is nested: several of them count as one thing around them. -/
def nesting : List Nat → Nat
  | [] => 0
  | [d] => d
  | ds => 1 + ds.foldl max 0

/-! ### Lists -/

/-- A class that is being read. -/
structure Listing where
  /-- How deep each item since the last operator is nested. -/
  items : List Nat
  /-- How deep what stands before the last operator is nested. -/
  before : Option Nat

namespace Listing

def add (l : Listing) (depth : Nat) : Listing := { l with items := depth :: l.items }

def depth (l : Listing) : Nat :=
  match l.before with
  | none => nesting l.items
  | some d => 1 + max d (nesting l.items)

def operator (l : Listing) : Listing := ⟨[], some l.depth⟩

end Listing

/-! ### The beginning of a class -/

/-- Takes the hyphens that begin a class and stand for themselves. -/
def leadingHyphens (m : Mode) : Nat → Listing → List Char → Listing × List Char
  | 0, l, cs => (l, cs)
  | fuel + 1, l, cs =>
      match cs with
      | '-' :: rest => leadingHyphens m fuel (l.add 0) (m.skip rest)
      | _ => (l, cs)

/-- The class after its opening bracket as far as its first items need care: a sign that negates it,
hyphens, and a closing bracket that stands for itself because a class cannot be empty. -/
def beginning? (m : Mode) (cs : List Char) : Option (Listing × List Char) :=
  let cs := m.skip cs
  let (negated, cs) :=
    match cs with
    | '^' :: rest => (true, m.skip rest)
    | _ => (false, cs)
  let (l, rest) := leadingHyphens m cs.length ⟨[], none⟩ cs
  let (l, rest) :=
    match l.items, rest with
    | [], ']' :: rest => (l.add 0, m.skip rest)
    | _, _ => (l, rest)
  if negated && !m.byCharacter then none
  else if l.items.isEmpty || (Part.char '-' false).standsInBrackets m then some (l, rest)
  else none

/-! ### Items -/

/-- The names of classes that stand between colons. -/
def classNames : List String :=
  ["alnum", "alpha", "ascii", "blank", "cntrl", "digit", "graph", "lower", "print", "punct",
    "space", "upper", "word", "xdigit"]

/-- The class between colons after its opening bracket: whether it is negated, and what is left. -/
def colonClass? (cs : List Char) : Option (Bool × List Char) :=
  match cs with
  | ':' :: rest =>
      let (negated, rest) :=
        match rest with
        | '^' :: rest => (true, rest)
        | _ => (false, rest)
      match Text.cut ':' rest with
      | (name, some (']' :: rest)) =>
          if classNames.contains (String.ofList name) then some (negated, rest) else none
      | _ => none
  | _ => none

def colonClassFits (m : Mode) (negated : Bool) : Bool :=
  if m.byCharacter then !m.ignoresCase else !negated

/-- One end of a range, or an item by itself. -/
def item? (m : Mode) : List Char → Option (Part × List Char)
  | [] => none
  | '\\' :: cs => escape? m cs
  | c :: cs => some (.char c false, cs)

/-- What comes after blanks and the sign of one comment; `signed` tells that the sign was met. -/
def aheadOfBlanks (signed : Bool) : List Char → List Char
  | [] => []
  | c :: cs =>
      if Text.isBlank c then aheadOfBlanks signed cs
      else if !signed && c = '#' then aheadOfBlanks true cs
      else c :: cs

/-- Whether a hyphen stands for itself: a closing bracket or another hyphen follows. -/
def hyphenEnds (m : Mode) (cs : List Char) : Bool :=
  let ahead := if m.spaced then aheadOfBlanks false cs else cs
  let next := if ahead.isEmpty then cs.head? else ahead.head?
  next = some ']' || next = some '-'

/-- An item or a range, and what is left. -/
def itemOrRange? (m : Mode) (cs : List Char) : Option (List Char) := do
  let (low, rest) ← item? m cs
  if !low.standsInBrackets m then none
  match m.skip rest with
  | [] => none
  | '-' :: rest' =>
      if hyphenEnds m rest' then some ('-' :: rest')
      else do
        let (high, rest) ← item? m (m.skip rest')
        if !high.standsInBrackets m then none
        match low, high with
        | .char a _, .char b _ => if a ≤ b then some rest else none
        | _, _ => none
  | rest => some rest

/-! ### Whole classes -/

/-- Whether an operator stands here, and what is left after it. -/
def operator? : List Char → Option (List Char)
  | '&' :: '&' :: rest => some rest
  | '-' :: '-' :: rest => some rest
  | '~' :: '~' :: rest => some rest
  | _ => none

/-- How deep a class is nested and what is left after it.  The classes around the one at hand come
with the innermost first; every step takes at least one character. -/
def bracketFrom (m : Mode) :
    Nat → List Listing → Listing → List Char → Option (Nat × List Char)
  | 0, _, _, _ => none
  | fuel + 1, around, l, cs =>
      match m.skip cs with
      | [] => none
      | '[' :: rest =>
          match colonClass? rest with
          | some (negated, rest) =>
              if colonClassFits m negated then bracketFrom m fuel around (l.add 0) rest else none
          | none =>
              match beginning? m rest with
              | some (inner, rest) => bracketFrom m fuel (l :: around) inner rest
              | none => none
      | ']' :: rest =>
          match around with
          | [] => some (l.depth + 1, rest)
          | outer :: around => bracketFrom m fuel around (outer.add (l.depth + 1)) rest
      | cs =>
          match operator? cs with
          | some rest => bracketFrom m fuel around l.operator rest
          | none =>
              match itemOrRange? m cs with
              | some rest => bracketFrom m fuel around (l.add 0) rest
              | none => none

/-- The class after its opening bracket: how deep it is nested, and what is left. -/
def bracket? (m : Mode) (cs : List Char) : Option (Nat × List Char) :=
  match beginning? m cs with
  | some (l, rest) => bracketFrom m (cs.length + 1) [] l rest
  | none => none

end Pattern

end Logging

end TableAccess
