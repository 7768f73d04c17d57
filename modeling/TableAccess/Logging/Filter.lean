/-
**Which lines are written.**

A filter is a list of directives between commas.  A directive sets a limit for the parts of the
program whose names begin with its target; of several that apply the one with the longest target
decides.  A directive may ask for fields that a line must have, and for their values.  Without any
directive only errors are written, and a filter that cannot be read is replaced by the usual one.

Main definitions:

* `Logging.Directive`, `Directive.read?` — single directives;
* `Logging.Filter`, `Filter.read?`, `Filter.admits` — filters, and the lines they let through.
-/
import TableAccess.Logging.Line
import TableAccess.Logging.Pattern
import TableAccess.Text.Alphanumeric

set_option relaxedAutoImplicit false
set_option autoImplicit false

namespace TableAccess

namespace Logging

structure Directive where
  /-- The beginning of the names of the parts that the directive is for. -/
  target : Option (List Char)
  /-- The stretch of work within which the directive is for. -/
  stretch : Option (List Char)
  /-- The fields that a line must have, and the values that they must have. -/
  fields : List (List Char × Option (List Char))
  limit : Limit
deriving DecidableEq, Repr

namespace Directive

def everything : Directive := ⟨none, none, [], some .trace⟩

def upTo (level : Level) : Directive := ⟨none, none, [], some level⟩

/-! ### Reading -/

/-- Where in a directive one stands, with the place at which the part at hand began. -/
inductive Stage where
  | start
  | word (start : Nat)
  | stretch (start : Nat)
  | field (start : Nat)
  | fields
  | bracketed
  | level (start : Nat)
deriving DecidableEq, Repr

def cut (cs : List Char) (start stop : Nat) : List Char := (cs.take stop).drop start

def fieldOf (cs : List Char) : List Char × Option (List Char) :=
  match Text.cut '=' cs with
  | (name, value) => (name, value.map fun v => (Text.cut '=' v).1)

/-- Whether the value of a field can be asked for: it is a number or a pattern that can be used. -/
def valueFits (value : Option (List Char)) : Bool :=
  value.all fun v => Numeral.isReal v || Pattern.isUsable v

def mayBegin (c : Char) : Bool := c = '-' || c = ':' || c = '_' || Text.isAlphanumeric c

/-- The stage after a character, and the directive as it is known then.  Places count in the text
`cs`. -/
def step (cs : List Char) (pos : Nat) (c : Char) : Stage → Directive → Option (Stage × Directive)
  | .start, d =>
      if c = '[' then some (.stretch (pos + 1), d)
      else if mayBegin c then some (.word pos, d)
      else none
  | .word start, d =>
      if c = '=' then some (.level (pos + 1), { d with target := some (cut cs start pos) })
      else if c = '[' then some (.stretch (pos + 1), { d with target := some (cut cs start pos) })
      else some (.word start, d)
  | .stretch start, d =>
      if c = ']' then some (.bracketed, { d with stretch := some (cut cs start pos) })
      else if c = '\x7b' then
        let name := cut cs start pos
        some (.field (pos + 1), { d with stretch := if name = [] then none else some name })
      else some (.stretch start, d)
  | .field start, d =>
      if c = '\x7d' then
        let text := cut cs start pos
        if text = [] then none
        else if valueFits (fieldOf text).2 then
          some (.fields, { d with fields := d.fields ++ [fieldOf text] })
        else none
      else some (.field start, d)
  | .fields, d => if c = ']' then some (.bracketed, d) else none
  | .bracketed, d => if c = '=' then some (.level (pos + 1), d) else none
  | .level start, d => some (.level start, d)

def steps (cs : List Char) : Nat → List Char → Stage → Directive → Option (Stage × Directive)
  | _, [], stage, d => some (stage, d)
  | pos, c :: rest, stage, d =>
      match step cs pos c stage d with
      | some (stage', d') => steps cs (pos + 1) rest stage' d'
      | none => none

def finish (cs : List Char) : Stage → Directive → Option Directive
  | .word start, d =>
      let text := cs.drop start
      if text = [] then some { d with limit := some .trace, target := none }
      else
        match Limit.read? text with
        | some limit => some { d with limit, target := none }
        | none => some { d with limit := some .trace, target := some text }
  | .level start, d =>
      let text := cs.drop start
      if text = [] then some { d with limit := some .trace }
      else (Limit.read? text).map fun limit => { d with limit }
  | .bracketed, d => some d
  | _, _ => none

/-- The directive that is written.  Blanks around it are passed over when it is read, and count
when parts of it are taken. -/
def read? (cs : List Char) : Option Directive :=
  match steps cs 0 (Text.trimChars cs) .start everything with
  | some (stage, d) => finish cs stage d
  | none => none

/-! ### Lines -/

/-- Whether a directive is for lines that stand alone: it names no stretch of work and no values. -/
def isPlain (d : Directive) : Bool := d.stretch.isNone && d.fields.all fun f => f.2.isNone

/-- Whether a directive is for a line. -/
def concerns (d : Directive) (l : Line) : Bool :=
  (d.target.all fun t => (Text.dropPrefix? t l.target.toList).isSome)
    && d.fields.all fun f => l.names.contains (String.ofList f.1)

def targetSize (d : Directive) : Option Nat := d.target.map fun t => (String.ofList t).utf8ByteSize

/-- The order of two things by size and, of equal size, by what decides next. -/
def lexLe {α : Type} [Ord α] (a b : α) (next : Bool) : Bool :=
  match compare a b with
  | .lt => true
  | .eq => next
  | .gt => false

/-- The order of two plain directives: by the length of the target, the number of fields, the target
itself and the names of the fields.  The greatest directive for a line decides. -/
def le (d e : Directive) : Bool :=
  lexLe d.targetSize e.targetSize <|
    lexLe d.fields.length e.fields.length <|
      lexLe (d.target.map String.ofList) (e.target.map String.ofList) <|
        lexLe (d.fields.map Prod.fst) (e.fields.map Prod.fst) true

end Directive

/-- Directives, of which a later one replaces an earlier one of the same target and fields. -/
abbrev Filter := List Directive

namespace Filter

def usual : Filter := [.upTo .info]

/-- The filter that is written.  Nothing at all stands for errors only. -/
def read? (s : String) : Option Filter :=
  match ((Text.splitOn ',' s.toList).filter fun p => !p.isEmpty).mapM Directive.read? with
  | some [] => some [.upTo .error]
  | r => r

/-- The filter of a setting. -/
def ofSetting (s : Option String) : Filter := (s.bind read?).getD usual

/-- The directive that decides about a line. -/
def decisive? (f : Filter) (l : Line) : Option Directive :=
  (f.filter fun d => d.isPlain && d.concerns l).foldl
    (fun best d => match best with
      | some e => if e.le d then some d else some e
      | none => some d) none

def admits (f : Filter) (l : Line) : Bool :=
  match f.decisive? l with
  | some d => d.limit.admits l.level
  | none => false

end Filter

end Logging

end TableAccess
