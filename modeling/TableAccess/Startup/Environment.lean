/-
**The environment.**

The environment gives values to names.  What the program is told by its environment can be completed
by a file, whose assignments count only where the environment is silent.

Main definitions:

* `Environment`, `Environment.get?` — the values by name;
* `Environment.fill` — a value for a name that has none.
-/

set_option relaxedAutoImplicit false
set_option autoImplicit false

namespace TableAccess

/-- Values by name. -/
abbrev Environment := List (String × String)

namespace Environment

def get? (e : Environment) (name : String) : Option String := e.lookup name

/-- Gives a value to a name that has none. -/
def fill (e : Environment) (name value : String) : Environment :=
  match e.get? name with
  | some _ => e
  | none => e ++ [(name, value)]

end Environment

end TableAccess
