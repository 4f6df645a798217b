import PagedSelect.Filter.Strategy
/-!
# Registries

The strategies for conditions by the name of their operator.  The order of first registration is the
precedence among the operators of one condition; registering a name again replaces its strategy in
its place.  A name is a text: a caller who has another value names the operator by the text of that
value (`Value.plain`), to register it, to look it up and to take it out alike.
-/

namespace PagedSelect

/-- Strategies under their names, in the order of precedence. -/
structure Registry where
  entries : List (String × Strategy)

namespace Registry

def empty : Registry := ⟨[]⟩

def register (r : Registry) (s : Strategy) : Registry := ⟨Keyed.put s.name s r.entries⟩

def unregister (r : Registry) (name : String) : Registry := ⟨Keyed.erase name r.entries⟩

/-- The strategy under a name; what is no text is looked up by its text. -/
def get? (r : Registry) (name : String) : Option Strategy := Keyed.get? name r.entries

/-- Whether a strategy stands under a name; what is no text is looked up by its text. -/
def has (r : Registry) (name : String) : Bool := Keyed.has name r.entries

def operators (r : Registry) : List String := Keyed.keys r.entries

/-- The registered names among the keys of a condition, in the order of precedence. -/
def recognized (r : Registry) (condition : Members) : List String :=
  r.operators.filter fun name => Keyed.has name condition

def standard : Registry := Operator.all.foldl (fun r op => r.register op.strategy) empty

end Registry

inductive RegistryChange where
  | register (s : Strategy)
  | unregister (name : String)

def Registry.change (r : Registry) : RegistryChange → Registry
  | .register s => r.register s
  | .unregister name => r.unregister name

end PagedSelect
