import PagedSelect.Failure
/-!
# Engine settings

Whether requests are translated strictly, how parameters are marked, under which name rows are
counted, and how large a page may be.
-/

namespace PagedSelect

/-- The settings of an engine; a bound on page sizes is above zero. -/
structure EngineConfig where
  strict : Bool := false
  placeholder : String := ":"
  countAlias : String := "count"
  maxPageSize : Option Int := none
  maxPageSize_pos : ∀ n ∈ maxPageSize, 0 < n := by intro _ h; cases h
deriving Repr

def EngineConfig.make (strict : Bool) (placeholder countAlias : String) (maxPageSize : Option Int) :
    Outcome EngineConfig :=
  if h : ∀ n ∈ maxPageSize, 0 < n then .ok ⟨strict, placeholder, countAlias, maxPageSize, h⟩
  else .error .badPageBound

end PagedSelect
