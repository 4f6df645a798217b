import PagedSelect.Failure
/-!
# Page metadata

Where a page stands among all rows: its number, its size, the number of pages, and whether rows
follow.  Without a limit there are no pages.  The number of pages is the ceiling of the quotient of
total and limit as a double, so it is exact up to the precision of doubles.
-/

namespace PagedSelect

/-- Where a page stands among all rows. -/
structure PageMetadata where
  currentPage : Option Int := none
  pageSize : Option Int := none
  totalPages : Option Int := none
  hasMore : Bool := false
deriving DecidableEq, Repr

namespace PageMetadata

/-- The ceiling of the quotient of two whole numbers, rounded to a double first. -/
def ceilingOfQuotient? (total limit : Int) : Option Int :=
  (Number.nearest? total.natAbs limit.natAbs).map fun (m, e) =>
    Double.ceiling (decide (total < 0) != decide (limit < 0)) m e

/-- The metadata of a page with `returned` rows. -/
def ofWindow (total : Int) (limit offset : Option Int) (returned : Int) : Outcome PageMetadata :=
  match limit with
  | none => .ok {}
  | some limit =>
    if limit = 0 then .error .zeroLimit
    else
      let start := offset.getD 0
      match ceilingOfQuotient? total limit with
      | none => .error .quotientTooLarge
      | some pages => .ok {
          currentPage := some (start.fdiv limit + 1)
          pageSize := some limit
          totalPages := some pages
          hasMore := start + returned < total }

end PageMetadata

end PagedSelect
