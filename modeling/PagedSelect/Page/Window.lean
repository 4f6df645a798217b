import PagedSelect.Failure
/-!
# Windows of rows

A request asks for a window by page and size, counted from one, or by limit and offset; a page goes
before.  `PageSpec.resolve` gives the limit and the offset for either.  What makes no window is
dropped, or rejected in strict mode.  The bound on sizes is applied before a page is turned into an
offset, so that the pages of any requested size lie side by side.
-/

namespace PagedSelect

/-- The window that a request asks for. -/
structure PageSpec where
  page : Option Int := none
  pageSize : Option Int := none
  offset : Option Int := none
  limit : Option Int := none
deriving DecidableEq, Repr

/-- So many rows, behind so many. -/
structure Window where
  limit : Int
  offset : Int
deriving DecidableEq, Repr

/-- The window of a page, if page and size are given and above zero. -/
def Window.ofPage? : Option Int → Option Int → Option Window
  | some page, some size => if 0 < page ∧ 0 < size then some ⟨size, (page - 1) * size⟩ else none
  | _, _ => none

/-- A limit and an offset, each of which may be missing. -/
structure Bounds where
  limit : Option Int
  offset : Option Int
deriving DecidableEq, Repr

namespace PageSpec

/-- A size under the bound on sizes, if there is one. -/
def clamp (size : Int) : Option Int → Int
  | none => size
  | some bound => min size bound

/-- Rejects in strict mode; the message is made up in either mode. -/
def rejectIf (strict : Bool) (fault : PageFault) : Outcome Unit :=
  if strict then rejectPage fault else checkWritable fault.shown

/-- The bounds for a page of a size. -/
def resolvePage (strict : Bool) (bound : Option Int) (page size : Int) : Outcome Bounds :=
  match Window.ofPage? (some page) (some (clamp size bound)) with
  | some w => .ok ⟨some w.limit, some w.offset⟩
  | none => do
    rejectIf strict (.requestedPage page size)
    return ⟨none, none⟩

/-- A limit above zero, under the bound on sizes. -/
def resolveLimit (strict : Bool) (bound : Option Int) : Option Int → Outcome (Option Int)
  | none => .ok none
  | some n =>
    if n ≤ 0 then do
      rejectIf strict (.requestedLimit n)
      return none
    else .ok (some (clamp n bound))

/-- An offset that is not below zero. -/
def resolveOffset (strict : Bool) : Option Int → Outcome (Option Int)
  | none => .ok none
  | some n =>
    if n < 0 then do
      rejectIf strict (.requestedOffset n)
      return none
    else .ok (some n)

/-- The bounds by limit and offset, for a request that names no whole page. -/
def resolveBounds (strict : Bool) (bound : Option Int) (s : PageSpec) : Outcome Bounds := do
  if s.page.isSome || s.pageSize.isSome then rejectIf strict .incomplete
  return ⟨← resolveLimit strict bound s.limit, ← resolveOffset strict s.offset⟩

/-- The bounds that a request asks for. -/
def resolve (strict : Bool) (bound : Option Int) (s : PageSpec) : Outcome Bounds :=
  match s.page, s.pageSize with
  | some page, some size => resolvePage strict bound page size
  | _, _ => s.resolveBounds strict bound

end PageSpec

end PagedSelect
