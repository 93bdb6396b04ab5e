import DocumentSearch.Edit

/-!
# Pages

A page of documents knows how many pages there are. There is always at least one.
-/
namespace DocumentSearch

structure Page where
  items : Value
  total : Value
  page : Number
  perPage : Number
  lastPage : Int
  hasNext : Bool
  hasPrevious : Bool
  aggregations : Value
  took : Value

namespace Page

/-- The number of pages of a given size that hold all documents. -/
def lastPageOf (total : Value) (perPage : Number) : Except Error Int := do
  if (Number.int 0).lt perPage then
    let total ← total.number
    return Max.max (← Number.ceil (← total.div perPage)) 1
  else return 1

def of (items total page perPage aggregations took : Value) : Except Error Page := do
  let perPage ← perPage.number
  let lastPage ← lastPageOf total perPage
  let page ← page.number
  return ⟨items, total, page, perPage, lastPage, page.lt (.int lastPage), (Number.int 1).lt page,
    aggregations, took⟩

def fields (p : Page) : List (String × Value) :=
  [("items", p.items), ("total", p.total), ("page", .ofNumber p.page),
    ("per_page", .ofNumber p.perPage), ("last_page", .int p.lastPage),
    ("has_next", .bool p.hasNext), ("has_prev", .bool p.hasPrevious),
    ("aggregations", p.aggregations), ("took_ms", p.took)]

def value (p : Page) : Value := .entity "PagedResponse" p.fields

end Page

end DocumentSearch
