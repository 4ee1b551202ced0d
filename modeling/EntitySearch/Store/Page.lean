import EntitySearch.Document.Record

/-!
# Pages

The answer to a search: the rows of one page, and how many records match in all.
-/

namespace EntitySearch

/-- **A page of records.** -/
structure Page where
  rows : List Record
  total : Nat
  page : Nat
  pageSize : Nat

namespace Page

/-- The number of rows on the page. -/
def found (page : Page) : Nat := page.rows.length

/-- **The number of pages** that hold all matches. -/
def pages (page : Page) : Nat :=
  if page.pageSize = 0 then 0 else (page.total + page.pageSize - 1) / page.pageSize

/-- Whether another page follows. -/
def hasNext (page : Page) : Bool := page.page + 1 < page.pages

/-- The row of a page when it is the only match. -/
def only? (page : Page) : Option Record := if page.total = 1 then page.rows.head? else none

end Page

end EntitySearch
