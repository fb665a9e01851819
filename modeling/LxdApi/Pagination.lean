import LxdApi.Json

set_option autoImplicit false

/- `utils/pagination.py`: the window a client asks for, and the page cut from a
   list that LXD has already returned in full. -/
namespace LxdApi

/-- The parameters as `page_params` admits them. -/
structure PageParams where
  limit : Nat := 100
  offset : Nat := 0
  atLeastOne : 1 ≤ limit := by decide
  atMost : limit ≤ 1000 := by decide
  deriving DecidableEq

structure Page where
  items : List Json
  limit : Nat
  offset : Nat
  total : Nat

def paginate (items : List Json) (params : PageParams) : Page :=
  let total := items.length
  let start := params.offset
  let stop := start + params.limit
  ⟨(items.take stop).drop start, params.limit, params.offset, total⟩

theorem paginate_items_bounded (items : List Json) (params : PageParams) :
    (paginate items params).items.length ≤ params.limit := by
  simp only [paginate, List.length_drop, List.length_take]
  omega

end LxdApi
