import LxdApi.Library.Windows
import LxdApi.Pagination

set_option autoImplicit false

/- A client that reads a list page by page: it asks for one window after the other
   for as long as the total of the page says that there is more. -/
namespace LxdApi
open Windows

namespace PageParams

def window (params : PageParams) : Window := ⟨params.offset, params.limit⟩

def next (params : PageParams) : PageParams :=
  ⟨params.limit, params.offset + params.limit, params.atLeastOne, params.atMost⟩

end PageParams

def pagesFrom (items : List Json) (params : PageParams) : List Page :=
  let page := paginate items params
  if params.offset < page.total then page :: pagesFrom items params.next else []
termination_by items.length - params.offset
decreasing_by
  rename_i more
  have below : params.offset < items.length := more
  have positive := params.atLeastOne
  simp only [PageParams.next]
  omega

theorem paginate_items (items : List Json) (params : PageParams) :
    (paginate items params).items = params.window.read items := rfl

@[simp] theorem paginate_total (items : List Json) (params : PageParams) :
    (paginate items params).total = items.length := rfl

theorem paginate_past_end {items : List Json} {params : PageParams}
    (past : items.length ≤ params.offset) : (paginate items params).items = [] := by
  rw [paginate_items]
  exact Window.read_past_end past

structure PageOf (items : List Json) (limit : Nat) (page : Page) : Prop where
  bounded : page.items.length ≤ limit
  total : page.total = items.length

theorem pagesFrom_pageOf (items : List Json) (params : PageParams) :
    ∀ page ∈ pagesFrom items params, PageOf items params.limit page := by
  fun_induction pagesFrom items params with
  | case1 params page more ih =>
    intro p member
    rcases List.mem_cons.mp member with first | later
    · subst p
      exact ⟨paginate_items_bounded items params, paginate_total items params⟩
    · exact ih p later
  | case2 params page done =>
    intro p member
    cases member

theorem pagesFrom_windows (items : List Json) (params : PageParams) :
    (pagesFrom items params).map Page.items =
      (regular params.limit params.offset ((items.length - params.offset) ⌈/⌉ params.limit)).map
        (Window.read items) := by
  fun_induction pagesFrom items params with
  | case1 params page more ih =>
    have steps := ceilDiv_step params.atLeastOne more
    rw [paginate_total] at steps
    rw [steps, regular, List.map_cons, List.map_cons, ih]
    rfl
  | case2 params page done =>
    have none : items.length - params.offset = 0 := by
      rw [paginate_total] at done
      omega
    rw [none, zero_ceilDiv]
    rfl

theorem pagesFrom_length (items : List Json) (params : PageParams) :
    (pagesFrom items params).length = (items.length - params.offset) ⌈/⌉ params.limit := by
  have lengths := congrArg List.length (pagesFrom_windows items params)
  simpa only [List.length_map, regular_length] using lengths

theorem pagesFrom_items (items : List Json) {params : PageParams} (start : params.offset = 0) :
    (pagesFrom items params).flatMap Page.items = items := by
  rw [List.flatMap_def, pagesFrom_windows, start, Nat.sub_zero, ← List.flatMap_def]
  exact regular_covers params.atLeastOne items

/- What a client reads that asks for page after page, whatever answers it. -/
inductive Reads (ask : PageParams → Option Page) : PageParams → List Json → Prop
  | more {params : PageParams} {page : Page} {rest : List Json} (asked : ask params = some page)
      (below : params.offset < page.total) (later : Reads ask params.next rest) :
      Reads ask params (page.items ++ rest)
  | last {params : PageParams} {page : Page} (asked : ask params = some page)
      (reached : page.total ≤ params.offset) : Reads ask params []

theorem reads_pagesFrom {ask : PageParams → Option Page} {items : List Json}
    (cut : ∀ params, ask params = some (paginate items params)) (params : PageParams) :
    Reads ask params ((pagesFrom items params).flatMap Page.items) := by
  fun_induction pagesFrom items params with
  | case1 params page more ih =>
    rw [List.flatMap_cons]
    exact .more (cut params) more ih
  | case2 params page done => exact .last (cut params) (Nat.le_of_not_lt done)

theorem reads_iff {ask : PageParams → Option Page} {items : List Json}
    (cut : ∀ params, ask params = some (paginate items params)) {params : PageParams}
    (start : params.offset = 0) (read : List Json) : Reads ask params read ↔ read = items := by
  constructor
  · intro reads
    have whole := pagesFrom_items items start
    rw [← whole]
    clear start whole
    induction reads with
    | @more params page rest asked below later ih =>
      rw [cut params] at asked
      cases asked
      rw [pagesFrom, if_pos below, List.flatMap_cons, ih]
    | @last params page asked reached =>
      rw [cut params] at asked
      cases asked
      rw [pagesFrom, if_neg (Nat.not_lt.mpr reached)]
      rfl
  · intro same
    rw [same]
    have reads := reads_pagesFrom cut params
    rwa [pagesFrom_items items start] at reads

/- The client loses and repeats nothing, in pages of one size or in any windows that
   follow one another from the start to the total. -/
theorem pages_concatenate (items : List Json) :
    (∀ (limit : Nat) (atLeastOne : 1 ≤ limit) (atMost : limit ≤ 1000),
      (pagesFrom items ⟨limit, 0, atLeastOne, atMost⟩).length = items.length ⌈/⌉ limit ∧
      (∀ page ∈ pagesFrom items ⟨limit, 0, atLeastOne, atMost⟩, PageOf items limit page) ∧
      (pagesFrom items ⟨limit, 0, atLeastOne, atMost⟩).flatMap Page.items = items) ∧
    (∀ windows : List PageParams, Consecutive 0 (windows.map PageParams.window) →
      items.length ≤ span (windows.map PageParams.window) →
      (windows.map (paginate items)).flatMap Page.items = items) ∧
    ∀ params : PageParams, items.length ≤ params.offset → (paginate items params).items = [] := by
  refine ⟨?_, ?_, ?_⟩
  · intro limit atLeastOne atMost
    exact ⟨pagesFrom_length items ⟨limit, 0, atLeastOne, atMost⟩,
      pagesFrom_pageOf items ⟨limit, 0, atLeastOne, atMost⟩, pagesFrom_items items rfl⟩
  · intro windows consecutive reach
    have covers := consecutive_covers consecutive reach
    rw [List.flatMap_map] at covers ⊢
    exact covers
  · intro params past
    exact paginate_past_end past

theorem five_items_read :
    let items := [Json.int 0, .int 1, .int 2, .int 3, .int 4]
    (pagesFrom items { limit := 2 }).length = 3 ∧
      ([{ limit := 2 }, { limit := 1, offset := 2 }, { offset := 3 }].map
        (paginate items)).flatMap Page.items = items ∧
      (paginate items { offset := 5 }).items = [] := by
  intro items
  obtain ⟨regular, irregular, past⟩ := pages_concatenate items
  have count : items.length ⌈/⌉ 2 = 3 := by simp [items, Nat.ceilDiv_eq_add_pred_div]
  refine ⟨(regular 2 (by decide) (by decide)).1.trans count, ?_, past { offset := 5 } (by decide)⟩
  exact irregular [{ limit := 2 }, { limit := 1, offset := 2 }, { offset := 3 }]
    ⟨rfl, rfl, rfl, True.intro⟩ (by decide)

end LxdApi
