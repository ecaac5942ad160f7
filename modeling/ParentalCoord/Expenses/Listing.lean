import Mathlib.Data.Prod.Lex
import Mathlib.Data.String.Basic
import ParentalCoord.Expenses.Editing
import ParentalCoord.Interleaving.Sum
import ParentalCoord.Store.Paging

/-!
The list of the expenses of a bond.

A page is put together from a handful of queries, however many expenses are on it: the members,
their names and the documents are asked for once, and not for each of them.  What it says of
an expense is what the request for that expense alone says.
-/

namespace ParentalCoord.Expenses

open Interleaving Store

namespace Listing

def EXPENSES_DEFAULT_LIMIT : ℕ := 20

/-- The dates are the days that the type of the column reads in the text. -/
structure ListExpensesQueryDto where
  limit : Option ℕ := none
  offset : Option ℕ := none
  status : Option ExpenseStatus := none
  categoryId : Option Uuid := none
  from_ : Option ℤ := none
  to_ : Option ℤ := none

structure ListExpensesOptions where
  limit : ℕ
  offset : ℕ
  status : Option ExpenseStatus
  categoryId : Option Uuid
  from_ : Option ℤ
  to_ : Option ℤ

structure PaginatedExpensesDto where
  items : List ExpenseResponseDto
  total : ℕ
  limit : ℕ
  offset : ℕ

def ListExpensesQueryDto.options (query : ListExpensesQueryDto) : ListExpensesOptions where
  limit := query.limit.getD EXPENSES_DEFAULT_LIMIT
  offset := query.offset.getD 0
  status := query.status
  categoryId := query.categoryId
  from_ := query.from_
  to_ := query.to_

/-! ## The queries -/

inductive Call where
  | getMany (bondId : Uuid) (options : ListExpensesOptions)
  | getCount (bondId : Uuid) (options : ListExpensesOptions)
  /-- The attachments of the expenses. -/
  | find (expenseIds : List Uuid)

@[reducible] def interface : Interface where
  Call := Call
  Answer
    | .getMany _ _ => List (ExpenseEntity × Option CategoryEntity)
    | .getCount _ _ => ℕ
    | .find _ => List Uuid

/-- The conditions of both queries. -/
def matching (bondId : Uuid) (options : ListExpensesOptions) (row : ExpenseEntity) : Bool :=
  row.bondId = bondId && row.deletedAt = none &&
  options.status.all (row.status = ·) &&
  options.categoryId.all (row.categoryId = some ·) &&
  options.from_.all (fun day => (parseDay row.expenseDate).any (day ≤ ·)) &&
  options.to_.all (fun day => (parseDay row.expenseDate).any (· ≤ day))

def position (row : ExpenseEntity) : Instant ×ₗ Uuid := toLex (row.createdAt, row.id)

def World.listed (world : World) (bondId : Uuid) (options : ListExpensesOptions) : List ExpenseEntity :=
  world.expenses.rows.filter (matching bondId options)

/-- `ORDER BY e.created_at DESC, e.id DESC`. -/
def newestFirst (rows : List ExpenseEntity) : List ExpenseEntity :=
  (Arrangement.stable : Arrangement position).arrange rows

/-- The row and its category, which is joined. -/
def World.joined (world : World) (row : ExpenseEntity) : ExpenseEntity × Option CategoryEntity :=
  (row, row.categoryId.bind world.directory.category)

def serve (query : Call) (world : World) : Except Exception (interface.Answer query) × World :=
  match query with
  | .getMany bondId options =>
      (.ok (((newestFirst (World.listed world bondId options)).drop options.offset).take options.limit |>.map
        (World.joined world)), world)
  | .getCount bondId options => (.ok (World.listed world bondId options).length, world)
  | .find expenseIds => (.ok (world.attachments.filter (· ∈ expenseIds)), world)

/-! ## The request -/

abbrev Request := Handler (Expenses.interface.sum interface) Exception

def perform (query : Call) : Request (interface.Answer query) :=
  @Handler.perform (Expenses.interface.sum interface) Exception (.inr query)

def attachHasDocument (items : List (ExpenseEntity × Option CategoryEntity)) :
    Request (List ExpenseWithDocument) := do
  if items.isEmpty then return []
  else
    let attachments ← perform (.find (items.map (·.1.id)))
    return items.map fun item => ⟨item.1, item.2, item.1.id ∈ attachments⟩

/-- Of the repository; the two queries are under way at once, and either may be answered first. -/
def findPage (countFirst : Bool) (bondId : Uuid) (options : ListExpensesOptions) :
    Request (List ExpenseWithDocument × ℕ) := do
  if countFirst then
    let total ← perform (.getCount bondId options)
    let items ← perform (.getMany bondId options)
    return (← attachHasDocument items, total)
  else
    let items ← perform (.getMany bondId options)
    let total ← perform (.getCount bondId options)
    return (← attachHasDocument items, total)

/-- `expenses.service.ts::listForBond`: a page of the expenses of a bond, and their number. -/
def listForBond (countFirst : Bool) (bondId viewerId : Uuid) (query : ListExpensesQueryDto) :
    Request PaginatedExpensesDto := do
  (assertBondMember bondId viewerId).inl
  let (items, total) ← findPage countFirst bondId query.options
  let memberIds ← (findActiveMemberIds bondId).inl
  let names ← (findMemberNames bondId).inl
  return {
    items := items.map fun item =>
      let counterpartId := selectCounterpartId memberIds item.expense.requestedBy
      toResponse item (evaluate ⟨item.expense.status, item.expense.requestedBy, counterpartId⟩ viewerId)
        counterpartId names
    total := total
    limit := query.options.limit
    offset := query.options.offset }

/-! ## What a page says -/

variable {world : World} {bondId viewerId id : Uuid} {row : ExpenseEntity} {countFirst : Bool}
  {options : ListExpensesOptions} {query : ListExpensesQueryDto} {limit number count : ℕ}

/-- An expense, as its detail shows it. -/
def World.detail (world : World) (viewerId : Uuid) (row : ExpenseEntity) : ExpenseResponseDto :=
  let counterpartId := selectCounterpartId (world.directory.findActiveMemberIds row.bondId) row.requestedBy
  toResponse ⟨row, row.categoryId.bind world.directory.category, row.id ∈ world.attachments⟩
    (evaluate ⟨row.status, row.requestedBy, counterpartId⟩ viewerId) counterpartId
    (world.directory.findMemberNames row.bondId)

theorem run_detail (there : world.expenses.get id = some row) (alive : row.deletedAt = none)
    (member : world.directory.isActiveBondForMember row.bondId viewerId) :
    (getDetail id viewerId).run Expenses.serve world = (.ok (World.detail world viewerId row), world) := by
  have loaded := run_loadForViewer viewerId there alive
  rw [if_pos member, ← Table.key_of_get there] at loaded
  rw [← Table.key_of_get there, getDetail, Handler.bind_eq, Handler.run_bind_eq loaded]
  rfl

theorem mem_listed : row ∈ World.listed world bondId options ↔
    row ∈ world.expenses.rows ∧ matching bondId options row :=
  List.mem_filter

theorem alive_of_matching (matched : matching bondId options row) :
    row.bondId = bondId ∧ row.deletedAt = none := by
  simp only [matching, Bool.and_eq_true, decide_eq_true_eq] at matched
  exact ⟨matched.1.1.1.1.1, matched.1.1.1.1.2⟩

/-- The documents of a page are those of each of its expenses. -/
theorem run_attachHasDocument (rows : List ExpenseEntity) :
    (attachHasDocument (rows.map (World.joined world))).run (serveSum Expenses.serve serve) world =
      (.ok (rows.map fun row =>
        ⟨row, row.categoryId.bind world.directory.category, row.id ∈ world.attachments⟩), world) := by
  cases rows with
  | nil => rfl
  | cons first rest =>
    generalize listed : first :: rest = rows
    have some_ : (rows.map (World.joined world)).isEmpty = false := by
      rw [← listed]
      rfl
    unfold attachHasDocument
    rw [some_, if_neg (by decide)]
    change (Except.ok _, world) = _
    rw [List.map_map]
    refine congrArg (fun items => (Except.ok items, world)) (List.map_congr_left fun row member => ?_)
    have asked : row.id ∈ (rows.map (World.joined world)).map (·.1.id) := by
      rw [List.map_map]
      exact List.mem_map_of_mem (f := fun row : ExpenseEntity => row.id) member
    simp only [Function.comp_apply, World.joined, List.mem_filter, asked, decide_true, and_true]

/-- A member is given the rows of the page, each as its detail shows it, and the number of all. -/
theorem run_listForBond (member : world.directory.isActiveBondForMember bondId viewerId) :
    (listForBond countFirst bondId viewerId query).run (serveSum Expenses.serve serve) world =
      (.ok ⟨(((newestFirst (World.listed world bondId query.options)).drop query.options.offset).take
          query.options.limit).map (World.detail world viewerId),
        (World.listed world bondId query.options).length, query.options.limit, query.options.offset⟩,
        world) := by
  have asserted : ((assertBondMember bondId viewerId).inl : Request Unit).run
      (serveSum Expenses.serve serve) world = (.ok (), world) := by
    rw [Handler.run_inl]
    simp [assertBondMember, isActiveBondForMember, Expenses.perform, Handler.perform, Handler.run,
      Expenses.serve, member, Handler.bind]
  generalize shown : ((newestFirst (World.listed world bondId query.options)).drop query.options.offset).take
    query.options.limit = rows
  have own : ∀ row ∈ rows, row.bondId = bondId := by
    intro row there
    rw [← shown] at there
    have listed := ((Arrangement.stable : Arrangement position).sorts _).perm.mem_iff.mp
      (List.mem_of_mem_drop (List.mem_of_mem_take there))
    exact (alive_of_matching (mem_listed.mp listed).2).1
  have paged : (findPage countFirst bondId query.options).run (serveSum Expenses.serve serve) world =
      (.ok (rows.map fun row =>
        ⟨row, row.categoryId.bind world.directory.category, row.id ∈ world.attachments⟩,
        (World.listed world bondId query.options).length), world) := by
    have documents := @run_attachHasDocument world rows
    cases countFirst with
    | true =>
      change ((attachHasDocument (((((newestFirst (World.listed world bondId query.options)).drop
        query.options.offset).take query.options.limit).map (World.joined world)))).bind fun items =>
          .ret (items, (World.listed world bondId query.options).length)).run
          (serveSum Expenses.serve serve) world = _
      rw [shown, Handler.run_bind_eq documents]
      rfl
    | false =>
      change ((attachHasDocument (((((newestFirst (World.listed world bondId query.options)).drop
        query.options.offset).take query.options.limit).map (World.joined world)))).bind fun items =>
          .ret (items, (World.listed world bondId query.options).length)).run
          (serveSum Expenses.serve serve) world = _
      rw [shown, Handler.run_bind_eq documents]
      rfl
  unfold listForBond
  rw [Handler.bind_eq, Handler.run_bind_eq asserted, Handler.bind_eq, Handler.run_bind_eq paged]
  change (Except.ok (PaginatedExpensesDto.mk (List.map _ (rows.map _)) _ _ _), world) = _
  rw [List.map_map]
  refine congrArg (fun items => (Except.ok (PaginatedExpensesDto.mk items _ _ _), world))
    (List.map_congr_left fun row there => ?_)
  rw [Function.comp_apply, World.detail, own row there]
  rfl

/-- The query of a page of so many, numbered from zero. -/
def ListExpensesQueryDto.onPage (query : ListExpensesQueryDto) (limit number : ℕ) : ListExpensesQueryDto :=
  { query with limit := some limit, offset := some (number * limit) }

/-- **The list is made of the details.**  Read page by page, it gives each live expense of the bond
that meets the filters once, in order, and just as the request for it alone does: with its names,
its document and what the viewer may do. -/
theorem list_details {viewerId : Uuid} (query : ListExpensesQueryDto) (countFirst : ℕ → Bool)
    (member : world.directory.isActiveBondForMember bondId viewerId)
    (enough : (World.listed world bondId query.options).length ≤ count * limit) :
    ∃ answers : ℕ → PaginatedExpensesDto,
      (∀ number, (listForBond (countFirst number) bondId viewerId (query.onPage limit number)).run
          (serveSum Expenses.serve serve) world = (.ok (answers number), world) ∧
        (answers number).total = (World.listed world bondId query.options).length) ∧
      List.Forall₂ (fun row item =>
          (getDetail row.id viewerId).run Expenses.serve world = (.ok item, world))
        (newestFirst (World.listed world bondId query.options))
        ((List.range count).flatMap fun number => (answers number).items) := by
  let answers (number : ℕ) : PaginatedExpensesDto :=
    ⟨(page limit number (newestFirst (World.listed world bondId query.options))).map (World.detail world viewerId),
      (World.listed world bondId query.options).length, limit, number * limit⟩
  have sorts := (Arrangement.stable : Arrangement position).sorts (World.listed world bondId query.options)
  refine ⟨answers, fun number => ⟨run_listForBond member, rfl⟩, ?_⟩
  have all : ((List.range count).flatMap fun number => (answers number).items) =
      (newestFirst (World.listed world bondId query.options)).map (World.detail world viewerId) := by
    have whole := pages_const (newestFirst (World.listed world bondId query.options)) limit count
    rw [List.take_of_length_le (sorts.perm.length_eq ▸ enough)] at whole
    rw [← whole, pages, List.map_flatMap]
  rw [all, List.forall₂_map_right_iff, List.forall₂_same]
  intro row there
  obtain ⟨stored, matched⟩ := mem_listed.mp (sorts.perm.mem_iff.mp there)
  obtain ⟨own, alive⟩ := alive_of_matching matched
  exact run_detail (Table.get_of_mem stored) alive (own ▸ member)

/-- Two expenses of a bond, the second of which has a document. -/
def twoExpenses : World :=
  { filed with
    expenses := ⟨[asked, { asked with id := "e2", createdAt := 1, status := .approved }], by decide⟩
    attachments := ["e2"] }

theorem list_details_two : ∃ answers : ℕ → PaginatedExpensesDto,
    (∀ number, (listForBond (number = 1) "b1" "u1" (({ } : ListExpensesQueryDto).onPage 1 number)).run
        (serveSum Expenses.serve serve) twoExpenses = (.ok (answers number), twoExpenses) ∧
      (answers number).total = 2) ∧
    List.Forall₂ (fun row item =>
        (getDetail row.id "u1").run Expenses.serve twoExpenses = (.ok item, twoExpenses))
      (newestFirst twoExpenses.expenses.rows)
      ((List.range 2).flatMap fun number => (answers number).items) :=
  @list_details twoExpenses "b1" 1 2 "u1" { } (fun number => number = 1) rfl (by decide)

end Listing

end ParentalCoord.Expenses
