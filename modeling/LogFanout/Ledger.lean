import LogFanout.Counters

/-!
# Ledgers

Counters that several records share. A record keeps the number of a page; what is counted on a page
shows wherever its number is kept. No page is given out twice.
-/

namespace LogFanout

/-- Counters by the number of their page. -/
structure Ledger where
  pages : List Counters
  deriving DecidableEq, Repr

namespace Ledger

/-- The ledger without pages. -/
def empty : Ledger :=
  ⟨[]⟩

/-- The number of the page that comes next. -/
def next (ledger : Ledger) : Nat :=
  ledger.pages.length

/-- Begins the next page, with all counters at zero. -/
def extend (ledger : Ledger) : Ledger :=
  ⟨ledger.pages ++ [.zero]⟩

/-- The counters of a page; those of a page that was never begun are zero. -/
def page (ledger : Ledger) (number : Nat) : Counters :=
  ledger.pages.getD number .zero

/-- Changes the counters of a page. -/
def modify (ledger : Ledger) (number : Nat) (f : Counters → Counters) : Ledger :=
  ⟨ledger.pages.modify number f⟩

@[simp] theorem next_extend (ledger : Ledger) : ledger.extend.next = ledger.next + 1 := by
  simp [extend, next]

@[simp] theorem next_modify (ledger : Ledger) (number : Nat) (f : Counters → Counters) :
    (ledger.modify number f).next = ledger.next := by
  simp [modify, next]

/-- The page that comes next was not begun. -/
@[simp] theorem page_next (ledger : Ledger) : ledger.page ledger.next = .zero := by
  simp [page, next]

@[simp] theorem page_extend (ledger : Ledger) (number : Nat) :
    ledger.extend.page number = ledger.page number := by
  simp only [page, extend, List.getD_eq_getElem?_getD, List.getElem?_append]
  split
  · rfl
  · rename_i beyond
    rw [List.getElem?_eq_none (Nat.not_lt.mp beyond)]
    cases number - ledger.pages.length <;> rfl

theorem page_modify {ledger : Ledger} {number : Nat} (h : number < ledger.next) (other : Nat)
    (f : Counters → Counters) :
    (ledger.modify number f).page other =
      if other = number then f (ledger.page other) else ledger.page other := by
  simp only [page, modify, List.getD_eq_getElem?_getD, List.getElem?_modify]
  by_cases eq : other = number
  · have lt : other < ledger.pages.length := eq ▸ h
    simp [eq, List.getElem?_eq_getElem (eq ▸ lt)]
  · have ne : number ≠ other := fun same => eq same.symm
    simp [eq, ne]

end Ledger

end LogFanout
