namespace Listing

structure Page (α : Type) where
  data : List α
  page : Nat
  size : Nat
  total : Nat
  totalPages : Nat

namespace Page

def pagesFor (size total : Nat) : Nat := if size = 0 then 0 else (total + size - 1) / size

def of {α : Type} (data : List α) (page size total : Nat) : Page α :=
  ⟨data, page, size, total, pagesFor size total⟩

def map {α β : Type} (f : α → β) (p : Page α) : Page β :=
  ⟨p.data.map f, p.page, p.size, p.total, p.totalPages⟩

end Page

end Listing
