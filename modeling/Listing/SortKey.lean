import Listing.Path

namespace Listing

structure SortKey where
  path : Path
  direction : Direction

namespace SortKey

def key (k : SortKey) (record : Record) : Value := k.path.read record

def compare (k : SortKey) (a b : Record) : Ordering :=
  let order := (k.key a).sortOrder (k.key b)
  match k.direction with
  | .ascending => order
  | .descending => order.swap

end SortKey

end Listing
