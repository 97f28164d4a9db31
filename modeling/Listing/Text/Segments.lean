namespace Listing.Text

def segments (mark : Char) : List Char → List Char × List (List Char)
  | [] => ([], [])
  | c :: cs =>
    let (first, others) := segments mark cs
    if c = mark then ([], first :: others) else (c :: first, others)

end Listing.Text
