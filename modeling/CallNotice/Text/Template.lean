namespace CallNotice.Text

/-- The pieces between the occurrences of `mark`, which is not empty. The first argument counts the
characters of an occurrence that are still to be passed over. -/
def piecesFrom (mark : List Char) (skip : Nat) (piece : List Char) : List Char → List (List Char)
  | [] => [piece.reverse]
  | c :: cs =>
    if 0 < skip then piecesFrom mark (skip - 1) piece cs
    else if mark.isPrefixOf (c :: cs) then
      piece.reverse :: piecesFrom mark (mark.length - 1) [] cs
    else piecesFrom mark 0 (c :: piece) cs

def pieces (mark cs : List Char) : List (List Char) := piecesFrom mark 0 [] cs

end CallNotice.Text
