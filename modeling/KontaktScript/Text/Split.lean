/-!
# Parts of a text
-/

namespace KontaktScript.Text

/-- Cuts a text at every character for which the test holds. -/
def splitAt (isCut : Char → Bool) : List Char → List (List Char)
  | [] => [[]]
  | c :: cs =>
      match splitAt isCut cs with
      | [] => [[c]]
      | first :: rest => if isCut c then [] :: first :: rest else (c :: first) :: rest

/-- The text before the first mark, and the text behind it. -/
def splitFirst (mark : Char) (text : List Char) : List Char × List Char :=
  (text.takeWhile (· != mark), (text.dropWhile (· != mark)).drop 1)

def consWord (word : List Char) (others : List (List Char)) : List (List Char) :=
  if word = [] then others else word :: others

/-- The words of a text, which stand between spaces and line ends. -/
def words (text : List Char) : List (List Char) :=
  let (word, others) := text.foldr
    (fun c (word, others) =>
      if c = ' ' ∨ c = '\n' then ([], consWord word others) else (c :: word, others))
    ([], [])
  consWord word others

end KontaktScript.Text
