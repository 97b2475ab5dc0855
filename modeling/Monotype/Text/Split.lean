namespace Monotype.Text

def splitOn (c : Char) : List Char → List (List Char)
  | [] => [[]]
  | d :: cs =>
      if d = c then [] :: splitOn c cs
      else
        match splitOn c cs with
        | part :: parts => (d :: part) :: parts
        | [] => [[d]]

def lines : List Char → List (List Char)
  | [] => []
  | '\n' :: cs => ['\n'] :: lines cs
  | c :: cs =>
      match lines cs with
      | line :: rest => (c :: line) :: rest
      | [] => [[c]]

end Monotype.Text
