import TreeTypes.Text.Alphanumeric
import TreeTypes.Text.LetterCase
import TreeTypes.Text.Split

/-!
# Snake case

A name is cut into words, the words are lower-cased and joined by underscores. Everything that is
neither a letter nor a number separates words. Inside a run of letters and numbers a word ends
before a capital that follows a lower-case letter, and before the last capital of a row of capitals
when a lower-case letter comes after it: `HTTPServer` has the words `HTTP` and `Server`.
-/

namespace TreeTypes.Text

/-- The case of the letters read last in a word; characters without case leave it as it was. -/
inductive LetterMode where
  | start
  | lower
  | upper
  deriving DecidableEq

/-- The mode after a character. -/
def LetterMode.after (mode : LetterMode) (c : Char) : LetterMode :=
  if isLower c then .lower else if isUpper c then .upper else mode

/-- The words of a run of letters and numbers. `word` holds the characters of the current word, the
last one first. -/
def caseWords (mode : LetterMode) (word : List Char) : List Char → List (List Char)
  | [] => if word.isEmpty then [] else [word.reverse]
  | [c] => [(c :: word).reverse]
  | c :: next :: rest =>
    if mode.after c = .lower ∧ isUpper next then
      (c :: word).reverse :: caseWords .start [] (next :: rest)
    else if mode = .upper ∧ isUpper c ∧ isLower next then
      word.reverse :: caseWords .start [c] (next :: rest)
    else
      caseWords (mode.after c) (c :: word) (next :: rest)

/-- The lower form of one word. A capital sigma takes its final form at the end of the word only. -/
def lowerWord : List Char → List Char
  | [] => []
  | [c] => if c = capitalSigma then [finalSigma] else lowerChar c
  | c :: rest => lowerChar c ++ lowerWord rest

/-- The words of a name. -/
def nameWords (cs : List Char) : List (List Char) :=
  (splitWhen (!isAlphanumeric ·) cs).flatMap (caseWords .start [])

/-- The name in snake case. -/
def snakeCase (name : String) : String :=
  String.ofList (['_'].intercalate ((nameWords name.toList).map lowerWord))

end TreeTypes.Text
