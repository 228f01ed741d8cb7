/-!
# Splitting a command line into words

Words are separated by spaces, tabs and line feeds.  Single quotes keep everything up to the
next single quote.  Double quotes keep everything but the backslash, which escapes the dollar
sign, the backquote, the double quote and itself, and removes a line feed.  Outside quotes a
backslash keeps the next character and removes a line feed.  A number sign at the start of a
word begins a comment that runs to the end of its line.
-/

namespace Interop.Text

inductive WordState
  | delimiter
  | backslash
  | unquoted
  | unquotedBackslash
  | singleQuoted
  | doubleQuoted
  | doubleQuotedBackslash
  | comment
  deriving DecidableEq, Repr

inductive WordError
  | unclosedQuote
  deriving DecidableEq, Repr

def WordError.message : WordError → String
  | .unclosedQuote => "missing closing quote"

def isWordSeparator (c : Char) : Bool := c = ' ' || c = '\t' || c = '\n'

def isEscapable (c : Char) : Bool := c = '$' || c = '\x60' || c = '"' || c = '\\'

/-- Reads the rest of a line.  `word` is the open word, last character first, and `done`
the finished words, last word first. -/
def wordsFrom (state : WordState) (word : List Char) (done : List (List Char)) :
    List Char → Except WordError (List (List Char))
  | [] =>
    match state with
    | .delimiter | .comment => .ok done.reverse
    | .unquoted => .ok (word.reverse :: done).reverse
    | .backslash | .unquotedBackslash => .ok (('\\' :: word).reverse :: done).reverse
    | .singleQuoted | .doubleQuoted | .doubleQuotedBackslash => .error .unclosedQuote
  | c :: cs =>
    match state with
    | .delimiter =>
      if c = '\'' then wordsFrom .singleQuoted word done cs
      else if c = '"' then wordsFrom .doubleQuoted word done cs
      else if c = '\\' then wordsFrom .backslash word done cs
      else if isWordSeparator c then wordsFrom .delimiter word done cs
      else if c = '#' then wordsFrom .comment word done cs
      else wordsFrom .unquoted (c :: word) done cs
    | .backslash =>
      if c = '\n' then wordsFrom .delimiter word done cs
      else wordsFrom .unquoted (c :: word) done cs
    | .unquoted =>
      if c = '\'' then wordsFrom .singleQuoted word done cs
      else if c = '"' then wordsFrom .doubleQuoted word done cs
      else if c = '\\' then wordsFrom .unquotedBackslash word done cs
      else if isWordSeparator c then wordsFrom .delimiter [] (word.reverse :: done) cs
      else wordsFrom .unquoted (c :: word) done cs
    | .unquotedBackslash =>
      if c = '\n' then wordsFrom .unquoted word done cs
      else wordsFrom .unquoted (c :: word) done cs
    | .singleQuoted =>
      if c = '\'' then wordsFrom .unquoted word done cs
      else wordsFrom .singleQuoted (c :: word) done cs
    | .doubleQuoted =>
      if c = '"' then wordsFrom .unquoted word done cs
      else if c = '\\' then wordsFrom .doubleQuotedBackslash word done cs
      else wordsFrom .doubleQuoted (c :: word) done cs
    | .doubleQuotedBackslash =>
      if c = '\n' then wordsFrom .doubleQuoted word done cs
      else if isEscapable c then wordsFrom .doubleQuoted (c :: word) done cs
      else wordsFrom .doubleQuoted (c :: '\\' :: word) done cs
    | .comment =>
      if c = '\n' then wordsFrom .delimiter word done cs
      else wordsFrom .comment word done cs

def words (line : String) : Except WordError (List String) :=
  (wordsFrom .delimiter [] [] line.toList).map fun found => found.map String.ofList

end Interop.Text
