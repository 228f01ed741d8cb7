import Interop.Disk
import Interop.Shell.Arithmetic
import Interop.Shell.Format.Quoting

/-!
# Conditions

Conditions compare texts and numbers and look at files.  The shell reads them from the left
with alternatives, conjunctions, negations and parentheses; the program of the same purpose
decides by the number of arguments first.
-/

namespace Interop.Shell

inductive Comparison
  | same | different | less | greater
  | equal | unequal | below | atMost | above | atLeast
  | newer | older | sameFile
  deriving DecidableEq, Repr

inductive TestToken
  | operand
  | unary (letter : Char)
  | binary (op : Comparison)
  | negation
  | conjunction
  | alternative
  | openParen
  | closeParen
  deriving DecidableEq, Repr

structure Standpoint where
  disk : Disk
  directory : Path

namespace Condition

/-! ## Files -/

def fileHolds (v : Standpoint) (letter : Char) (path : String) : Bool :=
  match if letter == 'h' || letter == 'L' then v.disk.linkStatus v.directory path
    else v.disk.status v.directory path with
  | .error _ => false
  | .ok (_, entry) =>
    match letter, entry with
    | 'f', .file _ _ | 'f', .program _ => true
    | 'd', .directory => true
    | 'c', .device _ => true
    | 's', .file content _ => !content.isEmpty
    | 's', .directory | 's', .program _ => true
    | 'x', .directory | 'x', .program _ => true
    | 'x', .file _ executable => executable
    | 'h', .link _ | 'L', .link _ => true
    | 'e', _ | 'r', _ | 'w', _ | 'O', _ | 'G', _ => true
    | _, _ => false

def isSameFile (v : Standpoint) (a b : String) : Bool :=
  match v.disk.status v.directory a, v.disk.status v.directory b with
  | .ok (p, _), .ok (q, _) => p == q
  | _, _ => false

def isThere (v : Standpoint) (path : String) : Bool :=
  (v.disk.status v.directory path).toBool

/-! ## Comparisons -/

def isNumeric : Comparison → Bool
  | .equal | .unequal | .below | .atMost | .above | .atLeast => true
  | _ => false

def compareNumbers (op : Comparison) (a b : Int) : Bool :=
  match op with
  | .equal => a == b
  | .unequal => a != b
  | .below => a < b
  | .atMost => a ≤ b
  | .above => b < a
  | _ => b ≤ a

def compareTexts (v : Standpoint) (op : Comparison) (a b : String) : Bool :=
  match op with
  | .same => a == b
  | .different => a != b
  | .less => a < b
  | .greater => b < a
  | .newer => isThere v a && !isThere v b
  | .older => !isThere v a && isThere v b
  | _ => isSameFile v a b

def integer? (text : String) : Option Int :=
  let cs := (text.toList.dropWhile isSpace).reverse.dropWhile isSpace |>.reverse
  let (negative, digits) := match cs with
    | '-' :: digits => (true, digits)
    | '+' :: digits => (false, digits)
    | digits => (false, digits)
  if digits.isEmpty || !digits.all Char.isDigit then none
  else
    let n : Int := valueOf 10 digits
    some (if negative then -n else n)

/-! ## Words -/

def comparisons : List (String × Comparison) :=
  [("=", .same), ("!=", .different), ("<", .less), (">", .greater), ("-eq", .equal),
    ("-ne", .unequal), ("-lt", .below), ("-le", .atMost), ("-gt", .above), ("-ge", .atLeast),
    ("-nt", .newer), ("-ot", .older), ("-ef", .sameFile)]

def comparison? (text : String) : Option Comparison :=
  (comparisons.find? fun entry => entry.1 == text).map Prod.snd

def unaryLetters : List Char := "rwxefdcbpugkstznhOGLS".toList

def operator? (text : String) : Option TestToken :=
  match comparison? text with
  | some op => some (.binary op)
  | none =>
    match text.toList with
    | ['!'] => some .negation
    | ['('] => some .openParen
    | [')'] => some .closeParen
    | ['-', 'a'] => some .conjunction
    | ['-', 'o'] => some .alternative
    | ['-', c] => if unaryLetters.contains c then some (.unary c) else none
    | _ => none

def isBinary (text : String) : Bool := (comparison? text).isSome

def isOperand (rest : List String) : Bool :=
  match rest with
  | [] => true
  | [_] => false
  | next :: _ => isBinary next

def token? : List String → Option TestToken
  | [] => none
  | word :: rest =>
    match operator? word with
    | some (.unary c) => some (if isOperand rest then .operand else .unary c)
    | some .openParen => some (if rest.isEmpty then .operand else .openParen)
    | some op => some op
    | none => some .operand

/-! ## Conditions of the shell -/

abbrev Judging := StateT (List String) (Except String)

def problem {α : Type} (word text : String) : Judging α := fun _ =>
  .error (if word.isEmpty then text else word ++ ": " ++ text)

def shellNumber (text : String) : Judging Int :=
  match integer? text with
  | some n => if minInt64 ≤ n && n ≤ maxInt64 then return n else problem "Illegal number" text
  | none => problem "Illegal number" text

def unaryHolds (v : Standpoint) (letter : Char) (word : String) : Judging Bool :=
  match letter with
  | 'z' => return word.isEmpty
  | 'n' => return !word.isEmpty
  | 't' => do
    let _ ← shellNumber word
    return false
  | letter => return fileHolds v letter word

def binaryHolds (v : Standpoint) (comparison : Comparison) (a b : String) : Judging Bool := do
  if isNumeric comparison then
    let m ← shellNumber a
    let n ← shellNumber b
    return compareNumbers comparison m n
  else return compareTexts v comparison a b

def primary (v : Standpoint) (alternatives : Judging Bool) : Judging Bool := do
  let words ← get
  match token? words with
  | none => return false
  | some .openParen =>
    set words.tail
    if token? words.tail == some .closeParen then return false
    else
      let result ← alternatives
      modify List.tail
      if token? (← get) == some .closeParen then return result
      else problem "" "closing paren expected"
  | some (.unary c) =>
    match words with
    | _ :: operand :: rest =>
      set (operand :: rest)
      unaryHolds v c operand
    | word :: [] => problem word "argument expected"
    | [] => return false
  | some _ =>
    match words with
    | a :: op :: rest =>
      match comparison? op with
      | none => return !a.isEmpty
      | some comparison =>
        match rest with
        | [] => problem op "argument expected"
        | b :: more =>
          set (b :: more)
          binaryHolds v comparison a b
    | [a] => return !a.isEmpty
    | [] => return false

def negated (v : Standpoint) (alternatives : Judging Bool) : Nat → Judging Bool
  | 0 => return false
  | fuel + 1 => do
    let words ← get
    if token? words == some .negation then
      if words.tail.isEmpty then return true
      else
        set words.tail
        return !(← negated v alternatives fuel)
    else primary v alternatives

def chain (operand : Judging Bool) (separator : TestToken) (unit : Bool) :
    Nat → Bool → Judging Bool
  | 0, result => return result
  | fuel + 1, result => do
    let value ← operand
    let result := if unit then result && value else result || value
    let words ← get
    if token? words.tail == some separator then
      set words.tail.tail
      chain operand separator unit fuel result
    else return result

def alternatives (v : Standpoint) : Nat → Judging Bool
  | 0 => return false
  | fuel + 1 => do
    let bound := (← get).length + 1
    let conjunction := chain (negated v (alternatives v fuel) bound) .conjunction true bound true
    chain conjunction .alternative false bound false

def wholly (v : Standpoint) (words : List String) : Except String Bool := do
  let (result, rest) ← (alternatives v (words.length + 1)).run words
  match rest with
  | word :: _ :: _ =>
    .error (if word.isEmpty then "unexpected operator" else word ++ ": unexpected operator")
  | _ => return result

def shellHolds (v : Standpoint) : Nat → List String → Except String Bool
  | 0, words => wholly v words
  | fuel + 1, words =>
    match words with
    | [] => .ok false
    | [a, op, b] =>
      match comparison? op with
      | some comparison => ((binaryHolds v comparison a b).run []).map Prod.fst
      | none => adjusted fuel words
    | [_, _, _, _] => adjusted fuel words
    | _ => wholly v words
where
  adjusted (fuel : Nat) (words : List String) : Except String Bool :=
    match words with
    | "(" :: rest =>
      if rest.getLast? == some ")" then wholly v rest.dropLast else wholly v words
    | "!" :: rest => (shellHolds v fuel rest).map not
    | _ => wholly v words

/-! ## Conditions of the program -/

def programNumber (text : String) : Except String Int :=
  match integer? text with
  | some n => .ok n
  | none => .error ("invalid integer " ++ Quoting.word text)

def programComparison? (text : String) : Option Comparison :=
  if text == "==" then some .same
  else if text == "<" || text == ">" then none
  else comparison? text

def programBinary (v : Standpoint) (a op b : String) : Except String Bool :=
  match programComparison? op with
  | none => .error (Quoting.word op ++ ": binary operator expected")
  | some comparison => do
    if isNumeric comparison then
      let m ← programNumber a
      let n ← programNumber b
      return compareNumbers comparison m n
    else return compareTexts v comparison a b

def isUnaryWord (text : String) : Bool :=
  match text.toList with
  | ['-', c] => unaryLetters.contains c || c == 'N'
  | _ => false

def programUnary (v : Standpoint) (op word : String) : Except String Bool :=
  match op.toList with
  | ['-', 'z'] => .ok word.isEmpty
  | ['-', 'n'] => .ok !word.isEmpty
  | ['-', 't'] => (programNumber word).map fun _ => false
  | ['-', c] =>
    if isUnaryWord op then .ok (fileHolds v c word)
    else .error (Quoting.word op ++ ": unary operator expected")
  | _ => .error ("missing argument after " ++ Quoting.word word)

def programTwo (v : Standpoint) (a b : String) : Except String Bool :=
  if a == "!" then .ok b.isEmpty else programUnary v a b

mutual

def programTerm (v : Standpoint) : Nat → List String → String →
    Except String (Bool × List String × String)
  | 0, words, last => .ok (false, words, last)
  | _ + 1, [], last => .error ("missing argument after " ++ Quoting.word last)
  | fuel + 1, "!" :: rest, _ => do
    let (value, rest, last) ← programTerm v fuel rest "!"
    return (!value, rest, last)
  | fuel + 1, a :: rest, _ => do
    let isGroup := a == "(" && !rest.isEmpty
    if isGroup then
      let (value, rest, last) ← programAlternatives v fuel rest "("
      match rest with
      | ")" :: rest => return (value, rest, ")")
      | word :: _ => .error (Quoting.word ")" ++ " expected, found " ++ word)
      | [] => .error (Quoting.word ")" ++ " expected after " ++ last)
    else
      match rest with
      | op :: b :: more =>
        if (programComparison? op).isSome then
          return (← programBinary v a op b, more, b)
        else if isUnaryWord a then return (← programUnary v a op, b :: more, op)
        else return (!a.isEmpty, rest, a)
      | [b] =>
        if isUnaryWord a then return (← programUnary v a b, [], b)
        else return (!a.isEmpty, rest, a)
      | [] => return (!a.isEmpty, [], a)

def programAlternatives (v : Standpoint) : Nat → List String → String →
    Except String (Bool × List String × String)
  | 0, words, last => .ok (false, words, last)
  | fuel + 1, words, last => do
    let (value, rest, last) ← programTerm v fuel words last
    match rest with
    | "-a" :: more =>
      let (other, rest, last) ← programConjunction v fuel more "-a"
      programGoOn v fuel (value && other) rest last
    | rest => programGoOn v fuel value rest last

def programConjunction (v : Standpoint) : Nat → List String → String →
    Except String (Bool × List String × String)
  | 0, words, last => .ok (false, words, last)
  | fuel + 1, words, last => do
    let (value, rest, last) ← programTerm v fuel words last
    match rest with
    | "-a" :: more =>
      let (other, rest, last) ← programConjunction v fuel more "-a"
      return (value && other, rest, last)
    | rest => return (value, rest, last)

def programGoOn (v : Standpoint) : Nat → Bool → List String → String →
    Except String (Bool × List String × String)
  | 0, value, words, last => .ok (value, words, last)
  | fuel + 1, value, words, last =>
    match words with
    | "-o" :: more => do
      let (other, rest, last) ← programAlternatives v fuel more "-o"
      return (value || other, rest, last)
    | words => .ok (value, words, last)

end

def programWholly (v : Standpoint) (words : List String) : Except String Bool := do
  let (value, rest, _) ← programAlternatives v (2 * words.length + 2) words ""
  match rest with
  | [] => return value
  | word :: _ => .error ("extra argument " ++ Quoting.word word)

def programThree (v : Standpoint) (a b c : String) : Except String Bool :=
  if (programComparison? b).isSome then programBinary v a b c
  else if a == "!" then (programTwo v b c).map not
  else if a == "(" && c == ")" then .ok !b.isEmpty
  else if b == "-a" || b == "-o" || b == "<" || b == ">" then
    if b == "-a" then .ok (!a.isEmpty && !c.isEmpty)
    else if b == "-o" then .ok (!a.isEmpty || !c.isEmpty)
    else .error (Quoting.word b ++ ": binary operator expected")
  else .error (Quoting.word b ++ ": binary operator expected")

def programHolds (v : Standpoint) (words : List String) : Except String Bool :=
  match words with
  | [] => .ok false
  | [a] => .ok !a.isEmpty
  | [a, b] => programTwo v a b
  | [a, b, c] => programThree v a b c
  | ["!", b, c, d] => (programThree v b c d).map not
  | ["(", b, c, ")"] => programTwo v b c
  | words => programWholly v words

end Condition

end Interop.Shell
