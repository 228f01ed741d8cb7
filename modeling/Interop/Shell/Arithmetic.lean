/-!
# Arithmetic of the shell

Expressions over signed words of 64 bits, with the operators and the precedences of the language
in which systems are written, except for those that count up and down.  Variables stand for the
numbers that their values are written as.
-/

namespace Interop.Shell

inductive BinaryOp
  | mul | div | rem | add | sub | left | right
  | less | lessEq | greater | greaterEq | equal | different
  | both | exclusive | either | logicalAnd | logicalOr
  deriving DecidableEq, Repr

inductive UnaryOp
  | negate
  | keep
  | complement
  | invert
  deriving DecidableEq, Repr

inductive Expr
  | number (n : Int)
  | name (name : String)
  | unary (op : UnaryOp) (e : Expr)
  | binary (op : BinaryOp) (a b : Expr)
  | choice (condition a b : Expr)
  /-- Sets a variable; an operator is applied to its old value first. -/
  | assign (name : String) (op : Option BinaryOp) (e : Expr)
  deriving Repr

instance : Inhabited Expr := ⟨.number 0⟩

inductive ArithmeticError
  | expectingPrimary
  | expectingEnd
  | expectingClosing
  | expectingColon
  | divisionByZero
  | illegalNumber (text : String)
  deriving DecidableEq, Repr, Inhabited

def ArithmeticError.message (source : String) : ArithmeticError → String
  | .illegalNumber text => "Illegal number: " ++ text
  | e =>
    let problem := match e with
      | .expectingPrimary => "expecting primary"
      | .expectingEnd => "expecting EOF"
      | .expectingClosing => "expecting ')'"
      | .expectingColon => "expecting ':'"
      | _ => "division by zero"
    "arithmetic expression: " ++ problem ++ ": \"" ++ source ++ "\""

/-! ## Words -/

def wrapWord (n : Int) : Int := n.bmod 18446744073709551616

def maxInt64 : Int := 9223372036854775807

def minInt64 : Int := -9223372036854775808

def clampWord (n : Int) : Int := max minInt64 (min maxInt64 n)

def unsignedWord (n : Int) : Nat := (n.emod 18446744073709551616).toNat

/-! ## Numbers -/

def digitValue? (c : Char) : Option Nat :=
  if c.isDigit then some (c.toNat - '0'.toNat)
  else if 'a' ≤ c && c ≤ 'z' then some (c.toNat - 'a'.toNat + 10)
  else if 'A' ≤ c && c ≤ 'Z' then some (c.toNat - 'A'.toNat + 10)
  else none

def isDigitOf (base : Nat) (c : Char) : Bool :=
  (digitValue? c).any fun value => decide (value < base)

def valueOf (base : Nat) (cs : List Char) : Nat :=
  cs.foldl (fun n c => base * n + (digitValue? c).getD 0) 0

/-- An unsigned number at the beginning of some characters, with the rest: octal after a zero,
hexadecimal after a zero and an x, decimal otherwise. -/
def readNatural (cs : List Char) : Option (Nat × List Char) :=
  let digits (base : Nat) (cs : List Char) : Nat × List Char :=
    let found := cs.takeWhile (isDigitOf base)
    (valueOf base found, cs.drop found.length)
  match cs with
  | '0' :: x :: d :: rest =>
    if (x == 'x' || x == 'X') && isDigitOf 16 d then some (digits 16 (d :: rest))
    else some (digits 8 cs)
  | '0' :: _ => some (digits 8 cs)
  | c :: _ => if c.isDigit then some (digits 10 cs) else none
  | [] => none

def isSpace (c : Char) : Bool := c == ' ' || (9 ≤ c.toNat && c.toNat ≤ 13)

def readInteger (cs : List Char) : Option (Int × List Char) :=
  match cs.dropWhile isSpace with
  | '-' :: rest => (readNatural rest).map fun (n, rest) => (-(n : Int), rest)
  | '+' :: rest => (readNatural rest).map fun (n, rest) => ((n : Int), rest)
  | rest => (readNatural rest).map fun (n, rest) => ((n : Int), rest)

/-- The number that a value is written as; nothing is zero. -/
def numberOf (text : String) : Except ArithmeticError Int :=
  let cs := text.toList
  if cs.isEmpty then .ok 0
  else
    match readInteger cs with
    | some (n, rest) =>
      if rest.all isSpace && minInt64 ≤ n && n ≤ maxInt64 then .ok n
      else .error (.illegalNumber text)
    | none => .error (.illegalNumber text)

namespace Arithmetic

/-! ## Reading -/

abbrev Parsing := StateT (List Char) (Except ArithmeticError)

def spaces : Parsing Unit := modify (List.dropWhile isSpace)

/-- Whether an operator comes next, which is skipped then.  One that is longer, or that assigns,
does not count. -/
def operator (text : String) (notBefore : List Char) : Parsing Bool := do
  spaces
  let cs ← get
  if text.toList.isPrefixOf cs then
    let rest := cs.drop text.length
    if rest.head?.any fun c => notBefore.contains c then return false
    else
      set rest
      return true
  else return false

def levels : List (List (String × List Char × BinaryOp)) :=
  [[("||", [], .logicalOr)],
    [("&&", [], .logicalAnd)],
    [("|", ['|', '='], .either)],
    [("^", ['='], .exclusive)],
    [("&", ['&', '='], .both)],
    [("==", [], .equal), ("!=", [], .different)],
    [("<=", [], .lessEq), (">=", [], .greaterEq), ("<", ['<'], .less), (">", ['>'], .greater)],
    [("<<", ['='], .left), (">>", ['='], .right)],
    [("+", ['='], .add), ("-", ['='], .sub)],
    [("*", ['='], .mul), ("/", ['='], .div), ("%", ['='], .rem)]]

def assignments : List (String × Option BinaryOp) :=
  [("=", none), ("*=", some .mul), ("/=", some .div), ("%=", some .rem), ("+=", some .add),
    ("-=", some .sub), ("<<=", some .left), (">>=", some .right), ("&=", some .both),
    ("^=", some .exclusive), ("|=", some .either)]

def firstOperator : List (String × List Char × BinaryOp) → Parsing (Option BinaryOp)
  | [] => return none
  | (text, notBefore, op) :: rest => do
    if ← operator text notBefore then return some op else firstOperator rest

def firstAssignment : List (String × Option BinaryOp) → Parsing (Option (Option BinaryOp))
  | [] => return none
  | (text, op) :: rest => do
    if ← operator text (if op.isNone then ['='] else []) then return some op
    else firstAssignment rest

def isNameStart (c : Char) : Bool := c.isAlpha || c == '_'

def isNamePart (c : Char) : Bool := c.isAlphanum || c == '_'

def primary (whole : Parsing Expr) : Nat → Parsing Expr
  | 0 => throw .expectingPrimary
  | fuel + 1 => do
    spaces
    match ← get with
    | '(' :: rest =>
      set rest
      let e ← whole
      if ← operator ")" [] then return e else throw .expectingClosing
    | '-' :: rest => set rest; return .unary .negate (← primary whole fuel)
    | '+' :: rest => set rest; return .unary .keep (← primary whole fuel)
    | '~' :: rest => set rest; return .unary .complement (← primary whole fuel)
    | '!' :: rest => set rest; return .unary .invert (← primary whole fuel)
    | cs =>
      match readNatural cs with
      | some (n, rest) =>
        set rest
        return .number (clampWord n)
      | none =>
        match cs with
        | c :: _ =>
          if isNameStart c then
            let name := cs.takeWhile isNamePart
            set (cs.drop name.length)
            return .name (String.ofList name)
          else throw .expectingPrimary
        | [] => throw .expectingPrimary

def chain (operand : Parsing Expr) (ops : List (String × List Char × BinaryOp)) :
    Nat → Expr → Parsing Expr
  | 0, e => return e
  | fuel + 1, e => do
    match ← firstOperator ops with
    | some op => chain operand ops fuel (.binary op e (← operand))
    | none => return e

def binary (operand : Parsing Expr) : List (List (String × List Char × BinaryOp)) → Parsing Expr
  | [] => operand
  | ops :: tighter => do
    let first ← binary operand tighter
    chain (binary operand tighter) ops ((← get).length + 1) first

/-- A whole expression: an assignment, a choice, or operators and operands. -/
def expression : Nat → Parsing Expr
  | 0 => throw .expectingPrimary
  | fuel + 1 => do
    spaces
    let start ← get
    let name := start.takeWhile isNamePart
    let isTarget := start.head?.any isNameStart
    if isTarget then set (start.drop name.length)
    let assignment ← if isTarget then firstAssignment assignments else pure none
    match assignment with
    | some op => return .assign (String.ofList name) op (← expression fuel)
    | none =>
      set start
      let e ← binary (primary (expression fuel) (start.length + 1)) levels
      if ← operator "?" [] then
        let a ← expression fuel
        if ← operator ":" [] then return .choice e a (← expression fuel)
        else throw .expectingColon
      else return e

/-- The expression that a text is; nothing is zero. -/
def parse (text : String) : Except ArithmeticError Expr := do
  let cs := text.toList
  if cs.all isSpace then return .number 0
  else
    let (e, rest) ← (expression (cs.length + 1)).run cs
    if rest.all isSpace then return e else throw .expectingEnd

/-! ## Evaluation -/

def ofBool (b : Bool) : Int := if b then 1 else 0

def places (n : Int) : Nat := (n.emod 64).toNat

def shiftLeft (a : Int) (n : Nat) : Int := wrapWord (a * ((1 <<< n : Nat) : Int))

def onBits (f : Nat → Nat → Nat) (a b : Int) : Int :=
  wrapWord (f (unsignedWord a) (unsignedWord b))

def applyBinary (op : BinaryOp) (a b : Int) : Except ArithmeticError Int :=
  match op with
  | .mul => .ok (wrapWord (a * b))
  | .div => if b = 0 then .error .divisionByZero else .ok (wrapWord (a.tdiv b))
  | .rem => if b = 0 then .error .divisionByZero else .ok (a.tmod b)
  | .add => .ok (wrapWord (a + b))
  | .sub => .ok (wrapWord (a - b))
  | .left => .ok (shiftLeft a (places b))
  | .right => .ok (a.fdiv ((1 <<< places b : Nat) : Int))
  | .less => .ok (ofBool (decide (a < b)))
  | .lessEq => .ok (ofBool (decide (a ≤ b)))
  | .greater => .ok (ofBool (decide (b < a)))
  | .greaterEq => .ok (ofBool (decide (b ≤ a)))
  | .equal => .ok (ofBool (a == b))
  | .different => .ok (ofBool (a != b))
  | .both => .ok (onBits Nat.land a b)
  | .exclusive => .ok (onBits Nat.xor a b)
  | .either => .ok (onBits Nat.lor a b)
  | .logicalAnd => .ok (ofBool (a != 0 && b != 0))
  | .logicalOr => .ok (ofBool (a != 0 || b != 0))

def applyUnary (op : UnaryOp) (a : Int) : Int :=
  match op with
  | .negate => wrapWord (-a)
  | .keep => a
  | .complement => -a - 1
  | .invert => ofBool (a == 0)

abbrev Changes := List (String × Int)

abbrev Evaluating := StateT Changes (Except ArithmeticError)

def valueOfName (lookup : String → Option String) (name : String) : Evaluating Int := do
  match (← get).find? fun change => change.1 == name with
  | some change => return change.2
  | none => StateT.lift (numberOf ((lookup name).getD ""))

/-- The value of an expression; only what decides is looked at. -/
def evaluate (lookup : String → Option String) : Expr → Evaluating Int
  | .number n => return n
  | .name name => valueOfName lookup name
  | .unary op e => do return applyUnary op (← evaluate lookup e)
  | .binary .logicalAnd a b => do
    if (← evaluate lookup a) == 0 then return 0
    else return ofBool ((← evaluate lookup b) != 0)
  | .binary .logicalOr a b => do
    if (← evaluate lookup a) != 0 then return 1
    else return ofBool ((← evaluate lookup b) != 0)
  | .binary op a b => do
    let a ← evaluate lookup a
    let b ← evaluate lookup b
    StateT.lift (applyBinary op a b)
  | .choice condition a b => do
    if (← evaluate lookup condition) != 0 then evaluate lookup a else evaluate lookup b
  | .assign name op e => do
    let value ← match op with
      | none => evaluate lookup e
      | some op => do
        let a ← valueOfName lookup name
        let b ← evaluate lookup e
        StateT.lift (applyBinary op a b)
    modify fun changes => (name, value) :: changes
    return value

def compute (lookup : String → Option String) (text : String) :
    Except ArithmeticError (Int × Changes) := do
  (evaluate lookup (← parse text)).run []

end Arithmetic

end Interop.Shell
