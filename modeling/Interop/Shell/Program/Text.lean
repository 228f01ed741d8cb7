import Interop.Shell.Format.Printf
import Interop.Shell.Glob
import Interop.Shell.Program.Basic

/-!
# Programs that pass text on

These programs write what they are given or what they read: all of it, its beginning, its end,
parts of its lines, or its lines in another order.
-/

namespace Interop.Shell.Program

/-! ## Writing arguments -/

def isEchoOption (arg : String) : Bool :=
  match arg.toList with
  | '-' :: c :: cs => (c :: cs).all fun c => c == 'n' || c == 'e' || c == 'E'
  | _ => false

def echo : Program := fun self args => do
  let given := args.takeWhile isEchoOption
  let words := args.drop given.length
  let letters := given.flatMap fun arg => arg.toList.drop 1
  let escapes := (letters.reverse.find? fun c => c == 'e' || c == 'E') == some 'e'
  let text := " ".intercalate words
  let plain : Unescaped :=
    if escapes then Escape.unescape ⟨false, true, true, true⟩ text else ⟨text.toList, false⟩
  out self (String.ofList plain.text ++
    (if plain.stops || letters.contains 'n' then "" else "\n"))

def printf : Program := fun self args => do
  let args := if args.head? == some "--" then args.tail else args
  match args with
  | [] => misuse self "missing operand" 1
  | format :: args =>
    let result := Printf.run .program format args
    out self (String.ofList result.output)
    result.complaints.forM (complain self)
    let warned := result.complaints.all fun text => text.startsWith "warning:"
    Act.setStatus (if warned && !result.broken then 0 else 1)

def yes : Program := fun self args => do
  let line := (if args.isEmpty then "y" else " ".intercalate args) ++ "\n"
  match ← Act.file? 1 with
  | some (_, file) =>
    if file.target == .pipe then
      let count := Act.pipeLimit / line.length + 1
      out self (String.join (List.replicate count line))
      Act.leave (.killed 13)
    else
      out self line
      Act.leave .endless
  | none =>
    out self line

/-! ## Whole files -/

def overInputs (paths : List String) (each : String → Act Unit) : Act Unit :=
  (if paths.isEmpty then ["-"] else paths).forM each

def spoil (status : Nat) : Act Unit := Act.setStatus status

def visible (tabs : Bool) (c : Char) : String :=
  let n := c.toNat
  if c == '\n' || (c == '\t' && !tabs) then c.toString
  else if n < 32 then "^" ++ (Char.ofNat (n + 64)).toString
  else if n == 127 then "^?"
  else if n < 128 then c.toString
  else
    let m := n - 128
    "M-" ++ (if m < 32 then "^" ++ (Char.ofNat (m + 64)).toString
      else if m == 127 then "^?" else (Char.ofNat m).toString)

def cat : Program := fun self args => do
  let (given, paths) ← options self
    [⟨'n', some "number", false⟩, ⟨'b', some "number-nonblank", false⟩,
      ⟨'E', some "show-ends", false⟩, ⟨'A', some "show-all", false⟩,
      ⟨'T', some "show-tabs", false⟩, ⟨'s', some "squeeze-blank", false⟩,
      ⟨'v', some "show-nonprinting", false⟩, ⟨'e', none, false⟩, ⟨'t', none, false⟩,
      ⟨'u', none, false⟩] false 1 args
  let has := Options.has given
  Act.setStatus 0
  let shows := has 'A' || has 'v' || has 'e' || has 't'
  let tabs := has 'A' || has 'T' || has 't'
  let ends := has 'A' || has 'E' || has 'e'
  let plainly := !(shows || tabs || ends || has 'n' || has 'b' || has 's')
  let format (text : String) : String :=
    let lines := text.splitOn "\n"
    let count := lines.length
    let step (state : String × Nat × Bool × Nat) (line : String) : String × Nat × Bool × Nat :=
      let (done, number, blank, index) := state
      let isLast := index + 1 == count
      if isLast && line.isEmpty then state
      else if has 's' && line.isEmpty && blank then (done, number, blank, index + 1)
      else
        let numbered := has 'b' && !line.isEmpty || has 'n' && !has 'b'
        let digits := toString number
        let lead := if numbered then
            String.ofList (List.replicate (6 - digits.length) ' ') ++ digits ++ "\t"
          else ""
        let shown := if shows then String.join (line.toList.map (visible tabs))
          else if tabs then
            String.join (line.toList.map fun c => if c == '\t' then "^I" else c.toString)
          else line
        let ending := if isLast then "" else (if ends then "$" else "") ++ "\n"
        (done ++ lead ++ shown ++ ending, if numbered then number + 1 else number,
          line.isEmpty, index + 1)
    (lines.foldl step ("", 1, false, 0)).1
  overInputs paths fun path => do
    match ← inputOf path with
    | .error e =>
      complain self (Quoting.beforeColon path ++ ": " ++ e.text)
      spoil 1
    | .ok (text, ends) =>
      out self (if plainly then text else format text)
      if !ends then Act.leave .endless

def tac : Program := fun self args => do
  let (_, paths) ← options self [⟨'s', some "separator", true⟩] false 1 args
  Act.setStatus 0
  overInputs paths fun path => do
    match ← inputOf path with
    | .error e =>
      complain self ("failed to open " ++ Quoting.always path ++ " for reading: " ++ e.text)
      spoil 1
    | .ok (text, ends) =>
      if !ends then Act.leave .endless
      let lines := linesOf text
      if text.isEmpty || text.endsWith "\n" then out self (joinLines lines.reverse)
      else
        match lines.reverse with
        | last :: rest => out self (last ++ joinLines rest)
        | [] => return ()

def rev : Program := fun self args => do
  Act.setStatus 0
  overInputs args fun path => do
    match ← inputOf path with
    | .error e =>
      complain self ("cannot open " ++ path ++ ": " ++ e.text)
      spoil 1
    | .ok (text, _) =>
      let reversed := (text.splitOn "\n").map fun line => String.ofList line.toList.reverse
      out self ("\n".intercalate reversed)

def tee : Program := fun self args => do
  let (given, paths) ← options self [⟨'a', some "append", false⟩, ⟨'i', none, false⟩] false 1 args
  Act.setStatus 0
  let (text, ends) ← Act.readAll 0
  out self text
  paths.forM fun path => do
    let s ← get
    match s.world.disk.placeFile s.directory path with
    | .error e =>
      complain self (Quoting.beforeColon path ++ ": " ++ e.text)
      spoil 1
    | .ok place =>
      let before := match place.entry with
        | some (.file content _) => if Options.has given 'a' then content else ""
        | _ => ""
      match s.world.disk.save s.directory path (before ++ text) with
      | .ok disk => Act.modifyWorld fun w => w.setDisk disk
      | .error e =>
        complain self (Quoting.beforeColon path ++ ": " ++ e.text)
        spoil 1
  if !ends then Act.leave .endless

/-! ## Beginnings and ends -/

def readCount (text : String) : Option (Option Char × Nat) :=
  let (sign, cs) := match text.toList with
    | '-' :: cs => (some '-', cs)
    | '+' :: cs => (some '+', cs)
    | cs => (none, cs)
  let digits := cs.takeWhile Char.isDigit
  let unit := match String.ofList (cs.drop digits.length) with
    | "" => some 1
    | "b" => some 512
    | "k" | "K" | "KiB" => some 1024
    | "kB" => some 1000
    | "M" | "MiB" => some 1048576
    | "MB" => some 1000000
    | _ => none
  if digits.isEmpty then none else unit.map fun unit => (sign, valueOf 10 digits * unit)

def isOldCount (arg : String) : Bool :=
  match arg.toList with
  | '-' :: c :: _ => c.isDigit
  | _ => false

def modernise (args : List String) : List String :=
  args.map fun arg => if isOldCount arg then "-n" ++ (arg.drop 1).toString else arg

def countSpecs : List OptionSpec :=
  [⟨'n', some "lines", true⟩, ⟨'c', some "bytes", true⟩, ⟨'q', some "quiet", false⟩,
    ⟨'v', some "verbose", false⟩, ⟨'f', some "follow", false⟩, ⟨'F', none, false⟩,
    ⟨'s', some "sleep-interval", true⟩, ⟨'z', some "zero-terminated", false⟩]

def headOf (bytes : Bool) (sign : Option Char) (count : Nat) (text : String) : String :=
  if bytes then
    let cs := text.toList
    String.ofList (if sign == some '-' then cs.take (cs.length - count) else cs.take count)
  else
    let lines := linesOf text
    let kept := if sign == some '-' then lines.take (lines.length - count) else lines.take count
    if kept.length == lines.length then text else joinLines kept

def tailOf (bytes : Bool) (sign : Option Char) (count : Nat) (text : String) : String :=
  if bytes then
    let cs := text.toList
    String.ofList (if sign == some '+' then cs.drop (count - 1) else cs.drop (cs.length - count))
  else
    let lines := linesOf text
    let dropped := if sign == some '+' then count - 1 else lines.length - count
    let kept := lines.drop dropped
    if text.isEmpty || text.endsWith "\n" then joinLines kept else "\n".intercalate kept

/-- What `head` and `tail` have in common: a part of each input, under a headline when there are
several. -/
def partly (self : String) (args : List String)
    (part : Bool → Option Char → Nat → String → String) (stopsEarly : Bool) : Act Unit := do
  let (given, paths) ← options self countSpecs false 1 (modernise args)
  Act.setStatus 0
  let chosen := (given.reverse.find? fun o => o.letter == 'n' || o.letter == 'c')
  let bytes := chosen.any fun o => o.letter == 'c'
  let text := (chosen.map GivenOption.value).getD "10"
  match readCount text with
  | none =>
    abort self ("invalid number of " ++ (if bytes then "bytes" else "lines") ++ ": " ++
      Quoting.word text) 1
  | some (sign, count) =>
    let headlines := (paths.length > 1 || Options.has given 'v') && !Options.has given 'q'
    let step (isFirst : Bool) (path : String) : Act Bool := do
      match ← inputOf path with
      | .error .isDirectory =>
        if headlines then
          out self ((if isFirst then "" else "\n") ++ "==> " ++ path ++ " <==\n")
        complain self
          ("error reading " ++ Quoting.always path ++ ": " ++ DiskError.isDirectory.text)
        spoil 1
        return false
      | .error e =>
        complain self ("cannot open " ++ Quoting.always path ++ " for reading: " ++ e.text)
        spoil 1
        return isFirst
      | .ok (text, ends) =>
        if headlines then
          let name := if path == "-" then "standard input" else path
          out self ((if isFirst then "" else "\n") ++ "==> " ++ name ++ " <==\n")
        let shown := part bytes sign count text
        out self shown
        if !ends && !(stopsEarly && shown.length < text.length) then Act.leave .endless
        return false
    let _ ← (if paths.isEmpty then ["-"] else paths).foldlM step true
    if !stopsEarly && (Options.has given 'f' || Options.has given 'F') &&
        ((← get).status == 0 || paths.length > 1) then
      Act.leave .endless

def head : Program := fun self args => partly self args headOf true

def tail : Program := fun self args => partly self args tailOf false

/-! ## Counting -/

/-- What is counted of a text: lines, words, characters, bytes and the longest line. -/
def countsOf (given : List GivenOption) (text : String) : List Nat :=
  let has := Options.has given
  let none' := !(has 'l' || has 'w' || has 'c' || has 'm' || has 'L')
  let cs := text.toList
  let words := (cs.foldl
    (fun (state : Nat × Bool) c =>
      if isSpace c then (state.1, false)
      else (if state.2 then state.1 else state.1 + 1, true))
    (0, false)).1
  let longest := ((text.splitOn "\n").map Text.characterCount).foldl max 0
  (if has 'l' || none' then [(cs.filter (· == '\n')).length] else []) ++
    (if has 'w' || none' then [words] else []) ++
    (if has 'm' then [Text.characterCount text] else []) ++
    (if has 'c' || none' then [cs.length] else []) ++
    (if has 'L' then [longest] else [])

def padTo (width : Nat) (text : String) : String :=
  String.ofList (List.replicate (width - text.length) ' ') ++ text

def isPlainInput (path : String) : Act Bool := do
  if path == "-" then
    match ← Act.file? 0 with
    | some (_, file) =>
      match file.target with
      | .file _ => return true
      | _ => return false
    | none => return false
  else
    let s ← get
    match s.world.disk.status s.directory path with
    | .ok (_, .file _ _) => return true
    | .ok _ => return false
    | .error _ => return true

def wc : Program := fun self args => do
  let (given, paths) ← options self
    [⟨'l', some "lines", false⟩, ⟨'w', some "words", false⟩, ⟨'c', some "bytes", false⟩,
      ⟨'m', some "chars", false⟩, ⟨'L', some "max-line-length", false⟩] false 1 args
  Act.setStatus 0
  let inputs := if paths.isEmpty then ["-"] else paths
  let plain ← inputs.mapM isPlainInput
  let found ← inputs.mapM fun path => do
    match ← inputOf path with
    | .ok (text, ends) =>
      if !ends then Act.leave .endless
      return (path, some (countsOf given text), text.length)
    | .error .isDirectory =>
      complain self (Quoting.beforeColon path ++ ": " ++ DiskError.isDirectory.text)
      spoil 1
      return (path, some ((countsOf given "").map fun _ => 0), 0)
    | .error e =>
      complain self (Quoting.beforeColon path ++ ": " ++ e.text)
      spoil 1
      return (path, none, 0)
  let total := (found.map fun entry => entry.2.2).foldl (· + ·) 0
  let columns := (countsOf given "").length
  let width :=
    if columns == 1 && inputs.length == 1 then 1
    else max (toString total).length (if plain.all id then 1 else 7)
  let line (counts : List Nat) (name : Option String) : String :=
    " ".intercalate (counts.map fun n => padTo width (toString n)) ++
      (match name with
      | some name => " " ++ name
      | none => "") ++ "\n"
  found.forM fun (path, counts?, _) =>
    match counts? with
    | some counts =>
      out self (line counts (if paths.isEmpty then none else some path))
    | none => return ()
  if inputs.length > 1 then
    let sums := (found.filterMap fun entry => entry.2.1).foldl
      (fun sums counts => List.zipWith (· + ·) sums counts) (List.replicate columns 0)
    out self (line sums (some "total"))

/-! ## Characters -/

def trSet : Nat → List Char → List Char
  | 0, _ => []
  | _ + 1, [] => []
  | fuel + 1, '[' :: ':' :: rest =>
    let name := rest.takeWhile Char.isAlpha
    match rest.drop name.length with
    | ':' :: ']' :: rest =>
      let all := (List.range 256).map Char.ofNat
      all.filter (Glob.isOfKind (String.ofList name)) ++ trSet fuel rest
    | _ => '[' :: trSet fuel (':' :: rest)
  | fuel + 1, cs =>
    let (c, rest) := single cs
    match rest with
    | '-' :: d :: more =>
      let (high, rest) := single (d :: more)
      (List.range (high.toNat + 1 - c.toNat)).map (fun n => Char.ofNat (n + c.toNat)) ++
        trSet fuel rest
    | rest => c :: trSet fuel rest
where
  single (cs : List Char) : Char × List Char :=
    match cs with
    | '\\' :: rest =>
      match Escape.sequence .shellFormat rest with
      | ([c], _, rest) => (c, rest)
      | _ =>
        match rest with
        | c :: rest => (c, rest)
        | [] => ('\\', [])
    | c :: rest => (c, rest)
    | [] => ('\\', [])

def translate (source target : List Char) (c : Char) : Char :=
  match source.reverse.findIdx? (· == c) with
  | none => c
  | some fromEnd =>
    let index := source.length - 1 - fromEnd
    match target[index]? with
    | some d => d
    | none => target.getLast?.getD c

def squeeze (set : List Char) (cs : List Char) : List Char :=
  (cs.foldl
    (fun (done : List Char) c =>
      if set.contains c && done.head? == some c then done else c :: done)
    []).reverse

def tr : Program := fun self args => do
  let (given, sets) ← options self
    [⟨'d', some "delete", false⟩, ⟨'s', some "squeeze-repeats", false⟩,
      ⟨'c', some "complement", false⟩, ⟨'C', none, false⟩,
      ⟨'t', some "truncate-set1", false⟩] true 1 args
  let has := Options.has given
  Act.setStatus 0
  let deletes := has 'd'
  let squeezes := has 's'
  match sets with
  | [] => missingOperand self 1
  | first :: rest =>
    let needsTwo := !deletes && !squeezes || deletes && squeezes
    if needsTwo && rest.isEmpty then
      complain self ("missing operand after " ++ Quoting.word first)
      Act.complainRaw (if deletes then
          "Two strings must be given when both deleting and squeezing repeats.\n"
        else "Two strings must be given when translating.\n")
      hint self
      finish 1
    else if deletes && !squeezes && !rest.isEmpty then
      complain self ("extra operand " ++ Quoting.word (rest.headD ""))
      Act.complainRaw "Only one string may be given when deleting without squeezing repeats.\n"
      hint self
      finish 1
    else
      let named := trSet (first.length + 1) first.toList
      let source := if has 'c' || has 'C' then
          ((List.range 256).map Char.ofNat).filter fun c => !named.contains c
        else named
      let target := trSet ((rest.headD "").length + 1) (rest.headD "").toList
      let (text, ends) ← Act.readAll 0
      let cs := text.toList
      let cs :=
        if deletes then
          let kept := cs.filter fun c => !source.contains c
          if squeezes then squeeze target kept else kept
        else if rest.isEmpty then squeeze source cs
        else
          let source := if has 't' then source.take target.length else source
          let changed := cs.map (translate source target)
          if squeezes then squeeze target changed else changed
      out self (String.ofList cs)
      if !ends then Act.leave .endless

/-! ## Parts of lines -/

def readRanges (text : String) : Option (List (Nat × Option Nat)) :=
  (text.splitOn ",").mapM fun part =>
    match part.splitOn "-" with
    | [n] => n.toNat?.map fun n => (n, some n)
    | [low, high] =>
      if low.isEmpty && high.isEmpty then none
      else if low.isEmpty then high.toNat?.map fun high => (1, some high)
      else if high.isEmpty then low.toNat?.map fun low => (low, none)
      else
        match low.toNat?, high.toNat? with
        | some low, some high => some (low, some high)
        | _, _ => none
    | _ => none

def inSomeRange (ranges : List (Nat × Option Nat)) (n : Nat) : Bool :=
  ranges.any fun (low, high) => low ≤ n && high.all fun high => n ≤ high

def chosen {α : Type} (ranges : List (Nat × Option Nat)) (elements : List α) : List α :=
  (elements.zip (List.range elements.length)).filterMap fun (a, i) =>
    if inSomeRange ranges (i + 1) then some a else none

def cut : Program := fun self args => do
  let (given, paths) ← options self
    [⟨'f', some "fields", true⟩, ⟨'d', some "delimiter", true⟩, ⟨'c', some "characters", true⟩,
      ⟨'b', some "bytes", true⟩, ⟨'s', some "only-delimited", false⟩, ⟨'n', none, false⟩,
      ⟨'o', some "output-delimiter", true⟩] false 1 args
  Act.setStatus 0
  let delimiter := (Options.value? given 'd').getD "\t"
  let list? := (given.find? fun o => o.letter == 'f' || o.letter == 'c' || o.letter == 'b')
  match list? with
  | none => misuse self "you must specify a list of bytes, characters, or fields" 1
  | some o =>
    if delimiter.length != 1 then misuse self "the delimiter must be a single character" 1
    else
      match readRanges o.value with
      | none =>
        misuse self ("invalid " ++ (if o.letter == 'f' then "field" else "byte/character") ++
          (if o.letter == 'f' then " value " else " position ") ++ Quoting.word o.value) 1
      | some ranges =>
        if ranges.any fun range => range.1 == 0 then
          misuse self (if o.letter == 'f' then "fields are numbered from 1"
            else "byte/character positions are numbered from 1") 1
        else
          overInputs paths fun path => do
            match ← inputOf path with
            | .error e =>
              complain self (Quoting.beforeColon path ++ ": " ++ e.text)
              spoil 1
            | .ok (text, _) =>
              let between := (Options.value? given 'o').getD delimiter
              let lines := (linesOf text).filterMap fun line =>
                if o.letter == 'f' then
                  let fields := line.splitOn delimiter
                  if fields.length == 1 then if Options.has given 's' then none else some line
                  else some (between.intercalate (chosen ranges fields))
                else some (String.ofList (chosen ranges line.toList))
              out self (joinLines lines)

/-! ## Lines in order -/

def numericKey (text : String) : Int :=
  let cs := text.toList.dropWhile isBlank
  let (negative, cs) := match cs with
    | '-' :: cs => (true, cs)
    | cs => (false, cs)
  let whole := cs.takeWhile Char.isDigit
  let fraction := match cs.drop whole.length with
    | '.' :: rest => (rest.takeWhile Char.isDigit).take 9
    | _ => []
  let n : Int := valueOf 10 (whole ++ fraction ++ List.replicate (9 - fraction.length) '0')
  if negative then -n else n

/-- A key of a line: fields, and letters for the order. -/
structure SortKey where
  first : Nat
  last : Option Nat
  letters : List Char

def blankFields : Nat → List Char → List (List Char)
  | 0, _ => []
  | _ + 1, [] => []
  | fuel + 1, cs =>
    let blanks := cs.takeWhile isBlank
    let word := (cs.drop blanks.length).takeWhile fun c => !isBlank c
    (blanks ++ word) :: blankFields fuel (cs.drop (blanks.length + word.length))

def keyText (separator : Option String) (key : SortKey) (line : String) : String :=
  let range : Nat × Option Nat := (key.first, key.last)
  match separator with
  | some separator => separator.intercalate (chosen [range] (line.splitOn separator))
  | none =>
    String.ofList (chosen [range] (blankFields (line.length + 1) line.toList)).flatten

def readKey (text : String) : Option SortKey :=
  let part (text : String) : Option Nat × List Char :=
    let digits := text.toList.takeWhile Char.isDigit
    let rest := text.toList.drop digits.length
    let rest := match rest with
      | '.' :: rest => rest.dropWhile Char.isDigit
      | rest => rest
    ((String.ofList digits).toNat?, rest)
  match text.splitOn "," with
  | [first] =>
    match part first with
    | (some first, letters) => some ⟨first, none, letters⟩
    | _ => none
  | [first, last] =>
    match part first, part last with
    | (some first, letters), (some last, more) => some ⟨first, some last, letters ++ more⟩
    | _, _ => none
  | _ => none

def compareBy (letters : List Char) (a b : String) : Ordering :=
  let fold (text : String) : String :=
    let text := if letters.contains 'b' then String.ofList (text.toList.dropWhile isBlank) else text
    if letters.contains 'f' then text.map Char.toUpper else text
  let result :=
    if letters.contains 'n' then compare (numericKey a) (numericKey b)
    else compare (fold a) (fold b)
  if letters.contains 'r' then result.swap else result

def sort : Program := fun self args => do
  let (given, paths) ← options self
    [⟨'n', some "numeric-sort", false⟩, ⟨'r', some "reverse", false⟩,
      ⟨'u', some "unique", false⟩, ⟨'f', some "ignore-case", false⟩,
      ⟨'b', some "ignore-leading-blanks", false⟩, ⟨'k', some "key", true⟩,
      ⟨'t', some "field-separator", true⟩, ⟨'o', some "output", true⟩,
      ⟨'s', some "stable", false⟩, ⟨'c', some "check", false⟩] false 2 args
  Act.setStatus 0
  let has := Options.has given
  let general := (given.filter fun o => "nrfb".toList.contains o.letter).map GivenOption.letter
  let keys := (given.filter fun o => o.letter == 'k').filterMap fun o => readKey o.value
  let separator := Options.value? given 't'
  let byKeys (a b : String) : Ordering :=
    if keys.isEmpty then compareBy general a b
    else
      keys.foldl
        (fun result key =>
          let letters := if key.letters.isEmpty then general else key.letters
          result.then (compareBy letters (keyText separator key a) (keyText separator key b)))
        .eq
  let whole (a b : String) : Ordering :=
    let result := byKeys a b
    if has 'u' || has 's' then result
    else result.then (if has 'r' then (compare a b).swap else compare a b)
  let texts ← (if paths.isEmpty then ["-"] else paths).mapM fun path => do
    match ← inputOf path with
    | .ok (text, ends) =>
      if !ends then Act.leave .endless
      return linesOf text
    | .error e =>
      abort self ((if e == .isDirectory then "read failed: " else "cannot read: ") ++
        Quoting.beforeColon path ++ ": " ++ e.text) 2
      return []
  let lines := texts.flatten
  let sorted := lines.mergeSort fun a b => whole a b != .gt
  let result := if has 'u' then
      (sorted.foldl
        (fun (done : List String) line =>
          if done.head?.any fun last => byKeys last line == .eq then done else line :: done)
        []).reverse
    else sorted
  if has 'c' then
    let isSorted := (lines.zip lines.tail).all fun (a, b) => whole a b != .gt
    if !isSorted then Act.setStatus 1
  else
    match Options.value? given 'o' with
    | none => out self (joinLines result)
    | some path =>
      let s ← get
      match s.world.disk.save s.directory path (joinLines result) with
      | .ok disk => Act.modifyWorld fun w => w.setDisk disk
      | .error e => abort self ("open failed: " ++ Quoting.beforeColon path ++ ": " ++ e.text) 2

def grouped (same : String → String → Bool) (lines : List String) : List (String × Nat) :=
  (lines.foldl
    (fun (done : List (String × Nat)) line =>
      match done with
      | (last, count) :: rest =>
        if same last line then (last, count + 1) :: rest else (line, 1) :: done
      | [] => [(line, 1)])
    []).reverse

def uniq : Program := fun self args => do
  let (given, paths) ← options self
    [⟨'c', some "count", false⟩, ⟨'d', some "repeated", false⟩, ⟨'u', some "unique", false⟩,
      ⟨'i', some "ignore-case", false⟩] false 1 args
  Act.setStatus 0
  let has := Options.has given
  let same (a b : String) : Bool :=
    if has 'i' then a.map Char.toLower == b.map Char.toLower else a == b
  match ← inputOf (paths.headD "-") with
  | .error e => abort self (Quoting.beforeColon (paths.headD "-") ++ ": " ++ e.text) 1
  | .ok (text, _) =>
    let groups := (grouped same (linesOf text)).filter fun (_, count) =>
      (!has 'd' || count > 1) && (!has 'u' || count == 1)
    let lines := groups.map fun (line, count) =>
      if has 'c' then padTo 7 (toString count) ++ " " ++ line else line
    out self (joinLines lines)

/-! ## Lines side by side -/

def nl : Program := fun self args => do
  let (_, paths) ← options self [⟨'b', none, true⟩] false 1 args
  Act.setStatus 0
  overInputs paths fun path => do
    match ← inputOf path with
    | .error e =>
      complain self (Quoting.beforeColon path ++ ": " ++ e.text)
      spoil 1
    | .ok (text, _) =>
      let step (state : String × Nat) (line : String) : String × Nat :=
        if line.isEmpty then (state.1 ++ "       \n", state.2)
        else (state.1 ++ padTo 6 (toString state.2) ++ "\t" ++ line ++ "\n", state.2 + 1)
      out self ((linesOf text).foldl step ("", 1)).1

def zipLines (delimiter : String) : Nat → List (List String) → List String
  | 0, _ => []
  | fuel + 1, texts =>
    if texts.all List.isEmpty then []
    else delimiter.intercalate (texts.map fun lines => lines.headD "") ::
      zipLines delimiter fuel (texts.map List.tail)

def paste : Program := fun self args => do
  let (given, paths) ← options self
    [⟨'d', some "delimiters", true⟩, ⟨'s', some "serial", false⟩] false 1 args
  Act.setStatus 0
  let delimiter := (Options.value? given 'd').getD "\t"
  let texts ← (if paths.isEmpty then ["-"] else paths).mapM fun path => do
    match ← inputOf path with
    | .ok (text, _) => return linesOf text
    | .error e =>
      abort self (Quoting.beforeColon path ++ ": " ++ e.text) 1
      return []
  if Options.has given 's' then
    out self (joinLines (texts.map fun lines => delimiter.intercalate lines))
  else
    let count := (texts.map List.length).foldl max 0
    out self (joinLines (zipLines delimiter (count + 1) texts))

end Interop.Shell.Program
