import Interop.Shell.Arithmetic

/-!
# Arithmetic stays within words

Whatever the text of an expression and the values of its variables: a value that is computed is a
signed word of 64 bits, and so is every value that a variable is set to on the way.
-/

namespace Interop.Shell

def IsWord (n : Int) : Prop := minInt64 ≤ n ∧ n ≤ maxInt64

instance (n : Int) : Decidable (IsWord n) :=
  inferInstanceAs (Decidable (minInt64 ≤ n ∧ n ≤ maxInt64))

private theorem isWord_wrapWord (n : Int) : IsWord (wrapWord n) := by
  have low := Int.le_bmod (x := n) (m := 18446744073709551616) (by decide)
  have high := Int.bmod_lt (x := n) (m := 18446744073709551616) (by decide)
  simp only [IsWord, wrapWord, minInt64, maxInt64]
  omega

private theorem isWord_clampWord (n : Int) : IsWord (clampWord n) := by
  simp only [IsWord, clampWord, minInt64, maxInt64]
  omega

private theorem isWord_numberOf {text : String} {n : Int} (read : numberOf text = .ok n) :
    IsWord n := by
  unfold numberOf at read
  dsimp only at read
  split at read
  · cases read
    decide
  · split at read
    · split at read
      · next within =>
          cases read
          simp only [Bool.and_eq_true, decide_eq_true_eq] at within
          exact ⟨within.1.2, within.2⟩
      · cases read
    · cases read

def Expr.Small : Expr → Prop
  | .number n => IsWord n
  | .name _ => True
  | .unary _ e => e.Small
  | .binary _ a b => a.Small ∧ b.Small
  | .choice condition a b => condition.Small ∧ a.Small ∧ b.Small
  | .assign _ _ e => e.Small

namespace Arithmetic

/-! ## Operators -/

private theorem isWord_ofBool (b : Bool) : IsWord (ofBool b) := by
  cases b <;> decide

private theorem isWord_fdiv {a : Int} (word : IsWord a) {d : Nat} (pos : 0 < d) :
    IsWord (a.fdiv d) := by
  obtain ⟨low, high⟩ := word
  rw [Int.fdiv_eq_ediv_of_nonneg _ (Int.natCast_nonneg d)]
  constructor
  · have least : minInt64 * d ≤ minInt64 * 1 :=
      Int.mul_le_mul_of_nonpos_left (by decide) (by omega)
    exact Int.le_ediv_of_mul_le (by omega) (by omega)
  · rcases Int.lt_or_le a 0 with negative | natural
    · have := Int.ediv_neg_of_neg_of_pos negative (b := d) (by omega)
      simp only [maxInt64]
      omega
    · exact Int.le_trans (Int.ediv_le_self _ natural) high

private theorem isWord_tmod {a : Int} (word : IsWord a) (b : Int) : IsWord (a.tmod b) := by
  have size := Int.natAbs_tmod a b
  have less := Nat.mod_le a.natAbs b.natAbs
  obtain ⟨low, high⟩ := word
  have natural : 0 ≤ a → 0 ≤ a.tmod b := Int.tmod_nonneg b
  have opposite : 0 ≤ -a → 0 ≤ (-a).tmod b := Int.tmod_nonneg b
  rw [Int.neg_tmod] at opposite
  simp only [IsWord, minInt64, maxInt64] at *
  omega

private theorem isWord_applyBinary {op : BinaryOp} {a b n : Int} (word : IsWord a)
    (applied : applyBinary op a b = .ok n) : IsWord n := by
  cases op with
  | div =>
      simp only [applyBinary] at applied
      split at applied
      · cases applied
      · simp only [Except.ok.injEq] at applied
        exact applied ▸ isWord_wrapWord _
  | rem =>
      simp only [applyBinary] at applied
      split at applied
      · cases applied
      · simp only [Except.ok.injEq] at applied
        exact applied ▸ isWord_tmod word b
  | right =>
      simp only [applyBinary, Except.ok.injEq] at applied
      have positive : 0 < 1 <<< places b := by
        rw [Nat.one_shiftLeft]
        exact Nat.two_pow_pos _
      exact applied ▸ isWord_fdiv word positive
  | mul | add | sub | left | both | exclusive | either =>
      simp only [applyBinary, shiftLeft, onBits, Except.ok.injEq] at applied
      exact applied ▸ isWord_wrapWord _
  | less | lessEq | greater | greaterEq | equal | different | logicalAnd | logicalOr =>
      simp only [applyBinary, Except.ok.injEq] at applied
      exact applied ▸ isWord_ofBool _

private theorem isWord_applyUnary (op : UnaryOp) {a : Int} (word : IsWord a) :
    IsWord (applyUnary op a) := by
  cases op with
  | negate => exact isWord_wrapWord _
  | keep => exact word
  | complement =>
      simp only [applyUnary, IsWord, minInt64, maxInt64] at *
      omega
  | invert => exact isWord_ofBool _

/-! ## Steps with a state -/

section Ensures

variable {σ ε α β : Type}

def Ensures (pre : σ → Prop) (act : StateT σ (Except ε) α) (post : α → σ → Prop) : Prop :=
  ∀ s a t, pre s → act s = .ok (a, t) → post a t

private theorem Ensures.bind {pre : σ → Prop} {mid : α → σ → Prop} {post : β → σ → Prop}
    {act : StateT σ (Except ε) α} {next : α → StateT σ (Except ε) β}
    (first : Ensures pre act mid) (then' : ∀ a, Ensures (mid a) (next a) post) :
    Ensures pre (act >>= next) post := by
  intro s b t ok run
  change (act s).bind (fun result => next result.1 result.2) = .ok (b, t) at run
  cases ran : act s with
  | error e =>
      rw [ran] at run
      cases run
  | ok result =>
      rw [ran] at run
      exact then' result.1 result.2 b t (first s result.1 result.2 ok ran) run

private theorem Ensures.pure {pre : σ → Prop} {post : α → σ → Prop} {a : α}
    (holds : ∀ s, pre s → post a s) :
    Ensures pre (Pure.pure a : StateT σ (Except ε) α) post := by
  intro s b t ok run
  cases run
  exact holds s ok

private theorem Ensures.throw {pre : σ → Prop} {post : α → σ → Prop} (e : ε) :
    Ensures pre (throw e : StateT σ (Except ε) α) post := nofun

private theorem Ensures.get {pre : σ → Prop} :
    Ensures pre (get : StateT σ (Except ε) σ) fun a s => a = s ∧ pre s := by
  intro s a t ok run
  cases run
  exact ⟨rfl, ok⟩

private theorem Ensures.modify {pre : σ → Prop} {post : PUnit → σ → Prop} {f : σ → σ}
    (holds : ∀ s, pre s → post ⟨⟩ (f s)) :
    Ensures pre (modify f : StateT σ (Except ε) PUnit) post := by
  intro s a t ok run
  cases run
  exact holds s ok

private theorem Ensures.lift {pre : σ → Prop} {post : α → σ → Prop} {result : Except ε α}
    (holds : ∀ s a, pre s → result = .ok a → post a s) :
    Ensures pre (StateT.lift result) post := by
  intro s a t ok run
  cases result with
  | error e => cases run
  | ok found =>
      cases run
      exact holds s _ ok rfl

private theorem Ensures.assume {fact : Prop} {pre : σ → Prop} {post : α → σ → Prop}
    {act : StateT σ (Except ε) α} (ensures : fact → Ensures pre act post) :
    Ensures (fun s => fact ∧ pre s) act post :=
  fun s a t both => ensures both.1 s a t both.2

private theorem Ensures.any (act : StateT σ (Except ε) α) {pre : σ → Prop} :
    Ensures pre act fun _ _ => True := fun _ _ _ _ _ => trivial

end Ensures

/-! ## Evaluation -/

def Words (changes : Changes) : Prop := ∀ change ∈ changes, IsWord change.2

variable {lookup : String → Option String}

private theorem words_valueOfName (name : String) :
    Ensures Words (valueOfName lookup name) fun n changes => IsWord n ∧ Words changes := by
  refine Ensures.get.bind fun changes => ?_
  cases found : changes.find? fun change => change.1 == name with
  | some change =>
      refine .pure ?_
      rintro _ ⟨rfl, words⟩
      exact ⟨words change (List.mem_of_find?_eq_some found), words⟩
  | none => exact .lift fun _ _ both read => ⟨isWord_numberOf read, both.2⟩

def Lawful (act : Evaluating Int) : Prop :=
  Ensures Words act fun n changes => IsWord n ∧ Words changes

private theorem Lawful.ofBool (b : Bool) : Lawful (pure (ofBool b)) :=
  Ensures.pure fun _ words => ⟨isWord_ofBool b, words⟩

private theorem Lawful.bind {act : Evaluating Int} {next : Int → Evaluating Int}
    (first : Lawful act)
    (then' : ∀ n, IsWord n → Lawful (next n)) : Lawful (act >>= next) :=
  Ensures.bind first fun n => .assume (then' n)

private theorem Lawful.apply (op : BinaryOp) {a : Int} (word : IsWord a) (b : Int) :
    Lawful (StateT.lift (applyBinary op a b)) :=
  Ensures.lift fun _ _ words applied => ⟨isWord_applyBinary word applied, words⟩

private theorem lawful_evaluate {e : Expr} (small : e.Small) : Lawful (evaluate lookup e) := by
  induction e with
  | number n => exact Ensures.pure fun _ words => ⟨small, words⟩
  | name name => exact words_valueOfName name
  | unary op e ih =>
      exact (ih small).bind fun n word => .pure fun _ words => ⟨isWord_applyUnary op word, words⟩
  | binary op a b first second =>
      have one := first small.1
      have two := second small.2
      cases op with
      | logicalAnd =>
          refine one.bind fun n _ => ?_
          split
          · exact .ofBool false
          · exact two.bind fun m _ => .ofBool _
      | logicalOr =>
          refine one.bind fun n _ => ?_
          split
          · exact .ofBool true
          · exact two.bind fun m _ => .ofBool _
      | _ => exact one.bind fun n word => two.bind fun m _ => .apply _ word m
  | choice condition a b decides first second =>
      refine (decides small.1).bind fun n _ => ?_
      split
      · exact first small.2.1
      · exact second small.2.2
  | assign name op e ih =>
      have sets : ∀ n, IsWord n → Lawful (do
          modify fun changes => (name, n) :: changes
          return n) := by
        intro n word
        have set : Ensures Words (modify fun changes => (name, n) :: changes : Evaluating Unit)
            fun _ => Words :=
          .modify fun changes words => List.forall_mem_cons.mpr ⟨word, words⟩
        exact set.bind fun _ => .pure fun _ words => ⟨word, words⟩
      cases op with
      | none => exact (ih small).bind sets
      | some op =>
          exact Lawful.bind (words_valueOfName name) fun n word => (ih small).bind fun m _ =>
            (Lawful.apply op word m).bind sets

/-! ## Reading -/

/-- The expressions that are read have only words in them. -/
def Yields (act : Parsing Expr) : Prop := Ensures (fun _ => True) act fun e _ => e.Small

private theorem Yields.pure {e : Expr} (small : e.Small) : Yields (Pure.pure e) :=
  Ensures.pure fun _ _ => small

private theorem Yields.throw (e : ArithmeticError) : Yields (throw e) := Ensures.throw e

private theorem Yields.after {α : Type} {act : Parsing α} {next : α → Parsing Expr}
    (then' : ∀ a, Yields (next a)) : Yields (act >>= next) := (Ensures.any act).bind then'

private theorem Yields.bind {act : Parsing Expr} {next : Expr → Parsing Expr} (first : Yields act)
    (then' : ∀ e, e.Small → Yields (next e)) : Yields (act >>= next) :=
  Ensures.bind first fun e cs f rest small => then' e small cs f rest trivial

private theorem yields_primary {whole : Parsing Expr} (yields : Yields whole) (fuel : Nat) :
    Yields (primary whole fuel) := by
  induction fuel with
  | zero => exact .throw _
  | succ fuel ih =>
      unfold primary
      refine .after fun _ => .after fun cs => ?_
      split
      · refine .after fun _ => yields.bind fun e small => .after fun closed => ?_
        split
        · exact .pure small
        · exact .throw _
      · exact .after fun _ => ih.bind fun e small => .pure small
      · exact .after fun _ => ih.bind fun e small => .pure small
      · exact .after fun _ => ih.bind fun e small => .pure small
      · exact .after fun _ => ih.bind fun e small => .pure small
      · split
        · exact .after fun _ => .pure (isWord_clampWord _)
        · split
          · split
            · exact .after fun _ => .pure trivial
            · exact .throw _
          · exact .throw _

private theorem yields_chain {operand : Parsing Expr} (yields : Yields operand)
    (ops : List (String × List Char × BinaryOp)) (fuel : Nat) {e : Expr} (small : e.Small) :
    Yields (chain operand ops fuel e) := by
  induction fuel generalizing e with
  | zero => exact .pure small
  | succ fuel ih =>
      unfold chain
      refine .after fun found => ?_
      split
      · exact yields.bind fun f small' => ih ⟨small, small'⟩
      · exact .pure small

private theorem yields_binary {operand : Parsing Expr} (yields : Yields operand)
    (levels : List (List (String × List Char × BinaryOp))) : Yields (binary operand levels) := by
  induction levels with
  | nil => exact yields
  | cons ops tighter ih =>
      exact ih.bind fun e small => .after fun _ => yields_chain ih ops _ small

private theorem yields_expression (fuel : Nat) : Yields (expression fuel) := by
  induction fuel with
  | zero => exact .throw _
  | succ fuel ih =>
      have operators (size : Nat) : Yields (binary (primary (expression fuel) size) levels) :=
        yields_binary (yields_primary ih size) levels
      unfold expression
      refine .after fun _ => .after fun start => ?_
      have assigned (op : Option BinaryOp) : Yields (do
          let e ← expression fuel
          return .assign (String.ofList (start.takeWhile isNamePart)) op e) :=
        ih.bind fun e small => .pure small
      have free : Yields (do
          set start
          let e ← binary (primary (expression fuel) (start.length + 1)) levels
          if ← operator "?" [] then
            let a ← expression fuel
            if ← operator ":" [] then return .choice e a (← expression fuel)
            else throw .expectingColon
          else return e) := by
        refine .after fun _ => (operators _).bind fun e small => .after fun asks => ?_
        split
        · refine ih.bind fun a small' => .after fun goes => ?_
          split
          · exact ih.bind fun b small'' => .pure ⟨small, small', small''⟩
          · exact .throw _
        · exact .pure small
      dsimp only
      split
      · refine .after fun _ => .after fun assignment => ?_
        cases assignment with
        | some op => exact assigned op
        | none => exact free
      · refine .after fun assignment => ?_
        cases assignment with
        | some op => exact assigned op
        | none => exact free

private theorem small_of_parse {text : String} {e : Expr} (read : parse text = .ok e) :
    e.Small := by
  unfold parse at read
  dsimp only at read
  split at read
  · cases read
    exact ⟨by decide, by decide⟩
  · cases run : (expression (text.toList.length + 1)).run text.toList with
    | error e =>
        rw [run] at read
        cases read
    | ok result =>
        have small : result.1.Small := yields_expression _ _ result.1 result.2 trivial run
        rw [run] at read
        simp only [bind, Except.bind] at read
        split at read
        · cases read
          exact small
        · cases read

/-- Whatever the text of an expression and whatever its variables are written as, a value that is
computed is a signed word of 64 bits, and so is all that variables are set to on the way. -/
theorem isWord_of_compute {text : String} {n : Int} {changes : Changes}
    (computed : compute lookup text = .ok (n, changes)) :
    IsWord n ∧ ∀ change ∈ changes, IsWord change.2 := by
  unfold compute at computed
  cases read : parse text with
  | error e =>
      rw [read] at computed
      cases computed
  | ok e =>
      rw [read] at computed
      exact lawful_evaluate (small_of_parse read) [] n changes nofun computed

end Arithmetic

end Interop.Shell
