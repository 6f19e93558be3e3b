import SqlFormula.Proofs.Eval.Failures
import SqlFormula.Proofs.Eval.Operands
import SqlFormula.Proofs.Syntax.Nodes

/-!
# Every call reaches its family

Each function belongs to a family for each number of arguments that it takes: it is conditional and evaluates some of its
arguments only, or it gathers, or it is applied to the values of its arguments, as one on texts, on numbers, on dates or
on types. A call with another number of arguments is refused.

## Main definitions

- `Family`, `Builtin.family` — the families, and that of a function
- `Expr.Reaches` — a family makes something of a call

## Main statements

- `Expr.eval_call_cases` — a call is refused, or ends with the error of an argument, or reaches the one family
- `Expr.ordinary_eval` — no evaluation goes astray
- `Expr.eval_reaches` — both for every expression
-/

namespace SqlFormula

/-- The families of functions. -/
inductive Family where
  /-- Functions that evaluate some of their arguments only. -/
  | conditional
  /-- Functions that gather values. -/
  | aggregate
  | text
  | number
  | date
  | type
  deriving DecidableEq

/-- Whether the functions of the family are applied to the values of all arguments. -/
def Family.isEager : Family → Bool
  | .conditional | .aggregate => false
  | .text | .number | .date | .type => true

/-- What a family makes of values; nothing of those of a function that it does not implement. -/
def Family.onValues? (family : Family) (f : Builtin) (ctx : Context) (args : List Value) :
    Option (Except EvalError Value) :=
  match family with
  | .conditional | .aggregate => none
  | .text => Call.onText? f args
  | .number => Call.onNumbers? f args
  | .date => Call.onDates? f ctx args
  | .type => Call.onTypes? f args

/-- The family that a function belongs to where it has `n` arguments. -/
def Builtin.family (f : Builtin) (n : Nat) : Family :=
  match f with
  | .coalesce | .ifNull | .iif => .conditional
  | .count | .sum | .total | .avg | .groupConcat => .aggregate
  | .min | .max => if n = 1 then .aggregate else .number
  | .abs | .round | .sign | .ceil | .floor | .sqrt | .power => .number
  | .lower | .upper | .length | .substr | .trim | .ltrim | .rtrim | .replace | .instr | .concat | .hex | .char
  | .unicode => .text
  | .now | .date | .time | .dateTime | .strFTime | .unixEpoch => .date
  | .typeOf | .nullIf => .type

section

variable {f : Builtin} {n : Nat}

theorem family_eq_aggregate_iff : f.family n = .aggregate ↔ f.isAggregate n = true := by
  cases f with
  | min | max =>
    rw [Builtin.family, Builtin.isAggregate, beq_iff_eq]
    split <;> simp_all
  | _ => simp [Builtin.family, Builtin.isAggregate]

theorem family_eq_conditional_iff : f.family n = .conditional ↔ f = .coalesce ∨ f = .ifNull ∨ f = .iif := by
  cases f with
  | min | max =>
    rw [Builtin.family]
    split <;> simp
  | _ => simp [Builtin.family]

variable {ctx : Context} {vs : List Value} {family : Family}

/-- An eager family answers the calls of its own functions. -/
theorem isSome_onValues? (ctx : Context) (family : Family) (h : f.arity.admits vs.length = true) :
    (family.onValues? f ctx vs).isSome = (family.isEager && family == f.family vs.length) := by
  cases f with
  | min | max =>
    -- one argument is gathered, and several are compared
    have hleast : 1 ≤ vs.length := Call.least_le_of_admits h
    by_cases hone : vs.length = 1
    · rw [Builtin.family, if_pos hone]
      cases family with
      | number => rw [Family.onValues?, Call.onNumbers?, if_neg (by omega)]; rfl
      | _ => rfl
    · rw [Builtin.family, if_neg hone]
      cases family with
      | number => rw [Family.onValues?, Call.onNumbers?, if_pos (by omega)]; rfl
      | _ => rfl
  | _ => cases family <;> rfl

/-- The families are tried one after the other, and only the function's own one answers. -/
theorem onValues?_eq (h : f.arity.admits vs.length = true) :
    Call.onValues? f ctx vs = (f.family vs.length).onValues? f ctx vs := by
  cases f with
  | min | max =>
    have hleast : 1 ≤ vs.length := Call.least_le_of_admits h
    show (Call.onNumbers? _ vs).or none = _
    rw [Option.or_none, Builtin.family]
    by_cases hone : vs.length = 1
    · rw [if_pos hone, Call.onNumbers?, if_neg (by omega)]
      rfl
    · rw [if_neg hone]
      rfl
  | _ => rfl

theorem exists_onValues? (ctx : Context) (hadmits : f.arity.admits vs.length = true)
    (heager : (f.family vs.length).isEager = true) :
    ∃ result, (f.family vs.length).onValues? f ctx vs = some result ∧ Call.onValues f ctx vs = result := by
  have hsome := isSome_onValues? ctx (f.family vs.length) hadmits
  rw [heager, beq_self_eq_true, Bool.and_true, Option.isSome_iff_exists] at hsome
  obtain ⟨result, hresult⟩ := hsome
  refine ⟨result, hresult, ?_⟩
  rw [Call.onValues, Builtin.checkArity, if_pos hadmits, onValues?_eq hadmits, hresult]
  rfl

theorem ordinary_onValues (heager : (f.family vs.length).isEager = true) : Ordinary (Call.onValues f ctx vs) := by
  by_cases hadmits : f.arity.admits vs.length = true
  · obtain ⟨result, hresult, hcall⟩ := exists_onValues? ctx hadmits heager
    rw [hcall]
    cases hown : f.family vs.length with rw [hown] at hresult heager
    | text => exact Call.ordinary_onText? hadmits hresult
    | number => exact Call.ordinary_onNumbers? hresult
    | date => exact Call.ordinary_onDates? hresult
    | type => exact Call.ordinary_onTypes? hadmits hresult
    | conditional | aggregate => cases heager
  · rw [Call.onValues, Builtin.checkArity, if_neg hadmits]
    exact ordinary_error trivial

end

/-! ### Calls -/

namespace Expr

variable {ctx : Context} {record : Record} {f : Builtin} {args : List Expr}

/-- What a conditional function makes of a call. -/
def onConditions (ctx : Context) (record : Record) (f : Builtin) (args : List Expr) : Except EvalError Value :=
  match f with
  | .iif => do
    if (← evalAt ctx record f 0 args).truth? == some true then evalAt ctx record f 1 args
    else evalAt ctx record f 2 args
  | _ => firstNonNull ctx record args

/-- A family makes something of a call that it implements. A family that is applied to values does so where the arguments
have values. -/
inductive Reaches (ctx : Context) (record : Record) (f : Builtin) (args : List Expr) :
    Family → Except EvalError Value → Prop
  | conditional : f = .coalesce ∨ f = .ifNull ∨ f = .iif →
    Reaches ctx record f args .conditional (onConditions ctx record f args)
  | aggregate : f.isAggregate args.length = true →
    Reaches ctx record f args .aggregate (do Gathering.ofOne f (← evalFirst ctx record args))
  | values {family : Family} {vs : List Value} {result : Except EvalError Value} :
    evalAll ctx record args = .ok vs → family.onValues? f ctx vs = some result →
      Reaches ctx record f args family result

theorem eval_call_conditional (h : f.family args.length = .conditional) :
    (call f args).eval ctx record = (f.checkArity args.length).bind fun _ => onConditions ctx record f args := by
  obtain rfl | rfl | rfl := family_eq_conditional_iff.1 h
  · rw [eval]; rfl
  · rw [eval]; rfl
  · rw [eval]; rfl

theorem eval_call_other (h : f.family args.length ≠ .conditional) :
    (call f args).eval ctx record =
      if f.isAggregate args.length then
        (f.checkArity args.length).bind fun _ => (evalFirst ctx record args).bind (Gathering.ofOne f)
      else (evalAll ctx record args).bind (Call.onValues f ctx) := by
  rw [ne_eq, family_eq_conditional_iff, not_or, not_or] at h
  obtain ⟨hcoalesce, hifNull, hiif⟩ := h
  rw [eval]
  · rfl
  · exact hcoalesce
  · exact hifNull
  · exact hiif

theorem eval_call_aggregate (h : f.family args.length = .aggregate) :
    (call f args).eval ctx record =
      (f.checkArity args.length).bind fun _ => (evalFirst ctx record args).bind (Gathering.ofOne f) := by
  rw [eval_call_other (by simp [h]), if_pos (family_eq_aggregate_iff.1 h)]

theorem eval_call_eager (h : (f.family args.length).isEager = true) :
    (call f args).eval ctx record = (evalAll ctx record args).bind (Call.onValues f ctx) := by
  have haggregate : f.isAggregate args.length ≠ true := by
    rw [ne_eq, ← family_eq_aggregate_iff]
    intro hown
    rw [hown] at h
    cases h
  have hconditional : f.family args.length ≠ .conditional := by
    intro hown
    rw [hown] at h
    cases h
  rw [eval_call_other hconditional, if_neg haggregate]

theorem checkArity_of_admits (h : f.arity.admits args.length = true) : f.checkArity args.length = .ok () :=
  if_pos h

/-- A call with a wrong number of arguments is refused. Only functions that are applied to values have evaluated them. -/
theorem eval_call_of_not_admits (h : ¬f.arity.admits args.length = true)
    (hvalues : (f.family args.length).isEager = true → ∃ vs, evalAll ctx record args = .ok vs) :
    (call f args).eval ctx record = .error (.arity f.name f.arity.describe args.length) := by
  have hrefuse : f.checkArity args.length = .error (.arity f.name f.arity.describe args.length) := if_neg h
  by_cases heager : (f.family args.length).isEager = true
  · obtain ⟨vs, hvs⟩ := hvalues heager
    rw [eval_call_eager heager, hvs]
    show Call.onValues f ctx vs = _
    rw [Call.onValues, length_evalAll hvs, hrefuse]
    rfl
  · cases hown : f.family args.length with
    | conditional =>
      rw [eval_call_conditional hown, hrefuse]
      rfl
    | aggregate =>
      rw [eval_call_aggregate hown, hrefuse]
      rfl
    | text | number | date | type => exact absurd (by rw [hown]; rfl) heager

theorem Reaches.eq {family : Family} {result : Except EvalError Value} (h : Reaches ctx record f args family result)
    (hadmits : f.arity.admits args.length = true) :
    family = f.family args.length ∧ result = (call f args).eval ctx record := by
  cases h with
  | conditional hf =>
    have hown : f.family args.length = .conditional := family_eq_conditional_iff.2 hf
    rw [eval_call_conditional hown, checkArity_of_admits hadmits, hown]
    exact ⟨rfl, rfl⟩
  | aggregate hf =>
    have hown := family_eq_aggregate_iff.2 hf
    rw [eval_call_aggregate hown, checkArity_of_admits hadmits, hown]
    exact ⟨rfl, rfl⟩
  | values hvs hresult =>
    have hlength := length_evalAll hvs
    rw [← hlength] at hadmits
    -- a family that makes something of the values is the one of the function
    have hsome := isSome_onValues? ctx family hadmits
    rw [hresult, Option.isSome_some, eq_comm, Bool.and_eq_true, beq_iff_eq] at hsome
    obtain ⟨heager, rfl⟩ := hsome
    obtain ⟨result', hresult', hcall⟩ := exists_onValues? ctx hadmits heager
    rw [hlength] at heager
    rw [eval_call_eager heager, hvs, hlength]
    refine ⟨rfl, ?_⟩
    rw [hresult] at hresult'
    exact (Option.some.inj hresult').trans hcall.symm

theorem exists_reaches (hadmits : f.arity.admits args.length = true)
    (hvalues : (f.family args.length).isEager = true → ∃ vs, evalAll ctx record args = .ok vs) :
    ∃ result, Reaches ctx record f args (f.family args.length) result := by
  cases hown : f.family args.length with
  | conditional => exact ⟨_, .conditional (family_eq_conditional_iff.1 hown)⟩
  | aggregate => exact ⟨_, .aggregate (family_eq_aggregate_iff.1 hown)⟩
  | text | number | date | type =>
    rw [hown] at hvalues
    obtain ⟨vs, hvs⟩ := hvalues rfl
    rw [← length_evalAll hvs] at hadmits hown
    obtain ⟨result, hresult, -⟩ := exists_onValues? ctx hadmits (by rw [hown]; rfl)
    rw [hown] at hresult
    exact ⟨result, .values hvs hresult⟩

/-- What becomes of a call. With a wrong number of arguments it is refused. A function that is applied to values evaluates
its arguments first, and the first error among them is that of the call. Else the family of the function makes something
of it, and no other family does. -/
theorem eval_call_cases (ctx : Context) (record : Record) (f : Builtin) (args : List Expr) :
    (f.arity.admits args.length = false ∧
        (call f args).eval ctx record = .error (.arity f.name f.arity.describe args.length)) ∨
      (∃ err, (f.family args.length).isEager = true ∧ evalAll ctx record args = .error err ∧
        (call f args).eval ctx record = .error err) ∨
      (f.arity.admits args.length = true ∧ ∀ family result, Reaches ctx record f args family result ↔
        family = f.family args.length ∧ result = (call f args).eval ctx record) := by
  by_cases hfails : (f.family args.length).isEager = true ∧ ∃ err, evalAll ctx record args = .error err
  · obtain ⟨heager, err, herr⟩ := hfails
    refine .inr (.inl ⟨err, heager, herr, ?_⟩)
    rw [eval_call_eager heager, herr]
    rfl
  · have hvalues (heager : (f.family args.length).isEager = true) : ∃ vs, evalAll ctx record args = .ok vs := by
      cases hvs : evalAll ctx record args with
      | ok vs => exact ⟨vs, rfl⟩
      | error err => exact absurd ⟨heager, err, hvs⟩ hfails
    by_cases hadmits : f.arity.admits args.length = true
    · refine .inr (.inr ⟨hadmits, fun family result => ⟨fun h => h.eq hadmits, ?_⟩⟩)
      rintro ⟨rfl, rfl⟩
      obtain ⟨result, hresult⟩ := exists_reaches hadmits hvalues
      rwa [← (hresult.eq hadmits).2]
    · exact .inl ⟨Bool.eq_false_iff.2 hadmits, eval_call_of_not_admits hadmits hvalues⟩

/-! ### Evaluation -/

section

variable {es : List Expr}

theorem ordinary_evalAll (h : ∀ e ∈ es, Ordinary (e.eval ctx record)) : Ordinary (evalAll ctx record es) := by
  induction es with
  | nil => exact ordinary_ok _
  | cons e es ih =>
    obtain ⟨he, hes⟩ := List.forall_mem_cons.1 h
    exact he.bind fun _ => (ih hes).bind fun _ => ordinary_pure _

theorem ordinary_evalFirst (h : ∀ e ∈ es, Ordinary (e.eval ctx record)) : Ordinary (evalFirst ctx record es) := by
  cases es with
  | nil => exact ordinary_ok _
  | cons e es => exact h e List.mem_cons_self

theorem ordinary_firstNonNull (h : ∀ e ∈ es, Ordinary (e.eval ctx record)) : Ordinary (firstNonNull ctx record es) := by
  induction es with
  | nil => exact ordinary_ok _
  | cons e es ih =>
    obtain ⟨he, hes⟩ := List.forall_mem_cons.1 h
    exact he.bind fun _ => ordinary_ite (ih hes) (ordinary_pure _)

theorem ordinary_evalAt {index : Nat} (h : ∀ e ∈ es, Ordinary (e.eval ctx record)) (hindex : index < es.length) :
    Ordinary (evalAt ctx record f index es) := by
  induction es generalizing index with
  | nil => exact absurd hindex (Nat.not_lt_zero index)
  | cons e es ih =>
    obtain ⟨he, hes⟩ := List.forall_mem_cons.1 h
    rw [evalAt]
    split
    · exact he
    · rw [List.length_cons] at hindex
      exact ih hes (by omega)

theorem ordinary_evalClauses {isChosen : Expr → Value → Bool} {clauses : List (Expr × Expr)}
    (h : ∀ e ∈ clauseParts clauses, Ordinary (e.eval ctx record)) : Ordinary (evalClauses ctx record isChosen clauses) := by
  induction clauses with
  | nil => exact ordinary_ok _
  | cons c rest ih =>
    obtain ⟨condition, result⟩ := c
    obtain ⟨⟨hcondition, hresult⟩, hrest⟩ := forall_mem_clauseParts_cons.1 h
    refine hcondition.bind fun v => ordinary_ite ?_ (ih hrest)
    exact hresult.bind fun _ => ordinary_pure _

theorem ordinary_onConditions (hadmits : f.arity.admits args.length = true)
    (h : ∀ e ∈ args, Ordinary (e.eval ctx record)) : Ordinary (onConditions ctx record f args) := by
  have hleast := Call.least_le_of_admits hadmits
  cases f with
  | iif =>
    have hargs : 3 ≤ args.length := hleast
    refine (ordinary_evalAt h (by omega)).bind fun v => ?_
    exact ordinary_ite (ordinary_evalAt h (by omega)) (ordinary_evalAt h (by omega))
  | _ => exact ordinary_firstNonNull h

theorem ordinary_call (h : ∀ e ∈ args, Ordinary (e.eval ctx record)) : Ordinary ((call f args).eval ctx record) := by
  cases hown : f.family args.length with
  | conditional =>
    rw [eval_call_conditional hown]
    by_cases hadmits : f.arity.admits args.length = true
    · exact (f.ordinary_checkArity args.length).bind fun _ => ordinary_onConditions hadmits h
    · rw [Builtin.checkArity, if_neg hadmits]
      exact ordinary_error trivial
  | aggregate =>
    rw [eval_call_aggregate hown]
    refine (f.ordinary_checkArity args.length).bind fun _ => (ordinary_evalFirst h).bind fun v => ?_
    exact Gathering.ordinary_ofOne v (family_eq_aggregate_iff.1 hown)
  | text | number | date | type =>
    have heager : (f.family args.length).isEager = true := by
      rw [hown]
      rfl
    rw [eval_call_eager heager]
    cases hvs : evalAll ctx record args with
    | error err => exact ordinary_error (ordinary_evalAll h err hvs)
    | ok vs => exact ordinary_onValues (by rwa [length_evalAll hvs])

end

/-- No evaluation goes astray. -/
theorem ordinary_eval (ctx : Context) (record : Record) (e : Expr) : Ordinary (e.eval ctx record) := by
  induction e using Expr.induction with
  | node e ih =>
    cases e with
    | literal v => exact ordinary_ok v
    | field path => exact record.ordinary_field path
    | unary op operand => exact (ih operand (by simp [parts])).bind fun v => op.ordinary_apply v
    | binary op negate left right =>
      rw [eval]
      refine (ih left (by simp [parts])).bind fun v => ?_
      dsimp only
      split
      · exact ordinary_pure _
      · refine (ih right (by simp [parts])).bind fun w => ?_
        exact (ordinary_combine ctx.options op _ v w).bind fun _ => ordinary_pure _
    | call f args => exact ordinary_call ih
    | caseWhen clauses otherwise =>
      obtain ⟨hclauses, hotherwise⟩ := List.forall_mem_append.1 ih
      rw [eval]
      refine (ordinary_evalClauses hclauses).bind fun v? => ?_
      cases v? with
      | none => exact hotherwise otherwise (by simp)
      | some v => exact ordinary_pure v
    | caseOf operand clauses otherwise =>
      obtain ⟨hoperand, hrest⟩ := List.forall_mem_cons.1 ih
      obtain ⟨hclauses, hotherwise⟩ := List.forall_mem_append.1 hrest
      rw [eval]
      refine hoperand.bind fun base => (ordinary_evalClauses hclauses).bind fun v? => ?_
      cases v? with
      | none => exact hotherwise otherwise (by simp)
      | some v => exact ordinary_pure v
    | between negate operand low high =>
      rw [eval]
      refine (ih operand (by simp [parts])).bind fun v => (ih low (by simp [parts])).bind fun least => ?_
      refine (ih high (by simp [parts])).bind fun most => ?_
      exact (ordinary_between _ v least most).bind fun _ => ordinary_pure _
    | among negate operand candidates =>
      obtain ⟨hoperand, hcandidates⟩ := List.forall_mem_cons.1 ih
      rw [eval]
      exact hoperand.bind fun v => (ordinary_evalAll hcandidates).bind fun _ => ordinary_pure _
    | cast operand target =>
      rw [eval]
      exact (ih operand (by simp [parts])).bind fun v => ordinary_castTo target v
    | collate operand collation =>
      rw [eval]
      exact ih operand (by simp [parts])

/-- **Every call reaches its family, and nothing is evaluated astray.** No evaluation ends with a function that no family
implements, with one that would have to gather, or with an argument that is not there. A call with a wrong number of
arguments is refused, after the arguments have been evaluated if the function is applied to values; else exactly the
family of the function makes something of it. -/
theorem eval_reaches (ctx : Context) (record : Record) :
    (∀ e : Expr, (∀ function, e.eval ctx record ≠ .error (.unsupportedFunction function)) ∧
        (∀ expression, e.eval ctx record ≠ .error (.notAggregate expression)) ∧
        ∀ function index, e.eval ctx record ≠ .error (.missingArgument function index)) ∧
      ∀ f args,
        (f.arity.admits args.length = false ∧
            (call f args).eval ctx record = .error (.arity f.name f.arity.describe args.length)) ∨
          (∃ err, (f.family args.length).isEager = true ∧ evalAll ctx record args = .error err ∧
            (call f args).eval ctx record = .error err) ∨
          (f.arity.admits args.length = true ∧ ∀ family result, Reaches ctx record f args family result ↔
            family = f.family args.length ∧ result = (call f args).eval ctx record) := by
  refine ⟨fun e => ?_, eval_call_cases ctx record⟩
  have h := ordinary_eval ctx record e
  exact ⟨fun _ he => h _ he, fun _ he => h _ he, fun _ _ he => h _ he⟩

end Expr

end SqlFormula
