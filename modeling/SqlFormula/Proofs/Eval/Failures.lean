import SqlFormula.Eval

/-!
# How functions and operators fail

Three errors say that evaluation itself went astray: a call that no family of functions implements, a call that does not
gather where one has to, and an argument that is read but not there. Operators and functions never end with one of these,
if a function that takes arguments as they are has enough of them. All their other errors are ordinary.

## Main definitions

- `EvalError.IsOrdinary` — an error that is none of the three
- `Ordinary` — a result that is no error, or an ordinary one

## Main statements

- `ordinary_combine`, `ordinary_castTo` — operators and conversions
- `Call.ordinary_onText?` and its siblings — the families of functions
- `Gathering.ordinary_ofOne` — functions that gather
-/

namespace SqlFormula

/-- An error of the formula or its data, not of a call that goes astray. -/
def EvalError.IsOrdinary : EvalError → Prop
  | .notAggregate _ | .unsupportedFunction _ | .missingArgument .. => False
  | _ => True

/-- A result that is no error, or an ordinary one. -/
def Ordinary {α : Type} (r : Except EvalError α) : Prop :=
  ∀ e, r = .error e → e.IsOrdinary

section

variable {α β : Type} {r : Except EvalError α}

@[simp]
theorem ordinary_ok (a : α) : Ordinary (.ok a : Except EvalError α) :=
  nofun

@[simp]
theorem ordinary_pure (a : α) : Ordinary (pure a : Except EvalError α) :=
  nofun

theorem ordinary_error {e : EvalError} (h : e.IsOrdinary) : Ordinary (.error e : Except EvalError α) := by
  rintro _ ⟨⟩
  exact h

theorem Ordinary.bind {f : α → Except EvalError β} (hr : Ordinary r) (hf : ∀ a, Ordinary (f a)) : Ordinary (r >>= f) := by
  cases r with
  | ok a => exact hf a
  | error e => exact ordinary_error (hr e rfl)

theorem Ordinary.map (hr : Ordinary r) (f : α → β) : Ordinary (r.map f) := by
  cases r with
  | ok a => exact ordinary_ok _
  | error e => exact ordinary_error (hr e rfl)

theorem ordinary_ite {p : Prop} [Decidable p] {s : Except EvalError α} (hr : Ordinary r) (hs : Ordinary s) :
    Ordinary (if p then r else s) := by
  split
  · exact hr
  · exact hs

end

/-! ### Operators -/

theorem Record.ordinary_field (record : Record) (path : String) : Ordinary (record.field path) := by
  rw [Record.field]
  split
  · exact ordinary_ok _
  · exact ordinary_error trivial

theorem ordinary_floatArithmetic (op : BinaryOperator) (x y : Float) : Ordinary (floatArithmetic op x y) := by
  cases op with
  | divide | modulo => exact ordinary_ite (ordinary_error trivial) (ordinary_ok _)
  | add | subtract | multiply => exact ordinary_ok _
  | _ => exact ordinary_error trivial

theorem ordinary_integerArithmetic (op : BinaryOperator) (i j : Int64) : Ordinary (integerArithmetic op i j) := by
  rw [integerArithmetic]
  split
  · exact ordinary_ok _
  · exact ordinary_floatArithmetic op _ _

theorem ordinary_arithmetic (op : BinaryOperator) (v w : Value) : Ordinary (arithmetic op v w) := by
  rw [arithmetic]
  refine ordinary_ite (ordinary_ok _) ?_
  split
  · exact ordinary_integerArithmetic op _ _
  · exact ordinary_floatArithmetic op _ _
  · exact ordinary_error trivial

theorem ordinary_orderFor (operator : String) (c : Collation) (v w : Value) : Ordinary (Value.orderFor operator c v w) := by
  rw [Value.orderFor]
  split
  · exact ordinary_ok _
  · exact ordinary_error trivial

theorem ordinary_ordered? (operator : String) (c : Collation) (holds : Ordering → Bool) (v w : Value) :
    Ordinary (ordered? operator c holds v w) :=
  ordinary_ite (ordinary_ok _) ((ordinary_orderFor operator c v w).map _)

theorem ordinary_regexMatch (options : Options) (caseless : Bool) (text : String) (regex : List Char) :
    Ordinary (regexMatch options caseless text regex) := by
  rw [regexMatch]
  split
  · exact ordinary_ok _
  · exact ordinary_error trivial

theorem ordinary_patternMatch (options : Options) (op : BinaryOperator) (text pattern : String) :
    Ordinary (patternMatch options op text pattern) := by
  refine ordinary_ite (ordinary_error trivial) ?_
  cases op with
  | like | glob | regexp => exact ordinary_regexMatch options _ text _
  | «match» => exact ordinary_ok _
  | _ => exact ordinary_error trivial

theorem ordinary_patternTruth? (options : Options) (op : BinaryOperator) (v w : Value) :
    Ordinary (patternTruth? options op v w) :=
  ordinary_ite (ordinary_ok _) ((ordinary_patternMatch options op _ _).map _)

theorem ordinary_combine (options : Options) (op : BinaryOperator) (c : Collation) (v w : Value) :
    Ordinary (combine options op c v w) := by
  cases op with
  | and | or | is | equal | notEqual | concat => exact ordinary_ok _
  | lessThan | lessThanOrEqual | greaterThan | greaterThanOrEqual => exact (ordinary_ordered? _ c _ v w).map _
  | like | glob | regexp | «match» => exact (ordinary_patternTruth? options _ v w).map _
  | add | subtract | multiply | divide | modulo => exact ordinary_arithmetic _ v w

theorem ordinary_negate (v : Value) : Ordinary (negate v) := by
  rw [negate]
  refine ordinary_ite (ordinary_ok _) ?_
  split
  · exact ordinary_ok _
  · exact ordinary_ok _
  · exact ordinary_error trivial

theorem UnaryOperator.ordinary_apply (op : UnaryOperator) (v : Value) : Ordinary (op.apply v) := by
  cases op with
  | not | plus => exact ordinary_ok _
  | negate => exact ordinary_negate v

theorem ordinary_between (c : Collation) (v low high : Value) : Ordinary (between c v low high) :=
  (ordinary_ordered? _ c _ v low).bind fun _ => (ordinary_ordered? _ c _ v high).bind fun _ => ordinary_pure _

theorem ordinary_castTo (target : TypeName) (v : Value) : Ordinary (castTo target v) := by
  rw [castTo]
  refine ordinary_ite (ordinary_ok _) ?_
  split
  · exact ordinary_ok _
  · exact ordinary_error trivial

/-! ### Arguments -/

namespace Builtin

variable (f : Builtin) (args : List Value) (index : Nat)

theorem ordinary_checkArity (n : Nat) : Ordinary (f.checkArity n) :=
  ordinary_ite (ordinary_ok _) (ordinary_error trivial)

/-- An argument that is there is read. -/
theorem ordinary_argument (h : index < args.length) : Ordinary (f.argument args index) := by
  rw [argument, List.getElem?_eq_getElem h]
  exact ordinary_ok _

theorem ordinary_asTextArg (v : Value) : Ordinary (f.asTextArg index v) := by
  cases v with
  | array | object => exact ordinary_error trivial
  | _ => exact ordinary_ok _

theorem ordinary_textArg : Ordinary (f.textArg args index) := by
  rw [textArg]
  split
  · exact ordinary_ok _
  · exact f.ordinary_asTextArg index _

theorem ordinary_asIntegerArg (v : Value) : Ordinary (f.asIntegerArg index v) := by
  rw [asIntegerArg]
  refine ordinary_ite (ordinary_ok _) ?_
  split
  · exact ordinary_ok _
  · exact ordinary_ok _
  · exact ordinary_error trivial

theorem ordinary_integerArg : Ordinary (f.integerArg args index) := by
  rw [integerArg]
  split
  · exact ordinary_ok _
  · exact f.ordinary_asIntegerArg index _

theorem ordinary_asNumberArg (v : Value) : Ordinary (f.asNumberArg index v) := by
  rw [asNumberArg]
  refine ordinary_ite (ordinary_ok _) ?_
  split
  · exact ordinary_ok _
  · exact ordinary_error trivial

theorem ordinary_numberArg : Ordinary (f.numberArg args index) := by
  rw [numberArg]
  split
  · exact ordinary_ok _
  · exact f.ordinary_asNumberArg index _

end Builtin

/-! ### Functions -/

namespace Call

variable (f : Builtin) (ctx : Context) (args : List Value)

theorem ordinary_textArgs (index : Nat) : Ordinary (textArgs f index args) := by
  induction args generalizing index with
  | nil => exact ordinary_ok _
  | cons v vs ih =>
    exact (f.ordinary_asTextArg index v).bind fun _ => (ih (index + 1)).bind fun _ => ordinary_pure _

theorem ordinary_integerArgs (index : Nat) : Ordinary (integerArgs f index args) := by
  induction args generalizing index with
  | nil => exact ordinary_ok _
  | cons v vs ih =>
    exact (f.ordinary_asIntegerArg index v).bind fun _ => (ih (index + 1)).bind fun _ => ordinary_pure _

theorem ordinary_mapText (map : String → String) : Ordinary (mapText f map args) := by
  refine (f.ordinary_textArg args 0).bind fun s? => ?_
  cases s? <;> exact ordinary_pure _

theorem ordinary_partOf (s : String) (start : Int64) (length : Option Int64) : Ordinary (partOf s start length) := by
  rw [partOf]
  split
  · exact ordinary_ok _
  · exact ordinary_error trivial

theorem ordinary_ofSubstr : Ordinary (ofSubstr args) := by
  refine (Builtin.substr.ordinary_textArg args 0).bind fun s? => ?_
  cases s? with
  | none => exact ordinary_pure _
  | some s =>
    refine (Builtin.substr.ordinary_integerArg args 1).bind fun start? => ?_
    cases start? with
    | none => exact ordinary_pure _
    | some start =>
      dsimp only
      split
      · exact ordinary_partOf s start none
      · refine (Builtin.substr.ordinary_integerArg args 2).bind fun length? => ?_
        cases length? with
        | none => exact ordinary_pure _
        | some length => exact ordinary_partOf s start (some length)

theorem ordinary_ofTrim : Ordinary (ofTrim f args) := by
  refine (f.ordinary_textArg args 0).bind fun s? => ?_
  cases s? with
  | none => exact ordinary_pure _
  | some s =>
    dsimp only
    split
    · exact ordinary_pure _
    · refine (f.ordinary_textArg args 1).bind fun set? => ?_
      cases set? <;> exact ordinary_pure _

theorem ordinary_ofReplace : Ordinary (ofReplace args) := by
  refine (Builtin.replace.ordinary_textArg args 0).bind fun s? => ?_
  refine (Builtin.replace.ordinary_textArg args 1).bind fun part? => ?_
  refine (Builtin.replace.ordinary_textArg args 2).bind fun into? => ?_
  split <;> exact ordinary_pure _

theorem ordinary_ofInstr : Ordinary (ofInstr args) := by
  refine (Builtin.instr.ordinary_textArg args 0).bind fun s? => ?_
  refine (Builtin.instr.ordinary_textArg args 1).bind fun part? => ?_
  split <;> exact ordinary_pure _

theorem ordinary_ofHex (h : 0 < args.length) : Ordinary (ofHex args) := by
  refine (Builtin.hex.ordinary_argument args 0 h).bind fun v => ?_
  split
  · exact ordinary_pure _
  · exact ordinary_pure _
  · refine (Builtin.hex.ordinary_textArg args 0).bind fun s? => ?_
    cases s? <;> exact ordinary_pure _

theorem ordinary_ofUnicode : Ordinary (ofUnicode args) := by
  refine (Builtin.unicode.ordinary_textArg args 0).bind fun s? => ?_
  cases s? with
  | none => exact ordinary_pure _
  | some s =>
    dsimp only
    split <;> exact ordinary_pure _

theorem ordinary_mapNumber (integer : Int64 → Value) (float : Float → Value) :
    Ordinary (mapNumber f integer float args) := by
  refine (f.ordinary_numberArg args 0).bind fun n? => ?_
  split <;> exact ordinary_pure _

theorem ordinary_ofRound : Ordinary (ofRound args) := by
  refine (Builtin.round.ordinary_integerArg args 1).bind fun places => ?_
  refine (Builtin.round.ordinary_numberArg args 0).bind fun n? => ?_
  split <;> exact ordinary_pure _

theorem ordinary_ofPower : Ordinary (ofPower args) := by
  refine (Builtin.power.ordinary_numberArg args 0).bind fun base? => ?_
  refine (Builtin.power.ordinary_numberArg args 1).bind fun exponent? => ?_
  split <;> exact ordinary_pure _

theorem ordinary_applyModifier (zone : Zone) (t : WallTime) (modifier : String) :
    Ordinary (applyModifier zone t modifier) := by
  unfold applyModifier
  dsimp only
  split
  · exact ordinary_ok _
  · exact ordinary_ok _
  · exact ordinary_ok _
  · split
    · exact ordinary_ok _
    · exact ordinary_error trivial
  · split
    · exact ordinary_ok _
    · exact ordinary_error trivial
  · exact ordinary_ok _
  · split
    · exact ordinary_ok _
    · exact ordinary_error trivial

theorem ordinary_applyModifiers (zone : Zone) (index : Nat) (t : WallTime) :
    Ordinary (applyModifiers f zone index t args) := by
  induction args generalizing index t with
  | nil => exact ordinary_ok _
  | cons v vs ih =>
    refine (f.ordinary_asTextArg index v).bind fun modifier? => ?_
    cases modifier? with
    | none => exact ordinary_pure _
    | some modifier => exact (ordinary_applyModifier zone t modifier).bind fun t => ih (index + 1) t

theorem ordinary_resolveTime : Ordinary (resolveTime f ctx args) := by
  fun_cases resolveTime f ctx args with
  | case1 => exact ordinary_ok _
  | case2 => exact ordinary_ok _
  | case3 => exact ordinary_error trivial
  | case4 => exact ordinary_applyModifiers f _ _ 1 _

theorem ordinary_showTime (render : WallTime → Value) : Ordinary (showTime f ctx args render) := by
  refine (ordinary_resolveTime f ctx args).bind fun t? => ?_
  cases t? <;> exact ordinary_pure _

theorem ordinary_ofStrFTime : Ordinary (ofStrFTime ctx args) := by
  cases args with
  | nil => exact ordinary_ok _
  | cons format args =>
    refine (Builtin.strFTime.ordinary_asTextArg 0 format).bind fun s? => ?_
    cases s? with
    | none => exact ordinary_pure _
    | some s => exact ordinary_showTime .strFTime ctx args _

/-! ### Families of functions -/

section

variable {f : Builtin} {args : List Value} {result : Except EvalError Value}

theorem least_le_of_admits {a : Builtin.Arity} {n : Nat} (h : a.admits n = true) : a.least ≤ n := by
  rw [Builtin.Arity.admits, Bool.and_eq_true] at h
  exact of_decide_eq_true h.1

theorem ordinary_onText? (hargs : f.arity.admits args.length = true) (h : onText? f args = some result) :
    Ordinary result := by
  have hleast := least_le_of_admits hargs
  cases f with
  | upper | lower =>
    obtain rfl := Option.some.inj h
    exact ordinary_mapText _ args _
  | length =>
    obtain rfl := Option.some.inj h
    exact (Builtin.length.ordinary_argument args 0 hleast).bind fun _ => ordinary_pure _
  | substr =>
    obtain rfl := Option.some.inj h
    exact ordinary_ofSubstr args
  | trim | ltrim | rtrim =>
    obtain rfl := Option.some.inj h
    exact ordinary_ofTrim _ args
  | replace =>
    obtain rfl := Option.some.inj h
    exact ordinary_ofReplace args
  | instr =>
    obtain rfl := Option.some.inj h
    exact ordinary_ofInstr args
  | concat =>
    obtain rfl := Option.some.inj h
    exact (ordinary_textArgs _ args 0).bind fun _ => ordinary_pure _
  | hex =>
    obtain rfl := Option.some.inj h
    exact ordinary_ofHex args hleast
  | char =>
    obtain rfl := Option.some.inj h
    exact (ordinary_integerArgs _ args 0).bind fun _ => ordinary_pure _
  | unicode =>
    obtain rfl := Option.some.inj h
    exact ordinary_ofUnicode args
  | _ => cases h

theorem ordinary_onNumbers? (h : onNumbers? f args = some result) : Ordinary result := by
  cases f with
  | abs | sign | ceil | floor | sqrt =>
    obtain rfl := Option.some.inj h
    exact ordinary_mapNumber _ args _ _
  | round =>
    obtain rfl := Option.some.inj h
    exact ordinary_ofRound args
  | power =>
    obtain rfl := Option.some.inj h
    exact ordinary_ofPower args
  | min | max =>
    rw [onNumbers?, Option.ite_none_right_eq_some] at h
    obtain rfl := Option.some.inj h.2
    exact ordinary_ok _
  | _ => cases h

theorem ordinary_onDates? {ctx : Context} (h : onDates? f ctx args = some result) : Ordinary result := by
  cases f with
  | now =>
    obtain rfl := Option.some.inj h
    exact ordinary_ok _
  | date | time | dateTime | unixEpoch =>
    obtain rfl := Option.some.inj h
    exact ordinary_showTime _ ctx args _
  | strFTime =>
    obtain rfl := Option.some.inj h
    exact ordinary_ofStrFTime ctx args
  | _ => cases h

theorem ordinary_onTypes? (hargs : f.arity.admits args.length = true) (h : onTypes? f args = some result) :
    Ordinary result := by
  have hleast := least_le_of_admits hargs
  cases f with
  | typeOf =>
    obtain rfl := Option.some.inj h
    exact (Builtin.typeOf.ordinary_argument args 0 hleast).bind fun _ => ordinary_pure _
  | nullIf =>
    obtain rfl := Option.some.inj h
    refine (Builtin.nullIf.ordinary_argument args 0 (Nat.lt_of_succ_lt hleast)).bind fun _ => ?_
    exact (Builtin.nullIf.ordinary_argument args 1 hleast).bind fun _ => ordinary_pure _
  | _ => cases h

end

end Call

/-! ### Gathering -/

namespace Gathering

variable (f : Builtin) (v : Value)

theorem ordinary_number : Ordinary (number f v) := by
  rw [number]
  split
  · exact ordinary_ok _
  · exact ordinary_error trivial

theorem ordinary_join {separator : Unit → Except EvalError String} (h : Ordinary (separator ())) (part : String)
    (s : Option String) : Ordinary (join separator part s) := by
  cases s with
  | none => exact ordinary_ok _
  | some s => exact h.bind fun _ => ordinary_pure _

theorem ordinary_add {separator : Unit → Except EvalError String} (h : Ordinary (separator ())) (g : Gathering) :
    Ordinary (g.add f separator v) := by
  refine ordinary_ite (ordinary_ok _) ?_
  cases g with
  | count => exact ordinary_ok _
  | sum | total | average => exact (ordinary_number f v).bind fun _ => ordinary_pure _
  | extreme best => cases best <;> exact ordinary_ok _
  | joined s => exact (ordinary_join h v.display s).bind fun _ => ordinary_pure _

/-- A function that gathers has something to begin with. -/
theorem exists_start? {f : Builtin} {n : Nat} (h : f.isAggregate n = true) : ∃ g, start? f = some g := by
  cases f with
  | count | sum | total | avg | groupConcat | min | max => exact ⟨_, rfl⟩
  | _ => cases h

theorem ordinary_ofOne {f : Builtin} {n : Nat} (h : f.isAggregate n = true) : Ordinary (ofOne f v) := by
  obtain ⟨g, hg⟩ := exists_start? h
  rw [ofOne, hg]
  exact (ordinary_add f v (ordinary_ok _) g).bind fun _ => ordinary_pure _

end Gathering

end SqlFormula
