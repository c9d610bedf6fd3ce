import Facade.Store.World

/-!
# Binding arguments

* `bindArguments`: the value of each parameter for given arguments, in the order of the parameters.
* `map_fst_bindArguments`: every parameter is bound.
-/

namespace Facade

open Syntax (ParamKind)

/-- Arguments by name. -/
abbrev Keywords := List (String × Value)

namespace Binding

/-- Whether a parameter takes an argument by position. -/
def isPositional (p : Parameter) : Bool :=
  match p.kind with
  | .positionalOnly | .positionalOrKeyword => true
  | _ => false

/-- Whether a parameter can be given by name. -/
def isNamed (p : Parameter) : Bool :=
  match p.kind with
  | .keywordOnly | .positionalOrKeyword => true
  | _ => false

/-- Whether one of the parameters has a kind. -/
def hasKind (k : ParamKind) (ps : List Parameter) : Bool := ps.any fun p => p.kind = k

/-- The arguments by name that no parameter takes by its name. -/
def surplus (ps : List Parameter) (kw : Keywords) : Keywords :=
  kw.filter fun e => !(ps.any fun p => isNamed p && p.name == e.1)

/-- The value of a parameter that is not given by position: what is given by name, else the
default. -/
def namedOrDefault (kw : Keywords) (p : Parameter) : Option Value :=
  ((if isNamed p then kw.find? fun e => e.1 == p.name else none).map Prod.snd) <|> p.default

/-- Whether a parameter is given by name. -/
def isGivenByName (kw : Keywords) (p : Parameter) : Bool :=
  isNamed p && kw.any fun e => e.1 == p.name

/-- Binds parameters from the left: positional ones take what is left of the arguments by position,
then a name, then the default. -/
def bindFrom (all : List Parameter) (kw : Keywords) :
    List Parameter → List Value → Except Fault (List (String × Value))
  | [], _ => .ok []
  | p :: ps, args =>
    let put (v : Value) (rest : List Value) : Except Fault (List (String × Value)) :=
      (bindFrom all kw ps rest).map ((p.name, v) :: ·)
    match p.kind, args with
    | .varPositional, args => put (.tuple args) []
    | .varKeyword, args => put (Value.dictOfNames (surplus all kw)) args
    | .keywordOnly, args => (namedOrDefault kw p).elim (.error .type) fun v => put v args
    | _, v :: rest => if isGivenByName kw p then .error .type else put v rest
    | _, [] => (namedOrDefault kw p).elim (.error .type) fun v => put v []

end Binding

open Binding

/-- The value of each parameter for given arguments. Too many arguments, a parameter that is given
twice or not at all, and a name that no parameter takes are faults. -/
def bindArguments (ps : List Parameter) (args : List Value) (kw : Keywords) :
    Except Fault (List (String × Value)) :=
  if !hasKind .varPositional ps && (ps.filter isPositional).length < args.length then .error .type
  else if !hasKind .varKeyword ps && !(surplus ps kw).isEmpty then .error .type
  else bindFrom ps kw ps args

theorem map_fst_of_map_cons {x : String × Value} {r : Except Fault (List (String × Value))}
    {names : List String} (hr : ∀ bs, r = .ok bs → bs.map Prod.fst = names)
    {bs : List (String × Value)} (h : r.map (x :: ·) = .ok bs) :
    bs.map Prod.fst = x.1 :: names := by
  cases r with
  | error e => simp [Except.map] at h
  | ok cs =>
    simp only [Except.map, Except.ok.injEq] at h
    subst h
    simp [hr cs rfl]

theorem map_fst_bindFrom {all : List Parameter} {kw : Keywords} (ps : List Parameter) :
    ∀ {args : List Value} {bs : List (String × Value)}, bindFrom all kw ps args = .ok bs →
      bs.map Prod.fst = ps.map Parameter.name := by
  induction ps with
  | nil => intro args bs h; simp only [bindFrom, Except.ok.injEq] at h; subst h; rfl
  | cons p ps ih =>
    intro args bs h
    have put {v : Value} {rest : List Value}
        (h : (bindFrom all kw ps rest).map ((p.name, v) :: ·) = .ok bs) :
        bs.map Prod.fst = p.name :: ps.map Parameter.name :=
      map_fst_of_map_cons (fun _ hc => ih hc) h
    unfold bindFrom at h
    rw [List.map_cons]
    split at h
    · exact put h
    · exact put h
    · cases hv : namedOrDefault kw p <;> rw [hv] at h
      · simp at h
      · exact put h
    · split at h
      · simp at h
      · exact put h
    · cases hv : namedOrDefault kw p <;> rw [hv] at h
      · simp at h
      · exact put h

/-- **Every parameter is bound,** in the order of the parameters. -/
theorem map_fst_bindArguments {ps : List Parameter} {args : List Value} {kw : Keywords}
    {bs : List (String × Value)} (h : bindArguments ps args kw = .ok bs) :
    bs.map Prod.fst = ps.map Parameter.name := by
  unfold bindArguments at h
  split at h
  · simp at h
  · split at h
    · simp at h
    · exact map_fst_bindFrom ps h

end Facade
