import Facade.Syntax.Token
import Facade.Syntax.Tree
import Facade.Text.Normal

/-!
# Checking source trees

A source that can be read need not be one that can be run: what is returned must be inside a
function, the parameters of a definition must differ.

* `Place`: what surrounds a statement.
* `Expr.isSound`, `Stmt.isSound`, `Stmt.areSound`: whether a tree can be run where it stands. All
  names in such a tree are identifiers, and no part of it is text of unknown meaning.
* `Expr.isLegible`, `Stmt.areLegible`: whether a tree can be told from its text. All names in such a
  tree stand for themselves: a name that is not in normal form is read as another one.
* `identityWarnings`: the lines that ask whether something is the same object as a literal.
-/

namespace Facade.Syntax

/-- What surrounds a statement. -/
structure Place where
  /-- A function does. -/
  inFunction : Bool := false
  /-- The nearest function can wait for others. -/
  inAsync : Bool := false
  /-- A loop of the same function does. -/
  inLoop : Bool := false
  /-- The class whose private names are seen. -/
  privateTo : Option String := none
  deriving DecidableEq, Repr, Inhabited

/-- Whether no member of a list occurs twice. -/
def areDistinct : List String → Bool
  | [] => true
  | s :: r => !r.contains s && areDistinct r

theorem areDistinct_iff (l : List String) : areDistinct l = true ↔ l.Nodup := by
  induction l with
  | nil => simp [areDistinct]
  | cons s r ih => simp [areDistinct, ih]

/-- The one name that nothing can be bound to. -/
def unbindable : String := "__debug__"

/-- Whether something can be bound to a name. The normal form of a name can be a reserved word, and
still be bound. -/
def canBind (n : String) : Bool := Text.isIdentifier n && n != unbindable

theorem canBind_of_isPlainName {n : String} (h : Text.isPlainName n = true) (hn : n ≠ unbindable) :
    canBind n = true := by
  rw [canBind, Text.isIdentifier_of_isPlainName h, bne_iff_ne.mpr hn]
  rfl

/-- Whether a dotted name consists of identifiers. -/
def isDottedIdentifier (n : String) : Bool := (dottedParts n).all Text.isIdentifier

/-- Whether a dotted name consists of names that stand for themselves. -/
def isDottedName (n : String) : Bool := (dottedParts n).all Text.isPlainName

/-! ## Expressions -/

mutual

/-- Whether an expression can be run; `wait` tells whether it may wait for others. -/
def Expr.isSound (wait : Bool) : Expr → Bool
  | .name n => Text.isIdentifier n
  | .const _ => true
  | .attribute e n => Text.isIdentifier n && e.isSound wait
  | .call f args keywords =>
    f.isSound wait && Expr.areSound wait args && Expr.areSoundKeywords wait keywords &&
      areDistinct (keywords.filterMap Prod.fst)
  | .subscript e i => e.isSound wait && i.isSound wait
  | .tuple es | .list es | .set es => Expr.areSound wait es
  | .dict items => Expr.areSoundItems wait items
  | .starred _ => false
  | .unary _ e => e.isSound wait
  | .binary _ l r => l.isSound wait && r.isSound wait
  | .bool _ es => Expr.areSound wait es
  | .compare l rest => l.isSound wait && Expr.areSoundComparisons wait rest
  | .conditional body test orElse => body.isSound wait && test.isSound wait && orElse.isSound wait
  | .await e => wait && e.isSound wait
  | .slice lower upper step =>
    Expr.isSoundOption wait lower && Expr.isSoundOption wait upper && Expr.isSoundOption wait step
  | .spelled _ e => e.isSound wait
  | .verbatim _ => false

/-- Whether the members of a list, which may be starred, can be run. -/
def Expr.areSound (wait : Bool) : List Expr → Bool
  | [] => true
  | .starred e :: r => e.isSound wait && Expr.areSound wait r
  | e :: r => e.isSound wait && Expr.areSound wait r

/-- Whether named arguments can be run. -/
def Expr.areSoundKeywords (wait : Bool) : List (Option String × Expr) → Bool
  | [] => true
  | (some n, e) :: r => canBind n && e.isSound wait && Expr.areSoundKeywords wait r
  | (none, e) :: r => e.isSound wait && Expr.areSoundKeywords wait r

/-- Whether the entries of a table can be run. -/
def Expr.areSoundItems (wait : Bool) : List (Option Expr × Expr) → Bool
  | [] => true
  | (k, e) :: r => Expr.isSoundOption wait k && e.isSound wait && Expr.areSoundItems wait r

/-- Whether the operands of comparisons can be run. -/
def Expr.areSoundComparisons (wait : Bool) : List (CompareOp × Expr) → Bool
  | [] => true
  | (_, e) :: r => e.isSound wait && Expr.areSoundComparisons wait r

/-- Whether an optional expression can be run. -/
def Expr.isSoundOption (wait : Bool) : Option Expr → Bool
  | none => true
  | some e => e.isSound wait

end

mutual

/-- Whether an expression can be assigned to. -/
def Expr.isSoundTarget (wait : Bool) : Expr → Bool
  | .name n => canBind n
  | .attribute e n => canBind n && e.isSound wait
  | .subscript e i => e.isSound wait && i.isSound wait
  | .tuple es | .list es => Expr.areSoundTargets wait es
  | _ => false

/-- Whether the members of a list, one of which may be starred, can be assigned to. -/
def Expr.areSoundTargets (wait : Bool) : List Expr → Bool
  | [] => true
  | .starred e :: r =>
    e.isSoundTarget wait && Expr.areSoundTargets wait r && r.all (fun
      | .starred _ => false
      | _ => true)
  | e :: r => e.isSoundTarget wait && Expr.areSoundTargets wait r

end

/-! ## Statements -/

/-- Whether the parameters of a definition can stand together: they differ in the place where they
are named. What they state about themselves is run outside the definition. -/
def areSoundParams (place : Place) (ps : List Param) : Bool :=
  areDistinct (ps.map fun p => mangle place.privateTo p.name) && ps.all fun p =>
    canBind p.name && Expr.isSoundOption place.inAsync p.hint &&
      Expr.isSoundOption place.inAsync p.default

/-- Whether an imported name can be bound. -/
def isSoundImport (dotted : Bool) (n : ImportName) : Bool :=
  (if dotted then isDottedIdentifier n.name else Text.isIdentifier n.name) &&
    (match n.boundAs with
      | some b => canBind b
      | none => n.name != unbindable)

mutual

/-- Whether a statement can be run where it stands. -/
def Stmt.isSound (p : Place) : Stmt → Bool
  | .expr e => e.isSound p.inAsync
  | .assign targets value =>
    targets.all (Expr.isSoundTarget p.inAsync) && value.isSound p.inAsync
  | .annAssign target hint value _ =>
    target.isSoundTarget p.inAsync && hint.isSound p.inAsync &&
      Expr.isSoundOption p.inAsync value
  | .augAssign target _ value => target.isSoundTarget p.inAsync && value.isSound p.inAsync
  | .returns value => p.inFunction && Expr.isSoundOption p.inAsync value
  | .raise exception cause =>
    Expr.isSoundOption p.inAsync exception && Expr.isSoundOption p.inAsync cause
  | .assert test message => test.isSound p.inAsync && Expr.isSoundOption p.inAsync message
  | .delete targets => targets.all (Expr.isSoundTarget p.inAsync)
  | .pass => true
  | .break | .continue => p.inLoop
  | .global names => names.all canBind
  | .nonlocal names => p.inFunction && names.all canBind
  | .imports names => names.all (isSoundImport true)
  | .importFrom module names _ =>
    (module.map isDottedIdentifier).getD true &&
      names.all fun n => isSoundImport false n || (n.name == "*" && !p.inFunction)
  | .branch test body orElse =>
    test.isSound p.inAsync && Stmt.areSound p body && Stmt.areSound p orElse
  | .while test body orElse =>
    test.isSound p.inAsync && Stmt.areSound { p with inLoop := true } body &&
      Stmt.areSound p orElse
  | .for target iterable body orElse =>
    target.isSoundTarget p.inAsync && iterable.isSound p.inAsync &&
      Stmt.areSound { p with inLoop := true } body && Stmt.areSound p orElse
  | .define isAsync name params result decorators body =>
    canBind name && areSoundParams p params && Expr.isSoundOption p.inAsync result &&
      decorators.all (Expr.isSound p.inAsync) &&
      Stmt.areSound { inFunction := true, inAsync := isAsync, privateTo := p.privateTo } body &&
      (params.map Param.name).all fun n => !(Stmt.declaresGlobal n body)
  | .class name bases keywords decorators body =>
    canBind name && Expr.areSound p.inAsync bases && Expr.areSoundKeywords p.inAsync keywords &&
      areDistinct (keywords.filterMap Prod.fst) && decorators.all (Expr.isSound p.inAsync) &&
      Stmt.areSound { privateTo := some name } body
  | .layout _ => true
  | .fragment _ => false

/-- Whether all statements can be run where they stand. -/
def Stmt.areSound (p : Place) : List Stmt → Bool
  | [] => true
  | s :: r => s.isSound p && Stmt.areSound p r

/-- Whether one of the statements declares a name to belong to the module. -/
def Stmt.declaresGlobal (n : String) : List Stmt → Bool
  | [] => false
  | .global names :: r => names.contains n || Stmt.declaresGlobal n r
  | _ :: r => Stmt.declaresGlobal n r

end

theorem Stmt.areSound_append (p : Place) (as bs : List Stmt) :
    Stmt.areSound p (as ++ bs) = (Stmt.areSound p as && Stmt.areSound p bs) := by
  induction as with
  | nil => rfl
  | cons a as ih => rw [List.cons_append, Stmt.areSound, Stmt.areSound, ih, Bool.and_assoc]

/-! ## Legible trees

The text of a legible tree reads as that tree, unless a part of it cannot be read at all. -/

mutual

/-- Whether all names in an expression stand for themselves. -/
def Expr.isLegible : Expr → Bool
  | .name n => Text.isPlainName n
  | .const _ | .verbatim _ => true
  | .attribute e n => Text.isPlainName n && e.isLegible
  | .call f args keywords =>
    f.isLegible && Expr.areLegible args && Expr.areLegibleKeywords keywords
  | .subscript e i => e.isLegible && i.isLegible
  | .tuple es | .list es | .set es => Expr.areLegible es
  | .dict items => Expr.areLegibleItems items
  | .starred e | .unary _ e | .await e => e.isLegible
  | .binary _ l r => l.isLegible && r.isLegible
  | .bool _ es => Expr.areLegible es
  | .compare l rest => l.isLegible && Expr.areLegibleComparisons rest
  | .conditional body test orElse => body.isLegible && test.isLegible && orElse.isLegible
  | .slice lower upper step =>
    Expr.isLegibleOption lower && Expr.isLegibleOption upper && Expr.isLegibleOption step
  | .spelled _ e => e.isLegible

/-- Whether all names in several expressions stand for themselves. -/
def Expr.areLegible : List Expr → Bool
  | [] => true
  | e :: r => e.isLegible && Expr.areLegible r

/-- Whether all names in named arguments stand for themselves. -/
def Expr.areLegibleKeywords : List (Option String × Expr) → Bool
  | [] => true
  | (n, e) :: r => n.all Text.isPlainName && e.isLegible && Expr.areLegibleKeywords r

/-- Whether all names in the entries of a table stand for themselves. -/
def Expr.areLegibleItems : List (Option Expr × Expr) → Bool
  | [] => true
  | (k, e) :: r => Expr.isLegibleOption k && e.isLegible && Expr.areLegibleItems r

/-- Whether all names in the operands of comparisons stand for themselves. -/
def Expr.areLegibleComparisons : List (CompareOp × Expr) → Bool
  | [] => true
  | (_, e) :: r => e.isLegible && Expr.areLegibleComparisons r

/-- Whether all names in an optional expression stand for themselves. -/
def Expr.isLegibleOption : Option Expr → Bool
  | none => true
  | some e => e.isLegible

end

/-- Whether all names in a parameter stand for themselves. -/
def Param.isLegible (p : Param) : Bool :=
  Text.isPlainName p.name && Expr.isLegibleOption p.hint && Expr.isLegibleOption p.default

/-- Whether an imported name and the name it goes by stand for themselves. -/
def ImportName.isLegible (n : ImportName) : Bool :=
  isDottedName n.name && n.boundAs.all Text.isPlainName

mutual

/-- Whether all names in a statement stand for themselves, and no part of it is foreign code. -/
def Stmt.isLegible : Stmt → Bool
  | .expr e => e.isLegible
  | .assign targets value => Expr.areLegible targets && value.isLegible
  | .annAssign target hint value _ =>
    target.isLegible && hint.isLegible && Expr.isLegibleOption value
  | .augAssign target _ value => target.isLegible && value.isLegible
  | .returns value => Expr.isLegibleOption value
  | .raise exception cause => Expr.isLegibleOption exception && Expr.isLegibleOption cause
  | .assert test message => test.isLegible && Expr.isLegibleOption message
  | .delete targets => Expr.areLegible targets
  | .pass | .break | .continue | .layout _ => true
  | .global names | .nonlocal names => names.all Text.isPlainName
  | .imports names => names.all ImportName.isLegible
  | .importFrom module names _ =>
    module.all isDottedName && names.all fun n => n.name == "*" || n.isLegible
  | .branch test body orElse | .while test body orElse =>
    test.isLegible && Stmt.areLegible body && Stmt.areLegible orElse
  | .for target iterable body orElse =>
    target.isLegible && iterable.isLegible && Stmt.areLegible body && Stmt.areLegible orElse
  | .define _ name params result decorators body =>
    Text.isPlainName name && params.all Param.isLegible && Expr.isLegibleOption result &&
      Expr.areLegible decorators && Stmt.areLegible body
  | .class name bases keywords decorators body =>
    Text.isPlainName name && Expr.areLegible bases && Expr.areLegibleKeywords keywords &&
      Expr.areLegible decorators && Stmt.areLegible body
  | .fragment _ => false

/-- Whether all names in several statements stand for themselves, and no part of them is foreign code. -/
def Stmt.areLegible : List Stmt → Bool
  | [] => true
  | s :: r => s.isLegible && Stmt.areLegible r

end

/-! ## Warnings -/

/-- Whether a token is a literal that objects cannot be told from. -/
def Token.isPlainLiteral : Token → Bool
  | .number _ | .text _ _ | .bytes _ => true
  | _ => false

/-- The lines that ask whether something is, or is not, the same object as a literal, and which of
the two they ask. -/
def identityWarnings : List Lexeme → List (Nat × Bool)
  | a :: b :: r =>
    let found : List (Nat × Bool) :=
      if b.token = .word "is" then
        let negated := r.head?.any fun c => c.token = Token.word "not"
        let operand := (if negated then r.drop 1 else r).head?
        if a.token.isPlainLiteral || operand.any fun c => c.token.isPlainLiteral then
          [(a.line, negated)]
        else []
      else []
    found ++ identityWarnings (b :: r)
  | _ => []

end Facade.Syntax
