import SchemaDoc.Text.Basic

/-!
Contract: the syntax trees of source files.

A tree holds no positions, but that a class statement knows the place of its first token, and
each of its decorators the place of its own, counted in tokens. Two sources with the same tokens
thus have the same tree, however their lines are laid out.
-/

namespace SchemaDoc.Source

/-- What a comprehension builds. -/
inductive Gathering where
  | list
  | set
  | dict
  | generator
deriving DecidableEq, Repr

/-- How a parameter takes its argument. -/
inductive ParameterRole where
  | positionalOnly
  | plain
  | variadic
  | keywordOnly
  | variadicKeyword
deriving DecidableEq, Repr

mutual

inductive Expr where
  | name (id : Text)
  | number (literal : Text)
  | text (codes : List Nat)
  | bytes (codes : List Nat)
  | formatted (pieces : List Piece)
  | constant (word : String)
  | tuple (items : List Expr)
  | list (items : List Expr)
  | set (items : List Expr)
  | dict (entries : List (Option Expr × Expr))
  | comprehension (gathering : Gathering) (element : Expr) (value : Option Expr)
      (clauses : List Clause)
  | attribute (base : Expr) (name : Text)
  | subscript (base index : Expr)
  | slice (lower upper stride : Option Expr)
  | call (callee : Expr) (arguments : List Argument)
  | unary (operator : String) (operand : Expr)
  | binary (operator : String) (left right : Expr)
  | boolean (operator : String) (operands : List Expr)
  | comparison (first : Expr) (others : List (String × Expr))
  | conditional (test body other : Expr)
  | lambda (parameters : List Parameter) (body : Expr)
  | named (target : Text) (value : Expr)
  | starred (value : Expr)
  | awaited (value : Expr)
  | yielded (value : Option Expr)
  | yieldedFrom (value : Expr)

/-- A piece of a formatted string. -/
inductive Piece where
  | literal (codes : List Nat)
  | field (value : Expr) (shown : Option Text) (conversion : Option Char)
      (format : Option (List Piece))

/-- A `for` part of a comprehension with its conditions. -/
inductive Clause where
  | mk (isAsync : Bool) (target source : Expr) (conditions : List Expr)

inductive Argument where
  | positional (value : Expr)
  | keyword (name : Text) (value : Expr)
  | unpacked (value : Expr)

inductive Parameter where
  | mk (role : ParameterRole) (name : Text) (declared default : Option Expr)

end

instance : Inhabited Expr := ⟨.constant "None"⟩

/-- The pattern of a case. -/
inductive Pattern where
  | value (value : Expr)
  | capture (name : Text)
  | wildcard
  | star (name : Option Text)
  | sequence (items : List Pattern)
  | mapping (entries : List (Expr × Pattern)) (rest : Option Text)
  | instanceOf (callee : Expr) (positional : List Pattern) (named : List (Text × Pattern))
  | either (options : List Pattern)
  | alias (pattern : Pattern) (name : Text)

instance : Inhabited Pattern := ⟨.wildcard⟩

/-- An expression and the place of the first token of its node. -/
structure Located where
  place : Nat
  expr : Expr

/-- A dotted or plain name that an import binds, and the name it is bound to if another. -/
structure Import where
  name : Text
  bound : Option Text

/-- A statement without statements inside. -/
inductive Simple where
  | expression (value : Expr)
  | assign (targets : List Expr) (value : Expr)
  | augment (target : Expr) (operator : String) (value : Expr)
  | declare (target : Expr) (isBare : Bool) (type : Expr) (value : Option Expr)
  | returned (value : Option Expr)
  | raised (exception cause : Option Expr)
  | asserted (test : Expr) (message : Option Expr)
  | deleted (targets : List Expr)
  | pass
  | breaks
  | continues
  | importModules (names : List Import)
  | importNames (level : Nat) (module : Option Text) (names : List Import)
  | globals (names : List Text)
  | nonlocals (names : List Text)

/-- What opens a compound statement. -/
inductive Header where
  | condition (test : Expr)
  | loop (test : Expr)
  | iteration (isAsync : Bool) (target source : Expr)
  | resources (isAsync : Bool) (items : List (Expr × Option Expr))
  | attempt (isGrouped : Bool)
  | selection (subject : Expr)

/-- What opens a branch of a compound statement. -/
inductive Opening where
  | main
  | otherwise
  | finally
  | handler (exception : Option Expr) (name : Option Text)
  | case (pattern : Pattern) (guard : Option Expr)

/-- The branch is a node of the tree between the statement and its body. -/
def Opening.isNode : Opening → Bool
  | .handler _ _ => true
  | .case _ _ => true
  | _ => false

/-- The head of a function definition. -/
structure FunctionHead where
  isAsync : Bool
  name : Text
  parameters : List Parameter
  returns : Option Expr
  decorators : List Located

/-- The head of a class statement; `place` is that of its first word. -/
structure ClassHead where
  place : Nat
  name : Text
  arguments : List Argument
  decorators : List Located

mutual

inductive Stmt where
  | simple (content : Simple)
  | classDef (head : ClassHead) (body : List Stmt)
  | function (head : FunctionHead) (body : List Stmt)
  | compound (header : Header) (branches : List Branch)

inductive Branch where
  | mk (opening : Opening) (body : List Stmt)

end

instance : Inhabited Stmt := ⟨.simple .pass⟩

end SchemaDoc.Source
