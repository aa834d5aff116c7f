/-!
# Declarations

What a documentation comment documents: the function, mixin, placeholder or variable that follows
it, or something that is none of these.
-/

namespace StyleDoc

/-- The kinds of declaration by which records are grouped. -/
inductive Kind where
  | function
  | mixin
  | placeholder
  | var
  | unknown
deriving DecidableEq, Repr

namespace Kind

/-- The name of the kind in messages and in written records. -/
def label : Kind → String
  | function => "function"
  | mixin => "mixin"
  | placeholder => "placeholder"
  | var => "variable"
  | unknown => "unknown"

def all : List Kind := [function, mixin, placeholder, var, unknown]

end Kind

/-- The declarations that have a body between braces. -/
inductive BlockForm where
  | function
  | mixin
  | placeholder
deriving DecidableEq, Repr

def BlockForm.kind : BlockForm → Kind
  | function => .function
  | mixin => .mixin
  | placeholder => .placeholder

/-- A variable is global when its declaration says so by a flag. -/
inductive Scope where
  | locally
  | globally
deriving DecidableEq, Repr

def Scope.label : Scope → String
  | locally => "private"
  | globally => "global"

/-- The lines of a declaration, counted from one, both ends included. -/
structure LineRange where
  first : Nat
  last : Nat
deriving DecidableEq, Repr

/-- A declaration, with the lines it takes where they are known. -/
inductive Declaration where
  | block (form : BlockForm) (name body : String) (lines : Option LineRange)
  | var (name value : String) (scope : Scope) (lines : Option LineRange)
  | unknown
deriving DecidableEq, Repr

namespace Declaration

def kind : Declaration → Kind
  | block form _ _ _ => form.kind
  | var _ _ _ _ => .var
  | unknown => .unknown

def name? : Declaration → Option String
  | block _ name _ _ => some name
  | var name _ _ _ => some name
  | unknown => none

def lines? : Declaration → Option LineRange
  | block _ _ _ lines => lines
  | var _ _ _ lines => lines
  | unknown => none

/-- The declaration with its lines changed. -/
def mapLines (change : Option LineRange → Option LineRange) : Declaration → Declaration
  | block form name body lines => block form name body (change lines)
  | var name value scope lines => var name value scope (change lines)
  | unknown => unknown

end Declaration

end StyleDoc
