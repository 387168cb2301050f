import KernelGen.Graph.Basic

/-!
# Binding an instantiation

Binding finds the function that an instantiation names and, for the paired skeletons, puts its
elementwise parameters on their sides: the first `varity` are vertical, the others horizontal. The
number of parameters must be the arity of the shape.
-/

namespace KernelGen.MetadataGraph

/-- Elementwise parameters with the first `varity` on the vertical side. -/
def assignSides (varity : Nat) (params : List ElementParam) : List ElementParam :=
  params.zipIdx.map fun (p, k) =>
    { p with side := if k < varity then .vertical else .horizontal }

/-- The function of an instantiation, with its parameters on their sides. -/
def bind (g : MetadataGraph) (i : Instantiation) : Except Failure UserFunction :=
  match g.function? i.function with
  | none => .error (.error (.unknownFunction i.function))
  | some f =>
    if i.skeleton.isPaired then
      match i.shape.arity with
      | .error r => .error (.abort r)
      | .ok arity =>
        if f.elementwise.length = arity.toNat then
          .ok { f with elementwise := assignSides i.varity.toNat f.elementwise }
        else
          .error (.error (.shapeMismatch i.skeleton f.uniqueName i.varity i.harity arity
            (UInt64.ofNat f.elementwise.length)))
    else .ok f

end KernelGen.MetadataGraph
