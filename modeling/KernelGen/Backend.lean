/-!
# Backends

The targets of generation. Two of them run on devices and need kernels of their own.
-/

namespace KernelGen

/-- The targets, in the order in which they are listed everywhere. -/
inductive Backend where
  | openMP
  | openCL
  | cuda
  | starPUMPI
  | mpi
  deriving DecidableEq, Repr

namespace Backend

/-- Every backend, in order. -/
def all : List Backend :=
  [openMP, openCL, cuda, starPUMPI, mpi]

/-- The name of a backend on the command line and in settings. -/
def flag : Backend → String
  | openMP => "openmp"
  | openCL => "opencl"
  | cuda => "cuda"
  | starPUMPI => "starpu-mpi"
  | mpi => "mpi"

/-- The name of a backend in messages. -/
def displayName : Backend → String
  | openMP => "OpenMP"
  | openCL => "OpenCL"
  | cuda => "CUDA"
  | starPUMPI => "StarPU-MPI"
  | mpi => "MPI"

/-- The macro that tells the main fragment about a backend. -/
def define : Backend → String
  | openMP => "SKEL_OPENMP"
  | openCL => "SKEL_OPENCL"
  | cuda => "SKEL_CUDA"
  | starPUMPI => "SKEL_STARPU_MPI"
  | mpi => "SKEL_MPI"

/-- Whether a backend runs kernels on a device. -/
def needsKernels : Backend → Bool
  | openCL | cuda => true
  | _ => false

/-- Whether kernels can be generated for a backend. -/
def hasLowering : Backend → Bool
  | openCL => true
  | _ => false

/-- The backend with a given flag. -/
def ofFlag? (flag : String) : Option Backend :=
  all.find? (·.flag == flag)

end Backend

end KernelGen
